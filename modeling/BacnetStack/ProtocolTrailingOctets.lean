import BacnetStack.ProtocolValuePrefix

namespace BacnetStack

/-!
# Octets behind a response

The decoders of ReadProperty acknowledgements and errors and of I-Am stop at
the last field they look at.  Nothing checks that the packet ends there, so
octets behind a response are ignored as long as the link header announces
them.
-/

open Reader

/-- A packet with octets behind it, and the length it has then. -/
def extended
    (packet suffix : List UInt8) : List UInt8 :=
  let octets := packet ++ suffix
  (octets.set 2 (UInt8.ofNat (octets.length / 256))).set 3
    (UInt8.ofNat octets.length)

/-- The function of a link header that a decoder accepts. -/
def acceptsFunction
    (acceptBroadcast : Bool)
    (function : UInt8) : Bool :=
  function == kBvlcOriginalUnicastNpdu ||
    (acceptBroadcast && function == kBvlcOriginalBroadcastNpdu)

/-- A link header has four octets, the last two with the length. -/
theorem run_readBvlcHeader_cons
    (minimumLength : Nat)
    (acceptBroadcast : Bool)
    (type function high low : UInt8)
    (rest : List UInt8) :
    (readBvlcHeader minimumLength acceptBroadcast).run
        (type :: function :: high :: low :: rest) =
      if minimumLength ≤ rest.length + 4 ∧ type = kBvlcTypeBacnetIp ∧
          acceptsFunction acceptBroadcast function = true ∧
          high.toNat * 256 + low.toNat = rest.length + 4 then
        .ok ((), rest)
      else
        .error .rejected := by
  rw [readBvlcHeader, run_bind_of_ok (run_remaining _)]
  simp only [List.length_cons]
  by_cases enough : minimumLength ≤ rest.length + 4
  · rw [run_require_bind (decide_eq_true enough),
      run_bind_of_ok (run_next_cons _ _),
      run_bind_of_ok (run_next_cons _ _),
      run_bind_of_ok (run_next_cons _ _),
      run_bind_of_ok (run_next_cons _ _)]
    split
    · rename_i holds
      obtain ⟨_, rfl, accepted, announced⟩ := holds
      rw [← acceptsFunction, accepted, announced]
      simp only [beq_self_eq_true, Bool.and_true]
      rfl
    · rename_i fails
      cases checked :
        (type == kBvlcTypeBacnetIp &&
          (function == kBvlcOriginalUnicastNpdu ||
            acceptBroadcast && function == kBvlcOriginalBroadcastNpdu) &&
          high.toNat * 256 + low.toNat == rest.length + 1 + 1 + 1 + 1) with
      | false => rfl
      | true =>
          simp only [Bool.and_eq_true, beq_iff_eq] at checked
          exact absurd ⟨enough, checked.1.1, checked.1.2, checked.2⟩ fails
  · rw [if_neg fun holds => enough holds.1, decide_eq_false enough]
    rfl

/-- A packet with a link header has at least its four octets. -/
theorem cons_of_run_readBvlcHeader
    {minimumLength : Nat}
    {acceptBroadcast : Bool}
    {packet rest : List UInt8}
    (read :
      (readBvlcHeader minimumLength acceptBroadcast).run packet =
        .ok ((), rest)) :
    ∃ type function high low others,
      packet = type :: function :: high :: low :: others := by
  rw [readBvlcHeader, run_bind_of_ok (run_remaining _),
    run_bind_eq_ok_iff] at read
  obtain ⟨_, unread, checked, read⟩ := read
  obtain ⟨_, same⟩ := run_require_eq_ok_iff.mp checked
  rw [same] at read
  rcases packet with
    _ | ⟨type, _ | ⟨function, _ | ⟨high, _ | ⟨low, others⟩⟩⟩⟩
  · cases read
  · cases read
  · cases read
  · cases read
  · exact ⟨type, function, high, low, others, rfl⟩

/-- The link header of a longer packet announces the length if it can. -/
theorem run_extended
    {α : Type}
    {minimumLength : Nat}
    {acceptBroadcast : Bool}
    {body : Reader α}
    {left : Nat}
    (takes : Takes 0 body left)
    {packet rest : List UInt8}
    {value : α}
    (read :
      (readBvlcHeader minimumLength acceptBroadcast >>= fun _ => body).run
        packet = .ok (value, rest))
    (leaves : left ≤ rest.length)
    (suffix : List UInt8) :
    (readBvlcHeader minimumLength acceptBroadcast >>= fun _ => body).run
        (extended packet suffix) =
      if packet.length + suffix.length ≤ 0xFFFF then
        .ok (value, rest ++ suffix)
      else
        .error .rejected := by
  obtain ⟨⟨⟩, behind, readHeader, readBody⟩ := run_bind_eq_ok_iff.mp read
  obtain ⟨type, function, high, low, others, rfl⟩ :=
    cons_of_run_readBvlcHeader readHeader
  rw [run_readBvlcHeader_cons] at readHeader
  split at readHeader
  · rename_i holds
    obtain ⟨enough, rfl, accepted, _⟩ := holds
    cases readHeader
    have shape :
        extended (kBvlcTypeBacnetIp :: function :: high :: low :: behind)
            suffix =
          kBvlcTypeBacnetIp :: function ::
            UInt8.ofNat ((behind.length + suffix.length + 4) / 256) ::
            UInt8.ofNat (behind.length + suffix.length + 4) ::
            (behind ++ suffix) := by
      have sized :
          ((kBvlcTypeBacnetIp :: function :: high :: low :: behind) ++
            suffix).length = behind.length + suffix.length + 4 := by
        simp only [List.length_append, List.length_cons]
        omega
      rw [extended, sized]
      rfl
    have total :
        (kBvlcTypeBacnetIp :: function :: high :: low :: behind).length +
            suffix.length = behind.length + suffix.length + 4 := by
      simp only [List.length_cons]
      omega
    rw [shape, total]
    by_cases short : behind.length + suffix.length + 4 ≤ 0xFFFF
    · have again :
          (readBvlcHeader minimumLength acceptBroadcast).run
              (kBvlcTypeBacnetIp :: function ::
                UInt8.ofNat ((behind.length + suffix.length + 4) / 256) ::
                UInt8.ofNat (behind.length + suffix.length + 4) ::
                (behind ++ suffix)) = .ok ((), behind ++ suffix) := by
        rw [run_readBvlcHeader_cons, if_pos]
        rw [List.length_append]
        exact ⟨by omega, rfl, accepted, announcedLength short⟩
      rw [run_bind_of_ok again, if_pos short]
      exact takes.run_append readBody leaves suffix
    · have refused :
          (readBvlcHeader minimumLength acceptBroadcast).run
              (kBvlcTypeBacnetIp :: function ::
                UInt8.ofNat ((behind.length + suffix.length + 4) / 256) ::
                UInt8.ofNat (behind.length + suffix.length + 4) ::
                (behind ++ suffix)) = .error .rejected := by
        rw [run_readBvlcHeader_cons, if_neg]
        rintro ⟨_, _, _, announced⟩
        rw [List.length_append, UInt8.toNat_ofNat', UInt8.toNat_ofNat']
          at announced
        omega
      rw [StateT.run_bind, refused, if_neg short]
      rfl
  · cases readHeader

/-- Where the octets behind it do not matter, a longer packet is accepted. -/
theorem accepts_extended
    {α : Type}
    {minimumLength : Nat}
    {acceptBroadcast : Bool}
    {body : Reader α}
    {left : Nat}
    (takes : Takes 0 body left)
    {closed : List UInt8 → Prop}
    (leaves : ∀ rest, closed rest → left ≤ rest.length)
    (stays : ∀ rest suffix, closed rest → closed (rest ++ suffix))
    {accepts : List UInt8 → Bool}
    (accepts_iff :
      ∀ packet, accepts packet = true ↔
        ∃ value rest,
          (readBvlcHeader minimumLength acceptBroadcast >>=
              fun _ => body).run packet = .ok (value, rest) ∧
            closed rest)
    {packet : List UInt8}
    (accepted : accepts packet = true)
    (suffix : List UInt8) :
    accepts (extended packet suffix) = true ↔
      packet.length + suffix.length ≤ 0xFFFF := by
  obtain ⟨value, rest, read, isClosed⟩ := (accepts_iff packet).mp accepted
  rw [accepts_iff, run_extended takes read (leaves rest isClosed) suffix]
  constructor
  · rintro ⟨_, _, readLonger, _⟩
    split at readLonger
    · assumption
    · cases readLonger
  · intro short
    exact ⟨value, rest ++ suffix, if_pos short, stays rest suffix isClosed⟩

/-- A text that fits is appended in front of what follows. -/
theorem isSome_appendText_bind
    {capacity : Nat}
    {used text : List UInt8}
    {continuation : List UInt8 → Option (List UInt8)}
    (fits : used.length + text.length < capacity)
    (continues : (continuation (used ++ text)).isSome = true) :
    (appendText capacity used text >>= continuation).isSome = true := by
  rw [appendText_of_fits fits]
  exact continues

/-- The text of an error always fits. -/
theorem propertyErrorText_isSome
    (errorClass errorCode : UInt32) :
    (propertyErrorText errorClass errorCode).isSome = true := by
  have digits := length_unsignedDecimal_le errorCode
  have className : (bacnetErrorClassName errorClass).length ≤ 8 := by
    unfold bacnetErrorClassName
    repeat' split
    all_goals decide
  have codeName : (bacnetErrorCodeName errorCode).length ≤ 36 := by
    unfold bacnetErrorCodeName
    repeat' split
    all_goals decide
  have opening : (asciiBytes " (").length = 2 := by decide
  have slash : (asciiBytes "/").length = 1 := by decide
  have closing : (asciiBytes ")").length = 1 := by decide
  unfold propertyErrorText appendUnsignedDecimal
  iterate 5
    refine isSome_appendText_bind ?_ ?_
    · simp only [List.length_append, List.length_nil]
      omega
  rw [appendText_of_fits]
  · rfl
  · simp only [List.length_append, List.length_nil]
    omega

/-- The decoders of the responses to a read, and of I-Am. -/
inductive ResponseDecoder where
  | readPropertyAck
      (expectedInvokeId : UInt8)
      (expectedRequest : BacnetPropertyRequest)
  | readPropertyAckOf
      (expectedInvokeId : UInt8)
      (expectedProperty : BacnetPropertyId)
  | readPropertyError (expectedInvokeId : UInt8)
  | iAmResponse

/-- Whether the decoder accepts a packet. -/
def ResponseDecoder.accepts
    (packet : List UInt8) : ResponseDecoder → Bool
  | .readPropertyAck invokeId request =>
      (parseReadPropertyAck packet invokeId request).1
  | .readPropertyAckOf invokeId property =>
      (parseReadPropertyAckOf packet invokeId property).1
  | .readPropertyError invokeId =>
      (parseReadPropertyError packet invokeId).isSome
  | .iAmResponse => (parseIAmResponse packet).isSome

/-- An acknowledgement is accepted where its closing tag follows. -/
theorem closes_iff
    (reader : Reader BacnetValue)
    (packet : List UInt8) :
    (match reader.run packet with
      | .ok (value, rest) => (rest.head? == some 0x3F, value)
      | .error _ => (false, {})).1 = true ↔
      ∃ value rest,
        reader.run packet = .ok (value, rest) ∧
          rest.head? = some 0x3F := by
  cases reader.run packet with
  | error fault => simp
  | ok outcome =>
      obtain ⟨value, rest⟩ := outcome
      simp

theorem parse?_isSome_iff
    {α : Type}
    (reader : Reader α)
    (packet : List UInt8) :
    (parse? reader packet).isSome = true ↔
      ∃ value rest, reader.run packet = .ok (value, rest) ∧ True := by
  unfold parse?
  cases reader.run packet with
  | error fault => simp
  | ok outcome =>
      obtain ⟨value, rest⟩ := outcome
      simp

/-- An error is accepted by its headers, whatever its class and code. -/
theorem parseReadPropertyError_isSome_iff
    (packet : List UInt8)
    (invokeId : UInt8) :
    (parseReadPropertyError packet invokeId).isSome = true ↔
      ∃ value rest,
        (readPropertyErrorReader invokeId).run packet =
            .ok (value, rest) ∧ True := by
  unfold parseReadPropertyError
  cases (readPropertyErrorReader invokeId).run packet with
  | error fault => simp
  | ok outcome =>
      obtain ⟨value, rest⟩ := outcome
      dsimp only
      cases parse? readErrorClassAndCode rest with
      | none => simp
      | some fields =>
          have fits := propertyErrorText_isSome fields.1 fields.2
          simp [fits]

/-- A closing tag is still the next octet with more octets behind. -/
theorem head?_append_of_eq_some
    {rest : List UInt8}
    {octet : UInt8}
    (closed : rest.head? = some octet)
    (suffix : List UInt8) :
    (rest ++ suffix).head? = some octet := by
  obtain ⟨others, rfl⟩ := List.head?_eq_some_iff.mp closed
  rfl

/--
An accepted response is refused with more octets behind it exactly where its
link header cannot announce that many.
-/
theorem ResponseDecoder.rejects_extended_iff
    (decoder : ResponseDecoder)
    {packet : List UInt8}
    (accepted : decoder.accepts packet = true)
    (suffix : List UInt8) :
    decoder.accepts (extended packet suffix) = false ↔
      0xFFFF < packet.length + suffix.length := by
  rw [← not_le, ← Bool.not_eq_true, not_iff_not]
  have nonemptyOfHead (rest : List UInt8)
      (closed : rest.head? = some 0x3F) : 1 ≤ rest.length := by
    obtain ⟨others, rfl⟩ := List.head?_eq_some_iff.mp closed
    exact Nat.le_add_left 1 _
  cases decoder with
  | readPropertyAck invokeId request =>
      have accepts_iff (packet : List UInt8) :
          (ResponseDecoder.readPropertyAck invokeId request).accepts packet =
              true ↔ _ :=
        closes_iff (readPropertyAckReader invokeId request) packet
      have shape :
          readPropertyAckReader invokeId request =
            readBvlcHeader 17 false >>= fun _ =>
              readPropertyAckBody invokeId request := by
        simp only [readPropertyAckReader, readPropertyAckHeader,
          readPropertyAckBody, readResponseOctets, acknowledgedValue,
          bind_assoc]
      simp only [shape] at accepts_iff
      exact accepts_extended (takes_readPropertyAckBody invokeId request)
        nonemptyOfHead
        (fun _ _ closed => head?_append_of_eq_some closed _)
        accepts_iff accepted suffix
  | readPropertyAckOf invokeId property =>
      have accepts_iff (packet : List UInt8) :
          (ResponseDecoder.readPropertyAckOf invokeId property).accepts
              packet = true ↔ _ :=
        closes_iff (readPropertyAckReaderOf invokeId property) packet
      have shape :
          readPropertyAckReaderOf invokeId property =
            readBvlcHeader 17 false >>= fun _ =>
              readPropertyAckBodyOf invokeId property := by
        simp only [readPropertyAckReaderOf, readPropertyAckHeader,
          readPropertyAckBodyOf, readResponseOctets, acknowledgedValue,
          bind_assoc]
      simp only [shape] at accepts_iff
      exact accepts_extended
        (takes_readPropertyAckBodyOf invokeId property) nonemptyOfHead
        (fun _ _ closed => head?_append_of_eq_some closed _)
        accepts_iff accepted suffix
  | readPropertyError invokeId =>
      have accepts_iff (packet : List UInt8) :
          (ResponseDecoder.readPropertyError invokeId).accepts packet =
              true ↔ _ :=
        parseReadPropertyError_isSome_iff packet invokeId
      exact accepts_extended
        (takes_readResponseOctets kApduError kServiceReadProperty invokeId)
        (fun _ _ => Nat.zero_le _) (fun _ _ _ => trivial)
        accepts_iff accepted suffix
  | iAmResponse =>
      have accepts_iff (packet : List UInt8) :
          ResponseDecoder.iAmResponse.accepts packet = true ↔ _ :=
        parse?_isSome_iff iAmReader packet
      exact accepts_extended
        (takes_readIAmNpduHeader.bind (fun _ => takes_iAmFields)
          le_rfl (Nat.zero_le _))
        (fun _ _ => Nat.zero_le _) (fun _ _ _ => trivial)
        accepts_iff accepted suffix

/-- The I-Am of device 1. -/
def iAmPacket : List UInt8 :=
  [0x81, 0x0A, 0, 20, 1, 0, 0x10, 0, 0xC4, 2, 0, 0, 1, 0x22, 5, 0xC4,
    0x91, 3, 0x21, 7]

/-- One octet behind an I-Am is refused only where it cannot be announced. -/
theorem rejects_extended_iAmPacket :
    ResponseDecoder.iAmResponse.accepts iAmPacket = true ∧
      (ResponseDecoder.iAmResponse.accepts (extended iAmPacket [0]) =
          false ↔
        0xFFFF < iAmPacket.length + [(0 : UInt8)].length) :=
  have accepted :
      ResponseDecoder.iAmResponse.accepts iAmPacket = true := by
    decide
  ⟨accepted, ResponseDecoder.iAmResponse.rejects_extended_iff accepted [0]⟩

/-- An octet behind an I-Am is not noticed. -/
theorem not_rejects_extended_iAmPacket :
    ¬∀ (decoder : ResponseDecoder) (packet : List UInt8),
      decoder.accepts packet = true →
        ∀ suffix, suffix ≠ [] →
          decoder.accepts (extended packet suffix) = false := by
  intro always
  have rejected :=
    always .iAmResponse iAmPacket (by decide) [0] (List.cons_ne_nil _ _)
  revert rejected
  decide

end BacnetStack
