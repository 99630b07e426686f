import BacnetStack.ProtocolCovCodec

namespace BacnetStack

/-!
# How far the builders write

A builder is given the size of its buffer and guards its writes with checks of
its own.  What it wrote by the time it returned, with or without a packet, is
what its writer leaves behind; the theorem at the end says for every builder
when that stays inside the buffer.
-/

open PacketWriter

/-- The length that the header of a packet announces. -/
def announcedSize (packet : List UInt8) : Nat :=
  (packet.getD 2 0).toNat * 256 + (packet.getD 3 0).toNat

/-- The stored length is the size of the packet, cut to two octets. -/
theorem announcedSize_storeLength
    {written : List UInt8}
    (header : 4 ≤ written.length) :
    announcedSize
        ((written.set 2 (UInt8.ofNat (written.length / 256))).set 3
          (UInt8.ofNat written.length)) =
      written.length % 65536 := by
  have second : 2 < written.length := by omega
  have third : 3 < written.length := by omega
  have high :
      ((written.set 2 (UInt8.ofNat (written.length / 256))).set 3
        (UInt8.ofNat written.length)).getD 2 0 =
        UInt8.ofNat (written.length / 256) := by
    simp [List.getD_eq_getElem?_getD, second]
  have low :
      ((written.set 2 (UInt8.ofNat (written.length / 256))).set 3
        (UInt8.ofNat written.length)).getD 3 0 =
        UInt8.ofNat written.length := by
    simp [List.getD_eq_getElem?_getD, third]
  rw [announcedSize, high, low, UInt8.toNat_ofNat', UInt8.toNat_ofNat']
  omega

/--
Nothing was written behind the buffer, and a finished packet announces its own
size.
-/
structure StaysInside
    (bufferSize : Nat)
    (outcome : Option Unit × List UInt8) : Prop where
  bounded : outcome.2.length ≤ bufferSize
  announces :
    outcome.1 = some () → announcedSize outcome.2 = outcome.2.length

/-- A writer that gives up stays inside where it had not left the buffer. -/
theorem staysInside_none_iff
    {bufferSize : Nat}
    {written : List UInt8} :
    StaysInside bufferSize (none, written) ↔
      written.length ≤ bufferSize :=
  ⟨StaysInside.bounded, fun bounded => ⟨bounded, nofun⟩⟩

/-- `size_t` subtraction where nothing is borrowed. -/
theorem sizeSub_of_le
    {left right : Nat}
    (within : right ≤ left)
    (size : left < 2 ^ 32) :
    sizeSub left right = left - right := by
  unfold sizeSub
  omega

section Rules

variable {α : Type} {bufferSize : Nat}

/-- A sequence goes on behind a writer that succeeded. -/
theorem exec_bind_of_some
    {β : Type}
    {writer : PacketWriter β}
    {written octets : List UInt8}
    {value : β}
    (succeeds : exec writer written = (some value, octets))
    (continuation : β → PacketWriter α) :
    exec (writer >>= continuation) written =
      exec (continuation value) octets := by
  rw [exec_bind, succeeds]

/-- A sequence ends with a writer that gave up. -/
theorem exec_bind_of_none
    {β : Type}
    {writer : PacketWriter β}
    {written octets : List UInt8}
    (fails : exec writer written = (none, octets))
    (continuation : β → PacketWriter α) :
    exec (writer >>= continuation) written = (none, octets) := by
  rw [exec_bind, fails]

/-- A size check that passes is followed by the rest. -/
theorem exec_require_bind_of_true
    {holds : Bool}
    (passes : holds = true)
    (continuation : Unit → PacketWriter α)
    (written : List UInt8) :
    exec (require holds >>= continuation) written =
      exec (continuation ()) written := by
  rw [passes]
  rfl

/-- A size check that fails ends the writer. -/
theorem exec_require_bind_of_false
    {holds : Bool}
    (fails : holds = false)
    (continuation : Unit → PacketWriter α)
    (written : List UInt8) :
    exec (require holds >>= continuation) written = (none, written) := by
  rw [fails]
  rfl

/-- Writing goes on behind a size check only where it passed. -/
theorem staysInside_require_bind
    {holds : Bool}
    {continuation : Unit → PacketWriter Unit}
    {written : List UInt8}
    (room : written.length ≤ bufferSize)
    (continues :
      holds = true →
        StaysInside bufferSize (exec (continuation ()) written)) :
    StaysInside bufferSize
      (exec (require holds >>= continuation) written) := by
  cases holds with
  | false => exact staysInside_none_iff.mpr room
  | true => exact continues rfl

/-- Storing the length of a short packet finishes it. -/
theorem staysInside_storeLength
    {written : List UInt8}
    (header : 4 ≤ written.length)
    (short : written.length ≤ 0xFFFF)
    (room : written.length ≤ bufferSize) :
    StaysInside bufferSize (exec storeLength written) := by
  rw [exec_storeLength]
  constructor
  · simpa only [List.length_set] using room
  · intro _
    rw [announcedSize_storeLength header, List.length_set, List.length_set]
    omega

/-- A value is written as a whole, within its capacity, or not at all. -/
theorem exec_putApplicationValue_cases
    (capacity : Nat)
    (value : BacnetValue)
    (written : List UInt8) :
    ((∀ octets,
        applicationOctets value = some octets →
          capacity < octets.length) ∧
      exec (putApplicationValue capacity value) written =
        (none, written)) ∨
    ∃ octets,
      applicationOctets value = some octets ∧
        octets.length ≤ capacity ∧
        exec (putApplicationValue capacity value) written =
          (some (), written ++ octets) := by
  rw [exec_putApplicationValue, encodeApplicationValue_eq]
  cases applicationOctets value with
  | none => exact Or.inl ⟨nofun, rfl⟩
  | some octets =>
      by_cases fits : octets.length ≤ capacity
      · refine Or.inr ⟨octets, rfl, fits, ?_⟩
        simp [Option.filter_some, fits]
      · refine Or.inl ⟨?_, ?_⟩
        · intro others same
          exact Option.some.inj same ▸ Nat.lt_of_not_le fits
        · simp [Option.filter_some, fits]

/-- Writing goes on behind a value that was written. -/
theorem staysInside_putApplicationValue_bind
    {capacity : Nat}
    {value : BacnetValue}
    {continuation : Unit → PacketWriter Unit}
    {written : List UInt8}
    (room : written.length ≤ bufferSize)
    (continues :
      ∀ octets,
        applicationOctets value = some octets →
          octets.length ≤ capacity →
          StaysInside bufferSize
            (exec (continuation ()) (written ++ octets))) :
    StaysInside bufferSize
      (exec (putApplicationValue capacity value >>= continuation)
        written) := by
  obtain ⟨_, refused⟩ | ⟨octets, encoded, fits, wrote⟩ :=
    exec_putApplicationValue_cases capacity value written
  · rw [exec_bind_of_none refused]
    exact staysInside_none_iff.mpr room
  · rw [exec_bind_of_some wrote]
    exact continues octets encoded fits

/-- What a writer keeps true of the octets written so far. -/
def Keeps
    (holds : List UInt8 → Prop)
    (writer : PacketWriter α) : Prop :=
  ∀ written, holds written → holds (exec writer written).2

/-- A sequence keeps what both of its parts keep. -/
theorem Keeps.bind
    {β : Type}
    {holds : List UInt8 → Prop}
    {writer : PacketWriter α}
    {continuation : α → PacketWriter β}
    (first : Keeps holds writer)
    (second : ∀ value, Keeps holds (continuation value)) :
    Keeps holds (writer >>= continuation) := by
  intro written start
  have middle := first written start
  rcases outcome : exec writer written with ⟨_ | value, octets⟩
  · rw [outcome] at middle
    rw [exec_bind_of_none outcome]
    exact middle
  · rw [outcome] at middle
    rw [exec_bind_of_some outcome]
    exact second value octets middle

/-- Writing goes on behind a writer that keeps inside the buffer. -/
theorem Keeps.staysInside_bind
    {holds : List UInt8 → Prop}
    {writer : PacketWriter Unit}
    {continuation : Unit → PacketWriter Unit}
    {written : List UInt8}
    (keeps : Keeps holds writer)
    (start : holds written)
    (inside : ∀ octets, holds octets → octets.length ≤ bufferSize)
    (continues :
      ∀ octets, holds octets →
        StaysInside bufferSize (exec (continuation ()) octets)) :
    StaysInside bufferSize (exec (writer >>= continuation) written) := by
  have middle := keeps written start
  rcases outcome : exec writer written with ⟨_ | _, octets⟩
  · rw [outcome] at middle
    rw [exec_bind_of_none outcome]
    exact staysInside_none_iff.mpr (inside octets middle)
  · rw [outcome] at middle
    rw [exec_bind_of_some outcome]
    exact continues octets middle

end Rules

/-! The builders, one after the other. -/

/-- Octets of a property reference: its identifier and its index. -/
def referenceSize
    (property : BacnetPropertyId)
    (arrayIndex : UInt32) : Nat :=
  contextUnsignedSize property.raw +
    if arrayIndex = kBacnetNoArrayIndex then 0
    else contextUnsignedSize arrayIndex

/-- A context-tagged number takes the announced octets. -/
theorem length_contextUnsigned
    (tagNumber : UInt8)
    (value : UInt32) :
    (contextUnsigned tagNumber value).length = contextUnsignedSize value := by
  unfold contextUnsigned contextUnsignedSize
  split
  · rfl
  · split <;> rfl

/-- At most five octets. -/
theorem contextUnsignedSize_le (value : UInt32) :
    2 ≤ contextUnsignedSize value ∧ contextUnsignedSize value ≤ 5 := by
  unfold contextUnsignedSize
  split
  · decide
  · split <;> decide

/-- The prefix of an acknowledgement depends on its reference only. -/
theorem length_readAckPrefix
    (request : BacnetReadPropertyRequestHeader) :
    (readAckPrefix request).length =
      14 + referenceSize request.request.property
        request.request.arrayIndex := by
  unfold readAckPrefix referenceSize
  by_cases whole : request.request.arrayIndex = kBacnetNoArrayIndex
  · rw [if_neg (not_not_intro whole), if_pos whole]
    simp only [List.length_append, length_contextUnsigned,
      contextObjectIdentifier, length_bigEndianOctets, List.length_cons,
      List.length_nil]
    omega
  · rw [if_pos whole, if_neg whole]
    simp only [List.length_append, length_contextUnsigned,
      contextObjectIdentifier, length_bigEndianOctets, List.length_cons,
      List.length_nil]
    omega

/-- Where the checks in front of the prefix pass, the prefix fits. -/
def PrefixFits
    (bufferSize : Nat)
    (request : BacnetPropertyRequest) : Prop :=
  16 ≤ bufferSize → Addressable request.object →
    14 + referenceSize request.property request.arrayIndex ≤ bufferSize

section Acknowledgements

variable {bufferSize : Nat}

/-- The prefix is written as a whole or not at all. -/
theorem exec_writeReadPropertyAckPrefix_cases
    (bufferSize : Nat)
    (request : BacnetReadPropertyRequestHeader) :
    (16 ≤ bufferSize ∧ Addressable request.request.object ∧
      exec (writeReadPropertyAckPrefix bufferSize request) [] =
        (some (), readAckPrefix request)) ∨
    (¬(16 ≤ bufferSize ∧ Addressable request.request.object) ∧
      exec (writeReadPropertyAckPrefix bufferSize request) [] =
        (none, [])) := by
  unfold writeReadPropertyAckPrefix
  cases checks :
    (decide (16 ≤ bufferSize) &&
      decide (request.request.object.type ≤ 1023) &&
      decide (request.request.object.instance_ ≤ kObjectInstanceMask)) with
  | false =>
      refine Or.inr ⟨?_, rfl⟩
      rintro ⟨room, objectType, objectInstance⟩
      simp [room, objectType, objectInstance] at checks
  | true =>
      simp only [Bool.and_eq_true, decide_eq_true_eq] at checks
      refine Or.inl ⟨checks.1.1, ⟨checks.1.2, checks.2⟩, ?_⟩
      by_cases indexed :
        request.request.arrayIndex = kBacnetNoArrayIndex
      all_goals simp [exec_bind, putHeaders, indexed, readAckPrefix]

/--
An acknowledgement that stays inside behind its prefix stays inside exactly
where the prefix does.
-/
theorem staysInside_prefix_iff
    {request : BacnetReadPropertyRequestHeader}
    {rest : PacketWriter Unit}
    (continues :
      (readAckPrefix request).length + 2 ≤ bufferSize →
        StaysInside bufferSize (exec rest (readAckPrefix request))) :
    StaysInside bufferSize
        (exec
          (do
            writeReadPropertyAckPrefix bufferSize request
            require (decide ((← offset) + 2 ≤ bufferSize))
            rest) []) ↔
      PrefixFits bufferSize request.request := by
  rw [PrefixFits, ← length_readAckPrefix]
  obtain ⟨room, addressable, wrote⟩ | ⟨refused, wrote⟩ :=
    exec_writeReadPropertyAckPrefix_cases bufferSize request
  · rw [exec_bind_of_some wrote, exec_offset_bind]
    by_cases opens : (readAckPrefix request).length + 2 ≤ bufferSize
    · rw [exec_require_bind_of_true (decide_eq_true opens)]
      exact iff_of_true (continues opens) fun _ _ =>
        Nat.le_of_add_right_le opens
    · rw [exec_require_bind_of_false (decide_eq_false opens)]
      refine staysInside_none_iff.trans ?_
      exact ⟨fun fits _ _ => fits, fun fits => fits room addressable⟩
  · rw [exec_bind_of_none wrote]
    refine iff_of_true (staysInside_none_iff.mpr (Nat.zero_le _)) ?_
    exact fun room addressable => absurd ⟨room, addressable⟩ refused

/-- There is room for the closing tag. -/
def Open
    (bufferSize : Nat)
    (written : List UInt8) : Prop :=
  4 ≤ written.length ∧ written.length + 1 ≤ bufferSize

/-- The opening tag leaves room for the closing one. -/
theorem room_of_opens
    {request : BacnetReadPropertyRequestHeader}
    (opens : (readAckPrefix request).length + 2 ≤ bufferSize) :
    Open bufferSize (readAckPrefix request ++ [0x3E]) := by
  have header := length_readAckPrefix request
  rw [Open, List.length_append, List.length_singleton]
  omega

variable (size : bufferSize < 2 ^ 32)

include size

/-- A value is appended where it leaves room for the closing tag. -/
theorem exec_appendAckValue_cases
    (value : BacnetValue)
    {written : List UInt8}
    (start : Open bufferSize written) :
    exec (appendAckValue bufferSize value) written = (none, written) ∨
      ∃ octets,
        applicationOctets value = some octets ∧
          Open bufferSize (written ++ octets) ∧
          exec (appendAckValue bufferSize value) written =
            (some (), written ++ octets) := by
  obtain ⟨header, room⟩ := start
  have capacity :
      sizeSub (sizeSub bufferSize written.length) 1 =
        bufferSize - written.length - 1 := by
    rw [sizeSub_of_le (by omega) size, sizeSub_of_le (by omega) (by omega)]
  rw [appendAckValue, exec_offset_bind, capacity]
  obtain ⟨_, refused⟩ | ⟨octets, encoded, fits, wrote⟩ :=
    exec_putApplicationValue_cases
      (bufferSize - written.length - 1) value written
  · exact Or.inl refused
  · refine Or.inr ⟨octets, encoded, ?_, wrote⟩
    rw [Open, List.length_append]
    omega

/-- A value leaves room for the closing tag. -/
theorem keeps_open_appendAckValue
    (value : BacnetValue) :
    Keeps (Open bufferSize) (appendAckValue bufferSize value) := by
  intro written start
  obtain refused | ⟨octets, _, isOpen, wrote⟩ :=
    exec_appendAckValue_cases size value start
  · rw [refused]
    exact start
  · rw [wrote]
    exact isOpen

/-- Writing goes on behind an appended value. -/
theorem staysInside_appendAckValue_bind
    {value : BacnetValue}
    {continuation : Unit → PacketWriter Unit}
    {written : List UInt8}
    (start : Open bufferSize written)
    (continues :
      ∀ octets,
        applicationOctets value = some octets →
          Open bufferSize (written ++ octets) →
          StaysInside bufferSize
            (exec (continuation ()) (written ++ octets))) :
    StaysInside bufferSize
      (exec (appendAckValue bufferSize value >>= continuation)
        written) := by
  obtain refused | ⟨octets, encoded, isOpen, wrote⟩ :=
    exec_appendAckValue_cases size value start
  · rw [exec_bind_of_none refused]
    exact staysInside_none_iff.mpr (Nat.le_of_succ_le start.2)
  · rw [exec_bind_of_some wrote]
    exact continues octets encoded isOpen

/-- Values leave room for the closing tag. -/
theorem keeps_open_appendAckEntries
    (valueAt : Nat → Option BacnetValue)
    (indices : List Nat) :
    Keeps (Open bufferSize)
      (appendAckEntries bufferSize valueAt indices) := by
  induction indices with
  | nil => exact fun _ start => start
  | cons index rest inductionHypothesis =>
      unfold appendAckEntries
      cases valueAt index with
      | none => exact fun _ start => start
      | some value =>
          exact (keeps_open_appendAckValue size value).bind fun _ =>
            inductionHypothesis

omit size in
/-- The closing tag finishes an acknowledgement. -/
theorem staysInside_finishReadPropertyAck
    {written : List UInt8}
    (start : Open bufferSize written) :
    StaysInside bufferSize
      (exec (finishReadPropertyAck bufferSize) written) := by
  obtain ⟨header, room⟩ := start
  have closed :
      (written ++ [0x3F]).length = written.length + 1 := by
    rw [List.length_append, List.length_singleton]
  rw [finishReadPropertyAck, exec_offset_bind]
  refine staysInside_require_bind (by omega) fun _ => ?_
  rw [exec_put_bind, exec_offset_bind]
  refine staysInside_require_bind (closed ▸ room) fun short => ?_
  exact staysInside_storeLength (by omega)
    (of_decide_eq_true short) (closed ▸ room)

/-- An acknowledgement of a list stays inside where its prefix does. -/
theorem staysInside_writeReadPropertyArrayAck_iff
    {request : BacnetReadPropertyRequestHeader}
    {entryCount : Nat}
    {valueAt : Nat → Option BacnetValue} :
    StaysInside bufferSize
        (exec
          (writeReadPropertyArrayAck bufferSize request entryCount
            valueAt) []) ↔
      (entryCount ≠ 0 → PrefixFits bufferSize request.request) := by
  rw [writeReadPropertyArrayAck]
  by_cases empty : entryCount = 0
  · rw [exec_require_bind_of_false (bne_eq_false_iff_eq.mpr empty)]
    exact iff_of_true (staysInside_none_iff.mpr (Nat.zero_le _))
      fun some => absurd empty some
  · rw [exec_require_bind_of_true (bne_iff_ne.mpr empty)]
    refine Iff.trans (staysInside_prefix_iff fun opens => ?_)
      (imp_iff_right empty).symm
    rw [exec_put_bind]
    have start := room_of_opens opens
    have inside (octets : List UInt8)
        (isOpen : Open bufferSize octets) :
        octets.length ≤ bufferSize :=
      Nat.le_of_succ_le isOpen.2
    have finish (octets : List UInt8)
        (isOpen : Open bufferSize octets) :=
      staysInside_finishReadPropertyAck isOpen
    dsimp only
    split
    · exact (keeps_open_appendAckEntries size valueAt _).staysInside_bind
        start inside finish
    · split
      · exact (keeps_open_appendAckValue size _).staysInside_bind
          start inside finish
      · refine staysInside_require_bind (inside _ start) fun _ => ?_
        exact (keeps_open_appendAckEntries size valueAt _).staysInside_bind
          start inside finish

/-- A single value and the closing tag behind a short reference. -/
theorem staysInside_closedValue
    {value : BacnetValue}
    {written : List UInt8}
    (start : Open bufferSize written)
    (brief : written.length ≤ 32) :
    StaysInside bufferSize
      (exec
        (do
          appendAckValue bufferSize value
          require (decide ((← offset) + 1 ≤ bufferSize))
          put [0x3F]
          storeLength) written) := by
  refine staysInside_appendAckValue_bind size start ?_
  rintro octets encoded ⟨header, room⟩
  have short := length_applicationOctets_le encoded
  change octets.length ≤ 512 at short
  rw [List.length_append] at header room
  rw [exec_offset_bind]
  refine staysInside_require_bind (by
    rw [List.length_append]
    omega) fun _ => ?_
  rw [exec_put_bind]
  apply staysInside_storeLength
  all_goals
    rw [List.length_append, List.length_append, List.length_singleton]
    omega

/-- An acknowledgement of a value stays inside where its prefix does. -/
theorem staysInside_writeReadPropertyAck_iff
    {request : BacnetReadPropertyRequestHeader}
    {value : BacnetValue} :
    StaysInside bufferSize
        (exec (writeReadPropertyAck bufferSize request value) []) ↔
      (20 ≤ bufferSize → PrefixFits bufferSize request.request) := by
  rw [writeReadPropertyAck]
  by_cases room : 20 ≤ bufferSize
  · rw [exec_require_bind_of_true (decide_eq_true room)]
    refine Iff.trans (staysInside_prefix_iff fun opens => ?_)
      (imp_iff_right room).symm
    rw [exec_put_bind]
    exact staysInside_closedValue size (room_of_opens opens)
      (by
        have few := length_readAckPrefix_le request
        rw [List.length_append, List.length_singleton]
        omega)
  · rw [exec_require_bind_of_false (decide_eq_false room)]
    exact iff_of_true (staysInside_none_iff.mpr (Nat.zero_le _))
      fun large => absurd large room

omit size in
/-- An acknowledgement of an empty list stays inside where its prefix does. -/
theorem staysInside_writeReadPropertyEmptyListAck_iff
    {request : BacnetReadPropertyRequestHeader} :
    StaysInside bufferSize
        (exec (writeReadPropertyEmptyListAck bufferSize request) []) ↔
      (request.request.arrayIndex = kBacnetNoArrayIndex →
        PrefixFits bufferSize request.request) := by
  rw [writeReadPropertyEmptyListAck]
  by_cases whole : request.request.arrayIndex = kBacnetNoArrayIndex
  · rw [exec_require_bind_of_true (beq_iff_eq.mpr whole)]
    refine Iff.trans (staysInside_prefix_iff fun opens => ?_)
      (imp_iff_right whole).symm
    have few := length_readAckPrefix request
    rw [exec_put_bind, exec_offset_bind]
    refine staysInside_require_bind ?_ fun short => ?_
    · rw [List.length_append]
      exact opens
    · refine staysInside_storeLength ?_ (of_decide_eq_true short) ?_
      · rw [List.length_append]
        omega
      · rw [List.length_append]
        exact opens
  · rw [exec_require_bind_of_false (beq_eq_false_iff_ne.mpr whole)]
    exact iff_of_true (staysInside_none_iff.mpr (Nat.zero_le _))
      fun isWhole => absurd isWhole whole

end Acknowledgements

section Replies

variable {bufferSize : Nat}

/-- A small number takes at most five octets. -/
theorem length_enumeratedOctets_le
    {raw : UInt32}
    {octets : List UInt8}
    (encoded : applicationOctets (enumeratedValue raw) = some octets) :
    octets.length ≤ 5 := by
  obtain ⟨others, isEncoded, short⟩ :=
    taggedNumber_short 9 raw (unsignedLength_le raw)
  have same : some octets = some others := encoded.symm.trans isEncoded
  exact Option.some.inj same ▸ short

/-- The class and the code of an error behind its headers. -/
theorem staysInside_errorValues
    (size : bufferSize < 2 ^ 32)
    {written : List UInt8}
    (headers : written.length = 9)
    (room : 13 ≤ bufferSize)
    (errorClass errorCode : UInt32) :
    StaysInside bufferSize
      (exec
        (do
          putApplicationValue
            (sizeSub bufferSize (← offset)) (enumeratedValue errorClass)
          putApplicationValue
            (sizeSub bufferSize (← offset)) (enumeratedValue errorCode)
          storeLength) written) := by
  rw [exec_offset_bind, sizeSub_of_le (by omega) size]
  refine staysInside_putApplicationValue_bind (by omega) ?_
  intro classOctets classEncoded classFits
  have classShort := length_enumeratedOctets_le classEncoded
  have behind :
      (written ++ classOctets).length = 9 + classOctets.length := by
    rw [List.length_append, headers]
  rw [exec_offset_bind, sizeSub_of_le (by omega) size]
  refine staysInside_putApplicationValue_bind (by omega) ?_
  intro codeOctets codeEncoded codeFits
  have codeShort := length_enumeratedOctets_le codeEncoded
  apply staysInside_storeLength
  all_goals
    rw [List.length_append, behind]
    omega

/-- An error reply stays inside. -/
theorem staysInside_writeServiceErrorResponse
    (size : bufferSize < 2 ^ 32)
    (invokeId serviceChoice : UInt8)
    (errorClass errorCode : UInt32) :
    StaysInside bufferSize
      (exec
        (writeServiceErrorResponse bufferSize invokeId serviceChoice
          errorClass errorCode) []) := by
  rw [writeServiceErrorResponse]
  refine staysInside_require_bind (Nat.zero_le _) fun large => ?_
  rw [putHeaders, exec_put_bind, exec_put_bind]
  exact staysInside_errorValues size rfl (of_decide_eq_true large)
    errorClass errorCode

/-- An announcement stays inside: it is measured before it is written. -/
theorem staysInside_writeIAmResponse
    (device : BacnetIAmDeviceInfo) :
    StaysInside bufferSize
      (exec (writeIAmResponse bufferSize device) []) := by
  rw [writeIAmResponse]
  refine staysInside_require_bind (Nat.zero_le _) fun checks => ?_
  rw [Bool.and_eq_true, decide_eq_true_eq, decide_eq_true_eq] at checks
  have apdu := unsignedLength_le device.maxApduLengthAccepted
  have segmentation :=
    unsignedLength_le device.segmentationSupported.toUInt32
  have vendor := unsignedLength_le device.vendorId.toUInt32
  rw [putHeaders, exec_put_bind, exec_put_bind, exec_put_bind,
    exec_put_bind, exec_put_bind, exec_put_bind]
  apply staysInside_storeLength
  all_goals
    simp only [List.length_append, List.length_cons, List.length_nil,
      length_bigEndianOctets]
    omega

end Replies

section Requests

variable {bufferSize : Nat}

/-- An optional index takes the octets announced for it. -/
theorem length_optionalIndex
    (tagNumber : UInt8)
    (arrayIndex : UInt32) :
    (optionalIndex tagNumber arrayIndex).length =
      if arrayIndex = kBacnetNoArrayIndex then 0
      else contextUnsignedSize arrayIndex := by
  unfold optionalIndex
  by_cases whole : arrayIndex = kBacnetNoArrayIndex
  · rw [if_neg (not_not_intro whole), if_pos whole]
    rfl
  · rw [if_pos whole, if_neg whole, length_contextUnsigned]

/-- A reference takes at most ten octets. -/
theorem referenceSize_le
    (property : BacnetPropertyId)
    (arrayIndex : UInt32) :
    referenceSize property arrayIndex ≤ 10 := by
  have name := contextUnsignedSize_le property.raw
  have index := contextUnsignedSize_le arrayIndex
  unfold referenceSize
  split <;> omega

/-- A read request stays inside. -/
theorem staysInside_writeReadPropertyRequest
    (request : BacnetPropertyRequest)
    (invokeId : UInt8) :
    StaysInside bufferSize
      (exec (writeReadPropertyRequest bufferSize request invokeId) []) := by
  rw [writeReadPropertyRequest]
  refine staysInside_require_bind (Nat.zero_le _) fun checks => ?_
  rw [Bool.and_eq_true, decide_eq_true_eq, decide_eq_true_eq] at checks
  rw [exec_putConfirmedRequest_bind, exec_put_bind, exec_put_bind]
  refine (congrArg (StaysInside bufferSize)
    (exec_optionalIndex_bind 2 request.arrayIndex _ _)).mpr ?_
  have reference := referenceSize_le request.property request.arrayIndex
  rw [referenceSize, ← length_optionalIndex 2] at reference
  apply staysInside_storeLength
  all_goals
    simp only [List.length_append, List.length_cons, List.length_nil,
      contextObjectIdentifier, length_bigEndianOctets,
      length_contextUnsigned]
    omega

/-- A subscription to an object stays inside. -/
theorem staysInside_writeSubscribeCovRequest
    (processId : UInt32)
    (object : BacnetObjectId)
    (lifetimeSeconds : UInt32)
    (issueConfirmedNotifications : Bool) :
    StaysInside bufferSize
      (exec
        (writeSubscribeCovRequest bufferSize processId object
          lifetimeSeconds issueConfirmedNotifications) []) := by
  rw [writeSubscribeCovRequest]
  refine staysInside_require_bind (Nat.zero_le _) fun checks => ?_
  rw [Bool.and_eq_true, decide_eq_true_eq, decide_eq_true_eq] at checks
  have process := contextUnsignedSize_le processId
  have lifetime := contextUnsignedSize_le lifetimeSeconds
  rw [exec_putConfirmedRequest_bind, exec_put_bind, exec_put_bind,
    exec_put_bind, exec_put_bind]
  apply staysInside_storeLength
  all_goals
    simp only [List.length_append, List.length_cons, List.length_nil,
      contextObjectIdentifier, contextBoolean, length_bigEndianOctets,
      length_contextUnsigned]
    omega

/-- A subscription to a property stays inside. -/
theorem staysInside_writeSubscribeCovPropertyRequest
    (processId : UInt32)
    (object : BacnetObjectId)
    (property : BacnetPropertyId)
    (lifetimeSeconds : UInt32)
    (issueConfirmedNotifications : Bool)
    (arrayIndex : UInt32)
    (hasCovIncrement : Bool)
    (covIncrement : Binary32) :
    StaysInside bufferSize
      (exec
        (writeSubscribeCovPropertyRequest bufferSize processId object
          property lifetimeSeconds issueConfirmedNotifications arrayIndex
          hasCovIncrement covIncrement) []) := by
  rw [writeSubscribeCovPropertyRequest]
  refine staysInside_require_bind (Nat.zero_le _) fun checks => ?_
  rw [Bool.and_eq_true, decide_eq_true_eq, decide_eq_true_eq] at checks
  obtain ⟨room, _⟩ := checks
  rw [exec_putConfirmedRequest_bind, exec_put_bind, exec_put_bind,
    exec_put_bind, exec_put_bind]
  refine (congrArg (StaysInside bufferSize)
    (exec_optionalIndex_bind 1 arrayIndex _ _)).mpr ?_
  rw [exec_put_bind, exec_put_bind, exec_put_bind]
  refine (congrArg (StaysInside bufferSize)
    (exec_optionalIncrement_bind hasCovIncrement covIncrement _ _)).mpr ?_
  have process := contextUnsignedSize_le processId
  have lifetime := contextUnsignedSize_le lifetimeSeconds
  have reference := referenceSize_le property arrayIndex
  rw [referenceSize, ← length_optionalIndex 1] at reference
  rw [← length_optionalIndex 1] at room
  have increment :
      (optionalIncrement hasCovIncrement covIncrement).length =
        if hasCovIncrement then 5 else 0 := by
    cases hasCovIncrement <;> rfl
  rw [← increment] at room
  have incrementShort :
      (optionalIncrement hasCovIncrement covIncrement).length ≤ 5 := by
    rw [increment]
    split <;> decide
  apply staysInside_storeLength
  all_goals
    simp only [List.length_append, List.length_cons, List.length_nil,
      contextObjectIdentifier, contextBoolean, length_bigEndianOctets,
      length_contextUnsigned]
    omega

/-- The checks in front of a write request. -/
def writeChecks
    (bufferSize : Nat)
    (object : BacnetObjectId)
    (property : BacnetPropertyId)
    (options : BacnetWritePropertyOptions) : Bool :=
  decide (24 ≤ bufferSize) &&
    decide (object.type ≤ 1023) &&
    decide (object.instance_ ≤ kObjectInstanceMask) &&
    !(options.hasPriority && decide (16 < options.priority)) &&
    !(options.hasPriority && options.priority == 0 &&
      property == .presentValue)

/-- The end of a write request, from its value on. -/
def finishWritePropertyRequest
    (bufferSize : Nat)
    (value : BacnetValue)
    (options : BacnetWritePropertyOptions) : PacketWriter Unit := do
  put [0x3E]
  putApplicationValue (sizeSub (sizeSub bufferSize (← offset)) 1) value
  require (decide ((← offset) + 1 ≤ bufferSize))
  put [0x3F]
  if options.hasPriority && options.priority != 0 then
    require (decide ((← offset) + 2 ≤ bufferSize))
    put (contextUnsigned 4 options.priority.toUInt32)
  storeLength

/-- The end of a write request stays inside. -/
theorem staysInside_finishWritePropertyRequest
    (size : bufferSize < 2 ^ 32)
    {value : BacnetValue}
    {options : BacnetWritePropertyOptions}
    (priority : options.hasPriority = true → options.priority ≤ 16)
    {written : List UInt8}
    (header : 4 ≤ written.length)
    (brief : written.length ≤ 25)
    (room : written.length + 2 ≤ bufferSize) :
    StaysInside bufferSize
      (exec (finishWritePropertyRequest bufferSize value options)
        written) := by
  have opened : (written ++ [0x3E]).length = written.length + 1 := by
    rw [List.length_append, List.length_singleton]
  rw [finishWritePropertyRequest, exec_put_bind, exec_offset_bind, opened,
    sizeSub_of_le (by omega) size, sizeSub_of_le (by omega) (by omega)]
  refine staysInside_putApplicationValue_bind (by omega) ?_
  intro octets encoded fits
  have short := length_applicationOctets_le encoded
  change octets.length ≤ 512 at short
  have valued :
      (written ++ [0x3E] ++ octets).length =
        written.length + 1 + octets.length := by
    rw [List.length_append, opened]
  rw [exec_offset_bind, valued]
  refine staysInside_require_bind (by omega) fun _ => ?_
  rw [exec_put_bind]
  have closed :
      (written ++ [0x3E] ++ octets ++ [0x3F]).length =
        written.length + 1 + octets.length + 1 := by
    rw [List.length_append, valued, List.length_singleton]
  split
  · rename_i carries
    rw [exec_offset_bind]
    refine staysInside_require_bind (by omega) fun two => ?_
    have room := of_decide_eq_true two
    have small : options.priority.toUInt32 ≤ 0xFF := by
      have bounded :=
        UInt8.le_iff_toNat_le.mp
          (priority (Bool.and_eq_true _ _ ▸ carries).1)
      rw [UInt32.le_iff_toNat_le, UInt8.toNat_toUInt32]
      exact bounded.trans (by decide)
    have octet :
        (contextUnsigned 4 options.priority.toUInt32).length = 2 := by
      rw [length_contextUnsigned, contextUnsignedSize, if_pos small]
    rw [exec_put_bind]
    apply staysInside_storeLength
    all_goals
      rw [List.length_append, octet]
      omega
  · apply staysInside_storeLength
    all_goals omega

/-- A write request stays inside where its reference does. -/
theorem staysInside_writeWritePropertyRequest_iff
    (size : bufferSize < 2 ^ 32)
    {object : BacnetObjectId}
    {property : BacnetPropertyId}
    {value : BacnetValue}
    {options : BacnetWritePropertyOptions}
    {invokeId : UInt8} :
    StaysInside bufferSize
        (exec
          (writeWritePropertyRequest bufferSize object property value
            options invokeId) []) ↔
      (writeChecks bufferSize object property options = true →
        15 + referenceSize property options.arrayIndex ≤ bufferSize) := by
  rw [writeWritePropertyRequest, ← writeChecks]
  cases checks : writeChecks bufferSize object property options with
  | false =>
      exact iff_of_true (staysInside_none_iff.mpr (Nat.zero_le _)) nofun
  | true =>
      rw [exec_require_bind_of_true rfl, imp_iff_right rfl,
        exec_putConfirmedRequest_bind, exec_put_bind, exec_put_bind]
      refine Iff.trans (iff_of_eq (congrArg (StaysInside bufferSize)
        (exec_optionalIndex_bind 2 options.arrayIndex _ _))) ?_
      generalize reached :
        [kBvlcTypeBacnetIp, kBvlcOriginalUnicastNpdu, 0, 0, kNpduVersion,
          kNpduExpectingReply, kApduConfirmedRequest, 0x05, invokeId,
          kServiceWriteProperty] ++ contextObjectIdentifier 0 object ++
          contextUnsigned 1 property.raw ++
          optionalIndex 2 options.arrayIndex = written
      have sized :
          written.length =
            15 + referenceSize property options.arrayIndex := by
        rw [← reached, referenceSize, ← length_optionalIndex 2]
        simp only [List.length_append, List.length_cons, List.length_nil,
          contextObjectIdentifier, length_bigEndianOctets,
          length_contextUnsigned]
        omega
      have few := referenceSize_le property options.arrayIndex
      rw [exec_offset_bind, ← sized]
      by_cases opens : written.length + 2 ≤ bufferSize
      · rw [exec_require_bind_of_true (decide_eq_true opens)]
        refine iff_of_true ?_ (Nat.le_of_add_right_le opens)
        refine staysInside_finishWritePropertyRequest size ?_ (by omega)
          (by omega) opens
        intro carried
        simp only [writeChecks, carried, Bool.true_and, Bool.and_eq_true,
          Bool.not_eq_eq_eq_not, Bool.not_true, decide_eq_false_iff_not,
          UInt8.not_lt] at checks
        exact checks.1.2
      · rw [exec_require_bind_of_false (decide_eq_false opens)]
        exact staysInside_none_iff

end Requests

end BacnetStack
