import BacnetStack.Client
import BacnetStack.ProtocolTrailingOctets

namespace BacnetStack

/-!
# Errors that answer a write

A write to a value that cannot be commanded is answered with class 2
(property) and code 40 (write access denied).  The client looks for the
shortest encoding of the two at octets 9 to 12 of the packet, where they are
only if the network header announces no address.
-/

open Reader

/-- Class and code of an error that refuses a write. -/
def writeAccessDenied : UInt32 × UInt32 :=
  (2, 40)

/-- The two in as few octets as possible. -/
def writeAccessDeniedOctets : List UInt8 :=
  [0x91, 2, 0x91, 40]

/--
An Error that answers a write: behind its headers are a class and a code,
each in any form a reader of enumerated values accepts.
-/
structure IsWriteError
    (packet : List UInt8)
    (invokeId : UInt8)
    (npdu body : List UInt8)
    (reported : UInt32 × UInt32) : Prop where
  link : (readBvlcHeader 8 true).run packet = .ok ((), npdu)
  network :
    ∃ kind : UInt8,
      kind &&& 0xF0 = kApduError ∧
        readNpduHeader.run npdu =
          .ok ((), kind :: invokeId :: kServiceWriteProperty :: body)
  fields :
    ∃ rest, readErrorClassAndCode.run body = .ok (reported, rest)

/-- The control octet announces a destination or a source. -/
def announcesAddress : List UInt8 → Bool
  | _ :: control :: _ => control &&& 0x20 != 0 || control &&& 0x08 != 0
  | _ => false

/--
Without an address, write access denied is in its shortest form.  With one,
the four octets behind the length of the first address read like that form
exactly where write access is denied.
-/
def RecognisedByPosition
    (npdu body : List UInt8)
    (reported : UInt32 × UInt32) : Prop :=
  if announcesAddress npdu then
    (reported = writeAccessDenied ↔
      writeAccessDeniedOctets <+: npdu.drop 5)
  else
    reported = writeAccessDenied → writeAccessDeniedOctets <+: body

/-- Four octets at the front of a packet. -/
theorem four_prefix_iff
    {first second third fourth : UInt8}
    {octets : List UInt8} :
    [first, second, third, fourth] <+: octets ↔
      octets[0]? = some first ∧ octets[1]? = some second ∧
        octets[2]? = some third ∧ octets[3]? = some fourth := by
  constructor
  · rintro ⟨rest, rfl⟩
    exact ⟨rfl, rfl, rfl, rfl⟩
  · rintro ⟨isFirst, isSecond, isThird, isFourth⟩
    match octets with
    | one :: two :: three :: four :: rest =>
        cases isFirst
        cases isSecond
        cases isThird
        cases isFourth
        exact ⟨rest, rfl⟩
    | [_, _, _] => cases isFourth
    | [_, _] => cases isThird
    | [_] => cases isSecond
    | [] => cases isFirst

/-- Without an address the network header has two octets. -/
theorem eq_drop_of_run_readNpduHeader
    {npdu apdu : List UInt8}
    (direct : announcesAddress npdu = false)
    (read : readNpduHeader.run npdu = .ok ((), apdu)) :
    apdu = npdu.drop 2 := by
  match npdu with
  | [] => cases read
  | [version] =>
      have shorter := takes_readNpduHeader.length_le read
      exact absurd shorter (by rw [List.length_singleton]; omega)
  | version :: control :: rest =>
      obtain ⟨noDestination, noSource⟩ := Bool.or_eq_false_iff.mp direct
      rw [readNpduHeader, run_bind_eq_ok_iff] at read
      obtain ⟨_, behind, readVersion, read⟩ := read
      rw [expect, run_bind_of_ok (run_checkedNext_cons _ _)] at readVersion
      obtain ⟨_, rfl⟩ := run_require_eq_ok_iff.mp readVersion
      rw [run_bind_of_ok (run_checkedNext_cons _ _), run_bind_eq_ok_iff]
        at read
      obtain ⟨_, _, checked, read⟩ := read
      obtain ⟨_, rfl⟩ := run_require_eq_ok_iff.mp checked
      rw [noDestination, noSource] at read
      cases read
      rfl

namespace IsWriteError

variable {packet npdu body : List UInt8} {invokeId : UInt8}
  {reported : UInt32 × UInt32}

/-- The client takes such a packet for an error. -/
theorem classified
    (isError : IsWriteError packet invokeId npdu body reported) :
    classifyWritePropertyResponse packet invokeId = .error := by
  obtain ⟨kind, errorKind, network⟩ := isError.network
  have notAck : kApduError ≠ kApduSimpleAck := by decide
  have classified :
      (confirmedResponseReader kApduSimpleAck kServiceWriteProperty
          invokeId).run packet = .ok (.error, body) := by
    rw [confirmedResponseReader, run_bind_of_ok isError.link,
      run_bind_of_ok network, run_bind_of_ok (run_checkedNext_cons _ _)]
    dsimp only
    rw [errorKind, if_pos (Or.inr rfl), run_bind_of_ok (run_remaining _),
      run_require_bind (by simp), run_bind_of_ok (run_next_cons _ _),
      run_require_bind (beq_self_eq_true _),
      run_bind_of_ok (run_next_cons _ _),
      run_require_bind (beq_self_eq_true _), if_neg notAck]
    rfl
  rw [classifyWritePropertyResponse, parse?, classified]

/-- The octets the client looks at are in the network header or behind it. -/
theorem octets_iff
    (isError : IsWriteError packet invokeId npdu body reported) :
    (13 ≤ packet.length ∧ packet[9]? = some 0x91 ∧
        packet[10]? = some 2 ∧ packet[11]? = some 0x91 ∧
        packet[12]? = some 40) ↔
      writeAccessDeniedOctets <+: npdu.drop 5 := by
  obtain ⟨type, function, high, low, others, rfl⟩ :=
    cons_of_run_readBvlcHeader isError.link
  have same : npdu = others := by
    have read := isError.link
    rw [run_readBvlcHeader_cons] at read
    split at read
    · cases read
      rfl
    · cases read
  rw [same, writeAccessDeniedOctets, four_prefix_iff]
  simp only [List.getElem?_drop]
  constructor
  · rintro ⟨_, octets⟩
    exact octets
  · intro octets
    refine ⟨?_, octets⟩
    obtain ⟨isThere, _⟩ := List.getElem?_eq_some_iff.mp octets.2.2.2
    simp only [List.length_cons]
    omega

/-- The shortest form is read as what it stands for. -/
theorem reported_of_octets
    (isError : IsWriteError packet invokeId npdu body reported)
    (shortest : writeAccessDeniedOctets <+: body) :
    reported = writeAccessDenied := by
  obtain ⟨rest, rfl⟩ := shortest
  obtain ⟨_, read⟩ := isError.fields
  have direct :
      readErrorClassAndCode.run (writeAccessDeniedOctets ++ rest) =
        .ok (writeAccessDenied, rest) :=
    rfl
  rw [direct] at read
  cases read
  rfl

/-- Without an address the body is behind the fifth octet. -/
theorem drop_eq_body
    (isError : IsWriteError packet invokeId npdu body reported)
    (direct : announcesAddress npdu = false) :
    npdu.drop 5 = body := by
  obtain ⟨kind, _, network⟩ := isError.network
  have apdu := eq_drop_of_run_readNpduHeader direct network
  rw [show 5 = 2 + 3 from rfl, ← List.drop_drop, ← apdu]
  rfl

end IsWriteError

/-- The status of a poll for the response to a write. -/
def reportedStatus
    (reported : UInt32 × UInt32) : BacnetWritePropertyPollStatus :=
  if reported = writeAccessDenied then .notCommandable else .error

/-- An error is reported as what it says where it is recognised. -/
theorem IsWriteError.outcome_iff
    {packet npdu body : List UInt8}
    {invokeId : UInt8}
    {reported : UInt32 × UInt32}
    (isError : IsWriteError packet invokeId npdu body reported) :
    writePropertyOutcome packet invokeId = reportedStatus reported ↔
      RecognisedByPosition npdu body reported := by
  have outcome_iff :
      writePropertyOutcome packet invokeId = reportedStatus reported ↔
        (reported = writeAccessDenied ↔
          writeAccessDeniedOctets <+: npdu.drop 5) := by
    rw [writePropertyOutcome, isError.classified, reportedStatus,
      ← isError.octets_iff]
    by_cases denied : reported = writeAccessDenied
    · rw [if_pos denied]
      split <;> simp_all
    · rw [if_neg denied]
      split <;> simp_all
  rw [outcome_iff, RecognisedByPosition]
  cases direct : announcesAddress npdu with
  | true => rw [if_pos rfl]
  | false =>
      rw [if_neg Bool.false_ne_true, isError.drop_eq_body direct]
      exact ⟨Iff.mp, fun recognised =>
        ⟨recognised, isError.reported_of_octets⟩⟩

/--
A poll reports an error that answers the write as not commandable exactly
where it says so, if and only if it is recognised by its position.
-/
theorem pollWriteProperty_error_iff
    {τ : Type}
    (runtime : ClientRuntime τ)
    (client : BacnetClient τ)
    (enabled : runtime.writePropertyEnabled = true)
    (running : client.running = true)
    {datagram : ReceivedDatagram}
    {transport : τ}
    (received :
      runtime.receive client.transport = (some datagram, transport))
    {invokeId : UInt8}
    {npdu body : List UInt8}
    {reported : UInt32 × UInt32}
    (isError :
      IsWriteError datagram.packet invokeId npdu body reported) :
    (client.pollWriteProperty runtime invokeId).1 =
        reportedStatus reported ↔
      RecognisedByPosition npdu body reported := by
  have polled :
      (client.pollWriteProperty runtime invokeId).1 =
        writePropertyOutcome datagram.packet invokeId := by
    rw [BacnetClient.pollWriteProperty, enabled, running,
      BacnetClient.pollDatagram, running, if_neg (by decide),
      if_neg (by decide), if_pos rfl, BacnetClient.receive, received]
  rw [polled, isError.outcome_iff]

/-- A transport that delivers one packet. -/
def deliveringRuntime
    (packet : List UInt8) : ClientRuntime Unit where
  receive _ := (intoBuffer (some ⟨{}, packet⟩), ())
  receivable _ _ read :=
    @receivable_of_intoBuffer (some ⟨{}, packet⟩) _ read
  send _ _ _ := (true, ())
  nowMs _ := (0, ())
  idle _ := ()
  writePropertyEnabled := true

/-- Write access denied, from station 5 of network 1. -/
def routedErrorPacket : List UInt8 :=
  [0x81, 0x0A, 0, 17, 1, 0x08, 0, 1, 1, 5, 0x50, 9, 15, 0x91, 2, 0x91, 40]

theorem isWriteError_routedErrorPacket :
    IsWriteError routedErrorPacket 9 (routedErrorPacket.drop 4)
      writeAccessDeniedOctets writeAccessDenied where
  link := rfl
  network := ⟨0x50, by decide, rfl⟩
  fields := ⟨[], rfl⟩

/-- A routed error is recognised only by its address. -/
theorem pollWriteProperty_routedErrorPacket :
    (BacnetClient.pollWriteProperty (deliveringRuntime routedErrorPacket)
          { transport := (), running := true } 9).1 =
        reportedStatus writeAccessDenied ↔
      RecognisedByPosition (routedErrorPacket.drop 4)
        writeAccessDeniedOctets writeAccessDenied :=
  pollWriteProperty_error_iff (deliveringRuntime routedErrorPacket)
    { transport := (), running := true } rfl rfl rfl
    isWriteError_routedErrorPacket

/-- The routed error is reported as any other error. -/
theorem not_pollWriteProperty_routedErrorPacket :
    ¬∀ (runtime : ClientRuntime Unit) (client : BacnetClient Unit)
        (datagram : ReceivedDatagram) (invokeId : UInt8)
        (npdu body : List UInt8) (reported : UInt32 × UInt32),
      runtime.writePropertyEnabled = true →
        client.running = true →
          (runtime.receive client.transport).1 = some datagram →
            IsWriteError datagram.packet invokeId npdu body reported →
              (client.pollWriteProperty runtime invokeId).1 =
                reportedStatus reported := by
  intro always
  have reported :=
    always (deliveringRuntime routedErrorPacket)
      { transport := (), running := true } ⟨{}, routedErrorPacket⟩ 9 _ _ _
      rfl rfl rfl isWriteError_routedErrorPacket
  revert reported
  decide

/-- Without an address, a longer form of the code is not recognised. -/
example :
    writePropertyOutcome
        [0x81, 0x0A, 0, 14, 1, 0, 0x50, 9, 15, 0x91, 2, 0x92, 0, 40] 9 =
      .error := by
  decide

end BacnetStack
