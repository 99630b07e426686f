import BacnetStack.ProtocolAckCodec

namespace BacnetStack

/-!
# What a client takes a reply for

The client decides by the first octets of a packet whether it answers a
request, and how.  The replies a server builds for a request are all answers
to it: acknowledgements are taken for acknowledgements and errors for errors.
-/

open Reader

/-- The octets in front of an answer that names the service. -/
def responseOctets
    (kind invokeId service : UInt8)
    (body : List UInt8) : List UInt8 :=
  kNpduVersion :: 0 :: kind :: invokeId :: service :: body

/-- The kind of a packet whose headers are intact. -/
theorem run_confirmedResponseReader
    {ackType kind : UInt8}
    (plain : kind &&& 0xF0 = kind)
    (known : kind = ackType ∨ kind = kApduError)
    {high low : UInt8}
    (invokeId service : UInt8)
    (body : List UInt8)
    (announced :
      high.toNat * 256 + low.toNat =
        (responseOctets kind invokeId service body).length + 4) :
    (confirmedResponseReader ackType service invokeId).run
        (kBvlcTypeBacnetIp :: kBvlcOriginalUnicastNpdu ::
          high :: low :: responseOctets kind invokeId service body) =
      .ok (if kind = ackType then .ack else .error, body) := by
  have enough :
      8 ≤ (responseOctets kind invokeId service body).length + 4 := by
    simp only [responseOctets, List.length_cons]
    omega
  rw [confirmedResponseReader,
    run_bind_of_ok (run_readBvlcHeader enough announced), responseOctets,
    run_bind_of_ok (run_readNpduHeader_plain (.inl rfl) _),
    run_bind_of_ok (run_checkedNext_cons _ _)]
  dsimp only
  rw [plain, if_pos known, run_bind_of_ok (run_remaining _),
    run_require_bind (by simp),
    run_bind_of_ok (run_next_cons _ _),
    run_require_bind (beq_self_eq_true _),
    run_bind_of_ok (run_next_cons _ _),
    run_require_bind (beq_self_eq_true _)]
  split <;> rfl

/-- A read acknowledgement is one, whatever it carries. -/
theorem classifyReadPropertyResponse_readAckPacket
    {request : BacnetReadPropertyRequestHeader}
    {values : List (List UInt8)}
    (short : (readAckPacket request values).length ≤ 0xFFFF) :
    classifyReadPropertyResponse (readAckPacket request values)
      request.invokeId = .ack := by
  have announced := announcedLength short
  have sized :
      (readAckPacket request values).length =
        (responseOctets kApduComplexAck request.invokeId
          kServiceReadProperty
          (readAckBody request.request values.flatten)).length + 4 := by
    conv => lhs; rw [readAckPacket_eq]
    rfl
  have kind :=
    @run_confirmedResponseReader kApduComplexAck kApduComplexAck
      (by decide) (.inl rfl) _ _ request.invokeId kServiceReadProperty
      (readAckBody request.request values.flatten) (announced.trans sized)
  rw [responseOctets, ← readAckPacket_eq] at kind
  rw [classifyReadPropertyResponse, parse?, kind]
  rfl

/-- An error of a read is an error. -/
theorem classifyReadPropertyResponse_serviceErrorPacket
    (invokeId : UInt8)
    (errorClass errorCode : UInt32) :
    classifyReadPropertyResponse
        (serviceErrorPacket invokeId kServiceReadProperty
          errorClass errorCode) invokeId = .error := by
  have kind :=
    @run_confirmedResponseReader kApduComplexAck kApduError (by decide)
      (.inr rfl) 0 13 invokeId kServiceReadProperty
      [0x91, errorClass.toUInt8, 0x91, errorCode.toUInt8]
      (by simp [responseOctets])
  rw [classifyReadPropertyResponse, parse?]
  unfold serviceErrorPacket
  unfold responseOctets at kind
  rw [kind]
  rfl

/-- The acknowledgement of a write is one. -/
theorem classifyWritePropertyResponse_simpleAckPacket (invokeId : UInt8) :
    classifyWritePropertyResponse
        (simpleAckPacket invokeId kServiceWriteProperty) invokeId =
      .ack := by
  have kind :=
    @run_confirmedResponseReader kApduSimpleAck kApduSimpleAck (by decide)
      (.inl rfl) 0 9 invokeId kServiceWriteProperty []
      (by simp [responseOctets])
  rw [classifyWritePropertyResponse, parse?]
  unfold simpleAckPacket
  unfold responseOctets at kind
  rw [kind]
  rfl

/-- An error of a write is an error. -/
theorem classifyWritePropertyResponse_serviceErrorPacket
    (invokeId : UInt8)
    (errorClass errorCode : UInt32) :
    classifyWritePropertyResponse
        (serviceErrorPacket invokeId kServiceWriteProperty
          errorClass errorCode) invokeId = .error := by
  have kind :=
    @run_confirmedResponseReader kApduSimpleAck kApduError (by decide)
      (.inr rfl) 0 13 invokeId kServiceWriteProperty
      [0x91, errorClass.toUInt8, 0x91, errorCode.toUInt8]
      (by simp [responseOctets])
  rw [classifyWritePropertyResponse, parse?]
  unfold serviceErrorPacket
  unfold responseOctets at kind
  rw [kind]
  rfl

end BacnetStack
