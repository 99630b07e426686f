import BacnetStack.ProtocolValueCodec

namespace BacnetStack

/-!
# Requests, built and parsed

The client's builders and the server's parsers meet here.  A request is a
fixed header in front of a body; the parsers take the header away and read the
fields of the body in the order in which they were written.
-/

open Reader PacketWriter

/-- The link header of a unicast packet that announces its own length. -/
theorem run_readBvlcHeader
    {minimumLength : Nat}
    {acceptBroadcast : Bool}
    {high low : UInt8}
    {rest : List UInt8}
    (enough : minimumLength ≤ rest.length + 4)
    (announced : high.toNat * 256 + low.toNat = rest.length + 4) :
    (readBvlcHeader minimumLength acceptBroadcast).run
        (kBvlcTypeBacnetIp :: kBvlcOriginalUnicastNpdu ::
          high :: low :: rest) =
      .ok ((), rest) := by
  rw [readBvlcHeader, run_bind_of_ok (run_remaining _),
    run_require_bind (by simpa using enough),
    run_bind_of_ok (run_next_cons _ _), run_bind_of_ok (run_next_cons _ _),
    run_bind_of_ok (run_next_cons _ _), run_bind_of_ok (run_next_cons _ _)]
  have holds :
      (kBvlcTypeBacnetIp == kBvlcTypeBacnetIp &&
        (kBvlcOriginalUnicastNpdu == kBvlcOriginalUnicastNpdu ||
          (acceptBroadcast &&
            kBvlcOriginalUnicastNpdu == kBvlcOriginalBroadcastNpdu)) &&
        high.toNat * 256 + low.toNat ==
          (kBvlcTypeBacnetIp :: kBvlcOriginalUnicastNpdu ::
            high :: low :: rest).length) = true := by
    simp [announced]
  rw [holds]
  rfl

/-- The two length octets announce every length of 16 bits. -/
theorem announcedLength
    {length : Nat}
    (small : length ≤ 0xFFFF) :
    (UInt8.ofNat (length / 256)).toNat * 256 +
      (UInt8.ofNat length).toNat = length := by
  rw [UInt8.toNat_ofNat', UInt8.toNat_ofNat']
  omega

/-- A network header without addresses is skipped. -/
theorem run_readNpduHeader_plain
    {control : UInt8}
    (plain : control = 0 ∨ control = kNpduExpectingReply)
    (rest : List UInt8) :
    readNpduHeader.run (kNpduVersion :: control :: rest) =
      .ok ((), rest) := by
  rcases plain with rfl | rfl <;> rfl

/-- A confirmed request with the headers the builders put in front of it. -/
def confirmedRequestPacket
    (invokeId service : UInt8)
    (body : List UInt8) : List UInt8 :=
  kBvlcTypeBacnetIp :: kBvlcOriginalUnicastNpdu ::
    UInt8.ofNat ((body.length + 10) / 256) ::
    UInt8.ofNat (body.length + 10) ::
    kNpduVersion :: kNpduExpectingReply ::
    kApduConfirmedRequest :: 0x05 :: invokeId :: service :: body

/-- The headers of a confirmed request are taken away again. -/
theorem parseConfirmedRequestHeader_packet
    (invokeId service : UInt8)
    {body : List UInt8}
    (small : body.length + 10 ≤ 0xFFFF) :
    parseConfirmedRequestHeader
        (confirmedRequestPacket invokeId service body) =
      .parsed {
        invokeId := invokeId
        serviceChoice := service
        body := body
      } := by
  have header :
      confirmedRequestHeaderReader.run
          (confirmedRequestPacket invokeId service body) =
        .ok (some {
          invokeId := invokeId
          serviceChoice := service
          body := body
        }, body) := by
    rw [confirmedRequestHeaderReader, confirmedRequestPacket,
      run_bind_of_ok (run_readBvlcHeader (by simp)
        (by simpa using announcedLength small)),
      run_bind_of_ok (run_readNpduHeader_plain (Or.inr rfl) _)]
    rfl
  rw [parseConfirmedRequestHeader, parseStatus, header]

/-- What a parser makes of the outcome of reading a body. -/
def ParseStatus.ofOutcome
    {α : Type} :
    Except ReadFault (α × List UInt8) → ParseStatus α
  | .ok (request, _) => .parsed request
  | .error _ => .malformed

section Services

variable {α : Type} {services : List UInt8}
  {reader : BacnetConfirmedRequestHeader → Reader α}
  {invokeId service : UInt8} {body : List UInt8}
  (small : body.length + 10 ≤ 0xFFFF)
  (accepted : service ∈ services)

include small accepted

/-- A request for an accepted service is decoded by its body. -/
theorem parseConfirmedService_packet
    {outcome : Except ReadFault (α × List UInt8)}
    (read :
      (reader {
        invokeId := invokeId
        serviceChoice := service
        body := body
      }).run body = outcome) :
    parseConfirmedService services reader
        (confirmedRequestPacket invokeId service body) =
      .ofOutcome outcome := by
  simp only [parseConfirmedService,
    parseConfirmedRequestHeader_packet invokeId service small,
    if_pos accepted, parse?, read]
  cases outcome <;> rfl

end Services

@[simp] theorem exec_putConfirmedRequest_bind
    {β : Type}
    (invokeId service : UInt8)
    (continuation : Unit → PacketWriter β) :
    exec (putConfirmedRequest invokeId service >>= continuation) [] =
      exec (continuation ())
        [kBvlcTypeBacnetIp, kBvlcOriginalUnicastNpdu, 0, 0, kNpduVersion,
          kNpduExpectingReply, kApduConfirmedRequest, 0x05, invokeId,
          service] :=
  rfl

/-- Storing the length of a request behind its headers. -/
theorem storeLength_confirmedRequest
    (invokeId service : UInt8)
    (body : List UInt8) :
    exec storeLength
        ([kBvlcTypeBacnetIp, kBvlcOriginalUnicastNpdu, 0, 0,
          kNpduVersion, kNpduExpectingReply, kApduConfirmedRequest, 0x05,
          invokeId, service] ++ body) =
      (some (), confirmedRequestPacket invokeId service body) := by
  have sized :
      ([kBvlcTypeBacnetIp, kBvlcOriginalUnicastNpdu, 0, 0,
        kNpduVersion, kNpduExpectingReply, kApduConfirmedRequest, 0x05,
        invokeId, service] ++ body).length = body.length + 10 := by
    rw [List.length_append, Nat.add_comm]
    rfl
  rw [exec_storeLength, sized]
  rfl

/-- A context-tagged number is not empty. -/
theorem contextUnsigned_append_ne_nil
    (tagNumber : UInt8)
    (value : UInt32)
    (rest : List UInt8) :
    (contextUnsigned tagNumber value ++ rest).isEmpty = false := by
  obtain ⟨length, _, _, _, octets⟩ := contextUnsigned_eq tagNumber value
  rw [octets]
  rfl

/-- An optional number that is present is read. -/
theorem run_readOptionalContextValue_present
    {tagNumber : UInt8}
    (known : tagNumber < 16)
    (absent value : UInt32)
    (rest : List UInt8) :
    (readOptionalContextValue tagNumber absent).run
        (contextUnsigned tagNumber value ++ rest) = .ok (value, rest) := by
  rw [readOptionalContextValue,
    run_bind_of_ok
      (run_atContextTag_contextUnsigned known tagNumber value rest),
    beq_self_eq_true]
  exact run_readContextValue_contextUnsigned known value rest

/-- The octets of an optional array index. -/
def optionalIndex
    (tagNumber : UInt8)
    (arrayIndex : UInt32) : List UInt8 :=
  if arrayIndex ≠ kBacnetNoArrayIndex then
    contextUnsigned tagNumber arrayIndex
  else
    []

/-- An optional array index in front of another tag is read back. -/
theorem run_readOptionalContextValue_index
    {tagNumber : UInt8}
    (known : tagNumber < 16)
    (arrayIndex : UInt32)
    {next : UInt8}
    (rest : List UInt8)
    (other : next >>> 4 ≠ tagNumber) :
    (readOptionalContextValue tagNumber kBacnetNoArrayIndex).run
        (optionalIndex tagNumber arrayIndex ++ next :: rest) =
      .ok (arrayIndex, next :: rest) := by
  unfold optionalIndex
  by_cases indexed : arrayIndex ≠ kBacnetNoArrayIndex
  · rw [if_pos indexed]
    exact run_readOptionalContextValue_present known _ _ _
  · have absent :
        (atContextTag tagNumber).run (next :: rest) =
          .ok (false, next :: rest) := by
      have differs : (next >>> 4 == tagNumber) = false :=
        beq_eq_false_iff_ne.mpr other
      rw [atContextTag, run_bind_of_ok (run_hasMore _)]
      change (peek >>= _).run _ = _
      rw [run_bind_of_ok (run_peek_cons _ _), differs]
      rfl
    rw [if_neg indexed, List.nil_append, readOptionalContextValue,
      run_bind_of_ok absent, not_not.mp indexed]
    rfl

/-- An optional array index is written in front of what follows. -/
theorem exec_optionalIndex_bind
    {β : Type}
    (tagNumber : UInt8)
    (arrayIndex : UInt32)
    (continuation : Unit → PacketWriter β)
    (written : List UInt8) :
    exec
        (if arrayIndex ≠ kBacnetNoArrayIndex then
          put (contextUnsigned tagNumber arrayIndex) >>= continuation
        else
          continuation ()) written =
      exec (continuation ()) (written ++ optionalIndex tagNumber arrayIndex) := by
  unfold optionalIndex
  split
  · exact exec_put_bind _ _ _
  · rw [List.append_nil]

/-- The octets of a property reference. -/
def referenceOctets
    (object : BacnetObjectId)
    (property : BacnetPropertyId) : List UInt8 :=
  contextObjectIdentifier 0 object ++ contextUnsigned 1 property.raw

/-- A property reference is read back, with the object as it was packed. -/
theorem run_readObjectAndProperty
    (object : BacnetObjectId)
    (property : BacnetPropertyId)
    (rest : List UInt8) :
    readObjectAndProperty.run (referenceOctets object property ++ rest) =
      .ok ((decodeObjectId (encodeObjectId object), property), rest) := by
  rw [referenceOctets, List.append_assoc, readObjectAndProperty,
    run_bind_of_ok (run_readContextValue_contextObjectIdentifier
      (by decide) object _),
    run_bind_of_ok (run_readContextValue_contextUnsigned
      (by decide) property.raw rest),
    run_require_bind (decide_eq_true (encodeObjectId_shiftRight_le object))]
  rfl

/-- The body of a ReadProperty request. -/
def readPropertyBody (request : BacnetPropertyRequest) : List UInt8 :=
  referenceOctets request.object request.property ++
    optionalIndex 2 request.arrayIndex

/-- The request a built packet is. -/
theorem buildReadPropertyRequest_eq_some_iff
    {bufferSize : Nat}
    {request : BacnetPropertyRequest}
    {invokeId : UInt8}
    {packet : List UInt8} :
    buildReadPropertyRequest bufferSize request invokeId = some packet ↔
      (25 ≤ bufferSize ∧
        request.object.instance_ ≤ kObjectInstanceMask) ∧
      packet =
        confirmedRequestPacket invokeId kServiceReadProperty
          (readPropertyBody request) := by
  rw [buildReadPropertyRequest, build_eq_some_iff,
    writeReadPropertyRequest, exec_require_bind_iff,
    Bool.and_eq_true, decide_eq_true_eq, decide_eq_true_eq]
  refine and_congr_right fun _ => ?_
  rw [exec_putConfirmedRequest_bind, exec_put_bind, exec_put_bind]
  refine
    (Eq.congr_left (exec_optionalIndex_bind 2 request.arrayIndex _ _)).trans
      ?_
  have shape := storeLength_confirmedRequest invokeId
    kServiceReadProperty (readPropertyBody request)
  rw [readPropertyBody, referenceOctets, ← List.append_assoc,
    ← List.append_assoc] at shape
  rw [shape, Prod.mk.injEq, eq_self, true_and, eq_comm, readPropertyBody,
    referenceOctets]

/-- The fields of a ReadProperty request are read back. -/
theorem run_readPropertyRequestBody
    (confirmed : BacnetConfirmedRequestHeader)
    (request : BacnetPropertyRequest) :
    (readPropertyRequestBody confirmed).run (readPropertyBody request) =
      .ok ({
        invokeId := confirmed.invokeId
        request := {
          request with
          object := decodeObjectId (encodeObjectId request.object)
        }
      }, []) := by
  rw [readPropertyRequestBody, readPropertyBody,
    run_bind_of_ok (run_readObjectAndProperty _ _ _),
    run_bind_of_ok (run_hasMore _)]
  unfold optionalIndex
  by_cases indexed : request.arrayIndex ≠ kBacnetNoArrayIndex
  · rw [if_pos indexed, ← List.append_nil (contextUnsigned _ _),
      contextUnsigned_append_ne_nil]
    change (readContextValue 2 >>= _).run _ = _
    rw [run_bind_of_ok
      (run_readContextValue_contextUnsigned (by decide) _ _)]
    rfl
  · rw [if_neg indexed, ← not_not.mp indexed]
    rfl

/-- An optional array index has at most five octets. -/
theorem length_optionalIndex_le
    (tagNumber : UInt8)
    (arrayIndex : UInt32) :
    (optionalIndex tagNumber arrayIndex).length ≤ 5 := by
  unfold optionalIndex
  split
  · exact length_contextUnsigned_le tagNumber arrayIndex
  · exact Nat.zero_le 5

/-- A property reference has at most ten octets. -/
theorem length_referenceOctets_le
    (object : BacnetObjectId)
    (property : BacnetPropertyId) :
    (referenceOctets object property).length ≤ 10 := by
  have short := length_contextUnsigned_le 1 property.raw
  rw [referenceOctets, List.length_append, contextObjectIdentifier,
    List.length_cons, length_bigEndianOctets]
  omega

/-- A built ReadProperty request is parsed, its object as it was packed. -/
theorem parseReadPropertyRequest_of_build
    {bufferSize : Nat}
    {request : BacnetPropertyRequest}
    {invokeId : UInt8}
    {packet : List UInt8}
    (built :
      buildReadPropertyRequest bufferSize request invokeId = some packet) :
    parseReadPropertyRequest packet =
      .parsed {
        invokeId := invokeId
        request := {
          request with
          object := decodeObjectId (encodeObjectId request.object)
        }
      } := by
  obtain ⟨_, rfl⟩ := buildReadPropertyRequest_eq_some_iff.mp built
  have reference :=
    length_referenceOctets_le request.object request.property
  have index := length_optionalIndex_le 2 request.arrayIndex
  refine parseConfirmedService_packet ?_ (by decide)
    (run_readPropertyRequestBody _ request)
  rw [readPropertyBody, List.length_append]
  omega

/-! Requests that subscribe. -/

/-- The body of a SubscribeCOV request. -/
def subscribeCovBody
    (processId : UInt32)
    (object : BacnetObjectId)
    (lifetimeSeconds : UInt32)
    (issueConfirmedNotifications : Bool) : List UInt8 :=
  contextUnsigned 0 processId ++
    (contextObjectIdentifier 1 object ++
      (contextBoolean 2 issueConfirmedNotifications ++
        contextUnsigned 3 lifetimeSeconds))

/-- The packet of a built SubscribeCOV request. -/
theorem buildSubscribeCovRequest_eq_some
    {bufferSize : Nat}
    {processId lifetimeSeconds : UInt32}
    {object : BacnetObjectId}
    {issueConfirmedNotifications : Bool}
    {packet : List UInt8}
    (built :
      buildSubscribeCovRequest bufferSize processId object lifetimeSeconds
        issueConfirmedNotifications = some packet) :
    object.instance_ ≤ kObjectInstanceMask ∧
      packet =
        confirmedRequestPacket 0 kServiceSubscribeCov
          (subscribeCovBody processId object lifetimeSeconds
            issueConfirmedNotifications) := by
  rw [buildSubscribeCovRequest, build_eq_some_iff,
    writeSubscribeCovRequest, exec_require_bind_iff,
    Bool.and_eq_true, decide_eq_true_eq, decide_eq_true_eq,
    exec_putConfirmedRequest_bind] at built
  obtain ⟨⟨_, objectInstance⟩, written⟩ := built
  simp only [exec_put_bind, List.append_assoc] at written
  rw [storeLength_confirmedRequest] at written
  exact ⟨objectInstance, (Prod.mk.inj written).2.symm⟩

/-- A truth value is sent as zero or one. -/
theorem flag_le_one
    (value : Bool) :
    decide ((if value then 1 else 0 : UInt32) ≤ 1) = true := by
  cases value <;> rfl

/-- The fields of a SubscribeCOV request are read back. -/
theorem run_subscribeCovRequestBody
    {confirmed : BacnetConfirmedRequestHeader}
    (service : confirmed.serviceChoice = kServiceSubscribeCov)
    (processId : UInt32)
    (object : BacnetObjectId)
    (lifetimeSeconds : UInt32)
    (issueConfirmedNotifications : Bool) :
    (subscribeCovRequestBody confirmed).run
        (subscribeCovBody processId object lifetimeSeconds
          issueConfirmedNotifications) =
      .ok ({
        invokeId := confirmed.invokeId
        processId := processId
        object := decodeObjectId (encodeObjectId object)
        issueConfirmedNotifications := issueConfirmedNotifications
        lifetimeSeconds := lifetimeSeconds
      }, []) := by
  have form :
      (confirmed.serviceChoice == kServiceSubscribeCovProperty) = false := by
    rw [service]
    decide
  rw [subscribeCovRequestBody, subscribeCovBody, contextBoolean_eq,
    run_bind_of_ok (run_readContextValue_contextUnsigned (by decide) _ _),
    run_bind_of_ok (run_readContextValue_contextObjectIdentifier
      (by decide) _ _),
    run_require_bind (decide_eq_true (encodeObjectId_shiftRight_le object)),
    form]
  simp only [Bool.false_eq_true, if_false, pure_bind]
  rw [run_bind_of_ok (run_readOptionalContextValue_present (by decide)
      0 _ _),
    run_require_bind (flag_le_one issueConfirmedNotifications),
    ← List.append_nil (contextUnsigned 3 lifetimeSeconds),
    run_bind_of_ok (run_readOptionalContextValue_present (by decide)
      0 _ _),
    run_require_bind (by decide)]
  cases issueConfirmedNotifications <;> rfl

/-- The packet of a built SubscribeCOV request is parsed. -/
theorem parseSubscribeCovRequest_of_build
    {bufferSize : Nat}
    {processId lifetimeSeconds : UInt32}
    {object : BacnetObjectId}
    {issueConfirmedNotifications : Bool}
    {packet : List UInt8}
    (built :
      buildSubscribeCovRequest bufferSize processId object lifetimeSeconds
        issueConfirmedNotifications = some packet) :
    parseSubscribeCovRequest packet =
      .parsed {
        processId := processId
        object := decodeObjectId (encodeObjectId object)
        issueConfirmedNotifications := issueConfirmedNotifications
        lifetimeSeconds := lifetimeSeconds
      } := by
  obtain ⟨_, rfl⟩ := buildSubscribeCovRequest_eq_some built
  have process := length_contextUnsigned_le 0 processId
  have flag :=
    length_contextUnsigned_le 2 (if issueConfirmedNotifications then 1 else 0)
  have lifetime := length_contextUnsigned_le 3 lifetimeSeconds
  refine parseConfirmedService_packet ?_ (by decide)
    (run_subscribeCovRequestBody rfl _ _ _ _)
  rw [subscribeCovBody, contextBoolean_eq, contextObjectIdentifier]
  simp only [List.length_append, List.length_cons, length_bigEndianOctets]
  omega

/-- The body of a SubscribeCOVProperty request. -/
def subscribeCovPropertyBody
    (processId : UInt32)
    (object : BacnetObjectId)
    (property : BacnetPropertyId)
    (lifetimeSeconds : UInt32)
    (issueConfirmedNotifications : Bool)
    (arrayIndex : UInt32)
    (increment : List UInt8) : List UInt8 :=
  contextUnsigned 0 processId ++
    (contextObjectIdentifier 1 object ++
      ([0x2E] ++
        (contextUnsigned 0 property.raw ++
          (optionalIndex 1 arrayIndex ++
            ([0x2F] ++
              (contextBoolean 3 issueConfirmedNotifications ++
                (contextUnsigned 4 lifetimeSeconds ++ increment)))))))

/-- The octets of an optional increment. -/
def optionalIncrement
    (hasCovIncrement : Bool)
    (covIncrement : Binary32) : List UInt8 :=
  if hasCovIncrement then contextReal 5 covIncrement else []

/-- An optional increment is written in front of what follows. -/
theorem exec_optionalIncrement_bind
    {β : Type}
    (hasCovIncrement : Bool)
    (covIncrement : Binary32)
    (continuation : Unit → PacketWriter β)
    (written : List UInt8) :
    exec
        (if hasCovIncrement then
          put (contextReal 5 covIncrement) >>= continuation
        else
          continuation ()) written =
      exec (continuation ())
        (written ++ optionalIncrement hasCovIncrement covIncrement) := by
  cases hasCovIncrement
  · change _ = exec _ (written ++ [])
    rw [List.append_nil]
    rfl
  · rfl

/-- The packet of a built SubscribeCOVProperty request. -/
theorem buildSubscribeCovPropertyRequest_eq_some
    {bufferSize : Nat}
    {processId lifetimeSeconds arrayIndex : UInt32}
    {object : BacnetObjectId}
    {property : BacnetPropertyId}
    {issueConfirmedNotifications hasCovIncrement : Bool}
    {covIncrement : Binary32}
    {packet : List UInt8}
    (built :
      buildSubscribeCovPropertyRequest bufferSize processId object property
        lifetimeSeconds issueConfirmedNotifications arrayIndex
        hasCovIncrement covIncrement = some packet) :
    object.instance_ ≤ kObjectInstanceMask ∧
      packet =
        confirmedRequestPacket 0 kServiceSubscribeCovProperty
          (subscribeCovPropertyBody processId object property
            lifetimeSeconds issueConfirmedNotifications arrayIndex
            (optionalIncrement hasCovIncrement covIncrement)) := by
  rw [buildSubscribeCovPropertyRequest, build_eq_some_iff,
    writeSubscribeCovPropertyRequest,
    exec_require_bind_iff, Bool.and_eq_true, decide_eq_true_eq,
    decide_eq_true_eq, exec_putConfirmedRequest_bind, exec_put_bind,
    exec_put_bind, exec_put_bind, exec_put_bind] at built
  obtain ⟨⟨_, objectInstance⟩, written⟩ := built
  replace written := (exec_optionalIndex_bind _ _ _ _).symm.trans written
  rw [exec_put_bind, exec_put_bind, exec_put_bind] at written
  replace written :=
    (exec_optionalIncrement_bind hasCovIncrement covIncrement _ _).symm.trans
      written
  have packed :
      exec storeLength
          ([kBvlcTypeBacnetIp, kBvlcOriginalUnicastNpdu, 0, 0,
            kNpduVersion, kNpduExpectingReply, kApduConfirmedRequest, 0x05,
            0, kServiceSubscribeCovProperty] ++
            subscribeCovPropertyBody processId object property
              lifetimeSeconds issueConfirmedNotifications arrayIndex
              (optionalIncrement hasCovIncrement covIncrement)) =
        (some (), packet) := by
    rw [← written]
    simp only [subscribeCovPropertyBody, List.append_assoc]
  rw [storeLength_confirmedRequest] at packed
  exact ⟨objectInstance, (Prod.mk.inj packed).2.symm⟩

/-- The bracketed property reference is read back. -/
theorem run_readSubscribedProperty
    (property : BacnetPropertyId)
    (arrayIndex : UInt32)
    (rest : List UInt8) :
    readSubscribedProperty.run
        ([0x2E] ++
          (contextUnsigned 0 property.raw ++
            (optionalIndex 1 arrayIndex ++ ([0x2F] ++ rest)))) =
      .ok ((property, arrayIndex), rest) := by
  rw [readSubscribedProperty, List.singleton_append, List.singleton_append,
    run_bind_of_ok (run_expect_cons _ _),
    run_bind_of_ok (run_readContextValue_contextUnsigned (by decide) _ _),
    run_bind_of_ok (run_readOptionalContextValue_index (by decide)
      arrayIndex rest (by decide)),
    run_bind_of_ok (run_expect_cons _ _)]
  rfl

/-- The optional increment at the end of a subscription is read back. -/
theorem run_optionalIncrement
    (hasCovIncrement : Bool)
    (covIncrement : Binary32) :
    (atContextTag 5).run (optionalIncrement hasCovIncrement covIncrement) =
        .ok (hasCovIncrement,
          optionalIncrement hasCovIncrement covIncrement) ∧
      (if hasCovIncrement then readContextReal 5 else pure .zero).run
          (optionalIncrement hasCovIncrement covIncrement) =
        .ok (if hasCovIncrement then covIncrement else .zero, []) := by
  cases hasCovIncrement
  · exact ⟨rfl, rfl⟩
  · refine ⟨run_atContextTag (show (5 : UInt8) < 16 by decide)
      (show 4 < 8 by decide) _, ?_⟩
    have read :=
      run_readContextReal_contextReal (show (5 : UInt8) < 16 by decide)
        covIncrement []
    rwa [List.append_nil] at read

/-- The increment a subscription carries. -/
def sentIncrement
    (hasCovIncrement : Bool)
    (covIncrement : Binary32) : Binary32 :=
  if hasCovIncrement then covIncrement else .zero

/-- The fields of a SubscribeCOVProperty request are read back. -/
theorem run_subscribeCovRequestBody_property
    {confirmed : BacnetConfirmedRequestHeader}
    (service : confirmed.serviceChoice = kServiceSubscribeCovProperty)
    (processId : UInt32)
    (object : BacnetObjectId)
    (property : BacnetPropertyId)
    (lifetimeSeconds : UInt32)
    (issueConfirmedNotifications : Bool)
    (arrayIndex : UInt32)
    (hasCovIncrement : Bool)
    (covIncrement : Binary32) :
    (subscribeCovRequestBody confirmed).run
        (subscribeCovPropertyBody processId object property
          lifetimeSeconds issueConfirmedNotifications arrayIndex
          (optionalIncrement hasCovIncrement covIncrement)) =
      if Binary32.flt (sentIncrement hasCovIncrement covIncrement) .zero then
        .error .rejected
      else
        .ok ({
          invokeId := confirmed.invokeId
          processId := processId
          object := decodeObjectId (encodeObjectId object)
          isPropertySubscription := true
          property := property
          arrayIndex := arrayIndex
          issueConfirmedNotifications := issueConfirmedNotifications
          lifetimeSeconds := lifetimeSeconds
          hasCovIncrement := hasCovIncrement
          covIncrement := sentIncrement hasCovIncrement covIncrement
        }, []) := by
  have form :
      (confirmed.serviceChoice == kServiceSubscribeCovProperty) = true := by
    rw [service]
    decide
  obtain ⟨found, read⟩ := run_optionalIncrement hasCovIncrement covIncrement
  rw [subscribeCovRequestBody, subscribeCovPropertyBody, contextBoolean_eq,
    run_bind_of_ok (run_readContextValue_contextUnsigned (by decide) _ _),
    run_bind_of_ok (run_readContextValue_contextObjectIdentifier
      (by decide) _ _),
    run_require_bind (decide_eq_true (encodeObjectId_shiftRight_le object)),
    form]
  simp only [if_true]
  rw [run_bind_of_ok (run_readSubscribedProperty _ _ _),
    run_bind_of_ok (run_readOptionalContextValue_present (by decide)
      0 _ _),
    run_require_bind (flag_le_one issueConfirmedNotifications),
    run_bind_of_ok (run_readOptionalContextValue_present (by decide)
      0 _ _),
    run_bind_of_ok found]
  cases hasCovIncrement with
  | false =>
      have notNegative :
          Binary32.flt (sentIncrement false covIncrement) .zero = false := by
        change Binary32.flt .zero .zero = false
        decide
      rw [notNegative]
      cases issueConfirmedNotifications <;> rfl
  | true =>
      change (readContextReal 5).run _ = .ok (covIncrement, []) at read
      simp only [if_true]
      rw [run_bind_of_ok read]
      change
        (Reader.require (!Binary32.flt covIncrement .zero) >>= _).run _ =
          if Binary32.flt covIncrement .zero then _ else _
      cases Binary32.flt covIncrement .zero with
      | true => rfl
      | false => cases issueConfirmedNotifications <;> rfl

/--
The packet of a built SubscribeCOVProperty request is parsed, unless its
increment is negative.
-/
theorem parseSubscribeCovRequest_of_buildProperty
    {bufferSize : Nat}
    {processId lifetimeSeconds arrayIndex : UInt32}
    {object : BacnetObjectId}
    {property : BacnetPropertyId}
    {issueConfirmedNotifications hasCovIncrement : Bool}
    {covIncrement : Binary32}
    {packet : List UInt8}
    (built :
      buildSubscribeCovPropertyRequest bufferSize processId object property
        lifetimeSeconds issueConfirmedNotifications arrayIndex
        hasCovIncrement covIncrement = some packet) :
    parseSubscribeCovRequest packet =
      if Binary32.flt (sentIncrement hasCovIncrement covIncrement) .zero then
        .malformed
      else
        .parsed {
          processId := processId
          object := decodeObjectId (encodeObjectId object)
          isPropertySubscription := true
          property := property
          arrayIndex := arrayIndex
          issueConfirmedNotifications := issueConfirmedNotifications
          lifetimeSeconds := lifetimeSeconds
          hasCovIncrement := hasCovIncrement
          covIncrement := sentIncrement hasCovIncrement covIncrement
        } := by
  obtain ⟨_, rfl⟩ := buildSubscribeCovPropertyRequest_eq_some built
  have process := length_contextUnsigned_le 0 processId
  have reference := length_contextUnsigned_le 0 property.raw
  have index := length_optionalIndex_le 1 arrayIndex
  have flag :=
    length_contextUnsigned_le 3 (if issueConfirmedNotifications then 1 else 0)
  have lifetime := length_contextUnsigned_le 4 lifetimeSeconds
  have increment :
      (optionalIncrement hasCovIncrement covIncrement).length ≤ 5 := by
    cases hasCovIncrement
    · exact Nat.zero_le 5
    · change (contextReal 5 covIncrement).length ≤ 5
      rw [contextReal, List.length_cons, length_bigEndianOctets]
  have small :
      (subscribeCovPropertyBody processId object property lifetimeSeconds
        issueConfirmedNotifications arrayIndex
        (optionalIncrement hasCovIncrement covIncrement)).length + 10 ≤
        0xFFFF := by
    rw [subscribeCovPropertyBody, contextBoolean_eq,
      contextObjectIdentifier]
    simp only [List.length_append, List.length_cons, List.length_nil,
      length_bigEndianOctets]
    omega
  refine (parseConfirmedService_packet small (by decide)
    (run_subscribeCovRequestBody_property rfl _ _ _ _ _ _ _ _)).trans ?_
  cases Binary32.flt (sentIncrement hasCovIncrement covIncrement) .zero <;>
    rfl

/-- The arguments of the request builders. -/
inductive RequestArguments where
  | readProperty
      (request : BacnetPropertyRequest)
      (invokeId : UInt8)
  | subscribeCov
      (processId : UInt32)
      (object : BacnetObjectId)
      (lifetimeSeconds : UInt32)
      (issueConfirmedNotifications : Bool)
  | subscribeCovProperty
      (processId : UInt32)
      (object : BacnetObjectId)
      (property : BacnetPropertyId)
      (lifetimeSeconds : UInt32)
      (issueConfirmedNotifications : Bool)
      (arrayIndex : UInt32)
      (hasCovIncrement : Bool)
      (covIncrement : Binary32)
  deriving DecidableEq

namespace RequestArguments

/-- The packet the builder makes of its arguments. -/
def build
    (bufferSize : Nat) : RequestArguments → Option (List UInt8)
  | readProperty request invokeId =>
      buildReadPropertyRequest bufferSize request invokeId
  | subscribeCov processId object lifetimeSeconds confirmed =>
      buildSubscribeCovRequest bufferSize processId object lifetimeSeconds
        confirmed
  | subscribeCovProperty processId object property lifetimeSeconds
      confirmed arrayIndex hasCovIncrement covIncrement =>
      buildSubscribeCovPropertyRequest bufferSize processId object property
        lifetimeSeconds confirmed arrayIndex hasCovIncrement covIncrement

/-- The server's parser accepts the packet with the fields it was built from. -/
def ReceivedFrom
    (packet : List UInt8) : RequestArguments → Prop
  | readProperty request invokeId =>
      parseReadPropertyRequest packet =
        .parsed { invokeId := invokeId, request := request }
  | subscribeCov processId object lifetimeSeconds confirmed =>
      parseSubscribeCovRequest packet =
        .parsed {
          processId := processId
          object := object
          issueConfirmedNotifications := confirmed
          lifetimeSeconds := lifetimeSeconds
        }
  | subscribeCovProperty processId object property lifetimeSeconds
      confirmed arrayIndex hasCovIncrement covIncrement =>
      parseSubscribeCovRequest packet =
        .parsed {
          processId := processId
          object := object
          isPropertySubscription := true
          property := property
          arrayIndex := arrayIndex
          issueConfirmedNotifications := confirmed
          lifetimeSeconds := lifetimeSeconds
          hasCovIncrement := hasCovIncrement
          covIncrement := sentIncrement hasCovIncrement covIncrement
        }

/-- The object a request is about. -/
def object : RequestArguments → BacnetObjectId
  | readProperty request _ => request.object
  | subscribeCov _ object _ _ => object
  | subscribeCovProperty _ object _ _ _ _ _ _ => object

/-- A subscription carries no negative increment. -/
def NotNegative : RequestArguments → Prop
  | subscribeCovProperty _ _ _ _ _ _ hasCovIncrement covIncrement =>
      hasCovIncrement = true → Binary32.flt covIncrement .zero = false
  | _ => True

/--
A built request is received as it was meant exactly where its object type fits
the ten bits of the packed identifier and its increment is not negative; the
builders check neither.
-/
theorem receivedFrom_iff
    {arguments : RequestArguments}
    {bufferSize : Nat}
    {packet : List UInt8}
    (built : arguments.build bufferSize = some packet) :
    arguments.ReceivedFrom packet ↔
      arguments.object.type ≤ 1023 ∧ arguments.NotNegative := by
  cases arguments with
  | readProperty request invokeId =>
      obtain ⟨⟨_, objectInstance⟩, _⟩ :=
        buildReadPropertyRequest_eq_some_iff.mp built
      have packed :=
        decodeObjectId_encodeObjectId_eq_self_iff objectInstance
      change parseReadPropertyRequest packet = _ ↔
        request.object.type ≤ 1023 ∧ True
      rw [parseReadPropertyRequest_of_build built, and_true, ← packed]
      constructor
      · intro same
        injection same with same
        injection same with _ same
        exact congrArg BacnetPropertyRequest.object same
      · intro same
        rw [same]
  | subscribeCov processId object lifetimeSeconds confirmed =>
      obtain ⟨objectInstance, _⟩ := buildSubscribeCovRequest_eq_some built
      have packed :=
        decodeObjectId_encodeObjectId_eq_self_iff objectInstance
      change parseSubscribeCovRequest packet = _ ↔
        object.type ≤ 1023 ∧ True
      rw [parseSubscribeCovRequest_of_build built, and_true, ← packed]
      constructor
      · intro same
        injection same with same
        exact congrArg BacnetSubscribeCovRequestHeader.object same
      · intro same
        rw [same]
  | subscribeCovProperty processId object property lifetimeSeconds
      confirmed arrayIndex hasCovIncrement covIncrement =>
      obtain ⟨objectInstance, _⟩ :=
        buildSubscribeCovPropertyRequest_eq_some built
      have packed :=
        decodeObjectId_encodeObjectId_eq_self_iff objectInstance
      have sign :
          Binary32.flt (sentIncrement hasCovIncrement covIncrement)
              .zero = false ↔
            (hasCovIncrement = true →
              Binary32.flt covIncrement .zero = false) := by
        cases hasCovIncrement
        · exact iff_of_true rfl fun impossible => nomatch impossible
        · exact ⟨fun notNegative _ => notNegative,
            fun notNegative => notNegative rfl⟩
      change parseSubscribeCovRequest packet = _ ↔
        object.type ≤ 1023 ∧
          (hasCovIncrement = true → Binary32.flt covIncrement .zero = false)
      rw [parseSubscribeCovRequest_of_buildProperty built, ← sign, ← packed]
      cases Binary32.flt (sentIncrement hasCovIncrement covIncrement)
        .zero with
      | true =>
          constructor
          · intro same
            cases same
          · rintro ⟨_, impossible⟩
            cases impossible
      | false =>
          rw [and_iff_left rfl, if_neg Bool.false_ne_true]
          constructor
          · intro same
            injection same with same
            exact congrArg BacnetSubscribeCovRequestHeader.object same
          · intro same
            rw [same]

/-- A read of the object name of a device is received. -/
theorem receivedFrom_iff_deviceName :
    ∃ packet,
      (readProperty { object := ⟨8, 4194303⟩, property := .objectName }
        7).build 25 = some packet ∧
      (readProperty { object := ⟨8, 4194303⟩, property := .objectName }
        7).ReceivedFrom packet := by
  have built :
      (readProperty { object := ⟨8, 4194303⟩, property := .objectName }
        7).build 25 =
        some (confirmedRequestPacket 7 kServiceReadProperty
          [0x0C, 0x02, 0x3F, 0xFF, 0xFF, 0x19, 77]) := by
    decide
  exact ⟨_, built, (receivedFrom_iff built).mpr ⟨by decide, trivial⟩⟩

/-- A read of an object of type 1024 is received as one of type 0. -/
theorem receivedFrom_not_wideType :
    (readProperty { object := ⟨1024, 5⟩, property := .presentValue }
        7).build 25 =
      some (confirmedRequestPacket 7 kServiceReadProperty
        [0x0C, 0x00, 0x00, 0x00, 0x05, 0x19, 85]) ∧
    ¬(readProperty { object := ⟨1024, 5⟩, property := .presentValue }
      7).ReceivedFrom
        (confirmedRequestPacket 7 kServiceReadProperty
          [0x0C, 0x00, 0x00, 0x00, 0x05, 0x19, 85]) := by
  constructor
  · decide
  · change ¬_ = _
    decide

end RequestArguments

end BacnetStack
