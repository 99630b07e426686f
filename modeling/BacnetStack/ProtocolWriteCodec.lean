import BacnetStack.ProtocolRequestCodec

namespace BacnetStack

/-!
# Write requests, built and parsed

The value of a WriteProperty request is decoded as the values of read replies
are, so a property with a list form does not give a single value back.
-/

open Reader PacketWriter

/-- The encoded part of an optional priority; priority 0 is left out. -/
def priorityOctets (options : BacnetWritePropertyOptions) : List UInt8 :=
  if options.hasPriority && options.priority != 0 then
    contextUnsigned 4 options.priority.toUInt32
  else
    []

/-- The body of a WriteProperty request in front of its value. -/
def writeReference
    (object : BacnetObjectId)
    (property : BacnetPropertyId)
    (arrayIndex : UInt32) : List UInt8 :=
  referenceOctets object property ++ (optionalIndex 2 arrayIndex ++ [0x3E])

/-- The packet of a built WriteProperty request. -/
theorem buildWritePropertyRequest_eq_some
    {bufferSize : Nat}
    {object : BacnetObjectId}
    {property : BacnetPropertyId}
    {value : BacnetValue}
    {options : BacnetWritePropertyOptions}
    {invokeId : UInt8}
    {packet : List UInt8}
    (built :
      buildWritePropertyRequest bufferSize object property value options
        invokeId = some packet) :
    Addressable object ∧
      ∃ octets,
        applicationOctets value = some octets ∧
        packet =
          confirmedRequestPacket invokeId kServiceWriteProperty
            (writeReference object property options.arrayIndex ++
              (octets ++ ([0x3F] ++ priorityOctets options))) := by
  rw [buildWritePropertyRequest, build_eq_some_iff,
    writeWritePropertyRequest,
    exec_require_bind_iff] at built
  obtain ⟨checks, written⟩ := built
  simp only [Bool.and_eq_true, decide_eq_true_eq] at checks
  obtain ⟨⟨⟨⟨_, objectType⟩, objectInstance⟩, _⟩, _⟩ := checks
  refine ⟨⟨objectType, objectInstance⟩, ?_⟩
  rw [exec_putConfirmedRequest_bind, exec_put_bind,
    exec_put_bind] at written
  replace written := (exec_optionalIndex_bind _ _ _ _).symm.trans written
  rw [exec_offset_bind, exec_require_bind_iff, exec_put_bind,
    exec_offset_bind, exec_bind_eq_some_iff] at written
  obtain ⟨_, _, _, encodes, closes⟩ := written
  obtain ⟨octets, encoded, _, rfl⟩ :=
    exec_putApplicationValue_eq_some_iff.mp encodes
  rw [exec_offset_bind, exec_require_bind_iff, exec_put_bind] at closes
  obtain ⟨_, closes⟩ := closes
  refine ⟨octets, encoded, ?_⟩
  have stored :
      exec storeLength
          ([kBvlcTypeBacnetIp, kBvlcOriginalUnicastNpdu, 0, 0,
            kNpduVersion, kNpduExpectingReply, kApduConfirmedRequest, 0x05,
            invokeId, kServiceWriteProperty] ++
            (writeReference object property options.arrayIndex ++
              (octets ++ ([0x3F] ++ priorityOctets options)))) =
        (some (), packet) := by
    unfold priorityOctets
    by_cases prioritized :
        (options.hasPriority && options.priority != 0) = true
    · simp only [if_pos prioritized, exec_offset_bind,
        exec_require_bind_iff, exec_put_bind] at closes
      rw [if_pos prioritized, ← closes.2]
      simp only [writeReference, referenceOctets, List.append_assoc]
    · simp only [if_neg prioritized] at closes
      rw [if_neg prioritized, ← closes]
      simp only [writeReference, referenceOctets, List.append_assoc,
        List.append_nil]
  rw [storeLength_confirmedRequest] at stored
  exact (Prod.mk.inj stored).2.symm

/-- The end of a request behind its value. -/
def readPriorityAndFinish
    (request : BacnetWritePropertyRequestHeader) :
    Reader BacnetWritePropertyRequestHeader := do
  expect 0x3F
  let hasPriority ← hasMore
  let priority ←
    if hasPriority then readContextValue 4 else pure 0
  require (decide (priority ≤ 0xFF))
  atEnd
  return { request with
    hasPriority := hasPriority
    priority := priority.toUInt8 }

/-- A priority that is not 0 is read back, and so is its absence. -/
theorem run_readPriorityAndFinish
    {options : BacnetWritePropertyOptions}
    (positive : options.hasPriority = true → options.priority ≠ 0)
    (request : BacnetWritePropertyRequestHeader) :
    (readPriorityAndFinish request).run
        ([0x3F] ++ priorityOctets options) =
      .ok ({ request with
        hasPriority := options.hasPriority
        priority := if options.hasPriority then options.priority else 0 },
        []) := by
  rw [readPriorityAndFinish, List.singleton_append,
    run_bind_of_ok (run_expect_cons _ _), run_bind_of_ok (run_hasMore _)]
  unfold priorityOctets
  by_cases prioritized : options.hasPriority = true
  · have encoded :
        (options.hasPriority && options.priority != 0) = true := by
      rw [prioritized, Bool.true_and]
      exact bne_iff_ne.mpr (positive prioritized)
    have octet : options.priority.toUInt32 ≤ 0xFF := by
      have below : options.priority.toNat < 256 := options.priority.toNat_lt
      rw [UInt32.le_iff_toNat_le, UInt8.toNat_toUInt32]
      exact Nat.le_of_lt_succ below
    rw [if_pos encoded, if_pos prioritized,
      ← List.append_nil (contextUnsigned _ _),
      contextUnsigned_append_ne_nil, prioritized]
    change (readContextValue 4 >>= _).run _ = _
    rw [run_bind_of_ok
        (run_readContextValue_contextUnsigned (by decide) _ _),
      run_require_bind (decide_eq_true octet), UInt8.toUInt8_toUInt32]
    rfl
  · have absent : options.hasPriority = false :=
      Bool.eq_false_iff.mpr prioritized
    rw [absent]
    rfl

/-- The end of a request does not touch its value. -/
theorem value_of_readPriorityAndFinish
    {request finished : BacnetWritePropertyRequestHeader}
    {packet rest : List UInt8}
    (read :
      (readPriorityAndFinish request).run packet = .ok (finished, rest)) :
    finished.value = request.value := by
  rw [readPriorityAndFinish, run_bind_eq_ok_iff] at read
  obtain ⟨_, _, _, read⟩ := read
  rw [run_bind_eq_ok_iff] at read
  obtain ⟨hasPriority, _, _, read⟩ := read
  have last {priority : UInt32} {others : List UInt8}
      (read :
        (do
          require (decide (priority ≤ 0xFF))
          atEnd
          return { request with
            hasPriority := hasPriority
            priority := priority.toUInt8 } : Reader _).run others =
          .ok (finished, rest)) :
      finished.value = request.value := by
    rw [run_bind_eq_ok_iff] at read
    obtain ⟨_, _, _, read⟩ := read
    rw [run_bind_eq_ok_iff] at read
    obtain ⟨_, _, _, read⟩ := read
    cases read
    rfl
  cases hasPriority with
  | false =>
      simp only [Bool.false_eq_true, if_false, pure_bind] at read
      exact last read
  | true =>
      change (readContextValue 4 >>= _).run _ = _ at read
      rw [run_bind_eq_ok_iff] at read
      obtain ⟨_, _, _, read⟩ := read
      exact last read

/-- What follows the property reference is a value and the end. -/
theorem run_writePropertyRequestBody
    (confirmed : BacnetConfirmedRequestHeader)
    {object : BacnetObjectId}
    (addressable : Addressable object)
    (property : BacnetPropertyId)
    (arrayIndex : UInt32)
    (rest : List UInt8) :
    (writePropertyRequestBody confirmed).run
        (writeReference object property arrayIndex ++ rest) =
      (parseReadPropertyApplicationValue property arrayIndex >>=
        fun value => readPriorityAndFinish {
          invokeId := confirmed.invokeId
          request := {
            object := object
            property := property
            arrayIndex := arrayIndex
          }
          value := value
        }).run rest := by
  have packed :=
    (decodeObjectId_encodeObjectId_eq_self_iff
      addressable.objectInstance).mpr addressable.objectType
  rw [writePropertyRequestBody, writeReference, List.append_assoc,
    List.append_assoc, run_bind_of_ok (run_readObjectAndProperty _ _ _),
    List.singleton_append,
    run_bind_of_ok (run_readOptionalContextValue_index (by decide)
      arrayIndex rest (by decide)),
    run_bind_of_ok (run_expect_cons _ _), packed]
  rfl

/-- A write request is short, whatever it writes. -/
theorem length_writeBody_le
    (object : BacnetObjectId)
    (property : BacnetPropertyId)
    (options : BacnetWritePropertyOptions)
    {value : BacnetValue}
    {octets : List UInt8}
    (encoded : applicationOctets value = some octets) :
    (writeReference object property options.arrayIndex ++
      (octets ++ ([0x3F] ++ priorityOctets options))).length + 10 ≤
      1476 := by
  have reference := length_referenceOctets_le object property
  have index := length_optionalIndex_le 2 options.arrayIndex
  have bounded := length_applicationOctets_le encoded
  have priority : (priorityOctets options).length ≤ 5 := by
    unfold priorityOctets
    split
    · exact length_contextUnsigned_le 4 _
    · exact Nat.zero_le 5
  change octets.length ≤ 512 at bounded
  simp only [writeReference, List.length_append, List.length_cons,
    List.length_nil]
  omega

section Received

variable (object : BacnetObjectId) (property : BacnetPropertyId)
  (value : BacnetValue) (options : BacnetWritePropertyOptions)
  (invokeId : UInt8)

/--
The server's parser accepts the packet with the fields it was built from and
a value that says the same.
-/
def WriteReceived (packet : List UInt8) : Prop :=
  ∃ received,
    parseWritePropertyRequest packet = .parsed {
      invokeId := invokeId
      request := {
        object := object
        property := property
        arrayIndex := options.arrayIndex
      }
      value := received
      hasPriority := options.hasPriority
      priority := if options.hasPriority then options.priority else 0
    } ∧ SameValue received value

variable {object property value options invokeId}
  {bufferSize : Nat} {packet : List UInt8}

/-- What the server's parser makes of a built write request. -/
theorem parseWritePropertyRequest_of_build
    (built :
      buildWritePropertyRequest bufferSize object property value options
        invokeId = some packet) :
    ∃ octets,
      applicationOctets value = some octets ∧
        parseWritePropertyRequest packet =
          .ofOutcome
            ((parseReadPropertyApplicationValue property
              options.arrayIndex >>= fun value => readPriorityAndFinish {
                invokeId := invokeId
                request := {
                  object := object
                  property := property
                  arrayIndex := options.arrayIndex
                }
                value := value
              }).run (octets ++ ([0x3F] ++ priorityOctets options))) := by
  obtain ⟨addressable, octets, encoded, rfl⟩ :=
    buildWritePropertyRequest_eq_some built
  have small := length_writeBody_le object property options encoded
  have inside : (1476 : Nat) ≤ 0xFFFF := by decide
  exact ⟨octets, encoded, parseConfirmedService_packet (small.trans inside)
    (List.mem_singleton_self kServiceWriteProperty)
    (run_writePropertyRequestBody _ addressable property
      options.arrayIndex _)⟩

/-- A write request that was built fits into a datagram. -/
theorem length_writeRequest_le
    (built :
      buildWritePropertyRequest bufferSize object property value options
        invokeId = some packet) :
    packet.length ≤ 1476 := by
  obtain ⟨-, octets, encoded, rfl⟩ :=
    buildWritePropertyRequest_eq_some built
  have short := length_writeBody_le object property options encoded
  simp only [confirmedRequestPacket, List.length_cons]
  omega

/-- A value without a list form is received as it was meant. -/
theorem writeReceived_of_single
    (positive : options.hasPriority = true → options.priority ≠ 0)
    (built :
      buildWritePropertyRequest bufferSize object property value options
        invokeId = some packet)
    (single : ¬ReadsAsList property options.arrayIndex value.type) :
    WriteReceived object property value options invokeId packet := by
  obtain ⟨octets, encoded, parsedBy⟩ :=
    parseWritePropertyRequest_of_build built
  refine ⟨receivedValue value, ?_, receivedValue_same encoded⟩
  rw [parsedBy,
    run_bind_of_ok
      (run_parseReadPropertyApplicationValue encoded single _),
    run_readPriorityAndFinish positive]
  rfl

/--
A built write request is received as it was meant exactly where the property
has no list form.
-/
theorem writeReceived_iff
    (positive : options.hasPriority = true → options.priority ≠ 0)
    (built :
      buildWritePropertyRequest bufferSize object property value options
        invokeId = some packet) :
    WriteReceived object property value options invokeId packet ↔
      ¬ReadsAsList property options.arrayIndex value.type := by
  refine ⟨?_, writeReceived_of_single positive built⟩
  obtain ⟨octets, encoded, parsedBy⟩ :=
    parseWritePropertyRequest_of_build built
  rintro ⟨received, parsed, sameType, _⟩ listed
  rw [parsedBy] at parsed
  cases ran :
    (parseReadPropertyApplicationValue property
      options.arrayIndex >>= fun value => readPriorityAndFinish {
        invokeId := invokeId
        request := {
          object := object
          property := property
          arrayIndex := options.arrayIndex
        }
        value := value
      }).run (octets ++ ([0x3F] ++ priorityOctets options)) with
  | error fault =>
      rw [ran] at parsed
      cases parsed
  | ok outcome =>
      obtain ⟨request, rest⟩ := outcome
      rw [ran] at parsed
      have same : request.value = received := by
        injection parsed with parsed
        rw [parsed]
      obtain ⟨decoded, _, decodes, finishes⟩ :=
        run_bind_eq_ok_iff.mp ran
      have kept := value_of_readPriorityAndFinish finishes
      rw [← same, kept] at sameType
      exact type_of_readsAsList encoded listed decodes sameType

end Received

/-- A write of a present value with priority 8 is received. -/
theorem writeReceived_iff_presentValue :
    ∃ packet,
      buildWritePropertyRequest 64 ⟨2, 7⟩ .presentValue
          { type := .real, realValue := ⟨0x41480000⟩ }
          { hasPriority := true, priority := 8 } 3 = some packet ∧
      WriteReceived ⟨2, 7⟩ .presentValue
        { type := .real, realValue := ⟨0x41480000⟩ }
        { hasPriority := true, priority := 8 } 3 packet := by
  have built :
      buildWritePropertyRequest 64 ⟨2, 7⟩ .presentValue
          { type := .real, realValue := ⟨0x41480000⟩ }
          { hasPriority := true, priority := 8 } 3 =
        some (confirmedRequestPacket 3 kServiceWriteProperty
          [0x0C, 0x00, 0x80, 0x00, 0x07, 0x19, 85, 0x3E,
            0x44, 0x41, 0x48, 0x00, 0x00, 0x3F, 0x49, 8]) := by
    decide
  exact ⟨_, built, (writeReceived_iff (by decide) built).mpr (by decide)⟩

/--
An unsigned number written to Property_List is built into a packet that the
server does not accept.
-/
theorem writeReceived_not_propertyList :
    ∃ packet,
      buildWritePropertyRequest 64 ⟨2, 7⟩ .propertyList (unsignedValue 1)
          {} 3 = some packet ∧
      parseWritePropertyRequest packet = .malformed ∧
      ¬WriteReceived ⟨2, 7⟩ .propertyList (unsignedValue 1) {} 3 packet := by
  have built :
      buildWritePropertyRequest 64 ⟨2, 7⟩ .propertyList (unsignedValue 1)
          {} 3 =
        some (confirmedRequestPacket 3 kServiceWriteProperty
          [0x0C, 0x00, 0x80, 0x00, 0x07, 0x1A, 0x01, 0x73, 0x3E,
            0x21, 0x01, 0x3F]) := by
    decide
  have refused :
      parseWritePropertyRequest
          (confirmedRequestPacket 3 kServiceWriteProperty
            [0x0C, 0x00, 0x80, 0x00, 0x07, 0x1A, 0x01, 0x73, 0x3E,
              0x21, 0x01, 0x3F]) = .malformed := by
    decide
  refine ⟨_, built, refused, ?_⟩
  rintro ⟨_, parsed, _⟩
  rw [refused] at parsed
  cases parsed

end BacnetStack
