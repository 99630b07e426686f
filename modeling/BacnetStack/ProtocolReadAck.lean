import BacnetStack.ProtocolWriter
namespace BacnetStack

open PacketWriter

/-!
# What an acknowledgement contains

The builders of ReadProperty acknowledgements fail in three ways: the object
cannot be addressed, a value cannot be encoded, or the packet does not fit.
In every other case the octets are those of the parts, in order.
-/

theorem length_bigEndianOctets
    (value : UInt32)
    (length : Nat) :
    (bigEndianOctets value length).length = length := by
  simp [bigEndianOctets]

/-- The octets of a value where there is room for any of them. -/
def applicationOctets (value : BacnetValue) : Option (List UInt8) :=
  encodeApplicationValue kMaxTextLength value

/-- A size check keeps exactly the octets that fit. -/
theorem guarded_eq
    {bufferSize capacity size : Nat}
    {octets : List UInt8}
    (sized : octets.length = size)
    (room : size ≤ capacity) :
    (if bufferSize < size then none else some octets) =
      (if capacity < size then none else some octets).filter
        fun octets => octets.length ≤ bufferSize := by
  rw [if_neg (Nat.not_lt.mpr room)]
  by_cases fits : size ≤ bufferSize
  · rw [if_neg (Nat.not_lt.mpr fits), Option.filter_some_pos]
    simpa [sized] using fits
  · rw [if_pos (Nat.lt_of_not_le fits), Option.filter_some_neg]
    simpa [sized] using fits

/-- A tagged number is encoded where it fits. -/
theorem taggedNumber_eq
    {bufferSize capacity : Nat}
    (tag : UInt8)
    (raw : UInt32)
    {length : Nat}
    (room : length + 1 ≤ capacity) :
    taggedNumber bufferSize tag raw length =
      (taggedNumber capacity tag raw length).filter
        fun octets => octets.length ≤ bufferSize :=
  guarded_eq (by simp [length_bigEndianOctets]) room

/-- An unsigned number has at most four octets. -/
theorem unsignedLength_le (raw : UInt32) : unsignedLength raw ≤ 4 := by
  unfold unsignedLength
  split
  · decide
  · split
    · decide
    · split <;> decide

/-- A signed number has at most four octets. -/
theorem signedLength_le (raw : Int32) : signedLength raw ≤ 4 := by
  unfold signedLength
  split
  · decide
  · split
    · decide
    · split <;> decide

/-- A number of at most four octets is encoded in at most five. -/
theorem taggedNumber_short
    (tag : UInt8)
    (raw : UInt32)
    {length : Nat}
    (short : length ≤ 4) :
    ∃ octets,
      taggedNumber kMaxTextLength tag raw length = some octets ∧
        octets.length ≤ 5 := by
  have room : ¬kMaxTextLength < length + 1 := by
    rw [show kMaxTextLength = 512 from rfl]
    omega
  rw [taggedNumber, if_neg room]
  refine ⟨_, rfl, ?_⟩
  rw [List.length_cons, length_bigEndianOctets]
  omega

/-- Every unsigned number is encoded in at most five octets. -/
theorem applicationOctets_unsignedValue
    (raw : UInt32) :
    ∃ octets,
      applicationOctets (unsignedValue raw) = some octets ∧
        octets.length ≤ 5 :=
  taggedNumber_short 2 raw (unsignedLength_le raw)

/-- An addressable identifier is encoded in at most five octets. -/
theorem applicationOctets_objectIdentifier
    {object : BacnetObjectId}
    (objectType : object.type ≤ 1023)
    (objectInstance : object.instance_ ≤ kObjectInstanceMask) :
    ∃ octets,
      applicationOctets
          { type := .objectIdentifier, objectValue := object } =
        some octets ∧
      octets.length ≤ 5 := by
  obtain ⟨octets, encoded, short⟩ :=
    taggedNumber_short 12 (encodeObjectId object) le_rfl
  refine ⟨octets, ?_, short⟩
  rw [← encoded]
  refine if_neg ?_
  rintro (large | large)
  · exact absurd objectType (UInt16.not_le.mpr large)
  · exact absurd objectInstance (UInt32.not_le.mpr large)

/-- No value is encoded as nothing. -/
theorem applicationOctets_ne_nil
    {value : BacnetValue}
    {octets : List UInt8}
    (encoded : applicationOctets value = some octets) :
    octets ≠ [] := by
  rintro rfl
  cases kind : value.type <;>
    simp [applicationOctets, encodeApplicationValue, taggedNumber,
      kind] at encoded
  split at encoded
  all_goals simp at encoded

/-- A value is encoded exactly where its octets fit. -/
theorem encodeApplicationValue_eq
    (bufferSize : Nat)
    (value : BacnetValue) :
    encodeApplicationValue bufferSize value =
      (applicationOctets value).filter
        fun octets => octets.length ≤ bufferSize := by
  by_cases empty : bufferSize = 0
  · cases encoded : applicationOctets value with
    | none => simp [encodeApplicationValue, empty]
    | some octets =>
        have nonempty := applicationOctets_ne_nil encoded
        rw [Option.filter_some_neg (by simpa [empty] using nonempty)]
        simp [encodeApplicationValue, empty]
  · have positive : 1 ≤ bufferSize := Nat.one_le_iff_ne_zero.mpr empty
    have capacity : kMaxTextLength = 512 := rfl
    have numberRoom {length : Nat} (short : length ≤ 4) :
        length + 1 ≤ kMaxTextLength := by
      omega
    simp only [applicationOctets, encodeApplicationValue, if_neg empty,
      if_neg (show kMaxTextLength ≠ 0 by decide)]
    cases value.type with
    | null =>
        exact (Option.filter_some_pos (by simpa using positive)).symm
    | boolean =>
        exact (Option.filter_some_pos (by simpa using positive)).symm
    | unsigned =>
        exact taggedNumber_eq _ _ (numberRoom (unsignedLength_le _))
    | signed =>
        exact taggedNumber_eq _ _ (numberRoom (signedLength_le _))
    | enumerated =>
        exact taggedNumber_eq _ _ (numberRoom (unsignedLength_le _))
    | real => exact taggedNumber_eq _ _ (numberRoom le_rfl)
    | bitString =>
        dsimp only
        split
        · rfl
        · generalize (value.bitStringBitCount.toNat + 7) / 8 = byteCount
          by_cases long : 4 < byteCount + 1
          · simp [long]
          · simp only [long, or_false]
            exact guarded_eq (by simp) (by omega)
    | characterString =>
        dsimp only
        split
        · rfl
        · rename_i fits
          split
          · exact guarded_eq (by simp; omega) (by omega)
          · exact guarded_eq (by simp; omega) (by omega)
    | objectIdentifier =>
        dsimp only
        split
        · rfl
        · exact taggedNumber_eq _ _ (numberRoom le_rfl)
    | _ => rfl

namespace PacketWriter

variable {α β : Type}

/-- A sequence succeeds when both of its parts do. -/
theorem exec_bind_eq_some_iff
    {writer : PacketWriter α}
    {continuation : α → PacketWriter β}
    {written octets : List UInt8}
    {result : β} :
    exec (writer >>= continuation) written = (some result, octets) ↔
      ∃ value middle,
        exec writer written = (some value, middle) ∧
        exec (continuation value) middle = (some result, octets) := by
  rw [exec_bind]
  rcases exec writer written with ⟨_ | value, middle⟩
  · constructor
    · intro failed
      cases failed
    · rintro ⟨_, _, found, _⟩
      cases found
  · constructor
    · intro continued
      exact ⟨value, middle, rfl, continued⟩
    · rintro ⟨_, _, found, continued⟩
      cases found
      exact continued

/-- A size check that passed writes nothing. -/
theorem exec_require_eq_some_iff
    {holds : Bool}
    {outcome : Unit}
    {written octets : List UInt8} :
    exec (require holds) written = (some outcome, octets) ↔
      holds = true ∧ octets = written := by
  rw [exec_require]
  cases holds
  · simp
  · simp [eq_comm]

@[simp] theorem exec_offset_bind
    (continuation : Nat → PacketWriter β)
    (written : List UInt8) :
    exec (offset >>= continuation) written =
      exec (continuation written.length) written :=
  rfl

@[simp] theorem exec_put_bind
    (octets : List UInt8)
    (continuation : Unit → PacketWriter β)
    (written : List UInt8) :
    exec (put octets >>= continuation) written =
      exec (continuation ()) (written ++ octets) :=
  rfl

/-- What follows a size check runs when the check passes. -/
theorem exec_require_bind_iff
    {holds : Bool}
    {continuation : Unit → PacketWriter β}
    {written octets : List UInt8}
    {result : β} :
    exec (require holds >>= continuation) written =
        (some result, octets) ↔
      holds = true ∧
        exec (continuation ()) written = (some result, octets) := by
  cases holds
  · constructor
    · intro failed
      cases failed
    · rintro ⟨impossible, _⟩
      cases impossible
  · exact (and_iff_right rfl).symm

/-- A packet is what a successful writer wrote. -/
theorem build_eq_some_iff
    {writer : PacketWriter Unit}
    {packet : List UInt8} :
    build writer = some packet ↔
      exec writer [] = (some (), packet) := by
  rw [build_eq]
  rcases exec writer [] with ⟨_ | ⟨⟩, octets⟩
  · simp
  · simp

/-- Values are written as far as their octets fit. -/
theorem exec_putApplicationValue_eq_some_iff
    {bufferSize : Nat}
    {value : BacnetValue}
    {outcome : Unit}
    {written octets : List UInt8} :
    exec (putApplicationValue bufferSize value) written =
        (some outcome, octets) ↔
      ∃ encoded,
        applicationOctets value = some encoded ∧
        encoded.length ≤ bufferSize ∧
        octets = written ++ encoded := by
  rw [exec_putApplicationValue, encodeApplicationValue_eq]
  cases applicationOctets value with
  | none => simp
  | some encoded =>
      by_cases fits : encoded.length ≤ bufferSize
      · simp [Option.filter_some, fits, eq_comm]
      · simp [Option.filter_some, fits]

end PacketWriter

/-- The object of a request can be written back into a reply. -/
structure Addressable (object : BacnetObjectId) : Prop where
  objectType : object.type ≤ 1023
  objectInstance : object.instance_ ≤ kObjectInstanceMask

/-- The octets in front of the values. -/
def readAckPrefix
    (request : BacnetReadPropertyRequestHeader) : List UInt8 :=
  [kBvlcTypeBacnetIp, kBvlcOriginalUnicastNpdu, 0, 0,
    kNpduVersion, 0] ++
  [kApduComplexAck, request.invokeId, kServiceReadProperty] ++
  contextObjectIdentifier 0 request.request.object ++
  contextUnsigned 1 request.request.property.raw ++
  (if request.request.arrayIndex ≠ kBacnetNoArrayIndex then
    contextUnsigned 2 request.request.arrayIndex
  else [])

/-- The acknowledgement that carries encoded values. -/
def readAckPacket
    (request : BacnetReadPropertyRequestHeader)
    (values : List (List UInt8)) : List UInt8 :=
  let octets :=
    readAckPrefix request ++ [0x3E] ++ values.flatten ++ [0x3F]
  (octets.set 2 (UInt8.ofNat (octets.length / 256))).set 3
    (UInt8.ofNat octets.length)

/-- The encoded values at the given indices. -/
def encodedEntries
    (valueAt : Nat → Option BacnetValue)
    (indices : List Nat) : Option (List (List UInt8)) :=
  indices.mapM fun index => (valueAt index).bind applicationOctets

/-- The first entry is encoded in front of the others. -/
theorem encodedEntries_cons
    (valueAt : Nat → Option BacnetValue)
    (index : Nat)
    (rest : List Nat) :
    encodedEntries valueAt (index :: rest) =
      (valueAt index).bind fun value =>
        (applicationOctets value).bind fun encoded =>
          (encodedEntries valueAt rest).map (encoded :: ·) := by
  rw [encodedEntries, List.mapM_cons]
  cases valueAt index with
  | none => rfl
  | some value =>
      rw [Option.bind_some, Option.bind_some]
      cases applicationOctets value with
      | none => rfl
      | some octets => exact Option.map_eq_bind.symm

/-- What a read of an array, its length or one entry returns. -/
def arrayReadValues
    (request : BacnetPropertyRequest)
    (entryCount : Nat)
    (valueAt : Nat → Option BacnetValue) : Option (List (List UInt8)) :=
  if request.arrayIndex = kBacnetNoArrayIndex then
    encodedEntries valueAt (List.range entryCount)
  else if request.arrayIndex = 0 then
    encodedEntries (fun _ => some (unsignedValue (UInt32.ofNat entryCount)))
      [0]
  else if (request.arrayIndex - 1).toNat < entryCount then
    encodedEntries valueAt [(request.arrayIndex - 1).toNat]
  else
    none

/-- The acknowledgement with these values fits into the buffer. -/
def AckFits
    (bufferSize : Nat)
    (request : BacnetReadPropertyRequestHeader)
    (values : List (List UInt8)) : Prop :=
  (readAckPrefix request).length + values.flatten.length + 2 ≤ bufferSize

/-- A context-tagged number has at most five octets. -/
theorem length_contextUnsigned_le
    (tagNumber : UInt8)
    (value : UInt32) :
    (contextUnsigned tagNumber value).length ≤ 5 := by
  unfold contextUnsigned
  split
  · simp [length_bigEndianOctets]
  · split <;> simp [length_bigEndianOctets]

/-- The prefix has at most 24 octets. -/
theorem length_readAckPrefix_le
    (request : BacnetReadPropertyRequestHeader) :
    (readAckPrefix request).length ≤ 24 := by
  have property :=
    length_contextUnsigned_le 1 request.request.property.raw
  have index := length_contextUnsigned_le 2 request.request.arrayIndex
  unfold readAckPrefix
  split
  all_goals
    simp only [List.length_append, contextObjectIdentifier,
      length_bigEndianOctets, List.length_cons, List.length_nil]
    omega

section Builders

variable {bufferSize : Nat}

/-- The prefix is written for addressable objects. -/
theorem exec_writeReadPropertyAckPrefix_iff
    (large : 26 ≤ bufferSize)
    {request : BacnetReadPropertyRequestHeader}
    {outcome : Unit}
    {octets : List UInt8} :
    exec (writeReadPropertyAckPrefix bufferSize request) [] =
        (some outcome, octets) ↔
      Addressable request.request.object ∧
        octets = readAckPrefix request := by
  have enough : 16 ≤ bufferSize := by omega
  rw [writeReadPropertyAckPrefix, exec_bind_eq_some_iff]
  simp only [exec_require_eq_some_iff]
  constructor
  · rintro ⟨_, _, ⟨checks, rfl⟩, writes⟩
    simp only [enough, decide_true, Bool.true_and, Bool.and_eq_true,
      decide_eq_true_eq] at checks
    refine ⟨⟨checks.1, checks.2⟩, ?_⟩
    by_cases indexed : request.request.arrayIndex = kBacnetNoArrayIndex
    all_goals
      simp [exec_bind, putHeaders, indexed] at writes
      rw [← writes]
      simp [readAckPrefix, indexed]
  · rintro ⟨addressable, rfl⟩
    refine ⟨(), [], ⟨?_, rfl⟩, ?_⟩
    · simp [enough, addressable.objectType, addressable.objectInstance]
    · by_cases indexed : request.request.arrayIndex = kBacnetNoArrayIndex
      all_goals simp [exec_bind, putHeaders, indexed, readAckPrefix]

variable (small : bufferSize ≤ 0xFFFF)

include small

/-- What remains behind the prefix and the closing tag. -/
private theorem sizeSub_sizeSub
    {length : Nat}
    (room : length + 1 ≤ bufferSize) :
    sizeSub (sizeSub bufferSize length) 1 = bufferSize - length - 1 := by
  unfold sizeSub
  omega

/-- A value is appended where it leaves room for the closing tag. -/
theorem exec_appendAckValue_iff
    {value : BacnetValue}
    {written octets : List UInt8}
    {outcome : Unit}
    (room : written.length + 1 ≤ bufferSize) :
    exec (appendAckValue bufferSize value) written =
        (some outcome, octets) ↔
      ∃ encoded,
        applicationOctets value = some encoded ∧
        written.length + encoded.length + 1 ≤ bufferSize ∧
        octets = written ++ encoded := by
  rw [appendAckValue, exec_bind, exec_offset]
  dsimp only
  rw [exec_putApplicationValue_eq_some_iff, sizeSub_sizeSub small room]
  refine exists_congr fun encoded => and_congr_right fun _ =>
    and_congr_left fun _ => ?_
  omega

/-- Entries are appended where all of them fit. -/
theorem exec_appendAckEntries_iff
    {valueAt : Nat → Option BacnetValue}
    {indices : List Nat}
    {written octets : List UInt8}
    {outcome : Unit}
    (room : written.length + 1 ≤ bufferSize) :
    exec (appendAckEntries bufferSize valueAt indices) written =
        (some outcome, octets) ↔
      ∃ values,
        encodedEntries valueAt indices = some values ∧
        written.length + values.flatten.length + 1 ≤ bufferSize ∧
        octets = written ++ values.flatten := by
  induction indices generalizing written with
  | nil =>
      rw [appendAckEntries, exec_pure]
      constructor
      · intro same
        rw [← (Prod.mk.inj same).2]
        exact ⟨[], rfl, room, (List.append_nil _).symm⟩
      · rintro ⟨values, isNil, _, rfl⟩
        obtain rfl : [] = values := Option.some.inj isNil
        rw [List.flatten_nil, List.append_nil]
  | cons index rest inductionHypothesis =>
      rw [appendAckEntries, encodedEntries_cons]
      cases found : valueAt index with
      | none =>
          constructor
          · intro failed
            cases failed
          · rintro ⟨_, missing, _⟩
            cases missing
      | some value =>
          dsimp only
          rw [exec_bind_eq_some_iff]
          constructor
          · rintro ⟨_, middle, first, others⟩
            obtain ⟨encoded, isEncoded, fits, rfl⟩ :=
              (exec_appendAckValue_iff small room).mp first
            rw [← List.length_append] at fits
            obtain ⟨values, areEncoded, allFit, rfl⟩ :=
              (inductionHypothesis fits).mp others
            refine ⟨encoded :: values, ?_, ?_, ?_⟩
            · simp [isEncoded, areEncoded]
            · rw [List.length_append] at allFit
              rw [List.flatten_cons, List.length_append]
              omega
            · simp
          · rintro ⟨values, areEncoded, allFit, rfl⟩
            obtain ⟨encoded, isEncoded, others, othersEncoded, rfl⟩ :
                ∃ encoded,
                  applicationOctets value = some encoded ∧
                  ∃ others,
                    encodedEntries valueAt rest = some others ∧
                    encoded :: others = values := by
              simpa [Option.bind_eq_some_iff] using areEncoded
            rw [List.flatten_cons, List.length_append] at allFit
            have fits : (written ++ encoded).length + 1 ≤ bufferSize := by
              rw [List.length_append]
              omega
            refine ⟨(), written ++ encoded,
              (exec_appendAckValue_iff small room).mpr
                ⟨encoded, isEncoded, ?_, rfl⟩,
              (inductionHypothesis fits).mpr
                ⟨others, othersEncoded, ?_, ?_⟩⟩
            · rwa [List.length_append] at fits
            · rw [List.length_append]
              omega
            · simp

/-- The closing tag is written where there is room for it. -/
theorem exec_finishReadPropertyAck_iff
    {written packet : List UInt8}
    {outcome : Unit} :
    exec (finishReadPropertyAck bufferSize) written =
        (some outcome, packet) ↔
      written.length + 1 ≤ bufferSize ∧
        packet =
          ((written ++ [0x3F]).set 2
            (UInt8.ofNat ((written ++ [0x3F]).length / 256))).set 3
            (UInt8.ofNat (written ++ [0x3F]).length) := by
  rw [finishReadPropertyAck, exec_offset_bind, exec_require_bind_iff,
    exec_put_bind, exec_offset_bind, exec_require_bind_iff,
    exec_storeLength, decide_eq_true_eq, decide_eq_true_eq]
  constructor
  · rintro ⟨fits, _, written⟩
    exact ⟨fits, (Prod.mk.inj written).2.symm⟩
  · rintro ⟨fits, rfl⟩
    refine ⟨fits, ?_, rfl⟩
    rw [List.length_append, List.length_singleton]
    omega

/-- Entries and the closing tag are written where all of them fit. -/
theorem exec_entries_finish_iff
    {valueAt : Nat → Option BacnetValue}
    {indices : List Nat}
    {written packet : List UInt8}
    {outcome : Unit}
    (room : written.length + 1 ≤ bufferSize) :
    exec
        (appendAckEntries bufferSize valueAt indices >>= fun _ =>
          finishReadPropertyAck bufferSize)
        written = (some outcome, packet) ↔
      ∃ values,
        encodedEntries valueAt indices = some values ∧
        exec (finishReadPropertyAck bufferSize)
          (written ++ values.flatten) = (some outcome, packet) := by
  rw [exec_bind_eq_some_iff]
  constructor
  · rintro ⟨_, _, body, finished⟩
    obtain ⟨values, found, _, rfl⟩ :=
      (exec_appendAckEntries_iff small room).mp body
    exact ⟨values, found, finished⟩
  · rintro ⟨values, found, finished⟩
    obtain ⟨fits, _⟩ := (exec_finishReadPropertyAck_iff small).mp finished
    rw [List.length_append] at fits
    exact ⟨(), _,
      (exec_appendAckEntries_iff small room).mpr ⟨values, found, fits, rfl⟩,
      finished⟩

/-- The length of an array is a single value. -/
private theorem exec_length_finish_iff
    {value : BacnetValue}
    {written packet : List UInt8}
    {outcome : Unit}
    (room : written.length + 1 ≤ bufferSize) :
    exec
        (appendAckValue bufferSize value >>= fun _ =>
          finishReadPropertyAck bufferSize)
        written = (some outcome, packet) ↔
      ∃ values,
        encodedEntries (fun _ => some value) [0] = some values ∧
        exec (finishReadPropertyAck bufferSize)
          (written ++ values.flatten) = (some outcome, packet) := by
  have single
      (values : List (List UInt8)) :
      encodedEntries (fun _ => some value) [0] = some values ↔
        ∃ encoded,
          applicationOctets value = some encoded ∧ [encoded] = values := by
    simp [encodedEntries, Option.bind_eq_some_iff]
  rw [exec_bind_eq_some_iff]
  constructor
  · rintro ⟨_, _, body, finished⟩
    obtain ⟨encoded, isEncoded, _, rfl⟩ :=
      (exec_appendAckValue_iff small room).mp body
    refine ⟨[encoded], (single _).mpr ⟨encoded, isEncoded, rfl⟩, ?_⟩
    rwa [List.flatten_singleton]
  · rintro ⟨values, found, finished⟩
    obtain ⟨encoded, isEncoded, rfl⟩ := (single values).mp found
    obtain ⟨fits, _⟩ := (exec_finishReadPropertyAck_iff small).mp finished
    rw [List.flatten_singleton, List.length_append] at fits
    refine ⟨(), _,
      (exec_appendAckValue_iff small room).mpr
        ⟨encoded, isEncoded, fits, rfl⟩, ?_⟩
    rwa [List.flatten_singleton] at finished

/-- The values of an array read, and the closing tag. -/
private theorem exec_arrayEntries_iff
    {request : BacnetPropertyRequest}
    {entryCount : Nat}
    {valueAt : Nat → Option BacnetValue}
    {written packet : List UInt8}
    {outcome : Unit}
    (room : written.length + 1 ≤ bufferSize) :
    exec
        (do
          if request.arrayIndex = kBacnetNoArrayIndex then
            appendAckEntries bufferSize valueAt (List.range entryCount)
          else if request.arrayIndex = 0 then
            appendAckValue bufferSize
              (unsignedValue (UInt32.ofNat entryCount))
          else
            require (decide ((request.arrayIndex - 1).toNat < entryCount))
            appendAckEntries bufferSize valueAt
              [(request.arrayIndex - 1).toNat]
          finishReadPropertyAck bufferSize)
        written = (some outcome, packet) ↔
      ∃ values,
        arrayReadValues request entryCount valueAt = some values ∧
        exec (finishReadPropertyAck bufferSize)
          (written ++ values.flatten) = (some outcome, packet) := by
  unfold arrayReadValues
  split
  · exact exec_entries_finish_iff small room
  · split
    · exact exec_length_finish_iff small room
    · refine exec_require_bind_iff.trans ?_
      rw [decide_eq_true_eq]
      split
      · rename_i inside
        rw [and_iff_right inside]
        exact exec_entries_finish_iff small room
      · rename_i outside
        simp [outside]

/-- A single value is acknowledged exactly where it fits. -/
theorem buildReadPropertyAck_eq_some_iff
    (large : 26 ≤ bufferSize)
    {request : BacnetReadPropertyRequestHeader}
    {value : BacnetValue}
    {packet : List UInt8} :
    buildReadPropertyAck bufferSize request value = some packet ↔
      Addressable request.request.object ∧
        ∃ encoded,
          applicationOctets value = some encoded ∧
          AckFits bufferSize request [encoded] ∧
          packet = readAckPacket request [encoded] := by
  have few := length_readAckPrefix_le request
  have enough : 20 ≤ bufferSize := by omega
  have opens : (readAckPrefix request).length + 2 ≤ bufferSize := by omega
  have room :
      (readAckPrefix request ++ [0x3E]).length + 1 ≤ bufferSize := by
    rw [List.length_append, List.length_singleton]
    omega
  rw [buildReadPropertyAck, build_eq_some_iff, writeReadPropertyAck,
    exec_require_bind_iff, exec_bind_eq_some_iff]
  constructor
  · rintro ⟨_, _, _, start, built⟩
    obtain ⟨addressable, rfl⟩ :=
      (exec_writeReadPropertyAckPrefix_iff large).mp start
    rw [exec_offset_bind, exec_require_bind_iff, exec_put_bind,
      exec_bind_eq_some_iff] at built
    obtain ⟨_, _, _, body, built⟩ := built
    obtain ⟨encoded, isEncoded, fits, rfl⟩ :=
      (exec_appendAckValue_iff small room).mp body
    rw [exec_offset_bind, exec_require_bind_iff, exec_put_bind] at built
    obtain ⟨_, rfl⟩ := Prod.mk.inj built.2
    rw [List.length_append, List.length_singleton] at fits
    refine ⟨addressable, encoded, isEncoded, ?_, ?_⟩
    · rw [AckFits, List.flatten_singleton]
      omega
    · rw [readAckPacket, List.flatten_singleton]
  · rintro ⟨addressable, encoded, isEncoded, fits, rfl⟩
    rw [AckFits, List.flatten_singleton] at fits
    refine ⟨decide_eq_true enough, (), _,
      (exec_writeReadPropertyAckPrefix_iff large).mpr ⟨addressable, rfl⟩,
      ?_⟩
    rw [exec_offset_bind, exec_require_bind_iff, exec_put_bind,
      exec_bind_eq_some_iff]
    refine ⟨decide_eq_true opens, (), _,
      (exec_appendAckValue_iff small room).mpr
        ⟨encoded, isEncoded, ?_, rfl⟩, ?_⟩
    · rw [List.length_append, List.length_singleton]
      omega
    · rw [exec_offset_bind, exec_require_bind_iff, exec_put_bind]
      refine ⟨decide_eq_true ?_, ?_⟩
      · rw [List.length_append, List.length_append, List.length_singleton]
        omega
      · rw [exec_storeLength, readAckPacket, List.flatten_singleton]

/-- An array read is acknowledged exactly where its values fit. -/
theorem buildReadPropertyArrayAck_eq_some_iff
    (large : 26 ≤ bufferSize)
    {request : BacnetReadPropertyRequestHeader}
    {entryCount : Nat}
    {valueAt : Nat → Option BacnetValue}
    {packet : List UInt8} :
    buildReadPropertyArrayAck bufferSize request entryCount valueAt =
        some packet ↔
      entryCount ≠ 0 ∧ Addressable request.request.object ∧
        ∃ values,
          arrayReadValues request.request entryCount valueAt =
            some values ∧
          AckFits bufferSize request values ∧
          packet = readAckPacket request values := by
  have few := length_readAckPrefix_le request
  have opens : (readAckPrefix request).length + 2 ≤ bufferSize := by omega
  have room :
      (readAckPrefix request ++ [0x3E]).length + 1 ≤ bufferSize := by
    rw [List.length_append, List.length_singleton]
    omega
  rw [buildReadPropertyArrayAck, build_eq_some_iff,
    writeReadPropertyArrayAck, exec_require_bind_iff, exec_bind_eq_some_iff]
  constructor
  · rintro ⟨someEntry, _, _, start, built⟩
    obtain ⟨addressable, rfl⟩ :=
      (exec_writeReadPropertyAckPrefix_iff large).mp start
    rw [exec_offset_bind, exec_require_bind_iff, exec_put_bind] at built
    obtain ⟨values, found, finished⟩ :=
      (exec_arrayEntries_iff small room).mp built.2
    obtain ⟨fits, rfl⟩ :=
      (exec_finishReadPropertyAck_iff small).mp finished
    rw [List.length_append, List.length_append,
      List.length_singleton] at fits
    refine ⟨bne_iff_ne.mp someEntry, addressable, values, found, ?_, rfl⟩
    rw [AckFits]
    omega
  · rintro ⟨someEntry, addressable, values, found, fits, rfl⟩
    refine ⟨bne_iff_ne.mpr someEntry, (), _,
      (exec_writeReadPropertyAckPrefix_iff large).mpr ⟨addressable, rfl⟩,
      ?_⟩
    rw [exec_offset_bind, exec_require_bind_iff, exec_put_bind]
    refine ⟨decide_eq_true opens,
      (exec_arrayEntries_iff small room).mpr ⟨values, found, ?_⟩⟩
    refine (exec_finishReadPropertyAck_iff small).mpr ⟨?_, rfl⟩
    rw [AckFits] at fits
    rw [List.length_append, List.length_append, List.length_singleton]
    omega

/-- An empty list is acknowledged to every read without index. -/
theorem buildReadPropertyEmptyListAck_eq_some_iff
    (large : 26 ≤ bufferSize)
    {request : BacnetReadPropertyRequestHeader}
    {packet : List UInt8} :
    buildReadPropertyEmptyListAck bufferSize request = some packet ↔
      request.request.arrayIndex = kBacnetNoArrayIndex ∧
        Addressable request.request.object ∧
        packet = readAckPacket request [] := by
  have few := length_readAckPrefix_le request
  have opens : (readAckPrefix request).length + 2 ≤ bufferSize := by omega
  have shape :
      readAckPrefix request ++ [0x3E, 0x3F] =
        readAckPrefix request ++ [0x3E] ++ [].flatten ++ [0x3F] := by
    simp
  rw [buildReadPropertyEmptyListAck, build_eq_some_iff,
    writeReadPropertyEmptyListAck,
    exec_require_bind_iff, exec_bind_eq_some_iff, beq_iff_eq]
  refine and_congr_right fun _ => ?_
  constructor
  · rintro ⟨_, _, start, built⟩
    obtain ⟨addressable, rfl⟩ :=
      (exec_writeReadPropertyAckPrefix_iff large).mp start
    rw [exec_offset_bind, exec_require_bind_iff, exec_put_bind,
      exec_offset_bind, exec_require_bind_iff, exec_storeLength,
      shape] at built
    exact ⟨addressable, (Prod.mk.inj built.2.2).2.symm⟩
  · rintro ⟨addressable, rfl⟩
    refine ⟨(), _,
      (exec_writeReadPropertyAckPrefix_iff large).mpr ⟨addressable, rfl⟩,
      ?_⟩
    rw [exec_offset_bind, exec_require_bind_iff, exec_put_bind,
      exec_offset_bind, exec_require_bind_iff, exec_storeLength, shape]
    refine ⟨decide_eq_true opens, decide_eq_true ?_, rfl⟩
    rw [← shape, List.length_append, List.length_cons,
      List.length_singleton]
    omega

end Builders

end BacnetStack
