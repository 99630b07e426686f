import BacnetStack.ProtocolReadAck
import BacnetStack.ServerReadProperty

namespace BacnetStack

/-!
# Replies to reads

The acknowledgement of a read is one of three shapes: a list with an index, an
empty list or a single value.  What it contains follows from the shape, and it
is built whenever its values can be encoded and fit.
-/

/-- What an acknowledged read returns. -/
inductive ReadAnswer where
  | list (entryCount : Nat) (valueAt : Nat → Option BacnetValue)
  | emptyList
  | single (value : BacnetValue)

/-- The encoded values of an answer, if there are any to return. -/
def ReadAnswer.values
    (answer : ReadAnswer)
    (request : BacnetPropertyRequest) : Option (List (List UInt8)) :=
  match answer with
  | .list entryCount valueAt =>
      if entryCount = 0 then
        none
      else
        arrayReadValues request entryCount valueAt
  | .emptyList =>
      if request.arrayIndex = kBacnetNoArrayIndex then some [] else none
  | .single value => (applicationOctets value).map fun octets => [octets]

/-- The acknowledgement that carries an answer. -/
def ReadAnswer.build
    (answer : ReadAnswer)
    (request : BacnetReadPropertyRequestHeader) : Option (List UInt8) :=
  match answer with
  | .list entryCount valueAt =>
      buildReadPropertyArrayAck kMaxDatagramSize request entryCount valueAt
  | .emptyList => buildReadPropertyEmptyListAck kMaxDatagramSize request
  | .single value => buildReadPropertyAck kMaxDatagramSize request value

/-- An answer is acknowledged exactly when its values exist and fit. -/
theorem ReadAnswer.build_eq_some_iff
    {answer : ReadAnswer}
    {request : BacnetReadPropertyRequestHeader}
    {packet : List UInt8} :
    answer.build request = some packet ↔
      Addressable request.request.object ∧
        ∃ values,
          answer.values request.request = some values ∧
          AckFits kMaxDatagramSize request values ∧
          packet = readAckPacket request values := by
  have large : 26 ≤ kMaxDatagramSize := by decide
  have small : kMaxDatagramSize ≤ 0xFFFF := by decide
  cases answer with
  | list entryCount valueAt =>
      rw [build, values, buildReadPropertyArrayAck_eq_some_iff small large]
      by_cases empty : entryCount = 0
      · simp [empty]
      · simp [empty]
  | emptyList =>
      rw [build, values,
        buildReadPropertyEmptyListAck_eq_some_iff small large]
      have few := length_readAckPrefix_le request
      by_cases whole : request.request.arrayIndex = kBacnetNoArrayIndex
      · have fits : AckFits kMaxDatagramSize request [] := by
          rw [AckFits, List.flatten_nil, List.length_nil]
          omega
        simp [whole, fits]
      · simp [whole]
  | single value =>
      rw [build, values, buildReadPropertyAck_eq_some_iff small large]
      simp only [Option.map_eq_some_iff]
      constructor
      · rintro ⟨addressable, encoded, isEncoded, fits, rfl⟩
        exact ⟨addressable, _, ⟨encoded, isEncoded, rfl⟩, fits, rfl⟩
      · rintro ⟨addressable, _, ⟨encoded, isEncoded, rfl⟩, fits, rfl⟩
        exact ⟨addressable, encoded, isEncoded, fits, rfl⟩

/-- An acknowledgement is a complex one. -/
theorem getElem?_readAckPacket
    (request : BacnetReadPropertyRequestHeader)
    (values : List (List UInt8)) :
    (readAckPacket request values)[6]? = some kApduComplexAck := by
  simp [readAckPacket, readAckPrefix]

namespace BacnetServer

variable (server : BacnetServer)

/-- The entries of a list property, with their number. -/
def listAnswer
    (lookup : ObjectLookup)
    (request : BacnetPropertyRequest) :
    Option (Nat × (Nat → Option BacnetValue)) :=
  let property := request.property
  let propertyEntries
      (propertyAt : Nat → Option BacnetPropertyId)
      (index : Nat) : Option BacnetValue :=
    (propertyAt index).map fun property => enumeratedValue property.raw
  if lookup.isDevice && property == .objectList then
    some (server.objectCount, fun index =>
      (server.objectListEntry index).map objectIdentifierValue)
  else if lookup.isDevice && property == .propertyList then
    some (server.devicePropertyCount,
      propertyEntries server.devicePropertyAt)
  else if !lookup.isDevice && property == .propertyList then
    some (server.objects.objectPropertyCount request.object,
      propertyEntries (server.objects.objectPropertyAt request.object))
  else if property = .stateText then
    lookup.multiStateValue.map fun value =>
      (value.numberOfStates.toNat, fun index =>
        match value.stateText[index]?.join with
        | none => none
        | some text =>
            if kMaxTextLength ≤ text.length then
              none
            else
              some { type := .characterString, text := text })
  else if property = .priorityArray then
    (priorityArrayEntries lookup).map fun valueAt => (kSlotCount, valueAt)
  else
    none

/-- The answer to a read that passed the checks with this value. -/
def readAnswer
    (lookup : ObjectLookup)
    (request : BacnetPropertyRequest)
    (value : BacnetValue) : ReadAnswer :=
  match server.listAnswer lookup request with
  | some (entryCount, valueAt) => .list entryCount valueAt
  | none =>
      if lookup.isDevice && request.property == .deviceAddressBinding then
        .emptyList
      else
        .single value

theorem lookupObject_multiStateValue
    (object : BacnetObjectId) :
    (server.lookupObject object).multiStateValue =
      if object.type = BacnetObjectType.multiStateValue then
        server.objects.findMultiStateValue object.instance_
      else
        none :=
  rfl

/-- The Device is no Multi-State Value. -/
theorem multiStateValue_of_isDevice
    {object : BacnetObjectId}
    (isDevice : (server.lookupObject object).isDevice = true) :
    (server.lookupObject object).multiStateValue = none := by
  have same : object = server.deviceObject := beq_iff_eq.mp isDevice
  have otherType :
      server.deviceObject.type ≠ BacnetObjectType.multiStateValue := by
    change BacnetObjectType.device ≠ BacnetObjectType.multiStateValue
    decide
  rw [same, lookupObject_multiStateValue, if_neg otherType]

/-- The second pass builds the answer. -/
theorem buildReadAck_eq
    (request : BacnetReadPropertyRequestHeader)
    (value : BacnetValue) :
    server.buildReadAck (server.lookupObject request.request.object)
        request value =
      (server.readAnswer (server.lookupObject request.request.object)
        request.request value).build request := by
  have noMultiState := @multiStateValue_of_isDevice server
    request.request.object
  revert noMultiState
  generalize server.lookupObject request.request.object = lookup
  intro noMultiState
  unfold buildReadAck readAnswer listAnswer
  dsimp only
  split
  · rfl
  · rename_i notObjectList
    split
    · rfl
    · split
      · rfl
      · cases found : lookup.multiStateValue with
        | some multiStateValue =>
            have notDevice : lookup.isDevice = false := by
              by_contra isDevice
              rw [Bool.not_eq_false] at isDevice
              rw [noMultiState isDevice] at found
              cases found
            by_cases text : request.request.property = .stateText
            · simp only [text, ↓reduceIte, Option.map_some,
                ReadAnswer.build]
              exact if_neg (not_not_intro text)
            · by_cases priorities :
                  request.request.property = .priorityArray
              · simp only [priorities, ↓reduceIte]
                cases priorityArrayEntries lookup with
                | none => simp [notDevice, ReadAnswer.build]
                | some valueAt =>
                    simp [ReadAnswer.build,
                      buildReadPropertyPriorityArrayAck, priorities]
              · simp [text, priorities, notDevice, ReadAnswer.build]
        | none =>
            by_cases text : request.request.property = .stateText
            · simp [text, ReadAnswer.build]
            · by_cases priorities :
                  request.request.property = .priorityArray
              · simp only [priorities, ↓reduceIte]
                cases priorityArrayEntries lookup with
                | none => simp [ReadAnswer.build]
                | some valueAt =>
                    simp [ReadAnswer.build,
                      buildReadPropertyPriorityArrayAck, priorities]
              · simp only [text, priorities, ↓reduceIte]
                split <;> rfl

/-- An index is refused for its size alone. -/
theorem checkArrayIndex_error
    {arrayIndex : UInt32}
    {entryCount : Nat}
    {error : BacnetError}
    (refused : checkArrayIndex arrayIndex entryCount = .error error) :
    error = invalidArrayIndexError := by
  unfold checkArrayIndex at refused
  split at refused
  · exact (Except.error.inj refused).symm
  · cases refused

/-- A property is refused when it cannot be read. -/
theorem valueOrUnknownProperty_error
    {value : Option BacnetValue}
    {error : BacnetError}
    (refused : valueOrUnknownProperty value = .error error) :
    error = unknownPropertyError := by
  cases value with
  | none => exact (Except.error.inj refused).symm
  | some value => cases refused

/-- The errors of a read of an object that exists. -/
def PropertyErrors (error : BacnetError) : Prop :=
  error = unknownPropertyError ∨ error = valueOutOfRangeError ∨
    error = invalidArrayIndexError

/-- A Device property is refused for its index or its value. -/
theorem checkDeviceRead_error
    {request : BacnetPropertyRequest}
    {error : BacnetError}
    (refused : server.checkDeviceRead request = .error error) :
    PropertyErrors error := by
  unfold checkDeviceRead at refused
  split at refused
  · exact .inr (.inr (checkArrayIndex_error refused))
  · split at refused
    · exact .inr (.inr (checkArrayIndex_error refused))
    · split at refused
      · exact .inr (.inr (Except.error.inj refused).symm)
      · split at refused
        · cases refused
        · exact .inl (valueOrUnknownProperty_error refused)

/-- Only a read of an unknown object is refused as such. -/
theorem checkRead_error
    {lookup : ObjectLookup}
    {request : BacnetPropertyRequest}
    {error : BacnetError}
    (refused : server.checkRead lookup request = .error error) :
    (lookup.isUnknown = true ∧ error = unknownObjectError) ∨
      (lookup.isUnknown = false ∧ PropertyErrors error) := by
  unfold checkRead at refused
  dsimp only at refused
  split at refused
  · rename_i isUnknown
    exact .inl ⟨isUnknown, (Except.error.inj refused).symm⟩
  · rename_i known
    refine .inr ⟨Bool.eq_false_iff.mpr known, ?_⟩
    split at refused
    · exact server.checkDeviceRead_error refused
    · split at refused
      · exact .inr (.inl (Except.error.inj refused).symm)
      · split at refused
        · exact .inr (.inr (checkArrayIndex_error refused))
        · split at refused
          · exact .inr (.inr (checkArrayIndex_error refused))
          · split at refused
            · split at refused
              · cases refused
              · exact .inr (.inr (Except.error.inj refused).symm)
            · split at refused
              · cases refused
              · exact .inl (valueOrUnknownProperty_error refused)

/-- A read of an unknown object passes no check. -/
theorem checkRead_of_isUnknown
    {lookup : ObjectLookup}
    (isUnknown : lookup.isUnknown = true)
    (request : BacnetPropertyRequest) :
    server.checkRead lookup request = .error unknownObjectError :=
  if_pos isUnknown

/-- The error numbers fit into one octet each. -/
theorem PropertyErrors.small
    {error : BacnetError}
    (errors : PropertyErrors error) :
    error.1 ≤ 0xFF ∧ error.2 ≤ 0xFF := by
  rcases errors with rfl | rfl | rfl <;> decide

/-- A read is refused with its error, or its answer is acknowledged. -/
theorem handleReadProperty_datagram
    (input : PollInput)
    (request : BacnetReadPropertyRequestHeader) :
    let lookup := server.lookupObject request.request.object
    (∃ error,
      server.checkRead lookup request.request = .error error ∧
      (server.handleReadProperty input request).datagram =
        some ⟨input.source,
          serviceErrorPacket request.invokeId kServiceReadProperty
            error.1 error.2⟩) ∨
    ∃ value,
      server.checkRead lookup request.request = .ok value ∧
      (server.handleReadProperty input request).datagram =
        ((server.readAnswer lookup request.request value).build
          request).map fun packet => ⟨input.source, packet⟩ := by
  intro lookup
  unfold handleReadProperty
  dsimp only
  cases checked : server.checkRead lookup request.request with
  | error error =>
      left
      have small : error.1 ≤ 0xFF ∧ error.2 ≤ 0xFF := by
        rcases server.checkRead_error checked
          with ⟨_, rfl⟩ | ⟨_, errors⟩
        · decide
        · exact errors.small
      refine ⟨error, rfl, ?_⟩
      obtain ⟨errorClass, errorCode⟩ := error
      dsimp only
      rw [buildReadPropertyError,
        buildServiceErrorResponse_eq small.1 small.2]
      rfl
  | ok value =>
      right
      refine ⟨value, rfl, ?_⟩
      dsimp only
      rw [server.buildReadAck_eq]
      cases (server.readAnswer lookup request.request value).build request
      all_goals rfl

end BacnetServer

end BacnetStack
