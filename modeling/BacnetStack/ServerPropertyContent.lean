import BacnetStack.ServerExistence

namespace BacnetStack

/-!
# What a property holds

A property is an array, the empty list or one value.  A read returns the part
its index selects: the reply is the error of a read that selects nothing, the
acknowledgement of what is selected, or nothing at all when that does not fit.
-/

/-- Entries of an array may be unavailable. -/
inductive PropertyContent where
  | array (entries : List (Option BacnetValue))
  | emptyList
  | single (value : BacnetValue)

/-- What an index selects: the whole, the length or one entry. -/
def PropertyContent.select
    (content : PropertyContent)
    (arrayIndex : UInt32) : Option (List (Option BacnetValue)) :=
  match content with
  | .array entries =>
      if arrayIndex = kBacnetNoArrayIndex then
        some entries
      else if arrayIndex = 0 then
        some [some (unsignedValue (UInt32.ofNat entries.length))]
      else
        entries[arrayIndex.toNat - 1]?.map fun entry => [entry]
  | .emptyList => if arrayIndex = kBacnetNoArrayIndex then some [] else none
  | .single value =>
      if arrayIndex = kBacnetNoArrayIndex then some [some value] else none

/-- Nothing is selected from a property that cannot be read. -/
def selectFrom
    (content : Except BacnetError PropertyContent)
    (arrayIndex : UInt32) : Option (List (Option BacnetValue)) :=
  match content with
  | .ok content => content.select arrayIndex
  | .error _ => none

/-- The error of a read that selects nothing. -/
def refusalError
    (content : Except BacnetError PropertyContent)
    (arrayIndex : UInt32) : BacnetError :=
  match content with
  | .ok _ => invalidArrayIndexError
  | .error error =>
      if error = unknownPropertyError ∧
          arrayIndex ≠ kBacnetNoArrayIndex then
        invalidArrayIndexError
      else
        error

/-- The acknowledgement of selected values, if it can be built. -/
def acknowledgement
    (request : BacnetReadPropertyRequestHeader)
    (values : List (Option BacnetValue)) : Option (List UInt8) := do
  let encoded ← values.mapM fun value => value.bind applicationOctets
  if (readAckPrefix request).length + encoded.flatten.length + 2 ≤
      kMaxDatagramSize then
    some (readAckPacket request encoded)
  else
    none

/-- An acknowledgement needs all values encoded and room for them. -/
theorem acknowledgement_eq_some_iff
    {request : BacnetReadPropertyRequestHeader}
    {values : List (Option BacnetValue)}
    {packet : List UInt8} :
    acknowledgement request values = some packet ↔
      ∃ encoded,
        (values.mapM fun value => value.bind applicationOctets) =
          some encoded ∧
        AckFits kMaxDatagramSize request encoded ∧
        packet = readAckPacket request encoded := by
  unfold acknowledgement AckFits
  cases values.mapM fun value => value.bind applicationOctets with
  | none => simp
  | some encoded =>
      simp only [Option.bind_eq_bind, Option.bind_some,
        Option.some.injEq, exists_eq_left', Option.ite_none_right_eq_some]
      exact and_congr_right fun _ => eq_comm

/-- The content an answer returns a part of. -/
def ReadAnswer.content : ReadAnswer → PropertyContent
  | .list entryCount valueAt => .array ((List.range entryCount).map valueAt)
  | .emptyList => .emptyList
  | .single value => .single value

/-- An answer encodes what the index selects from its content. -/
theorem ReadAnswer.values_eq
    {answer : ReadAnswer}
    {request : BacnetPropertyRequest}
    (someEntry : ∀ valueAt, answer ≠ .list 0 valueAt)
    (plain :
      ∀ value,
        answer = .single value →
        request.arrayIndex = kBacnetNoArrayIndex) :
    answer.values request =
      (answer.content.select request.arrayIndex).bind fun values =>
        values.mapM fun value => value.bind applicationOctets := by
  cases answer with
  | list entryCount valueAt =>
      have notEmpty : entryCount ≠ 0 := by
        rintro rfl
        exact someEntry valueAt rfl
      rw [values, if_neg notEmpty, content, PropertyContent.select,
        arrayReadValues]
      by_cases whole : request.arrayIndex = kBacnetNoArrayIndex
      · rw [if_pos whole, if_pos whole, Option.bind_some, List.mapM_map]
        rfl
      · rw [if_neg whole, if_neg whole]
        by_cases first : request.arrayIndex = 0
        · rw [if_pos first, if_pos first, List.length_map,
            List.length_range]
          simp [encodedEntries]
        · rw [if_neg first, if_neg first]
          have previous :
              (request.arrayIndex - 1).toNat =
                request.arrayIndex.toNat - 1 := by
            refine UInt32.toNat_sub_of_le _ _ ?_
            rw [UInt32.le_iff_toNat_le]
            refine Nat.one_le_iff_ne_zero.mpr fun zero => ?_
            exact first (UInt32.toNat_inj.mp zero)
          rw [previous]
          by_cases inside : request.arrayIndex.toNat - 1 < entryCount
          · simp [inside, encodedEntries, List.mapM_cons]
          · simp [inside]
  | emptyList =>
      by_cases whole : request.arrayIndex = kBacnetNoArrayIndex
      · simp [values, content, PropertyContent.select, whole]
      · simp [values, content, PropertyContent.select, whole]
  | single value =>
      simp only [values, content, PropertyContent.select,
        if_pos (plain value rfl), Option.bind_some, List.mapM_cons,
        List.mapM_nil]
      cases applicationOctets value <;> rfl

namespace BacnetServer

variable (server : BacnetServer)

/-- The content of a property, or the error of reading it. -/
def propertyContent
    (object : BacnetObjectId)
    (property : BacnetPropertyId) : Except BacnetError PropertyContent :=
  let lookup := server.lookupObject object
  if lookup.isUnknown then
    .error unknownObjectError
  else if lookup.multiStateValue.any fun value =>
      !validMultiStateValueConfiguration value then
    .error valueOutOfRangeError
  else match server.listAnswer lookup { object, property } with
  | some (entryCount, valueAt) =>
      .ok (.array ((List.range entryCount).map valueAt))
  | none =>
      if lookup.isDevice && property == .deviceAddressBinding then
        .ok .emptyList
      else
        let value :=
          if lookup.isDevice then
            server.readDeviceProperty property
          else
            server.readFoundProperty lookup property
        match value with
        | some value => .ok (.single value)
        | none => .error unknownPropertyError

/-- The values a read selects. -/
def selected
    (request : BacnetPropertyRequest) : Option (List (Option BacnetValue)) :=
  selectFrom (server.propertyContent request.object request.property)
    request.arrayIndex

/-- The error of a read that selects nothing. -/
def refusal (request : BacnetPropertyRequest) : BacnetError :=
  refusalError (server.propertyContent request.object request.property)
    request.arrayIndex

/-- The index of a request does not matter for what a property lists. -/
theorem listAnswer_congr
    {lookup : ObjectLookup}
    (request : BacnetPropertyRequest) :
    server.listAnswer lookup request =
      server.listAnswer lookup
        { object := request.object, property := request.property } :=
  rfl

/-- An index check passes exactly when the index selects something. -/
theorem checkArrayIndex_select
    (arrayIndex : UInt32)
    (entries : List (Option BacnetValue)) :
    (checkArrayIndex arrayIndex entries.length =
        .error invalidArrayIndexError ∧
      (PropertyContent.array entries).select arrayIndex = none) ∨
    (checkArrayIndex arrayIndex entries.length = .ok {} ∧
      ∃ values,
        (PropertyContent.array entries).select arrayIndex =
          some values) := by
  unfold checkArrayIndex
  dsimp only [PropertyContent.select]
  by_cases whole : arrayIndex = kBacnetNoArrayIndex
  · simp [whole]
  · by_cases first : arrayIndex = 0
    · right
      rw [if_neg whole, if_pos first, if_neg (by simp [first])]
      exact ⟨rfl, _, rfl⟩
    · have positive : arrayIndex.toNat ≠ 0 := fun zero =>
        first (UInt32.toNat_inj.mp zero)
      rw [if_neg whole, if_neg first]
      by_cases past : entries.length < arrayIndex.toNat
      · left
        rw [if_pos ⟨whole, past⟩,
          List.getElem?_eq_none (show _ ≤ arrayIndex.toNat - 1 by omega)]
        exact ⟨rfl, rfl⟩
      · right
        rw [if_neg (fun both => past both.2),
          List.getElem?_eq_getElem
            (show arrayIndex.toNat - 1 < entries.length by omega)]
        exact ⟨rfl, _, rfl⟩

/-- A read is refused and selects nothing, or answers what it selects. -/
def SelectsOrRefuses
    (request : BacnetPropertyRequest) : Prop :=
  let lookup := server.lookupObject request.object
  (server.checkRead lookup request = .error (server.refusal request) ∧
    server.selected request = none) ∨
  ∃ value values,
    server.checkRead lookup request = .ok value ∧
    server.selected request = some values ∧
    (server.readAnswer lookup request value).values request =
      values.mapM fun value => value.bind applicationOctets

variable {server}

theorem selected_of_content
    {request : BacnetPropertyRequest}
    {content : PropertyContent}
    (found :
      server.propertyContent request.object request.property =
        .ok content) :
    server.selected request = content.select request.arrayIndex := by
  rw [selected, found, selectFrom]

theorem selected_of_error
    {request : BacnetPropertyRequest}
    {error : BacnetError}
    (refused :
      server.propertyContent request.object request.property =
        .error error) :
    server.selected request = none := by
  rw [selected, refused, selectFrom]

theorem refusal_of_content
    {request : BacnetPropertyRequest}
    {content : PropertyContent}
    (found :
      server.propertyContent request.object request.property =
        .ok content) :
    server.refusal request = invalidArrayIndexError := by
  rw [refusal, found, refusalError]

theorem refusal_of_error
    {request : BacnetPropertyRequest}
    {error : BacnetError}
    (refused :
      server.propertyContent request.object request.property =
        .error error) :
    server.refusal request =
      if error = unknownPropertyError ∧
          request.arrayIndex ≠ kBacnetNoArrayIndex then
        invalidArrayIndexError
      else
        error := by
  rw [refusal, refused, refusalError]

/-- Reads of lists check the index against the number of entries. -/
theorem selectsOrRefuses_of_list
    {request : BacnetPropertyRequest}
    {entryCount : Nat}
    {valueAt : Nat → Option BacnetValue}
    (listed :
      server.listAnswer (server.lookupObject request.object) request =
        some (entryCount, valueAt))
    (someEntry : entryCount ≠ 0)
    (content :
      server.propertyContent request.object request.property =
        .ok (.array ((List.range entryCount).map valueAt)))
    (checked :
      server.checkRead (server.lookupObject request.object) request =
        checkArrayIndex request.arrayIndex entryCount) :
    server.SelectsOrRefuses request := by
  have answered (value : BacnetValue) :
      server.readAnswer (server.lookupObject request.object) request
          value =
        .list entryCount valueAt := by
    simp [readAnswer, listed]
  have length :
      ((List.range entryCount).map valueAt).length = entryCount := by
    simp
  rcases checkArrayIndex_select request.arrayIndex
      ((List.range entryCount).map valueAt)
    with ⟨refused, nothing⟩ | ⟨accepted, values, selects⟩
  · rw [length] at refused
    refine .inl ⟨?_, (selected_of_content content).trans nothing⟩
    rw [refusal_of_content content, checked, refused]
  · rw [length] at accepted
    refine .inr ⟨{}, values, checked.trans accepted,
      (selected_of_content content).trans selects, ?_⟩
    rw [answered, ReadAnswer.values_eq, ReadAnswer.content, selects,
      Option.bind_some]
    · rintro other ⟨⟩
      exact someEntry rfl
    · rintro _ ⟨⟩

/-- Every other property is only read as a whole. -/
theorem selectsOrRefuses_of_single
    {request : BacnetPropertyRequest}
    {value? : Option BacnetValue}
    (unlisted :
      server.listAnswer (server.lookupObject request.object) request =
        none)
    (plain :
      ((server.lookupObject request.object).isDevice &&
        request.property == .deviceAddressBinding) = false)
    (content :
      server.propertyContent request.object request.property =
        match value? with
        | some value => .ok (.single value)
        | none => .error unknownPropertyError)
    (checked :
      server.checkRead (server.lookupObject request.object) request =
        if request.arrayIndex ≠ kBacnetNoArrayIndex then
          .error invalidArrayIndexError
        else
          valueOrUnknownProperty value?) :
    server.SelectsOrRefuses request := by
  have answered (value : BacnetValue) :
      server.readAnswer (server.lookupObject request.object) request
          value =
        .single value := by
    simp [readAnswer, unlisted, plain]
  by_cases whole : request.arrayIndex = kBacnetNoArrayIndex
  · rw [if_neg (not_not.mpr whole)] at checked
    cases value? with
    | none =>
        refine .inl ⟨?_, selected_of_error content⟩
        rw [refusal_of_error content, if_neg (fun both => both.2 whole),
          checked]
        rfl
    | some value =>
        refine .inr ⟨value, [some value], checked, ?_, ?_⟩
        · rw [selected_of_content content, PropertyContent.select,
            if_pos whole]
        · rw [answered, ReadAnswer.values_eq]
          · simp [ReadAnswer.content, PropertyContent.select, whole]
          · rintro _ ⟨⟩
          · exact fun _ _ => whole
  · rw [if_pos whole] at checked
    cases value? with
    | none =>
        refine .inl ⟨?_, selected_of_error content⟩
        rw [refusal_of_error content, if_pos ⟨rfl, whole⟩, checked]
    | some value =>
        refine .inl ⟨?_, ?_⟩
        · rw [refusal_of_content content, checked]
        · rw [selected_of_content content, PropertyContent.select,
            if_neg whole]

/-- What is found is the Device or of a kind with base properties. -/
theorem baseProperties_of_known
    {object : BacnetObjectId}
    (known : (server.lookupObject object).isUnknown = false)
    (notDevice : (server.lookupObject object).isDevice = false) :
    ∃ first rest,
      server.objects.baseProperties object = some (first :: rest) := by
  unfold ServerObjects.baseProperties
  repeat' split
  all_goals
    first
      | exact ⟨_, _, rfl⟩
      | skip
  rename_i noAnalogValue noAnalogInput noAnalogOutput noBinaryInput
    noBinaryOutput noBinaryValue noMultiStateValue
  rw [ObjectLookup.isUnknown, notDevice] at known
  simp [lookupObject, noAnalogValue, noAnalogInput, noAnalogOutput,
    noBinaryInput, noBinaryOutput, noBinaryValue,
    noMultiStateValue] at known

theorem objectPropertyCount_ne_zero
    {object : BacnetObjectId}
    (known : (server.lookupObject object).isUnknown = false)
    (notDevice : (server.lookupObject object).isDevice = false) :
    server.objects.objectPropertyCount object ≠ 0 := by
  obtain ⟨first, rest, base⟩ := baseProperties_of_known known notDevice
  simp [ServerObjects.objectPropertyCount, base]

/-- The content of a listed property is its entries. -/
theorem propertyContent_of_list
    {request : BacnetPropertyRequest}
    {entryCount : Nat}
    {valueAt : Nat → Option BacnetValue}
    (known : (server.lookupObject request.object).isUnknown = false)
    (valid :
      ((server.lookupObject request.object).multiStateValue.any fun value =>
        !validMultiStateValueConfiguration value) = false)
    (listed :
      server.listAnswer (server.lookupObject request.object) request =
        some (entryCount, valueAt)) :
    server.propertyContent request.object request.property =
      .ok (.array ((List.range entryCount).map valueAt)) := by
  rw [listAnswer_congr] at listed
  simp only [propertyContent, known, valid, Bool.false_eq_true,
    ↓reduceIte, listed]

/-- The content of any other property is its value. -/
theorem propertyContent_of_single
    {request : BacnetPropertyRequest}
    (known : (server.lookupObject request.object).isUnknown = false)
    (valid :
      ((server.lookupObject request.object).multiStateValue.any fun value =>
        !validMultiStateValueConfiguration value) = false)
    (unlisted :
      server.listAnswer (server.lookupObject request.object) request =
        none)
    (plain :
      ((server.lookupObject request.object).isDevice &&
        request.property == .deviceAddressBinding) = false) :
    server.propertyContent request.object request.property =
      match
        (if (server.lookupObject request.object).isDevice then
          server.readDeviceProperty request.property
        else
          server.readFoundProperty (server.lookupObject request.object)
            request.property) with
      | some value => .ok (.single value)
      | none => .error unknownPropertyError := by
  rw [listAnswer_congr] at unlisted
  simp only [propertyContent, known, valid, Bool.false_eq_true,
    ↓reduceIte, unlisted, plain]

/-- Nothing else is found under the identifier of the Device. -/
theorem priorityArrayEntries_of_isDevice
    {object : BacnetObjectId}
    (isDevice : (server.lookupObject object).isDevice = true) :
    priorityArrayEntries (server.lookupObject object) = none := by
  have same : object = server.deviceObject := beq_iff_eq.mp isDevice
  have otherType
      {objectType : UInt16}
      (other : BacnetObjectType.device ≠ objectType) :
      ¬object.type = objectType := by
    rw [same]
    exact other
  unfold priorityArrayEntries lookupObject
  dsimp only
  rw [if_neg (otherType (by decide)), if_neg (otherType (by decide)),
    if_neg (otherType (by decide)), if_neg (otherType (by decide))]

/-- The two passes of a read of the Device. -/
theorem selectsOrRefuses_device
    {request : BacnetPropertyRequest}
    (isDevice : (server.lookupObject request.object).isDevice = true) :
    server.SelectsOrRefuses request := by
  have known : (server.lookupObject request.object).isUnknown = false := by
    simp [ObjectLookup.isUnknown, isDevice]
  have noMultiState := server.multiStateValue_of_isDevice isDevice
  have valid :
      ((server.lookupObject request.object).multiStateValue.any fun value =>
        !validMultiStateValueConfiguration value) = false := by
    rw [noMultiState]
    rfl
  have checked :
      server.checkRead (server.lookupObject request.object) request =
        server.checkDeviceRead request := by
    rw [checkRead, known, isDevice]
    rfl
  by_cases objectList : request.property = .objectList
  · have listed :
        server.listAnswer (server.lookupObject request.object) request =
          some (server.objectCount, fun index =>
            (server.objectListEntry index).map objectIdentifierValue) := by
      simp [listAnswer, isDevice, objectList]
    refine selectsOrRefuses_of_list listed (Nat.succ_ne_zero _)
      (propertyContent_of_list known valid listed) ?_
    rw [checked, checkDeviceRead, if_pos objectList]
  by_cases propertyList : request.property = .propertyList
  · have listed :
        server.listAnswer (server.lookupObject request.object) request =
          some (server.devicePropertyCount, fun index =>
            (server.devicePropertyAt index).map fun property =>
              enumeratedValue property.raw) := by
      simp [listAnswer, isDevice, propertyList]
    refine selectsOrRefuses_of_list listed ?_
      (propertyContent_of_list known valid listed) ?_
    · simp [devicePropertyCount, kDeviceProperties]
    · rw [checked, checkDeviceRead, if_neg objectList, if_pos propertyList]
  have noPriorityArray :
      priorityArrayEntries (server.lookupObject request.object) = none :=
    priorityArrayEntries_of_isDevice isDevice
  have unlisted :
      server.listAnswer (server.lookupObject request.object) request =
        none := by
    simp [listAnswer, isDevice, objectList, propertyList, noMultiState,
      noPriorityArray]
  by_cases binding : request.property = .deviceAddressBinding
  · have content :
        server.propertyContent request.object request.property =
          .ok .emptyList := by
      rw [listAnswer_congr, binding] at unlisted
      simp only [propertyContent, known, valid, Bool.false_eq_true,
        ↓reduceIte, unlisted, isDevice, binding, beq_self_eq_true,
        Bool.and_self]
    rw [checkDeviceRead, if_neg objectList, if_neg propertyList] at checked
    by_cases whole : request.arrayIndex = kBacnetNoArrayIndex
    · rw [if_neg (not_not.mpr whole), if_pos binding] at checked
      refine .inr ⟨{}, [], checked, ?_, ?_⟩
      · rw [selected_of_content content, PropertyContent.select,
          if_pos whole]
      · simp [readAnswer, unlisted, isDevice, binding, ReadAnswer.values,
          whole]
    · rw [if_pos whole] at checked
      refine .inl ⟨?_, ?_⟩
      · rw [refusal_of_content content, checked]
      · rw [selected_of_content content, PropertyContent.select,
          if_neg whole]
  · have plain :
        ((server.lookupObject request.object).isDevice &&
          request.property == .deviceAddressBinding) = false := by
      simp [binding]
    have content := propertyContent_of_single known valid unlisted plain
    rw [isDevice] at content
    refine selectsOrRefuses_of_single unlisted plain content ?_
    rw [checked, checkDeviceRead, if_neg objectList, if_neg propertyList,
      if_neg binding]
    rfl

/-- An object with a Priority_Array has its entries. -/
theorem priorityArrayEntries_isSome
    (lookup : ObjectLookup) :
    (priorityArrayEntries lookup).isSome = lookup.hasPriorityArray := by
  unfold priorityArrayEntries ObjectLookup.hasPriorityArray
  cases lookup.binaryOutput with
  | some output => simp
  | none =>
      cases lookup.binaryValue with
      | some value => simp
      | none =>
          cases lookup.commandableAnalogValue with
          | some value => simp
          | none => cases lookup.analogOutput <;> rfl

/-- The object of a read is known and sound, and it is not the Device. -/
structure ReadsSound
    (server : BacnetServer)
    (request : BacnetPropertyRequest) : Prop where
  known : (server.lookupObject request.object).isUnknown = false
  valid :
    ((server.lookupObject request.object).multiStateValue.any fun value =>
      !validMultiStateValueConfiguration value) = false
  notDevice : (server.lookupObject request.object).isDevice = false

/-- The value whose texts a read selects from. -/
def stateTextOf
    (server : BacnetServer)
    (request : BacnetPropertyRequest) :
    Option BacnetServerMultiStateValue :=
  if request.property = .stateText then
    (server.lookupObject request.object).multiStateValue
  else
    none

namespace ReadsSound

variable {request : BacnetPropertyRequest}

/-- The first pass over the State_Text of an object. -/
theorem checkRead_texts
    (sound : server.ReadsSound request)
    {value : BacnetServerMultiStateValue}
    (texts : server.stateTextOf request = some value) :
    server.checkRead (server.lookupObject request.object) request =
      checkArrayIndex request.arrayIndex value.numberOfStates.toNat := by
  unfold stateTextOf at texts
  simp only [checkRead, sound.known, sound.notDevice, sound.valid, texts,
    Bool.false_eq_true, ↓reduceIte]

/-- The first pass over any other property. -/
theorem checkRead_noTexts
    (sound : server.ReadsSound request)
    (noTexts : server.stateTextOf request = none) :
    server.checkRead (server.lookupObject request.object) request =
      if request.property = .propertyList then
        checkArrayIndex request.arrayIndex
          (server.objects.objectPropertyCount request.object)
      else if request.arrayIndex ≠ kBacnetNoArrayIndex then
        if (server.lookupObject request.object).hasPriorityArray &&
            request.property == .priorityArray &&
            request.arrayIndex.toNat ≤ kSlotCount then
          .ok {}
        else
          .error invalidArrayIndexError
      else if (server.lookupObject request.object).hasPriorityArray &&
          request.property == .priorityArray then
        .ok {}
      else
        valueOrUnknownProperty
          (server.readFoundProperty
            (server.lookupObject request.object) request.property) := by
  unfold stateTextOf at noTexts
  simp only [checkRead, sound.known, sound.notDevice, sound.valid, noTexts,
    Bool.false_eq_true, ↓reduceIte]

/-- The two passes of a read of the Property_List. -/
theorem selectsOrRefuses_propertyList
    (sound : server.ReadsSound request)
    (propertyList : request.property = .propertyList) :
    server.SelectsOrRefuses request := by
  have listed :
      server.listAnswer (server.lookupObject request.object) request =
        some (server.objects.objectPropertyCount request.object,
          fun index =>
            (server.objects.objectPropertyAt request.object index).map
              fun property => enumeratedValue property.raw) := by
    simp [listAnswer, sound.notDevice, propertyList]
  refine selectsOrRefuses_of_list listed
    (objectPropertyCount_ne_zero sound.known sound.notDevice)
    (propertyContent_of_list sound.known sound.valid listed) ?_
  have noTexts : server.stateTextOf request = none := by
    rw [stateTextOf, propertyList]
    rfl
  rw [sound.checkRead_noTexts noTexts, if_pos propertyList]

/-- The two passes of a read of the State_Text. -/
theorem selectsOrRefuses_texts
    (sound : server.ReadsSound request)
    {value : BacnetServerMultiStateValue}
    (texts : server.stateTextOf request = some value) :
    server.SelectsOrRefuses request := by
  have checked := sound.checkRead_texts texts
  obtain ⟨stateText, found⟩ := (Option.ite_none_right_eq_some).mp texts
  have valid := sound.valid
  rw [found] at valid
  have isValid : validMultiStateValueConfiguration value = true := by
    simpa using valid
  have someState : value.numberOfStates.toNat ≠ 0 := by
    simp only [validMultiStateValueConfiguration, Bool.and_eq_true,
      bne_iff_ne] at isValid
    intro zero
    exact isValid.1.1.1.2 (UInt32.toNat_inj.mp zero)
  have counted :
      (server.listAnswer (server.lookupObject request.object)
          request).map Prod.fst = some value.numberOfStates.toNat := by
    simp [listAnswer, sound.notDevice, stateText, found]
  obtain ⟨⟨_, valueAt⟩, listed, rfl⟩ := Option.map_eq_some_iff.mp counted
  exact selectsOrRefuses_of_list listed someState
    (propertyContent_of_list sound.known sound.valid listed) checked

/-- The two passes of a read of the Priority_Array. -/
theorem selectsOrRefuses_priorities
    (sound : server.ReadsSound request)
    (hasPriorities :
      (server.lookupObject request.object).hasPriorityArray = true)
    (priorityArray : request.property = .priorityArray) :
    server.SelectsOrRefuses request := by
  have noTexts : server.stateTextOf request = none := by
    rw [stateTextOf, priorityArray]
    rfl
  have checked := sound.checkRead_noTexts noTexts
  rw [if_neg (by rw [priorityArray]; decide), hasPriorities,
    beq_iff_eq.mpr priorityArray] at checked
  rw [← priorityArrayEntries_isSome] at hasPriorities
  obtain ⟨valueAt, found⟩ := Option.isSome_iff_exists.mp hasPriorities
  have listed :
      server.listAnswer (server.lookupObject request.object) request =
        some (kSlotCount, valueAt) := by
    simp [listAnswer, sound.notDevice, priorityArray, found]
  refine selectsOrRefuses_of_list listed (by decide)
    (propertyContent_of_list sound.known sound.valid listed) ?_
  rw [checked, checkArrayIndex]
  by_cases whole : request.arrayIndex = kBacnetNoArrayIndex
  · simp [whole]
  · by_cases inside : request.arrayIndex.toNat ≤ kSlotCount
    · simp [whole, inside]
    · simp [whole, inside, Nat.lt_of_not_le inside]

/-- The two passes of a read of a property that is no list. -/
theorem selectsOrRefuses_single
    (sound : server.ReadsSound request)
    (notList : request.property ≠ .propertyList)
    (noTexts : server.stateTextOf request = none)
    (noPriorities :
      ((server.lookupObject request.object).hasPriorityArray &&
        request.property == .priorityArray) = false) :
    server.SelectsOrRefuses request := by
  have noText :
      request.property = .stateText →
        (server.lookupObject request.object).multiStateValue = none := by
    intro stateText
    rwa [stateTextOf, if_pos stateText] at noTexts
  have noEntries :
      request.property = .priorityArray →
        priorityArrayEntries
          (server.lookupObject request.object) = none := by
    intro priorityArray
    rw [← Option.isNone_iff_eq_none, ← Option.not_isSome,
      Bool.not_eq_true', priorityArrayEntries_isSome]
    simpa [priorityArray] using noPriorities
  have unlisted :
      server.listAnswer (server.lookupObject request.object) request =
        none := by
    unfold listAnswer
    by_cases stateText : request.property = .stateText
    · simp [sound.notDevice, stateText, noText stateText]
    · by_cases priorityArray : request.property = .priorityArray
      · simp [sound.notDevice, priorityArray, noEntries priorityArray]
      · simp [sound.notDevice, notList, stateText, priorityArray]
  have plain :
      ((server.lookupObject request.object).isDevice &&
        request.property == .deviceAddressBinding) = false := by
    rw [sound.notDevice]
    rfl
  have content :=
    propertyContent_of_single sound.known sound.valid unlisted plain
  rw [sound.notDevice] at content
  refine selectsOrRefuses_of_single unlisted plain content ?_
  rw [sound.checkRead_noTexts noTexts, if_neg notList, noPriorities]
  rfl

/-- The two passes of a read of an object other than the Device. -/
theorem selectsOrRefuses
    (sound : server.ReadsSound request) :
    server.SelectsOrRefuses request := by
  by_cases propertyList : request.property = .propertyList
  · exact sound.selectsOrRefuses_propertyList propertyList
  cases texts : server.stateTextOf request with
  | some value => exact sound.selectsOrRefuses_texts texts
  | none =>
      by_cases priorities :
          ((server.lookupObject request.object).hasPriorityArray &&
            request.property == .priorityArray) = true
      · obtain ⟨hasPriorities, isArray⟩ :=
          Bool.and_eq_true_iff.mp priorities
        exact sound.selectsOrRefuses_priorities hasPriorities
          (beq_iff_eq.mp isArray)
      · exact sound.selectsOrRefuses_single propertyList texts
          (Bool.eq_false_iff.mpr priorities)

end ReadsSound

/-- Every read is refused and selects nothing, or answers what it selects. -/
theorem selectsOrRefuses
    (request : BacnetPropertyRequest) :
    server.SelectsOrRefuses request := by
  by_cases unknown :
      (server.lookupObject request.object).isUnknown = true
  · have content :
        server.propertyContent request.object request.property =
          .error unknownObjectError := by
      rw [propertyContent, if_pos unknown]
    refine .inl ⟨?_, selected_of_error content⟩
    rw [refusal_of_error content, if_neg (fun both => by cases both.1),
      server.checkRead_of_isUnknown unknown request]
  rw [Bool.not_eq_true] at unknown
  by_cases isDevice :
      (server.lookupObject request.object).isDevice = true
  · exact selectsOrRefuses_device isDevice
  rw [Bool.not_eq_true] at isDevice
  by_cases invalid :
      ((server.lookupObject request.object).multiStateValue.any fun value =>
        !validMultiStateValueConfiguration value) = true
  · have content :
        server.propertyContent request.object request.property =
          .error valueOutOfRangeError := by
      simp only [propertyContent, unknown, invalid, Bool.false_eq_true,
        ↓reduceIte]
    refine .inl ⟨?_, selected_of_error content⟩
    rw [refusal_of_error content, if_neg (fun both => by cases both.1)]
    simp only [checkRead, unknown, isDevice, invalid, Bool.false_eq_true,
      ↓reduceIte]
  · rw [Bool.not_eq_true] at invalid
    exact ReadsSound.selectsOrRefuses ⟨unknown, invalid, isDevice⟩

/-- What an answer encodes is what is acknowledged. -/
theorem ReadAnswer.build_eq_acknowledgement
    {answer : ReadAnswer}
    {request : BacnetReadPropertyRequestHeader}
    {values : List (Option BacnetValue)}
    (addressable : Addressable request.request.object)
    (encoded :
      answer.values request.request =
        values.mapM fun value => value.bind applicationOctets) :
    answer.build request = acknowledgement request values := by
  refine Option.ext fun packet => ?_
  rw [ReadAnswer.build_eq_some_iff, acknowledgement_eq_some_iff, encoded]
  exact and_iff_right addressable

/-! The replies of a server, and the arrays among them. -/

/-- The answer to a read is this error. -/
def RefusesRead
    (server : BacnetServer)
    (input : PollInput)
    (request : BacnetReadPropertyRequestHeader)
    (error : BacnetError) : Prop :=
  (server.handleReadProperty input request).datagram =
    some ⟨input.source,
      serviceErrorPacket request.invokeId kServiceReadProperty
        error.1 error.2⟩

/-- The answer to a read is an acknowledgement with these values. -/
def AcknowledgesRead
    (server : BacnetServer)
    (input : PollInput)
    (request : BacnetReadPropertyRequestHeader)
    (values : List BacnetValue) : Prop :=
  ∃ encoded,
    values.mapM applicationOctets = some encoded ∧
    (server.handleReadProperty input request).datagram =
      some ⟨input.source, readAckPacket request encoded⟩

variable
  (input : PollInput)
  {request : BacnetReadPropertyRequestHeader}

/--
A read is refused and selects nothing, or its answer is the acknowledgement
of what it selects.
-/
theorem handleReadProperty_selected
    (addressable : Addressable request.request.object) :
    (server.selected request.request = none ∧
      server.RefusesRead input request (server.refusal request.request)) ∨
    ∃ values,
      server.selected request.request = some values ∧
      (server.handleReadProperty input request).datagram =
        (acknowledgement request values).map fun packet =>
          ⟨input.source, packet⟩ := by
  have replies := server.handleReadProperty_datagram input request
  rcases @selectsOrRefuses server request.request
    with ⟨refused, nothing⟩ | ⟨value, values, accepted, selects, encoded⟩
  · refine .inl ⟨nothing, ?_⟩
    rcases replies with ⟨_, same, sent⟩ | ⟨_, impossible, _⟩
    · rw [refused] at same
      rw [RefusesRead, sent, Except.error.inj same]
    · rw [refused] at impossible
      cases impossible
  · refine .inr ⟨values, selects, ?_⟩
    rcases replies with ⟨_, impossible, _⟩ | ⟨_, same, sent⟩
    · rw [accepted] at impossible
      cases impossible
    · rw [accepted] at same
      obtain rfl := Except.ok.inj same
      rw [sent, ReadAnswer.build_eq_acknowledgement addressable encoded]

/-- An acknowledgement is not an error. -/
theorem acknowledgement_ne_error
    {values : List (Option BacnetValue)}
    {error : BacnetError} :
    (acknowledgement request values).map
        (fun packet => (⟨input.source, packet⟩ : Datagram)) ≠
      some ⟨input.source,
        serviceErrorPacket request.invokeId kServiceReadProperty
          error.1 error.2⟩ := by
  intro same
  obtain ⟨packet, built, isError⟩ := Option.map_eq_some_iff.mp same
  obtain ⟨encoded, _, _, rfl⟩ := acknowledgement_eq_some_iff.mp built
  have kind := getElem?_readAckPacket request encoded
  have samePacket :
      readAckPacket request encoded =
        serviceErrorPacket request.invokeId kServiceReadProperty
          error.1 error.2 :=
    congrArg Datagram.packet isError
  rw [samePacket] at kind
  simp [serviceErrorPacket, kApduError, kApduComplexAck] at kind

/-- The errors of a read have small numbers. -/
theorem readRefusal_small
    (request : BacnetPropertyRequest)
    (nothing : server.selected request = none) :
    (server.refusal request).1 ≤ 0xFF ∧
      (server.refusal request).2 ≤ 0xFF := by
  rcases @selectsOrRefuses server request
    with ⟨refused, _⟩ | ⟨_, _, _, selects, _⟩
  · rcases server.checkRead_error refused with ⟨_, same⟩ | ⟨_, errors⟩
    · rw [same]
      decide
    · exact errors.small
  · rw [nothing] at selects
    cases selects

/-- A read is refused with its own error and no other one. -/
theorem refusesRead_iff
    (addressable : Addressable request.request.object)
    {error : BacnetError}
    (small : error.1 ≤ 0xFF ∧ error.2 ≤ 0xFF) :
    server.RefusesRead input request error ↔
      server.selected request.request = none ∧
        server.refusal request.request = error := by
  rcases handleReadProperty_selected input addressable
    with ⟨nothing, refused⟩ | ⟨values, selects, sent⟩
  · rw [RefusesRead, refused]
    constructor
    · intro same
      have samePacket := congrArg Datagram.packet (Option.some.inj same)
      exact ⟨nothing,
        serviceErrorPacket_inj (readRefusal_small _ nothing) small samePacket⟩
    · rintro ⟨_, same⟩
      rw [same]
  · rw [RefusesRead, sent]
    constructor
    · intro same
      exact (acknowledgement_ne_error input same).elim
    · rintro ⟨nothing, _⟩
      rw [nothing] at selects
      cases selects

/-- A request for a property of an object, with any index. -/
structure AsksFor
    (request : BacnetReadPropertyRequestHeader)
    (object : BacnetObjectId)
    (property : BacnetPropertyId) : Prop where
  object : request.request.object = object
  property : request.request.property = property

/--
Reads of an array property: the length, one entry, the error past the end,
and the whole array or no answer.  The last index stands for no index.
-/
structure AnswersAsArray
    (server : BacnetServer)
    (object : BacnetObjectId)
    (property : BacnetPropertyId)
    (values : List BacnetValue) : Prop where
  countable : values.length < kBacnetNoArrayIndex.toNat
  length :
    ∀ input request,
      AsksFor request object property →
      request.request.arrayIndex = 0 →
      server.AcknowledgesRead input request
        [unsignedValue (UInt32.ofNat values.length)]
  entry :
    ∀ input request,
      AsksFor request object property →
      request.request.arrayIndex ≠ 0 →
      request.request.arrayIndex ≠ kBacnetNoArrayIndex →
      ∀ value,
        values[request.request.arrayIndex.toNat - 1]? = some value →
        server.AcknowledgesRead input request [value]
  pastEnd :
    ∀ input request,
      AsksFor request object property →
      request.request.arrayIndex ≠ kBacnetNoArrayIndex →
      values.length < request.request.arrayIndex.toNat →
      server.RefusesRead input request invalidArrayIndexError
  whole :
    ∀ input request,
      AsksFor request object property →
      request.request.arrayIndex = kBacnetNoArrayIndex →
      (server.handleReadProperty input request).datagram = none ∨
        server.AcknowledgesRead input request values

/-- Available values are encoded one by one. -/
theorem mapM_some_bind
    (values : List BacnetValue) :
    ((values.map some).mapM fun value : Option BacnetValue =>
        value.bind applicationOctets) =
      values.mapM applicationOctets := by
  rw [List.mapM_map]
  rfl

/-- What is acknowledged is what was selected. -/
theorem datagram_of_selected
    (addressable : Addressable request.request.object)
    {values : List (Option BacnetValue)}
    (selects : server.selected request.request = some values) :
    (server.handleReadProperty input request).datagram =
      (acknowledgement request values).map fun packet =>
        ⟨input.source, packet⟩ := by
  rcases handleReadProperty_selected input addressable
    with ⟨nothing, _⟩ | ⟨others, selectsOthers, sent⟩
  · rw [nothing] at selects
    cases selects
  · obtain rfl := Option.some.inj (selects.symm.trans selectsOthers)
    exact sent

/-- A short value is acknowledged. -/
theorem acknowledgesRead_single
    (addressable : Addressable request.request.object)
    {value : BacnetValue}
    {octets : List UInt8}
    (selects : server.selected request.request = some [some value])
    (encoded : applicationOctets value = some octets)
    (short : octets.length ≤ 5) :
    server.AcknowledgesRead input request [value] := by
  have few := length_readAckPrefix_le request
  refine ⟨[octets], by simp [encoded], ?_⟩
  rw [datagram_of_selected input addressable selects,
    acknowledgement_eq_some_iff.mpr
      ⟨[octets], by simp [encoded], ?_, rfl⟩]
  · rfl
  · rw [AckFits, List.flatten_singleton]
    have size : kMaxDatagramSize = 1476 := rfl
    omega

/-- An array of short values is read entry by entry. -/
theorem answersAsArray_of_content
    {object : BacnetObjectId}
    {property : BacnetPropertyId}
    {values : List BacnetValue}
    (addressable : Addressable object)
    (countable : values.length < kBacnetNoArrayIndex.toNat)
    (content :
      server.propertyContent object property =
        .ok (.array (values.map some)))
    (short :
      ∀ value ∈ values,
        ∃ octets,
          applicationOctets value = some octets ∧ octets.length ≤ 5) :
    server.AnswersAsArray object property values := by
  have contentOf
      {request : BacnetReadPropertyRequestHeader}
      (asks : AsksFor request object property) :
      server.propertyContent request.request.object
          request.request.property =
        .ok (.array (values.map some)) := by
    rw [asks.object, asks.property, content]
  have addressableOf
      {request : BacnetReadPropertyRequestHeader}
      (asks : AsksFor request object property) :
      Addressable request.request.object := by
    rwa [asks.object]
  refine ⟨countable, ?_, ?_, ?_, ?_⟩
  · intro input request asks first
    obtain ⟨octets, encoded, few⟩ :=
      applicationOctets_unsignedValue (UInt32.ofNat values.length)
    refine acknowledgesRead_single input (addressableOf asks) ?_ encoded few
    have indexed : ¬request.request.arrayIndex = kBacnetNoArrayIndex := by
      rw [first]
      decide
    rw [selected_of_content (contentOf asks), PropertyContent.select,
      if_neg indexed, if_pos first, List.length_map]
  · intro input request asks later indexed value found
    obtain ⟨octets, encoded, few⟩ :=
      short value (List.mem_of_getElem? found)
    refine acknowledgesRead_single input (addressableOf asks) ?_ encoded few
    rw [selected_of_content (contentOf asks), PropertyContent.select,
      if_neg indexed, if_neg later, List.getElem?_map, found]
    rfl
  · intro input request asks indexed past
    refine (refusesRead_iff input (addressableOf asks)
      (by decide)).mpr ⟨?_, refusal_of_content (contentOf asks)⟩
    have later : ¬request.request.arrayIndex = 0 := by
      intro first
      rw [first] at past
      exact Nat.not_lt_zero _ past
    have beyond :
        (values.map some).length ≤
          request.request.arrayIndex.toNat - 1 := by
      rw [List.length_map]
      omega
    rw [selected_of_content (contentOf asks), PropertyContent.select,
      if_neg indexed, if_neg later, List.getElem?_eq_none beyond]
    rfl
  · intro input request asks whole
    have selects :
        server.selected request.request = some (values.map some) := by
      rw [selected_of_content (contentOf asks), PropertyContent.select,
        if_pos whole]
    have sent := datagram_of_selected input (addressableOf asks) selects
    cases built : acknowledgement request (values.map some) with
    | none =>
        rw [built] at sent
        exact .inl sent
    | some packet =>
        obtain ⟨encoded, areEncoded, _, rfl⟩ :=
          acknowledgement_eq_some_iff.mp built
        rw [built] at sent
        rw [mapM_some_bind] at areEncoded
        exact .inr ⟨encoded, areEncoded, sent⟩

end BacnetServer

end BacnetStack
