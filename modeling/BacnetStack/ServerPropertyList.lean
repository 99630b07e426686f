import BacnetStack.ServerPropertyReads

namespace BacnetStack

open EventRun

/-!
# The property list

The Property_List of an object is counted and indexed apart from the code
that reads its properties.  Both go by three sources: the base properties of
the kind, the registrations, and the optional properties.
-/

namespace ServerObjects

/-- Optional properties are distinct and supported by the kind. -/
structure SlotsValid
    (support : PropertySupport)
    (slots : List BacnetObjectPropertySlot) : Prop where
  distinct : (slots.map BacnetObjectPropertySlot.property).Nodup
  supported :
    ∀ slot ∈ slots, support.supportsProperty slot.property slot.value

/-- All registered properties and states went through their checks. -/
structure PropertiesValid (objects : ServerObjects) : Prop where
  multiStateValues :
    ∀ value ∈ objects.multiStateValues,
      validMultiStateValueConfiguration value = true
  registrationsDistinct :
    (objects.propertyRegistrations.map fun registration =>
      (registration.object, registration.property)).Nodup
  registrationsValid :
    ∀ registration ∈ objects.propertyRegistrations,
      validPropertyRegistration registration = true
  analogInputs :
    ∀ source ∈ objects.objectCentricAnalogInputs,
      SlotsValid analogInputSupport source.properties
  binaryInputs :
    ∀ source ∈ objects.objectCentricBinaryInputs,
      SlotsValid binaryInputSupport source.properties
  binaryOutputs :
    ∀ source ∈ objects.objectCentricBinaryOutputs,
      SlotsValid binaryOutputSupport source.properties

variable {objects : ServerObjects}

/-- An added object brings valid optional properties. -/
theorem registerObject_slotsValid
    {Object : Type}
    {support : PropertySupport}
    {instanceOf : Object → UInt32}
    {valid : Object → Bool}
    {array : List Object}
    {registered : List (ObjectCentric Object)}
    (properties : ObjectProperties support)
    (declared : Declared Object)
    (before :
      ∀ source ∈ registered, SlotsValid support source.properties) :
    ∀ source ∈
      (registerObject instanceOf valid array registered properties
        declared).1,
      SlotsValid support source.properties := by
  rcases @registerObject_cases _ instanceOf valid support array registered
      properties declared
    with ⟨unchanged, _⟩ | ⟨_, _, _, added⟩
  · rwa [unchanged]
  · rw [added]
    intro source isMember
    rcases List.mem_append.mp isMember with old | new
    · exact before source old
    · rw [List.mem_singleton.mp new]
      exact ⟨properties.distinct, properties.supported⟩

/-- Accepted registrations are distinct and valid. -/
theorem setPropertyRegistrations_valid
    (registrations :
      Option (List (Declared BacnetServerPropertyRegistration)))
    (valid : objects.PropertiesValid) :
    (objects.setPropertyRegistrations registrations).1.PropertiesValid := by
  unfold setPropertyRegistrations
  rcases @registerArray_cases _ (BacnetObjectId × BacnetPropertyId) _ _ _
      objects.propertyRegistrations registrations
    with rejected | ⟨stored, accepted, distinct, allValid⟩
  · rw [rejected]
    exact valid
  · rw [accepted]
    exact { valid with
      registrationsDistinct := distinct
      registrationsValid := allValid }

/-- Accepted Multi-State Values are valid. -/
theorem setMultiStateValues_valid
    (values : Option (List (Declared BacnetServerMultiStateValue)))
    (valid : objects.PropertiesValid) :
    (objects.setMultiStateValues values).1.PropertiesValid := by
  unfold setMultiStateValues
  rcases @registerArray_cases _ UInt32 _ _ _ objects.multiStateValues values
    with rejected | ⟨stored, accepted, _, allValid⟩
  · rw [rejected]
    exact valid
  · rw [accepted]
    exact { valid with multiStateValues := allValid }

/-- Every registration call keeps the registered properties valid. -/
theorem register_propertiesValid
    (call : RegistrationCall)
    (valid : objects.PropertiesValid) :
    (objects.register call).PropertiesValid := by
  cases call with
  | setPropertyRegistrations registrations =>
      exact setPropertyRegistrations_valid registrations valid
  | setMultiStateValues values =>
      exact setMultiStateValues_valid values valid
  | addAnalogInput properties object =>
      exact { valid with
        analogInputs :=
          @registerObject_slotsValid _ _ BacnetServerAnalogInput.instance_
            (fun input =>
              validObjectConfiguration input.instance_ input.objectName)
            objects.analogInputs _ properties object valid.analogInputs }
  | addBinaryInput properties object =>
      exact { valid with
        binaryInputs :=
          @registerObject_slotsValid _ _ BacnetServerBinaryInput.instance_
            (fun input =>
              validObjectConfiguration input.instance_ input.objectName)
            objects.binaryInputs _ properties object valid.binaryInputs }
  | addBinaryOutput properties object =>
      exact { valid with
        binaryOutputs :=
          registerObject_slotsValid properties object valid.binaryOutputs }
  | _ => exact { valid with }

/-- The properties registered by any sequence of calls are valid. -/
theorem run_propertiesValid (calls : List RegistrationCall) :
    (run register {} calls).PropertiesValid := by
  refine run_invariant PropertiesValid
    (fun _ call valid => register_propertiesValid call valid) ?_ calls
  exact ⟨by simp, List.nodup_nil, by simp, by simp, by simp, by simp⟩

end ServerObjects

namespace ServerObjects

variable (objects : ServerObjects)

/-- Optional properties outside a base list. -/
def extraOptional
    (object : BacnetObjectId)
    (base : List BacnetPropertyId) : List BacnetPropertyId :=
  ((objects.optionalProperties object).filter fun slot =>
    !base.contains slot.property).map BacnetObjectPropertySlot.property

/-- Base properties, registrations and optional properties, in this order. -/
def listedProperties (object : BacnetObjectId) : List BacnetPropertyId :=
  let base := (objects.baseProperties object).getD []
  base ++ objects.extraRegistrations object base ++
    objects.extraOptional object base

theorem objectPropertyCount_eq (object : BacnetObjectId) :
    objects.objectPropertyCount object =
      (objects.listedProperties object).length := by
  simp [objectPropertyCount, listedProperties, extraOptional,
    Nat.add_assoc]

/-- Only three kinds have optional properties. -/
theorem optionalProperties_eq_nil
    {object : BacnetObjectId}
    (noAnalogInput : object.type ≠ BacnetObjectType.analogInput)
    (noBinaryInput : object.type ≠ BacnetObjectType.binaryInput)
    (noBinaryOutput : object.type ≠ BacnetObjectType.binaryOutput) :
    objects.optionalProperties object = [] := by
  unfold optionalProperties
  dsimp only
  rw [if_neg noAnalogInput, if_neg noBinaryInput, if_neg noBinaryOutput]

/-- The kinds with optional properties agree on their base properties. -/
theorem isBaseProperty_eq
    {object : BacnetObjectId}
    {base : List BacnetPropertyId}
    (found : objects.baseProperties object = some base)
    {slot : BacnetObjectPropertySlot}
    (isOptional : slot ∈ objects.optionalProperties object) :
    isBaseProperty object slot.property = base.contains slot.property := by
  have kind :
      object.type = BacnetObjectType.analogInput ∨
        object.type = BacnetObjectType.binaryInput ∨
        object.type = BacnetObjectType.binaryOutput := by
    by_contra none
    simp only [not_or] at none
    rw [objects.optionalProperties_eq_nil none.1 none.2.1 none.2.2]
      at isOptional
    cases isOptional
  rcases kind with kind | kind | kind
  all_goals
    rw [baseProperties, kind] at found
    obtain rfl := Option.some.inj found
    rw [isBaseProperty, kind]
    rfl

/-- The index goes through the listed properties. -/
theorem objectPropertyAt_eq
    {object : BacnetObjectId}
    {base : List BacnetPropertyId}
    (found : objects.baseProperties object = some base)
    (index : Nat) :
    objects.objectPropertyAt object index =
      (objects.listedProperties object)[index]? := by
  have optional :
      ((objects.optionalProperties object).filter fun slot =>
          !isBaseProperty object slot.property) =
        (objects.optionalProperties object).filter fun slot =>
          !base.contains slot.property := by
    refine List.filter_congr fun slot isOptional => ?_
    rw [objects.isBaseProperty_eq found isOptional]
  simp [objectPropertyAt, listedProperties, extraOptional, found, optional]

end ServerObjects

namespace BacnetServer

variable (server : BacnetServer)

/-- What the Property_List of an object enumerates. -/
def listedProperties (object : BacnetObjectId) : List BacnetPropertyId :=
  if object = server.deviceObject then
    kDeviceProperties ++ server.deviceRegistrations
  else
    server.objects.listedProperties object

/-- A property as an entry of the list. -/
def propertyEntry (property : BacnetPropertyId) : BacnetValue :=
  enumeratedValue property.raw

/-- Counting and indexing a list gives its entries. -/
theorem map_range_eq
    {valueAt : Nat → Option BacnetPropertyId}
    {listed : List BacnetPropertyId}
    (indexed : ∀ index, valueAt index = listed[index]?) :
    (List.range listed.length).map
        (fun index => (valueAt index).map propertyEntry) =
      (listed.map propertyEntry).map some := by
  refine List.ext_getElem? fun index => ?_
  simp only [indexed, List.getElem?_map]
  by_cases inside : index < listed.length
  · rw [List.getElem?_range inside, List.getElem?_eq_getElem inside]
    simp [List.getElem?_eq_getElem inside]
  · rw [List.getElem?_eq_none (by simpa using inside),
      List.getElem?_eq_none (by simpa using inside)]
    rfl

variable {server}

/-- The entries of the Property_List are the listed properties. -/
theorem propertyContent_propertyList
    {object : BacnetObjectId}
    (known : (server.lookupObject object).isUnknown = false)
    (valid :
      ((server.lookupObject object).multiStateValue.any fun value =>
        !validMultiStateValueConfiguration value) = false) :
    server.propertyContent object .propertyList =
      .ok (.array
        (((server.listedProperties object).map propertyEntry).map
          some)) := by
  by_cases device : object = server.deviceObject
  · have isDevice : (server.lookupObject object).isDevice = true :=
      beq_iff_eq.mpr device
    rw [listedProperties, if_pos device,
      ← @map_range_eq server.devicePropertyAt _ fun _ => rfl,
      List.length_append]
    exact @propertyContent_of_list server
      ⟨object, .propertyList, kBacnetNoArrayIndex⟩ _ _ known valid
      (by simp [listAnswer, isDevice, devicePropertyCount]; rfl)
  · have notDevice : (server.lookupObject object).isDevice = false :=
      beq_eq_false_iff_ne.mpr device
    obtain ⟨first, rest, base⟩ := baseProperties_of_known known notDevice
    rw [listedProperties, if_neg device,
      ← map_range_eq (server.objects.objectPropertyAt_eq base),
      ← server.objects.objectPropertyCount_eq]
    exact @propertyContent_of_list server
      ⟨object, .propertyList, kBacnetNoArrayIndex⟩ _ _ known valid
      (by simp [listAnswer, notDevice]; rfl)

end BacnetServer

namespace ServerObjects

variable {objects : ServerObjects} {object : BacnetObjectId}

/-- The properties an object-centric object adds on its own. -/
def optionalIds
    (objects : ServerObjects)
    (object : BacnetObjectId) : List BacnetPropertyId :=
  (objects.optionalProperties object).map BacnetObjectPropertySlot.property

/-- A registration of the property exists. -/
def HasRegistration
    (objects : ServerObjects)
    (object : BacnetObjectId)
    (property : BacnetPropertyId) : Prop :=
  (objects.findPropertyRegistration object property).isSome = true

/-- Every provider of a property of the object returns a value. -/
structure ProvidersSucceed
    (objects : ServerObjects)
    (object : BacnetObjectId) : Prop where
  registrations :
    ∀ registration ∈ objects.propertyRegistrations,
      registration.object = object →
      registration.provider.isSome = true
  optional :
    ∀ property ∈ objects.optionalIds object,
      (readStoredProperty (objects.optionalProperties object)
        property).isSome = true

/-- Found registrations provide their value. -/
theorem ProvidersSucceed.provider_isSome
    (providers : objects.ProvidersSucceed object)
    {property : BacnetPropertyId}
    {registration : BacnetServerPropertyRegistration}
    (found :
      objects.findPropertyRegistration object property =
        some registration) :
    registration.provider.isSome = true := by
  refine providers.registrations registration
    (List.mem_of_find?_eq_some found) ?_
  have matched := List.find?_some found
  rw [Bool.and_eq_true, beq_iff_eq] at matched
  exact matched.1

/-- A property is read when any of its three sources has it. -/
theorem readProperty_isSome_iff
    (providers : objects.ProvidersSucceed object)
    {property : BacnetPropertyId}
    {own : Option BacnetValue} :
    (objects.readProperty object property own).isSome = true ↔
      property ∈ objects.optionalIds object ∨
        objects.HasRegistration object property ∨ own.isSome = true := by
  unfold readProperty HasRegistration
  cases stored :
      readStoredProperty (objects.optionalProperties object) property with
  | some value =>
      have isOptional : property ∈ objects.optionalIds object := by
        simp only [readStoredProperty, Option.bind_eq_bind,
          Option.bind_eq_some_iff] at stored
        obtain ⟨slot, found, _⟩ := stored
        have same := List.find?_some found
        rw [← beq_iff_eq.mp same]
        exact List.mem_map_of_mem (List.mem_of_find?_eq_some found)
      simp [isOptional]
  | none =>
      have notOptional : property ∉ objects.optionalIds object := by
        intro isOptional
        have succeeds := providers.optional property isOptional
        rw [stored] at succeeds
        cases succeeds
      cases found : objects.findPropertyRegistration object property with
      | some registration =>
          simp [notOptional, providers.provider_isSome found]
      | none => simp [notOptional]

theorem mem_extraRegistrations_iff
    {base : List BacnetPropertyId}
    {property : BacnetPropertyId} :
    property ∈ objects.extraRegistrations object base ↔
      objects.HasRegistration object property ∧ property ∉ base := by
  simp only [extraRegistrations, HasRegistration,
    findPropertyRegistration, List.find?_isSome, List.mem_map,
    List.mem_filter, Bool.and_eq_true, beq_iff_eq, Bool.not_eq_true',
    List.contains_eq_mem, decide_eq_false_iff_not]
  constructor
  · rintro ⟨registration, ⟨isMember, same, extra⟩, rfl⟩
    exact ⟨⟨registration, isMember, same, rfl⟩, extra⟩
  · rintro ⟨⟨registration, isMember, same, rfl⟩, extra⟩
    exact ⟨registration, ⟨isMember, same, extra⟩, rfl⟩

theorem mem_extraOptional_iff
    {base : List BacnetPropertyId}
    {property : BacnetPropertyId} :
    property ∈ objects.extraOptional object base ↔
      property ∈ objects.optionalIds object ∧ property ∉ base := by
  simp only [extraOptional, optionalIds, List.mem_map, List.mem_filter,
    Bool.not_eq_true', List.contains_eq_mem, decide_eq_false_iff_not]
  constructor
  · rintro ⟨slot, ⟨isMember, extra⟩, rfl⟩
    exact ⟨⟨slot, isMember, rfl⟩, extra⟩
  · rintro ⟨⟨slot, isMember, rfl⟩, extra⟩
    exact ⟨slot, ⟨isMember, extra⟩, rfl⟩

/-- The list collects the three sources. -/
theorem mem_listedProperties_iff
    {base : List BacnetPropertyId}
    (found : objects.baseProperties object = some base)
    {property : BacnetPropertyId} :
    property ∈ objects.listedProperties object ↔
      property ∈ base ∨ objects.HasRegistration object property ∨
        property ∈ objects.optionalIds object := by
  simp only [listedProperties, found, Option.getD_some, List.mem_append,
    mem_extraRegistrations_iff, mem_extraOptional_iff]
  by_cases isBase : property ∈ base
  · simp [isBase]
  · simp [isBase]

/-- Registrations of one object are about distinct properties. -/
theorem PropertiesValid.extraRegistrations_distinct
    (valid : objects.PropertiesValid)
    (base : List BacnetPropertyId) :
    (objects.extraRegistrations object base).Nodup := by
  unfold extraRegistrations
  have kept :=
    (List.filter_sublist
      (p := fun registration : BacnetServerPropertyRegistration =>
        registration.object == object &&
          !base.contains registration.property)
      (l := objects.propertyRegistrations)).map
        fun registration : BacnetServerPropertyRegistration =>
          (registration.object, registration.property)
  have distinct := valid.registrationsDistinct.sublist kept
  refine List.Nodup.of_map (fun property => (object, property)) ?_
  rw [List.map_map]
  refine (congrArg List.Nodup ?_).mp distinct
  refine List.map_congr_left fun registration isMember => ?_
  have same := (List.mem_filter.mp isMember).2
  rw [Bool.and_eq_true, beq_iff_eq] at same
  rw [Function.comp_apply, same.1]

/-- The optional properties of an object are distinct. -/
theorem PropertiesValid.optionalIds_distinct
    (valid : objects.PropertiesValid) :
    (objects.optionalIds object).Nodup := by
  have ofSource
      {Object : Type}
      {support : PropertySupport}
      {sources : List (ObjectCentric Object)}
      (allValid :
        ∀ source ∈ sources, SlotsValid support source.properties)
      {isSource : ObjectCentric Object → Bool}
      {source : ObjectCentric Object}
      (found : sources.find? isSource = some source) :
      (source.properties.map BacnetObjectPropertySlot.property).Nodup :=
    (allValid source (List.mem_of_find?_eq_some found)).distinct
  unfold optionalIds optionalProperties
  dsimp only
  split
  · split
    · rename_i found
      exact ofSource valid.analogInputs found
    · exact List.nodup_nil
  · split
    · split
      · rename_i found
        exact ofSource valid.binaryInputs found
      · exact List.nodup_nil
    · split
      · split
        · rename_i found
          exact ofSource valid.binaryOutputs found
        · exact List.nodup_nil
      · exact List.nodup_nil

/--
The list repeats nothing exactly when no optional property outside the base
list is registered as well.
-/
theorem listedProperties_nodup_iff
    (valid : objects.PropertiesValid)
    {base : List BacnetPropertyId}
    (found : objects.baseProperties object = some base)
    (baseDistinct : base.Nodup) :
    (objects.listedProperties object).Nodup ↔
      ∀ property ∈ objects.optionalIds object,
        property ∉ base → ¬objects.HasRegistration object property := by
  have optionalDistinct : (objects.optionalIds object).Nodup :=
    valid.optionalIds_distinct
  have extraOptionalDistinct :
      (objects.extraOptional object base).Nodup :=
    optionalDistinct.sublist ((List.filter_sublist).map _)
  have baseApart :
      base.Disjoint (objects.extraRegistrations object base) := by
    rw [List.disjoint_left]
    intro property isBase isExtra
    exact (mem_extraRegistrations_iff.mp isExtra).2 isBase
  simp only [listedProperties, found, Option.getD_some,
    List.nodup_append', baseDistinct, extraOptionalDistinct, baseApart,
    valid.extraRegistrations_distinct, true_and, List.disjoint_left,
    List.mem_append, mem_extraRegistrations_iff, mem_extraOptional_iff]
  constructor
  · intro apart property isOptional extra registered
    exact apart (.inr ⟨registered, extra⟩) ⟨isOptional, extra⟩
  · intro apart property listed optional
    rcases listed with isBase | ⟨registered, extra⟩
    · exact optional.2 isBase
    · exact apart property optional.1 extra registered

end ServerObjects

namespace BacnetServer

variable {server : BacnetServer} {object : BacnetObjectId}

/-- A read is refused as unknown or has content. -/
theorem propertyContent_readable_iff
    (known : (server.lookupObject object).isUnknown = false)
    (valid :
      ((server.lookupObject object).multiStateValue.any fun value =>
        !validMultiStateValueConfiguration value) = false)
    (notDevice : (server.lookupObject object).isDevice = false)
    (property : BacnetPropertyId) :
    server.propertyContent object property ≠
        .error unknownPropertyError ↔
      (server.listAnswer (server.lookupObject object)
          { object, property }).isSome = true ∨
        (server.readFoundProperty (server.lookupObject object)
          property).isSome = true := by
  simp only [propertyContent, known, valid, notDevice,
    Bool.false_eq_true, ↓reduceIte, Bool.false_and]
  cases server.listAnswer (server.lookupObject object)
      { object, property } with
  | some answer => simp
  | none =>
      cases server.readFoundProperty (server.lookupObject object)
          property <;> simp

/-- What is read of an object is what is listed, unless it cannot scale. -/
theorem readable_iff_listed
    {base : List BacnetPropertyId}
    (kind : server.KindReads object base)
    (providers : server.objects.ProvidersSucceed object)
    (known : (server.lookupObject object).isUnknown = false)
    (valid :
      ((server.lookupObject object).multiStateValue.any fun value =>
        !validMultiStateValueConfiguration value) = false)
    (notDevice : (server.lookupObject object).isDevice = false)
    (property : BacnetPropertyId) :
    server.propertyContent object property ≠
        .error unknownPropertyError ↔
      (property ∈ base ∧
        (property = .presentValue →
          ∀ input,
            (server.lookupObject object).analogInput = some input →
            input.scalesPresentValue = true)) ∨
      server.objects.HasRegistration object property ∨
        property ∈ server.objects.optionalIds object := by
  obtain ⟨own, reads, lists⟩ := kind.reads property
  rw [propertyContent_readable_iff known valid notDevice, reads,
    ServerObjects.readProperty_isSome_iff providers, ← lists]
  grind

/-! The properties of the Device. -/

/-- The device text behind a property. -/
def deviceTextOf
    (server : BacnetServer)
    (property : BacnetPropertyId) : Option (Option (List UInt8)) :=
  match property with
  | .objectName => some server.device.objectName
  | .vendorName => some server.device.vendorName
  | .modelName => some server.device.modelName
  | .firmwareRevision => some server.device.firmwareRevision
  | .applicationSoftwareVersion =>
      some server.applicationSoftwareVersionText
  | _ => none

/-- A device text is set and fits a value. -/
def IsReadableText (text : Option (List UInt8)) : Prop :=
  ∃ characters, text = some characters ∧ characters.length < kMaxTextLength

theorem deviceText_isSome_iff
    {text : Option (List UInt8)} :
    (deviceText text).isSome = true ↔ IsReadableText text := by
  unfold deviceText IsReadableText
  cases text with
  | none => simp
  | some characters =>
      by_cases long : kMaxTextLength ≤ characters.length
      · simp [long, Nat.not_lt.mpr long]
      · simp [long, Nat.lt_of_not_le long]

/-- Without a registration the Device reads its base properties. -/
theorem device_lists
    {property : BacnetPropertyId}
    (unregistered :
      server.objects.findPropertyRegistration server.deviceObject property =
        none) :
    (property = .objectList ∨ property = .propertyList ∨
        property = .deviceAddressBinding) ∨
      (server.readDeviceProperty property).isSome = true ↔
    property ∈ kDeviceProperties ∧
      ∀ text,
        server.deviceTextOf property = some text → IsReadableText text := by
  unfold readDeviceProperty deviceTextOf
  rw [unregistered]
  dsimp only
  split
  all_goals
    simp [kDeviceProperties, deviceText_isSome_iff]
  simp_all
  grind

/-- The Device answers three properties without a value of its own. -/
theorem device_content_iff
    (property : BacnetPropertyId) :
    server.propertyContent server.deviceObject property ≠
        .error unknownPropertyError ↔
      (property = .objectList ∨ property = .propertyList ∨
          property = .deviceAddressBinding) ∨
        (server.readDeviceProperty property).isSome = true := by
  have isDevice :
      (server.lookupObject server.deviceObject).isDevice = true :=
    beq_self_eq_true _
  have known :
      (server.lookupObject server.deviceObject).isUnknown = false := by
    simp [ObjectLookup.isUnknown, isDevice]
  have noMultiState := server.multiStateValue_of_isDevice isDevice
  have noPriorities := priorityArrayEntries_of_isDevice isDevice
  simp only [propertyContent, known, noMultiState, isDevice,
    Bool.false_eq_true, ↓reduceIte, Bool.true_and, Option.any_none]
  by_cases objectList : property = .objectList
  · simp [listAnswer, isDevice, objectList]
  by_cases propertyList : property = .propertyList
  · simp [listAnswer, isDevice, propertyList]
  have unlisted :
      server.listAnswer (server.lookupObject server.deviceObject)
          { object := server.deviceObject, property := property } =
        none := by
    simp [listAnswer, isDevice, objectList, propertyList, noMultiState,
      noPriorities]
  rw [unlisted]
  by_cases binding : property = .deviceAddressBinding
  · simp [binding]
  · cases server.readDeviceProperty property <;>
      simp [objectList, propertyList, binding]

/-- A property of the Device is read when it is listed with a text. -/
theorem device_readable_iff
    (providers :
      server.objects.ProvidersSucceed server.deviceObject)
    (property : BacnetPropertyId) :
    server.propertyContent server.deviceObject property ≠
        .error unknownPropertyError ↔
      server.objects.HasRegistration server.deviceObject property ∨
        property ∈ kDeviceProperties ∧
          ∀ text,
            server.deviceTextOf property = some text →
            IsReadableText text := by
  rw [device_content_iff]
  cases found :
      server.objects.findPropertyRegistration server.deviceObject
        property with
  | none =>
      rw [device_lists found, ServerObjects.HasRegistration, found]
      simp
  | some registration =>
      have provided : (server.readDeviceProperty property).isSome = true := by
        simp only [readDeviceProperty, found]
        exact providers.provider_isSome found
      simp [ServerObjects.HasRegistration, found, provided]

theorem deviceRegistrations_eq :
    server.deviceRegistrations =
      server.objects.extraRegistrations server.deviceObject [] := by
  simp [deviceRegistrations, ServerObjects.extraRegistrations]

/-- The Device lists its base properties and its metadata, each once. -/
theorem device_listed_nodup
    (valid : server.objects.PropertiesValid) :
    (kDeviceProperties ++ server.deviceRegistrations).Nodup := by
  rw [deviceRegistrations_eq, List.nodup_append']
  refine ⟨by decide, valid.extraRegistrations_distinct [], ?_⟩
  rw [List.disjoint_left]
  intro property isBase isRegistered
  have registered :=
    (ServerObjects.mem_extraRegistrations_iff.mp isRegistered).1
  obtain ⟨registration, found⟩ := Option.isSome_iff_exists.mp registered
  have isValid := valid.registrationsValid registration
    (List.mem_of_find?_eq_some found)
  have matched := List.find?_some found
  rw [Bool.and_eq_true, beq_iff_eq, beq_iff_eq] at matched
  rw [ServerObjects.validPropertyRegistration, matched.1, matched.2,
    Bool.and_eq_true, Bool.or_eq_true] at isValid
  rcases isValid.2 with otherType | isMetadata
  · exact (bne_iff_ne.mp otherType) rfl
  · simp only [ServerObjects.isDeviceMetadataProperty, Bool.or_eq_true,
      beq_iff_eq] at isMetadata
    rcases isMetadata with (rfl | rfl) | rfl
    all_goals
      revert isBase
      decide

/--
When a Property_List says what can be read: the texts of the Device are set,
the Present_Value of an Analog Input can be scaled, and nothing is both
registered and an optional property.
-/
structure ListsWhatIsRead
    (server : BacnetServer)
    (object : BacnetObjectId) : Prop where
  countable :
    (server.listedProperties object).length < kBacnetNoArrayIndex.toNat
  texts :
    object = server.deviceObject →
    ∀ property text,
      server.deviceTextOf property = some text → IsReadableText text
  scale :
    ∀ input,
      (server.lookupObject object).analogInput = some input →
      input.scalesPresentValue = true ∨
        server.objects.HasRegistration object .presentValue ∨
        .presentValue ∈ server.objects.optionalIds object
  once :
    ∀ property ∈ server.objects.optionalIds object,
      property ∉ (server.objects.baseProperties object).getD [] →
      ¬server.objects.HasRegistration object property

/--
The Property_List of an object has every property once that a read does not
refuse as unknown, and is read like the array of these properties.
-/
structure ListAgreesWithReads
    (server : BacnetServer)
    (object : BacnetObjectId) : Prop where
  answers :
    server.AnswersAsArray object .propertyList
      ((server.listedProperties object).map propertyEntry)
  distinct : (server.listedProperties object).Nodup
  readable :
    ∀ property input request,
      AsksFor request object property →
      request.request.arrayIndex = kBacnetNoArrayIndex →
      (property ∈ server.listedProperties object ↔
        ¬server.RefusesRead input request unknownPropertyError)

/-- A whole read is refused as unknown when there is no such content. -/
theorem refusesUnknown_iff
    {property : BacnetPropertyId}
    {input : PollInput}
    {request : BacnetReadPropertyRequestHeader}
    (addressable : Addressable object)
    (asks : AsksFor request object property)
    (whole : request.request.arrayIndex = kBacnetNoArrayIndex) :
    server.RefusesRead input request unknownPropertyError ↔
      server.propertyContent object property =
        .error unknownPropertyError := by
  rw [refusesRead_iff input (by rwa [asks.object]) (by decide)]
  rw [selected, refusal, asks.object, asks.property]
  cases server.propertyContent object property with
  | ok content => simp [refusalError]
  | error error => simp [refusalError, selectFrom, whole]

/-- An enumerated value is encoded in at most five octets. -/
theorem propertyEntry_short (property : BacnetPropertyId) :
    ∃ octets,
      applicationOctets (propertyEntry property) = some octets ∧
        octets.length ≤ 5 :=
  taggedNumber_short 9 property.raw (unsignedLength_le property.raw)

/-- An object that is found is the Device or in one of the registries. -/
theorem Registered.mem_identifiers
    (oneForm : server.objects.OneFormEach)
    (isRegistered : server.Registered object)
    (notDevice : object ≠ server.deviceObject) :
    object ∈ server.objects.identifiers := by
  obtain ⟨objectType, instance_⟩ := object
  have isNoDevice :
      (server.lookupObject ⟨objectType, instance_⟩).isDevice = false :=
    beq_eq_false_iff_ne.mpr notDevice
  rw [Registered, ObjectLookup.isUnknown, isNoDevice] at isRegistered
  simp only [lookupObject, Bool.not_false, Bool.true_and,
    Bool.and_eq_false_iff, Option.isNone_eq_false_iff,
    Option.isSome_iff_exists, Option.ite_none_right_eq_some]
    at isRegistered
  have inRegistry
      {Object : Type}
      {instanceOf : Object → UInt32}
      {registry : List Object}
      {found : Object}
      (isFound :
        (registry.find? fun object => instanceOf object == instance_) =
          some found) :
      ∃ object ∈ registry,
        (⟨objectType, instanceOf object⟩ : BacnetObjectId) =
          ⟨objectType, instance_⟩ :=
    ⟨found, List.mem_of_find?_eq_some isFound,
      congrArg (BacnetObjectId.mk objectType) (instance_of_find? isFound)⟩
  rw [identifiers_eq oneForm]
  simp only [List.mem_append, List.mem_map]
  rcases isRegistered with
    ((((((⟨_, rfl, found⟩ | ⟨_, rfl, found⟩) | ⟨_, rfl, found⟩) |
      ⟨_, rfl, found⟩) | ⟨_, rfl, found⟩) | ⟨_, rfl, found⟩) |
        ⟨_, rfl, found⟩) | ⟨_, rfl, found⟩
  · exact .inl (inRegistry found)
  · exact .inr (.inl (inRegistry found))
  · exact .inr (.inr (.inr (.inr (.inl (inRegistry found)))))
  · exact .inr (.inr (.inl (inRegistry found)))
  · exact .inr (.inr (.inr (.inl (inRegistry found))))
  · exact .inr (.inr (.inr (.inr (.inr (.inl (inRegistry found))))))
  · exact .inr (.inr (.inr (.inr (.inr (.inr (.inl (inRegistry found)))))))
  · exact .inr (.inr (.inr (.inr (.inr (.inr (.inr (inRegistry found)))))))

/-- Registered objects can be named in a reply. -/
theorem Registered.addressable
    (kinds : server.objects.DistinctKinds)
    (device : server.device.deviceInstance ≤ kMaxObjectInstance)
    (isRegistered : server.Registered object) :
    Addressable object := by
  have wellRegistered := kinds.wellRegistered
  by_cases isDevice : object = server.deviceObject
  · rw [isDevice]
    exact ⟨by change BacnetObjectType.device ≤ 1023; decide, device⟩
  · exact wellRegistered.addressable
      (isRegistered.mem_identifiers wellRegistered.oneForm isDevice)

/-- A Multi-State Value that is found went through its checks. -/
theorem multiStateValue_valid
    (valid : server.objects.PropertiesValid) :
    ((server.lookupObject object).multiStateValue.any fun value =>
      !validMultiStateValueConfiguration value) = false := by
  rw [lookupObject]
  dsimp only
  split
  · cases found : server.objects.findMultiStateValue object.instance_ with
    | none => rfl
    | some value =>
        have isValid := valid.multiStateValues value
          (List.mem_of_find?_eq_some found)
        simp [isValid]
  · rfl

/-- The Device has no optional properties. -/
theorem optionalIds_device :
    server.objects.optionalIds server.deviceObject = [] := by
  rw [ServerObjects.optionalIds,
    server.objects.optionalProperties_eq_nil
      (by change BacnetObjectType.device ≠ _; decide)
      (by change BacnetObjectType.device ≠ _; decide)
      (by change BacnetObjectType.device ≠ _; decide)]
  rfl

/-- The Device is no Analog Input. -/
theorem analogInput_device :
    (server.lookupObject server.deviceObject).analogInput = none := by
  simp only [lookupObject]
  exact if_neg (by change BacnetObjectType.device ≠ _; decide)

/-- Whether the entries of the list are as many as can be counted. -/
theorem answersAsArray_propertyList_iff
    (kinds : server.objects.DistinctKinds)
    (valid : server.objects.PropertiesValid)
    (device : server.device.deviceInstance ≤ kMaxObjectInstance)
    (isRegistered : server.Registered object) :
    server.AnswersAsArray object .propertyList
        ((server.listedProperties object).map propertyEntry) ↔
      (server.listedProperties object).length <
        kBacnetNoArrayIndex.toNat := by
  constructor
  · intro answers
    have countable := answers.countable
    rwa [List.length_map] at countable
  · intro countable
    refine answersAsArray_of_content
      (isRegistered.addressable kinds device) (by rwa [List.length_map])
      (propertyContent_propertyList isRegistered
        (multiStateValue_valid valid)) ?_
    intro value isMember
    obtain ⟨property, _, rfl⟩ := List.mem_map.mp isMember
    exact propertyEntry_short property

/-- What the Device lists can be read exactly when its texts are set. -/
theorem device_readable_listed_iff
    (valid : server.objects.PropertiesValid)
    (providers :
      server.objects.ProvidersSucceed server.deviceObject) :
    (∀ property,
      property ∈ server.listedProperties server.deviceObject ↔
        server.propertyContent server.deviceObject property ≠
          .error unknownPropertyError) ↔
      ∀ property text,
        server.deviceTextOf property = some text →
        IsReadableText text := by
  have registrations
      (property : BacnetPropertyId) :
      property ∈ server.deviceRegistrations ↔
        server.objects.HasRegistration server.deviceObject property := by
    rw [deviceRegistrations_eq, ServerObjects.mem_extraRegistrations_iff]
    simp
  have apart := (List.nodup_append'.mp (device_listed_nodup valid)).2.2
  have textsListed
      {property : BacnetPropertyId}
      {text : Option (List UInt8)}
      (isText : server.deviceTextOf property = some text) :
      property ∈ kDeviceProperties := by
    unfold deviceTextOf at isText
    split at isText
    all_goals first | decide | cases isText
  simp only [listedProperties, ↓reduceIte, List.mem_append,
    registrations, device_readable_iff providers]
  constructor
  · intro agree property text isText
    have isBase := textsListed isText
    rcases (agree property).mp (.inl isBase) with registered | ⟨_, texts⟩
    · exact (apart isBase ((registrations property).mpr registered)).elim
    · exact texts text isText
  · intro texts property
    constructor
    · rintro (isBase | registered)
      · exact .inr ⟨isBase, texts property⟩
      · exact .inl registered
    · rintro (registered | ⟨isBase, _⟩)
      · exact .inr registered
      · exact .inl isBase

/-- What another object lists can be read exactly when it can be scaled. -/
theorem object_readable_listed_iff
    (kinds : server.objects.DistinctKinds)
    (valid : server.objects.PropertiesValid)
    (providers : server.objects.ProvidersSucceed object)
    (isRegistered : server.Registered object)
    (notDevice : object ≠ server.deviceObject) :
    (∀ property,
      property ∈ server.listedProperties object ↔
        server.propertyContent object property ≠
          .error unknownPropertyError) ↔
      ∀ input,
        (server.lookupObject object).analogInput = some input →
        input.scalesPresentValue = true ∨
          server.objects.HasRegistration object .presentValue ∨
          .presentValue ∈ server.objects.optionalIds object := by
  have isNoDevice : (server.lookupObject object).isDevice = false :=
    beq_eq_false_iff_ne.mpr notDevice
  obtain ⟨base, kind⟩ := kindReads_of_known kinds isRegistered isNoDevice
  have readable :=
    readable_iff_listed kind providers isRegistered
      (multiStateValue_valid valid) isNoDevice
  simp only [listedProperties, if_neg notDevice, readable,
    ServerObjects.mem_listedProperties_iff kind.baseProperties]
  constructor
  · intro agree input isInput
    have isAnalogInput : object.type = BacnetObjectType.analogInput := by
      simp only [lookupObject, Option.ite_none_right_eq_some] at isInput
      exact isInput.1
    have isBase : .presentValue ∈ base := by
      have found := kind.baseProperties
      rw [ServerObjects.baseProperties, isAnalogInput] at found
      obtain rfl := Option.some.inj found
      decide
    rcases (agree .presentValue).mp (.inl isBase) with
      ⟨_, scales⟩ | elsewhere
    · exact .inl (scales rfl input isInput)
    · exact .inr elsewhere
  · intro scales property
    constructor
    · rintro (isBase | elsewhere)
      · by_cases isPresentValue : property = .presentValue
        · cases found : (server.lookupObject object).analogInput with
          | none => exact .inl ⟨isBase, by simp⟩
          | some input =>
              rcases scales input found with scaled | elsewhere
              · refine .inl ⟨isBase, fun _ other same => ?_⟩
                rw [← Option.some.inj same]
                exact scaled
              · rw [isPresentValue]
                exact .inr elsewhere
        · exact .inl ⟨isBase, fun same => (isPresentValue same).elim⟩
      · exact .inr elsewhere
    · rintro (⟨isBase, _⟩ | elsewhere)
      · exact .inl isBase
      · exact .inr elsewhere

/-- The list of a registered object repeats nothing but such a property. -/
theorem listed_nodup_iff
    (kinds : server.objects.DistinctKinds)
    (valid : server.objects.PropertiesValid)
    (isRegistered : server.Registered object) :
    (server.listedProperties object).Nodup ↔
      ∀ property ∈ server.objects.optionalIds object,
        property ∉ (server.objects.baseProperties object).getD [] →
        ¬server.objects.HasRegistration object property := by
  by_cases isDevice : object = server.deviceObject
  · rw [listedProperties, if_pos isDevice, isDevice, optionalIds_device]
    simp [device_listed_nodup valid]
  · obtain ⟨base, kind⟩ :=
      kindReads_of_known kinds isRegistered
        (beq_eq_false_iff_ne.mpr isDevice)
    rw [listedProperties, if_neg isDevice,
      ServerObjects.listedProperties_nodup_iff valid kind.baseProperties
        kind.baseDistinct, kind.baseProperties]
    rfl

/--
Whatever was registered and whatever the server did, the Property_List of a
registered object agrees with its reads exactly under this condition.
-/
theorem propertyList_agrees_iff
    (calls : List RegistrationCall)
    (events : List ServerEvent)
    (registered :
      (run step {} events).objects =
        run ServerObjects.register {} calls)
    {object : BacnetObjectId}
    (isRegistered : (run step {} events).Registered object)
    (providers :
      (run step {} events).objects.ProvidersSucceed object) :
    (run step {} events).ListAgreesWithReads object ↔
      (run step {} events).ListsWhatIsRead object := by
  have kinds := ServerObjects.run_distinctKinds calls
  have valid := ServerObjects.run_propertiesValid calls
  have device := run_deviceInstance_le events
  rw [← registered] at kinds valid
  revert isRegistered providers kinds valid device
  generalize run step {} events = server
  intro isRegistered providers kinds valid device
  have addressable := isRegistered.addressable kinds device
  have answers :=
    answersAsArray_propertyList_iff kinds valid device isRegistered
  have distinct := listed_nodup_iff kinds valid isRegistered
  have readable :
      (∀ property input request,
        AsksFor request object property →
        request.request.arrayIndex = kBacnetNoArrayIndex →
        (property ∈ server.listedProperties object ↔
          ¬server.RefusesRead input request unknownPropertyError)) ↔
      ∀ property,
        property ∈ server.listedProperties object ↔
          server.propertyContent object property ≠
            .error unknownPropertyError := by
    constructor
    · intro agree property
      rw [agree property {}
        ⟨1, ⟨object, property, kBacnetNoArrayIndex⟩⟩ ⟨rfl, rfl⟩ rfl,
        refusesUnknown_iff addressable ⟨rfl, rfl⟩ rfl]
    · intro agree property input request asks whole
      rw [agree property, refusesUnknown_iff addressable asks whole]
  have scale :
      (∀ property,
        property ∈ server.listedProperties object ↔
          server.propertyContent object property ≠
            .error unknownPropertyError) ↔
      (object = server.deviceObject →
        ∀ property text,
          server.deviceTextOf property = some text →
          IsReadableText text) ∧
      ∀ input,
        (server.lookupObject object).analogInput = some input →
        input.scalesPresentValue = true ∨
          server.objects.HasRegistration object .presentValue ∨
          .presentValue ∈ server.objects.optionalIds object := by
    by_cases isDevice : object = server.deviceObject
    · subst isDevice
      rw [device_readable_listed_iff valid providers, analogInput_device]
      simp
    · rw [object_readable_listed_iff kinds valid providers isRegistered
        isDevice]
      simp [isDevice]
  constructor
  · intro agrees
    have reads := scale.mp (readable.mp agrees.readable)
    exact ⟨answers.mp agrees.answers, reads.1, reads.2,
      distinct.mp agrees.distinct⟩
  · intro lists
    exact ⟨answers.mpr lists.countable, distinct.mpr lists.once,
      readable.mpr (scale.mpr ⟨lists.texts, lists.scale⟩)⟩

/-- A Device without texts lists Object_Name, but a read finds none. -/
theorem missingName_listed :
    (run step {} (startedServer {})).Registered
        ⟨BacnetObjectType.device, 0⟩ ∧
      (run step {} (startedServer {})).objects.ProvidersSucceed
        ⟨BacnetObjectType.device, 0⟩ ∧
      (run step {} (startedServer {})).ReceivesRead
        { packet := readObjectName ⟨BacnetObjectType.device, 0⟩ }
        (objectNameRequest ⟨BacnetObjectType.device, 0⟩) ∧
      (run step {} (startedServer {})).AnswersError
        { packet := readObjectName ⟨BacnetObjectType.device, 0⟩ }
        8 kServiceReadProperty unknownPropertyError ∧
      ¬(run step {} (startedServer {})).ListAgreesWithReads
        ⟨BacnetObjectType.device, 0⟩ := by
  have received :
      (run step {} (startedServer {})).ReceivesRead
        { packet := readObjectName ⟨BacnetObjectType.device, 0⟩ }
        (objectNameRequest ⟨BacnetObjectType.device, 0⟩) :=
    ⟨⟨rfl, rfl⟩, by decide, by decide⟩
  have refused :
      (run step {} (startedServer {})).AnswersError
        { packet := readObjectName ⟨BacnetObjectType.device, 0⟩ }
        8 kServiceReadProperty unknownPropertyError := by
    unfold AnswersError
    decide
  refine ⟨rfl, ⟨by decide, by decide⟩, received, refused, ?_⟩
  intro agrees
  have readable :=
    agrees.readable .objectName
      { packet := readObjectName ⟨BacnetObjectType.device, 0⟩ }
      (objectNameRequest ⟨BacnetObjectType.device, 0⟩) ⟨rfl, rfl⟩ rfl
  apply readable.mp (by decide)
  rw [RefusesRead, ← poll_read received]
  exact refused

/-- The list of a server with one Analog Value agrees with its reads. -/
theorem analogValue_propertyList_agrees :
    (run step {} analogValueServer).ListAgreesWithReads
        ⟨BacnetObjectType.analogValue, 1⟩ ↔
      (run step {} analogValueServer).ListsWhatIsRead
        ⟨BacnetObjectType.analogValue, 1⟩ :=
  propertyList_agrees_iff analogValueCalls analogValueServer rfl rfl
    ⟨by decide, by decide⟩

end BacnetServer

end BacnetStack
