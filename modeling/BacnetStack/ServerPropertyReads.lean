import BacnetStack.ServerObjectList

namespace BacnetStack

/-!
# The properties that can be read

Every kind of object but the Device reads its properties in one place.  Lists
are answered apart from single values; together they are the base properties
of the kind, and what was registered comes on top.
-/

namespace BacnetServer

variable {server : BacnetServer}

/-- Lists are answered apart from single values. -/
theorem listAnswer_isSome_iff
    {lookup : ObjectLookup}
    (notDevice : lookup.isDevice = false)
    (request : BacnetPropertyRequest) :
    (server.listAnswer lookup request).isSome = true ↔
      request.property = .propertyList ∨
        (request.property = .stateText ∧
          lookup.multiStateValue.isSome = true) ∨
        (request.property = .priorityArray ∧
          lookup.hasPriorityArray = true) := by
  unfold listAnswer
  dsimp only
  rw [notDevice]
  by_cases propertyList : request.property = .propertyList
  · simp [propertyList]
  by_cases stateText : request.property = .stateText
  · simp [stateText]
  by_cases priorityArray : request.property = .priorityArray
  · simp [priorityArray, priorityArrayEntries_isSome]
  · simp [propertyList, stateText, priorityArray]

/-- The properties that every kind of object answers in the same way. -/
theorem readCommonProperty_isSome_iff
    {object : BacnetObjectId}
    {objectName : List UInt8}
    {outOfService : Bool}
    {property : BacnetPropertyId} :
    (readCommonProperty object objectName outOfService property).isSome =
        true ↔
      property = .objectIdentifier ∨ property = .objectName ∨
        property = .objectType ∨ property = .statusFlags ∨
        property = .eventState ∨ property = .outOfService := by
  unfold readCommonProperty
  split <;> simp_all

end BacnetServer

/-- The Present_Value is not scaled, or the scale maps it. -/
def BacnetServerAnalogInput.scalesPresentValue
    (input : BacnetServerAnalogInput) : Bool :=
  !input.hasInputScale ||
    (input.inputScale.apply
      (input.presentValueProvider.getD input.presentValue)).isSome

/-- The Present_Value is there when it need not be scaled or can be. -/
theorem BacnetServerAnalogInput.scaled_isSome
    (input : BacnetServerAnalogInput) :
    (if input.hasInputScale then
        (input.inputScale.apply
          (input.presentValueProvider.getD
            input.presentValue)).map realValue
      else
        some (realValue
          (input.presentValueProvider.getD input.presentValue))).isSome =
      input.scalesPresentValue := by
  unfold scalesPresentValue
  cases input.hasInputScale <;> simp

namespace BacnetServer

/--
How the properties of an object other than the Device are read: all of them
come from one place, and what this place has are the base properties, except
for a Present_Value that cannot be scaled.
-/
structure KindReads
    (server : BacnetServer)
    (object : BacnetObjectId)
    (base : List BacnetPropertyId) : Prop where
  baseProperties : server.objects.baseProperties object = some base
  baseDistinct : base.Nodup
  reads :
    ∀ property,
      ∃ own,
        server.readFoundProperty (server.lookupObject object) property =
          server.objects.readProperty object property own ∧
        ((server.listAnswer (server.lookupObject object)
            { object, property }).isSome = true ∨
          own.isSome = true ↔
        property ∈ base ∧
          (property = .presentValue →
            ∀ input,
              (server.lookupObject object).analogInput = some input →
              input.scalesPresentValue = true))

section Kinds

variable {server : BacnetServer} {instance_ : UInt32}

/-- Only an identifier of its own type is the Device. -/
theorem isDevice_of_type
    {objectType : UInt16}
    (other : objectType ≠ BacnetObjectType.device) :
    (server.lookupObject ⟨objectType, instance_⟩).isDevice = false :=
  beq_eq_false_iff_ne.mpr fun same =>
    other (congrArg BacnetObjectId.type same)

/-- One read that was found is the read. -/
theorem single_read (value? : Option BacnetValue) :
    (do
      let values ← [value?].mapM id
      return values.getLastD {}) = value? := by
  cases value? <;> rfl

/-- What a commandable analog object lists. -/
theorem commandableAnalog_lists
    {object : BacnetObjectId}
    {objectName : List UInt8}
    {priority : BacnetCommandPriority Binary32}
    {units : UInt32}
    {outOfService : Bool}
    {property : BacnetPropertyId} :
    (property = .propertyList ∨ property = .priorityArray) ∨
      (ServerObjects.readCommandableAnalogProperty object objectName
        priority units outOfService property).isSome = true ↔
      property ∈ kCommandableAnalogValueProperties := by
  unfold ServerObjects.readCommandableAnalogProperty
  split
  · simp [kCommandableAnalogValueProperties]
  · simp [kCommandableAnalogValueProperties]
  · simp [kCommandableAnalogValueProperties]
  · rw [readCommonProperty_isSome_iff]
    simp_all [kCommandableAnalogValueProperties]
    grind

/-- An instance that only an Analog Value has. -/
theorem lookup_analogValue
    {value : BacnetServerAnalogValue}
    (found : server.objects.findAnalogValue instance_ = some value)
    (plain : server.objects.findCommandableAnalogValue instance_ = none) :
    server.lookupObject ⟨BacnetObjectType.analogValue, instance_⟩ =
      ⟨false, some value, none, none, none, none, none, none, none⟩ := by
  rw [← @isDevice_of_type server instance_ _
    (show BacnetObjectType.analogValue ≠ BacnetObjectType.device by decide)]
  exact congrArg₂
    (fun value commandable =>
      ObjectLookup.mk _ value commandable none none none none none none)
    found plain

/-- Its properties are those of the Analog Value. -/
theorem read_analogValue
    {value : BacnetServerAnalogValue}
    (found : server.objects.findAnalogValue instance_ = some value)
    (plain : server.objects.findCommandableAnalogValue instance_ = none)
    (property : BacnetPropertyId) :
    server.readFoundProperty
        (server.lookupObject
          ⟨BacnetObjectType.analogValue, instance_⟩) property =
      server.objects.readAnalogValueProperty value property := by
  rw [lookup_analogValue found plain]
  exact single_read _

/-- An Analog Value answers what its kind lists, and nothing else. -/
theorem kindReads_analogValue
    {value : BacnetServerAnalogValue}
    (found : server.objects.findAnalogValue instance_ = some value)
    (plain :
      server.objects.findCommandableAnalogValue instance_ = none) :
    ∃ base,
      server.KindReads ⟨BacnetObjectType.analogValue, instance_⟩ base := by
  have shape := lookup_analogValue found plain
  have base :
      server.objects.baseProperties
          ⟨BacnetObjectType.analogValue, instance_⟩ =
        some kAnalogValueProperties := by
    rw [ServerObjects.baseProperties, plain]
    rfl
  obtain rfl := instance_of_find? found
  refine ⟨_, base, by decide, fun property => ?_⟩
  have read := read_analogValue found plain property
  refine ⟨_, read, ?_⟩
  rw [listAnswer_isSome_iff (by rw [shape]), shape]
  simp only [ObjectLookup.hasPriorityArray]
  split
  · simp [kAnalogValueProperties]
  · simp [kAnalogValueProperties]
  · rw [readCommonProperty_isSome_iff]
    simp_all [kAnalogValueProperties]
    grind

/-- An instance that only a commandable Analog Value has. -/
theorem lookup_commandableAnalogValue
    {value : BacnetServerCommandableAnalogValue}
    (found : server.objects.findCommandableAnalogValue instance_ = some value)
    (alone : server.objects.findAnalogValue instance_ = none) :
    server.lookupObject ⟨BacnetObjectType.analogValue, instance_⟩ =
      ⟨false, none, some value, none, none, none, none, none, none⟩ := by
  rw [← @isDevice_of_type server instance_ _
    (show BacnetObjectType.analogValue ≠ BacnetObjectType.device by decide)]
  exact congrArg₂
    (fun value commandable =>
      ObjectLookup.mk _ value commandable none none none none none none)
    alone found

/-- Its properties are those of the commandable value. -/
theorem read_commandableAnalogValue
    {value : BacnetServerCommandableAnalogValue}
    (found : server.objects.findCommandableAnalogValue instance_ = some value)
    (alone : server.objects.findAnalogValue instance_ = none)
    (property : BacnetPropertyId) :
    server.readFoundProperty
        (server.lookupObject
          ⟨BacnetObjectType.analogValue, instance_⟩) property =
      server.objects.readCommandableAnalogValueProperty value property := by
  rw [lookup_commandableAnalogValue found alone]
  exact single_read _

/-- A commandable one answers what its kind lists, and nothing else. -/
theorem kindReads_commandableAnalogValue
    {value : BacnetServerCommandableAnalogValue}
    (found : server.objects.findCommandableAnalogValue instance_ = some value)
    (alone : server.objects.findAnalogValue instance_ = none) :
    ∃ base,
      server.KindReads ⟨BacnetObjectType.analogValue, instance_⟩ base := by
  have shape := lookup_commandableAnalogValue found alone
  have base :
      server.objects.baseProperties
          ⟨BacnetObjectType.analogValue, instance_⟩ =
        some kCommandableAnalogValueProperties := by
    rw [ServerObjects.baseProperties, found]
    rfl
  obtain rfl := instance_of_find? found
  refine ⟨_, base, by decide, fun property => ?_⟩
  have read := read_commandableAnalogValue found alone property
  refine ⟨_, read, ?_⟩
  rw [listAnswer_isSome_iff (by rw [shape]), shape]
  simp only [ObjectLookup.hasPriorityArray]
  simpa using commandableAnalog_lists

/-- The lookup finds the Analog Output of an instance. -/
theorem lookup_analogOutput
    {output : BacnetServerAnalogOutput}
    (found : server.objects.findAnalogOutput instance_ = some output) :
    server.lookupObject ⟨BacnetObjectType.analogOutput, instance_⟩ =
      ⟨false, none, none, some output, none, none, none, none, none⟩ := by
  rw [← @isDevice_of_type server instance_ _
    (show BacnetObjectType.analogOutput ≠ BacnetObjectType.device by decide)]
  exact congrArg
    (fun output =>
      ObjectLookup.mk _ none none output none none none none none)
    found

/-- The properties of an Analog Output are read from it. -/
theorem read_analogOutput
    {output : BacnetServerAnalogOutput}
    (found : server.objects.findAnalogOutput instance_ = some output)
    (property : BacnetPropertyId) :
    server.readFoundProperty
        (server.lookupObject
          ⟨BacnetObjectType.analogOutput, instance_⟩) property =
      server.objects.readAnalogOutputProperty output property := by
  rw [lookup_analogOutput found]
  exact single_read _

theorem kindReads_analogOutput
    {output : BacnetServerAnalogOutput}
    (found : server.objects.findAnalogOutput instance_ = some output) :
    ∃ base,
      server.KindReads ⟨BacnetObjectType.analogOutput, instance_⟩ base := by
  have shape := lookup_analogOutput found
  have base :
      server.objects.baseProperties
          ⟨BacnetObjectType.analogOutput, instance_⟩ =
        some kAnalogOutputProperties := rfl
  obtain rfl := instance_of_find? found
  refine ⟨_, base, by decide, fun property => ?_⟩
  have read := read_analogOutput found property
  refine ⟨_, read, ?_⟩
  rw [listAnswer_isSome_iff (by rw [shape]), shape]
  simp only [ObjectLookup.hasPriorityArray]
  rw [show kAnalogOutputProperties = kCommandableAnalogValueProperties
    from rfl]
  simpa using commandableAnalog_lists

/-- The lookup finds the Analog Input of an instance. -/
theorem lookup_analogInput
    {input : BacnetServerAnalogInput}
    (found : server.objects.findAnalogInput instance_ = some input) :
    server.lookupObject ⟨BacnetObjectType.analogInput, instance_⟩ =
      ⟨false, none, none, none, some input, none, none, none, none⟩ := by
  rw [← @isDevice_of_type server instance_ _
    (show BacnetObjectType.analogInput ≠ BacnetObjectType.device by decide)]
  exact congrArg
    (fun input =>
      ObjectLookup.mk _ none none none input none none none none)
    found

/-- The properties of an Analog Input are read from it. -/
theorem read_analogInput
    {input : BacnetServerAnalogInput}
    (found : server.objects.findAnalogInput instance_ = some input)
    (property : BacnetPropertyId) :
    server.readFoundProperty
        (server.lookupObject
          ⟨BacnetObjectType.analogInput, instance_⟩) property =
      server.objects.readAnalogInputProperty input property := by
  rw [lookup_analogInput found]
  exact single_read _

theorem kindReads_analogInput
    {input : BacnetServerAnalogInput}
    (found : server.objects.findAnalogInput instance_ = some input) :
    ∃ base,
      server.KindReads ⟨BacnetObjectType.analogInput, instance_⟩ base := by
  have shape := lookup_analogInput found
  have base :
      server.objects.baseProperties
          ⟨BacnetObjectType.analogInput, instance_⟩ =
        some kAnalogInputProperties := rfl
  obtain rfl := instance_of_find? found
  refine ⟨_, base, by decide, fun property => ?_⟩
  have read := read_analogInput found property
  refine ⟨_, read, ?_⟩
  rw [listAnswer_isSome_iff (by rw [shape]), shape]
  simp only [ObjectLookup.hasPriorityArray]
  split
  · simp [kAnalogInputProperties,
      BacnetServerAnalogInput.scaled_isSome]
  · simp [kAnalogInputProperties]
  · rw [readCommonProperty_isSome_iff]
    simp_all [kAnalogInputProperties]
    grind

/-- The lookup finds the Binary Input of an instance. -/
theorem lookup_binaryInput
    {input : BacnetServerBinaryInput}
    (found : server.objects.findBinaryInput instance_ = some input) :
    server.lookupObject ⟨BacnetObjectType.binaryInput, instance_⟩ =
      ⟨false, none, none, none, none, some input, none, none, none⟩ := by
  rw [← @isDevice_of_type server instance_ _
    (show BacnetObjectType.binaryInput ≠ BacnetObjectType.device by decide)]
  exact congrArg
    (fun input =>
      ObjectLookup.mk _ none none none none input none none none)
    found

/-- The properties of a Binary Input are read from it. -/
theorem read_binaryInput
    {input : BacnetServerBinaryInput}
    (found : server.objects.findBinaryInput instance_ = some input)
    (property : BacnetPropertyId) :
    server.readFoundProperty
        (server.lookupObject
          ⟨BacnetObjectType.binaryInput, instance_⟩) property =
      server.objects.readBinaryInputProperty input property := by
  rw [lookup_binaryInput found]
  exact single_read _

theorem kindReads_binaryInput
    {input : BacnetServerBinaryInput}
    (found : server.objects.findBinaryInput instance_ = some input) :
    ∃ base,
      server.KindReads ⟨BacnetObjectType.binaryInput, instance_⟩ base := by
  have shape := lookup_binaryInput found
  have base :
      server.objects.baseProperties
          ⟨BacnetObjectType.binaryInput, instance_⟩ =
        some kBinaryInputProperties := rfl
  obtain rfl := instance_of_find? found
  refine ⟨_, base, by decide, fun property => ?_⟩
  have read := read_binaryInput found property
  refine ⟨_, read, ?_⟩
  rw [listAnswer_isSome_iff (by rw [shape]), shape]
  simp only [ObjectLookup.hasPriorityArray]
  split
  · simp [kBinaryInputProperties]
  · rw [readCommonProperty_isSome_iff]
    simp_all [kBinaryInputProperties]
    grind

/-- The lookup finds the Binary Output of an instance. -/
theorem lookup_binaryOutput
    {output : BacnetServerBinaryOutput}
    (found : server.objects.findBinaryOutput instance_ = some output) :
    server.lookupObject ⟨BacnetObjectType.binaryOutput, instance_⟩ =
      ⟨false, none, none, none, none, none, some output, none, none⟩ := by
  rw [← @isDevice_of_type server instance_ _
    (show BacnetObjectType.binaryOutput ≠ BacnetObjectType.device by decide)]
  exact congrArg
    (fun output =>
      ObjectLookup.mk _ none none none none none output none none)
    found

/-- The properties of a Binary Output are read from it. -/
theorem read_binaryOutput
    {output : BacnetServerBinaryOutput}
    (found : server.objects.findBinaryOutput instance_ = some output)
    (property : BacnetPropertyId) :
    server.readFoundProperty
        (server.lookupObject
          ⟨BacnetObjectType.binaryOutput, instance_⟩) property =
      server.objects.readBinaryOutputProperty output property := by
  rw [lookup_binaryOutput found]
  exact single_read _

theorem kindReads_binaryOutput
    {output : BacnetServerBinaryOutput}
    (found : server.objects.findBinaryOutput instance_ = some output) :
    ∃ base,
      server.KindReads ⟨BacnetObjectType.binaryOutput, instance_⟩ base := by
  have shape := lookup_binaryOutput found
  have base :
      server.objects.baseProperties
          ⟨BacnetObjectType.binaryOutput, instance_⟩ =
        some kBinaryOutputProperties := rfl
  obtain rfl := instance_of_find? found
  refine ⟨_, base, by decide, fun property => ?_⟩
  have read := read_binaryOutput found property
  refine ⟨_, read, ?_⟩
  rw [listAnswer_isSome_iff (by rw [shape]), shape]
  simp only [ObjectLookup.hasPriorityArray]
  split
  · simp [kBinaryOutputProperties]
  · simp [kBinaryOutputProperties]
  · simp [kBinaryOutputProperties]
  · simp [kBinaryOutputProperties]
  · rw [readCommonProperty_isSome_iff]
    simp_all [kBinaryOutputProperties]
    grind

/-- The lookup finds the Binary Value of an instance. -/
theorem lookup_binaryValue
    {value : BacnetServerBinaryValue}
    (found : server.objects.findBinaryValue instance_ = some value) :
    server.lookupObject ⟨BacnetObjectType.binaryValue, instance_⟩ =
      ⟨false, none, none, none, none, none, none, some value, none⟩ := by
  rw [← @isDevice_of_type server instance_ _
    (show BacnetObjectType.binaryValue ≠ BacnetObjectType.device by decide)]
  exact congrArg
    (fun value =>
      ObjectLookup.mk _ none none none none none none value none)
    found

/-- The properties of a Binary Value are read from it. -/
theorem read_binaryValue
    {value : BacnetServerBinaryValue}
    (found : server.objects.findBinaryValue instance_ = some value)
    (property : BacnetPropertyId) :
    server.readFoundProperty
        (server.lookupObject
          ⟨BacnetObjectType.binaryValue, instance_⟩) property =
      server.objects.readBinaryValueProperty value property := by
  rw [lookup_binaryValue found]
  exact single_read _

theorem kindReads_binaryValue
    {value : BacnetServerBinaryValue}
    (found : server.objects.findBinaryValue instance_ = some value) :
    ∃ base,
      server.KindReads ⟨BacnetObjectType.binaryValue, instance_⟩ base := by
  have shape := lookup_binaryValue found
  have base :
      server.objects.baseProperties
          ⟨BacnetObjectType.binaryValue, instance_⟩ =
        some kBinaryValueProperties := rfl
  obtain rfl := instance_of_find? found
  refine ⟨_, base, by decide, fun property => ?_⟩
  have read := read_binaryValue found property
  refine ⟨_, read, ?_⟩
  rw [listAnswer_isSome_iff (by rw [shape]), shape]
  simp only [ObjectLookup.hasPriorityArray]
  split
  · simp [kBinaryValueProperties]
  · simp [kBinaryValueProperties]
  · rw [readCommonProperty_isSome_iff]
    simp_all [kBinaryValueProperties]
    grind

/-- The lookup finds the Multi-state Value of an instance. -/
theorem lookup_multiStateValue
    {value : BacnetServerMultiStateValue}
    (found : server.objects.findMultiStateValue instance_ = some value) :
    server.lookupObject ⟨BacnetObjectType.multiStateValue, instance_⟩ =
      ⟨false, none, none, none, none, none, none, none, some value⟩ := by
  rw [← @isDevice_of_type server instance_ _
    (show BacnetObjectType.multiStateValue ≠ BacnetObjectType.device by decide)]
  exact congrArg
    (fun value =>
      ObjectLookup.mk _ none none none none none none none value)
    found

/-- The properties of a Multi-state Value are read from it. -/
theorem read_multiStateValue
    {value : BacnetServerMultiStateValue}
    (found : server.objects.findMultiStateValue instance_ = some value)
    (property : BacnetPropertyId) :
    server.readFoundProperty
        (server.lookupObject
          ⟨BacnetObjectType.multiStateValue, instance_⟩) property =
      server.objects.readMultiStateValueProperty value property := by
  rw [lookup_multiStateValue found]
  exact single_read _

theorem kindReads_multiStateValue
    {value : BacnetServerMultiStateValue}
    (found : server.objects.findMultiStateValue instance_ = some value) :
    ∃ base,
      server.KindReads ⟨BacnetObjectType.multiStateValue, instance_⟩ base := by
  have shape := lookup_multiStateValue found
  have base :
      server.objects.baseProperties
          ⟨BacnetObjectType.multiStateValue, instance_⟩ =
        some kMultiStateValueProperties := rfl
  obtain rfl := instance_of_find? found
  refine ⟨_, base, by decide, fun property => ?_⟩
  have read := read_multiStateValue found property
  refine ⟨_, read, ?_⟩
  rw [listAnswer_isSome_iff (by rw [shape]), shape]
  simp only [ObjectLookup.hasPriorityArray]
  split
  · simp [kMultiStateValueProperties]
  · simp [kMultiStateValueProperties]
  · rw [readCommonProperty_isSome_iff]
    simp_all [kMultiStateValueProperties]
    grind

end Kinds

/-- No instance belongs to a plain and to a commandable Analog Value. -/
theorem analogValue_of_one_form
    {objects : ServerObjects}
    (kinds : objects.DistinctKinds)
    {instance_ : UInt32}
    {value : BacnetServerAnalogValue}
    (found : objects.findAnalogValue instance_ = some value) :
    objects.findCommandableAnalogValue instance_ = none := by
  have isPlain :
      instance_ ∈
        objects.analogValues.map BacnetServerAnalogValue.instance_ := by
    rw [← instance_of_find? found]
    exact List.mem_map_of_mem (List.mem_of_find?_eq_some found)
  by_contra both
  obtain ⟨commandable, alsoFound⟩ :=
    Option.ne_none_iff_exists'.mp both
  have isCommandable :
      instance_ ∈ objects.commandableAnalogValues.map
        BacnetServerCommandableAnalogValue.instance_ := by
    rw [← instance_of_find? alsoFound]
    exact List.mem_map_of_mem (List.mem_of_find?_eq_some alsoFound)
  exact (List.nodup_append'.mp kinds.analogValues.distinct).2.2
    isPlain isCommandable

/-- Every object but the Device reads its properties in this way. -/
theorem kindReads_of_known
    {server : BacnetServer}
    (kinds : server.objects.DistinctKinds)
    {object : BacnetObjectId}
    (known : (server.lookupObject object).isUnknown = false)
    (notDevice : (server.lookupObject object).isDevice = false) :
    ∃ base, server.KindReads object base := by
  obtain ⟨objectType, instance_⟩ := object
  have someFound := known
  rw [ObjectLookup.isUnknown, notDevice] at someFound
  simp only [lookupObject, Bool.not_false, Bool.true_and,
    Bool.and_eq_false_iff, Option.isNone_eq_false_iff,
    Option.isSome_iff_exists, Option.ite_none_right_eq_some] at someFound
  rcases someFound with
    ((((((⟨_, rfl, found⟩ | ⟨_, rfl, found⟩) | ⟨_, rfl, found⟩) |
      ⟨_, rfl, found⟩) | ⟨_, rfl, found⟩) | ⟨_, rfl, found⟩) |
        ⟨_, rfl, found⟩) | ⟨_, rfl, found⟩
  · exact kindReads_analogValue found
      (analogValue_of_one_form kinds found)
  · refine kindReads_commandableAnalogValue found ?_
    by_contra both
    obtain ⟨value, alsoFound⟩ := Option.ne_none_iff_exists'.mp both
    rw [analogValue_of_one_form kinds alsoFound] at found
    cases found
  · exact kindReads_analogOutput found
  · exact kindReads_analogInput found
  · exact kindReads_binaryInput found
  · exact kindReads_binaryOutput found
  · exact kindReads_binaryValue found
  · exact kindReads_multiStateValue found

end BacnetServer

end BacnetStack
