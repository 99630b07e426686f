import BacnetStack.EventRun
import BacnetStack.ServerObjectProperties
import Mathlib.Data.List.Nodup

namespace BacnetStack

open EventRun

/-!
# Registration

Objects reach the registry as a caller-owned array of one kind or, for three
kinds, one object at a time.  Every registration function looks at another
part of the registry; together they keep all identifiers distinct.
-/

/--
A record as the caller passes it; the name or the provider it needs may be a
null pointer.
-/
structure Declared (Object : Type) where
  object : Object
  isComplete : Bool := true

/-- `kMaxObjectCentricAnalogInputs` and the two bounds like it. -/
abbrev kMaxObjectCentricObjects : Nat := 8

/-- The largest object instance. -/
abbrev kMaxObjectInstance : UInt32 := 0x003FFFFF

section Kinds

variable {Object Key : Type} [DecidableEq Key]

/--
The loop of an array registration: each object has to be complete and valid,
and to have a key that none of the `previous` ones has.
-/
def acceptsArray
    (keyOf : Object → Key)
    (valid : Object → Bool)
    (previous : List Key) : List (Declared Object) → Bool
  | [] => true
  | declared :: rest =>
      declared.isComplete && valid declared.object &&
        !decide (keyOf declared.object ∈ previous) &&
        acceptsArray keyOf valid (keyOf declared.object :: previous) rest

/--
An array registration replaces the registered array or leaves it alone.  A
missing array is a null pointer with a count that is not 0.
-/
def registerArray
    (keyOf : Object → Key)
    (valid : Object → Bool)
    (registered : List Object)
    (objects : Option (List (Declared Object))) : List Object × Bool :=
  match objects with
  | none => (registered, false)
  | some objects =>
      if acceptsArray keyOf valid [] objects then
        (objects.map Declared.object, true)
      else
        (registered, false)

/-- A kind with object-centric objects accepts no array. -/
def registerExclusiveArray
    (instanceOf : Object → UInt32)
    (valid : Object → Bool)
    (objectCentric : List (ObjectCentric Object))
    (registered : List Object)
    (objects : Option (List (Declared Object))) : List Object × Bool :=
  if objectCentric.length ≠ 0 then
    (registered, false)
  else
    registerArray instanceOf valid registered objects

/-- `addObject`: the checks in the order of the source. -/
def registerObject
    {support : PropertySupport}
    (instanceOf : Object → UInt32)
    (valid : Object → Bool)
    (array : List Object)
    (registered : List (ObjectCentric Object))
    (properties : ObjectProperties support)
    (declared : Declared Object) :
    List (ObjectCentric Object) × BacnetObjectConfigurationStatus :=
  let object := declared.object
  if properties.configurationStatus ≠ .ok then
    (registered, properties.configurationStatus)
  else if array.length ≠ 0 then
    (registered, .registrationModeConflict)
  else if !(declared.isComplete && valid object) then
    (registered, .invalidArgument)
  else if registered.any fun other =>
      instanceOf other.object == instanceOf object then
    (registered, .duplicateProperty)
  else if registered.length = kMaxObjectCentricObjects then
    (registered, .serverCapacityExceeded)
  else
    (registered ++ [⟨object, properties.slots⟩], .ok)

/-- Instances that are pairwise distinct and in range. -/
structure DistinctInstances (instances : List UInt32) : Prop where
  distinct : instances.Nodup
  bounded : ∀ instance_ ∈ instances, instance_ ≤ kMaxObjectInstance

theorem distinctInstances_nil : DistinctInstances [] :=
  ⟨List.nodup_nil, by simp⟩

variable
  {instanceOf : Object → UInt32}
  {keyOf : Object → Key}
  {valid : Object → Bool}

/-- Valid objects with distinct instances form a kind of their own. -/
theorem distinctInstances_stored
    {nameOf : Object → List UInt8}
    {stored : List Object}
    (distinct : (stored.map instanceOf).Nodup)
    (allValid :
      ∀ object ∈ stored,
        validObjectConfiguration (instanceOf object) (nameOf object) =
          true) :
    DistinctInstances (stored.map instanceOf) := by
  refine ⟨distinct, ?_⟩
  intro instance_ isMember
  obtain ⟨object, inStored, rfl⟩ := List.mem_map.mp isMember
  have isValid := allValid object inStored
  simp only [validObjectConfiguration, Bool.and_eq_true,
    decide_eq_true_eq] at isValid
  exact isValid.1

/-- Two groups of instances that share none form one kind. -/
theorem DistinctInstances.append
    {first second : List UInt32}
    (firstDistinct : DistinctInstances first)
    (secondDistinct : DistinctInstances second)
    (apart : ∀ instance_ ∈ first, instance_ ∉ second) :
    DistinctInstances (first ++ second) := by
  refine ⟨?_, ?_⟩
  · exact List.nodup_append'.mpr
      ⟨firstDistinct.distinct, secondDistinct.distinct,
        List.disjoint_left.mpr fun {instance_} => apart instance_⟩
  · intro instance_ isMember
    rcases List.mem_append.mp isMember with inFirst | inSecond
    · exact firstDistinct.bounded instance_ inFirst
    · exact secondDistinct.bounded instance_ inSecond

theorem DistinctInstances.left
    {first second : List UInt32}
    (both : DistinctInstances (first ++ second)) :
    DistinctInstances first :=
  ⟨both.distinct.of_append_left,
    fun instance_ isMember =>
      both.bounded instance_ (List.mem_append_left _ isMember)⟩

theorem DistinctInstances.right
    {first second : List UInt32}
    (both : DistinctInstances (first ++ second)) :
    DistinctInstances second :=
  ⟨both.distinct.of_append_right,
    fun instance_ isMember =>
      both.bounded instance_ (List.mem_append_right _ isMember)⟩

/-- The keys of an accepted array are new and distinct. -/
theorem acceptsArray_keys
    {previous : List Key}
    {objects : List (Declared Object)}
    (accepted : acceptsArray keyOf valid previous objects = true) :
    (objects.map fun declared => keyOf declared.object).Nodup ∧
      ∀ declared ∈ objects,
        valid declared.object = true ∧
          keyOf declared.object ∉ previous := by
  induction objects generalizing previous with
  | nil =>
      exact ⟨List.nodup_nil, by simp⟩
  | cons declared rest inductionHypothesis =>
      simp only [acceptsArray, Bool.and_eq_true, Bool.not_eq_true',
        decide_eq_false_iff_not] at accepted
      obtain ⟨⟨⟨_, isValid⟩, isNew⟩, restAccepted⟩ := accepted
      obtain ⟨restDistinct, restValid⟩ := inductionHypothesis restAccepted
      refine ⟨?_, ?_⟩
      · rw [List.map_cons, List.nodup_cons]
        refine ⟨?_, restDistinct⟩
        intro repeated
        obtain ⟨other, isMember, sameKey⟩ := List.mem_map.mp repeated
        apply (restValid other isMember).2
        rw [sameKey]
        exact List.mem_cons_self
      · intro other isMember
        rcases List.mem_cons.mp isMember with rfl | inRest
        · exact ⟨isValid, isNew⟩
        · obtain ⟨otherValid, otherNew⟩ := restValid other inRest
          exact ⟨otherValid, fun old =>
            otherNew (List.mem_cons_of_mem _ old)⟩

/-- An array registration stores distinct valid objects or nothing. -/
theorem registerArray_cases
    (registered : List Object)
    (objects : Option (List (Declared Object))) :
    registerArray keyOf valid registered objects =
        (registered, false) ∨
      ∃ stored,
        registerArray keyOf valid registered objects = (stored, true) ∧
        (stored.map keyOf).Nodup ∧
        ∀ object ∈ stored, valid object = true := by
  unfold registerArray
  cases objects with
  | none =>
      exact .inl rfl
  | some objects =>
      by_cases accepted : acceptsArray keyOf valid [] objects = true
      · obtain ⟨distinct, allValid⟩ := acceptsArray_keys accepted
        refine .inr ⟨objects.map Declared.object, ?_, ?_, ?_⟩
        · exact if_pos accepted
        · rwa [List.map_map]
        · intro object isMember
          obtain ⟨declared, declaredMember, rfl⟩ :=
            List.mem_map.mp isMember
          exact (allValid declared declaredMember).1
      · exact .inl (if_neg accepted)

/-- An exclusive array is only stored where no object stands alone. -/
theorem registerExclusiveArray_cases
    (objectCentric : List (ObjectCentric Object))
    (registered : List Object)
    (objects : Option (List (Declared Object))) :
    registerExclusiveArray instanceOf valid objectCentric registered
        objects = (registered, false) ∨
      objectCentric = [] ∧
      ∃ stored,
        registerExclusiveArray instanceOf valid objectCentric registered
          objects = (stored, true) ∧
        (stored.map instanceOf).Nodup ∧
        ∀ object ∈ stored, valid object = true := by
  unfold registerExclusiveArray
  by_cases occupied : objectCentric.length ≠ 0
  · exact .inl (if_pos occupied)
  · rw [if_neg occupied]
    rcases @registerArray_cases _ _ _ instanceOf valid registered objects
      with rejected | stored
    · exact .inl rejected
    · exact .inr
        ⟨List.length_eq_zero_iff.mp (not_not.mp occupied), stored⟩

/-- A single object is appended with a new instance, or not at all. -/
theorem registerObject_cases
    {support : PropertySupport}
    (array : List Object)
    (registered : List (ObjectCentric Object))
    (properties : ObjectProperties support)
    (declared : Declared Object) :
    ((registerObject instanceOf valid array registered properties
          declared).1 = registered ∧
        (registerObject instanceOf valid array registered properties
          declared).2 ≠ .ok) ∨
      array = [] ∧
      valid declared.object = true ∧
      (∀ other ∈ registered,
        instanceOf other.object ≠ instanceOf declared.object) ∧
      registerObject instanceOf valid array registered properties
          declared =
        (registered ++ [⟨declared.object, properties.slots⟩], .ok) := by
  unfold registerObject
  by_cases configured : properties.configurationStatus ≠ .ok
  · exact .inl (by simp [configured])
  by_cases conflict : array.length ≠ 0
  · exact .inl (by simp [configured, conflict])
  by_cases isValid :
      (declared.isComplete && valid declared.object) = true
  swap
  · exact .inl (by simp [configured, conflict, isValid])
  by_cases repeated :
      (registered.any fun other =>
        instanceOf other.object == instanceOf declared.object) = true
  · exact .inl (by simp [configured, conflict, isValid, repeated])
  by_cases full : registered.length = kMaxObjectCentricObjects
  · exact .inl (by simp [configured, conflict, isValid, repeated, full])
  refine .inr ⟨?_, ?_, ?_, ?_⟩
  · exact List.length_eq_zero_iff.mp (not_not.mp conflict)
  · exact (Bool.and_eq_true_iff.mp isValid).2
  · intro other isMember sameInstance
    exact repeated (List.any_eq_true.mpr
      ⟨other, isMember, beq_iff_eq.mpr sameInstance⟩)
  · simp [configured, conflict, isValid, repeated, full]

end Kinds

namespace ServerObjects

variable (objects : ServerObjects)

/-- Plain Analog Values may not repeat a commandable one. -/
def setAnalogValues
    (analogValues : Option (List (Declared BacnetServerAnalogValue))) :
    ServerObjects × Bool :=
  let (stored, accepted) :=
    registerArray BacnetServerAnalogValue.instance_
      (fun value =>
        validObjectConfiguration value.instance_ value.objectName &&
          (objects.findCommandableAnalogValue value.instance_).isNone)
      objects.analogValues analogValues
  ({ objects with analogValues := stored }, accepted)

/-- Commandable Analog Values may not repeat a plain one. -/
def setCommandableAnalogValues
    (analogValues :
      Option (List (Declared BacnetServerCommandableAnalogValue))) :
    ServerObjects × Bool :=
  let (stored, accepted) :=
    registerArray BacnetServerCommandableAnalogValue.instance_
      (fun value =>
        validObjectConfiguration value.instance_ value.objectName &&
          (objects.findAnalogValue value.instance_).isNone)
      objects.commandableAnalogValues analogValues
  ({ objects with commandableAnalogValues := stored }, accepted)

def setAnalogOutputs
    (analogOutputs : Option (List (Declared BacnetServerAnalogOutput))) :
    ServerObjects × Bool :=
  let (stored, accepted) :=
    registerArray BacnetServerAnalogOutput.instance_
      (fun output =>
        validObjectConfiguration output.instance_ output.objectName)
      objects.analogOutputs analogOutputs
  ({ objects with analogOutputs := stored }, accepted)

def setAnalogInputs
    (analogInputs : Option (List (Declared BacnetServerAnalogInput))) :
    ServerObjects × Bool :=
  let (stored, accepted) :=
    registerExclusiveArray BacnetServerAnalogInput.instance_
      (fun input =>
        validObjectConfiguration input.instance_ input.objectName)
      objects.objectCentricAnalogInputs objects.analogInputs analogInputs
  ({ objects with analogInputs := stored }, accepted)

def setBinaryInputs
    (binaryInputs : Option (List (Declared BacnetServerBinaryInput))) :
    ServerObjects × Bool :=
  let (stored, accepted) :=
    registerExclusiveArray BacnetServerBinaryInput.instance_
      (fun input =>
        validObjectConfiguration input.instance_ input.objectName)
      objects.objectCentricBinaryInputs objects.binaryInputs binaryInputs
  ({ objects with binaryInputs := stored }, accepted)

/-- A Binary Output also needs a known polarity. -/
def validBinaryOutput (output : BacnetServerBinaryOutput) : Bool :=
  validObjectConfiguration output.instance_ output.objectName &&
    decide (output.polarity ≤ 1)

def setBinaryOutputs
    (binaryOutputs : Option (List (Declared BacnetServerBinaryOutput))) :
    ServerObjects × Bool :=
  let (stored, accepted) :=
    registerExclusiveArray BacnetServerBinaryOutput.instance_
      validBinaryOutput
      objects.objectCentricBinaryOutputs objects.binaryOutputs
      binaryOutputs
  ({ objects with binaryOutputs := stored }, accepted)

def setBinaryValues
    (binaryValues : Option (List (Declared BacnetServerBinaryValue))) :
    ServerObjects × Bool :=
  let (stored, accepted) :=
    registerArray BacnetServerBinaryValue.instance_
      (fun value =>
        validObjectConfiguration value.instance_ value.objectName)
      objects.binaryValues binaryValues
  ({ objects with binaryValues := stored }, accepted)

def setMultiStateValues
    (multiStateValues :
      Option (List (Declared BacnetServerMultiStateValue))) :
    ServerObjects × Bool :=
  let (stored, accepted) :=
    registerArray BacnetServerMultiStateValue.instance_
      validMultiStateValueConfiguration
      objects.multiStateValues multiStateValues
  ({ objects with multiStateValues := stored }, accepted)

/-- `addObject` of an Analog Input with its optional properties. -/
def addAnalogInput
    (properties : ObjectProperties analogInputSupport)
    (object : Declared BacnetServerAnalogInput) :
    ServerObjects × BacnetObjectConfigurationStatus :=
  let (stored, status) :=
    registerObject BacnetServerAnalogInput.instance_
      (fun input =>
        validObjectConfiguration input.instance_ input.objectName)
      objects.analogInputs objects.objectCentricAnalogInputs
      properties object
  ({ objects with objectCentricAnalogInputs := stored }, status)

/-- `addObject` of a Binary Input. -/
def addBinaryInput
    (properties : ObjectProperties binaryInputSupport)
    (object : Declared BacnetServerBinaryInput) :
    ServerObjects × BacnetObjectConfigurationStatus :=
  let (stored, status) :=
    registerObject BacnetServerBinaryInput.instance_
      (fun input =>
        validObjectConfiguration input.instance_ input.objectName)
      objects.binaryInputs objects.objectCentricBinaryInputs
      properties object
  ({ objects with objectCentricBinaryInputs := stored }, status)

/-- `addObject` of a Binary Output. -/
def addBinaryOutput
    (properties : ObjectProperties binaryOutputSupport)
    (object : Declared BacnetServerBinaryOutput) :
    ServerObjects × BacnetObjectConfigurationStatus :=
  let (stored, status) :=
    registerObject BacnetServerBinaryOutput.instance_ validBinaryOutput
      objects.binaryOutputs objects.objectCentricBinaryOutputs
      properties object
  ({ objects with objectCentricBinaryOutputs := stored }, status)

/-- The Device only has registrations of these. -/
def isDeviceMetadataProperty (property : BacnetPropertyId) : Bool :=
  property == .description || property == .location ||
    property == .serialNumber

/-- The Property_List cannot be registered. -/
def validPropertyRegistration
    (registration : BacnetServerPropertyRegistration) : Bool :=
  decide (registration.object.instance_ ≤ kMaxObjectInstance) &&
    registration.property != .propertyList &&
    (registration.object.type != BacnetObjectType.device ||
      isDeviceMetadataProperty registration.property)

def setPropertyRegistrations
    (registrations :
      Option (List (Declared BacnetServerPropertyRegistration))) :
    ServerObjects × Bool :=
  let (stored, accepted) :=
    registerArray
      (fun registration : BacnetServerPropertyRegistration =>
        (registration.object, registration.property))
      validPropertyRegistration
      objects.propertyRegistrations registrations
  ({ objects with propertyRegistrations := stored }, accepted)

end ServerObjects

/-- One call of a registration function. -/
inductive RegistrationCall where
  | setAnalogValues
      (values : Option (List (Declared BacnetServerAnalogValue)))
  | setCommandableAnalogValues
      (values :
        Option (List (Declared BacnetServerCommandableAnalogValue)))
  | setAnalogOutputs
      (outputs : Option (List (Declared BacnetServerAnalogOutput)))
  | setAnalogInputs
      (inputs : Option (List (Declared BacnetServerAnalogInput)))
  | setBinaryInputs
      (inputs : Option (List (Declared BacnetServerBinaryInput)))
  | setBinaryOutputs
      (outputs : Option (List (Declared BacnetServerBinaryOutput)))
  | setBinaryValues
      (values : Option (List (Declared BacnetServerBinaryValue)))
  | setMultiStateValues
      (values : Option (List (Declared BacnetServerMultiStateValue)))
  | setPropertyRegistrations
      (registrations :
        Option (List (Declared BacnetServerPropertyRegistration)))
  | addAnalogInput
      (properties : ObjectProperties analogInputSupport)
      (object : Declared BacnetServerAnalogInput)
  | addBinaryInput
      (properties : ObjectProperties binaryInputSupport)
      (object : Declared BacnetServerBinaryInput)
  | addBinaryOutput
      (properties : ObjectProperties binaryOutputSupport)
      (object : Declared BacnetServerBinaryOutput)

/-- An `addObject` is accepted when it reports no error. -/
def acceptedObject
    (result : ServerObjects × BacnetObjectConfigurationStatus) :
    ServerObjects × Bool :=
  (result.1, result.2 == .ok)

namespace ServerObjects

/-- The registry after a call, and whether the call was accepted. -/
def perform (objects : ServerObjects) : RegistrationCall → ServerObjects × Bool
  | .setAnalogValues values => objects.setAnalogValues values
  | .setCommandableAnalogValues values =>
      objects.setCommandableAnalogValues values
  | .setAnalogOutputs outputs => objects.setAnalogOutputs outputs
  | .setAnalogInputs inputs => objects.setAnalogInputs inputs
  | .setBinaryInputs inputs => objects.setBinaryInputs inputs
  | .setBinaryOutputs outputs => objects.setBinaryOutputs outputs
  | .setBinaryValues values => objects.setBinaryValues values
  | .setMultiStateValues values => objects.setMultiStateValues values
  | .setPropertyRegistrations registrations =>
      objects.setPropertyRegistrations registrations
  | .addAnalogInput properties object =>
      acceptedObject (objects.addAnalogInput properties object)
  | .addBinaryInput properties object =>
      acceptedObject (objects.addBinaryInput properties object)
  | .addBinaryOutput properties object =>
      acceptedObject (objects.addBinaryOutput properties object)

/-- The registry after a call. -/
def register
    (objects : ServerObjects)
    (call : RegistrationCall) : ServerObjects :=
  (objects.perform call).1

/-! The invariant of all registrations. -/

/-- The instances registered under each object type. -/
def instancesByType
    (objects : ServerObjects) : List (UInt16 × List UInt32) :=
  [(BacnetObjectType.analogValue,
      objects.analogValues.map BacnetServerAnalogValue.instance_ ++
        objects.commandableAnalogValues.map
          BacnetServerCommandableAnalogValue.instance_),
    (BacnetObjectType.analogInput,
      objects.analogInputs.map BacnetServerAnalogInput.instance_ ++
        objects.objectCentricAnalogInputs.map (·.object.instance_)),
    (BacnetObjectType.binaryInput,
      objects.binaryInputs.map BacnetServerBinaryInput.instance_ ++
        objects.objectCentricBinaryInputs.map (·.object.instance_)),
    (BacnetObjectType.analogOutput,
      objects.analogOutputs.map BacnetServerAnalogOutput.instance_),
    (BacnetObjectType.binaryOutput,
      objects.binaryOutputs.map BacnetServerBinaryOutput.instance_ ++
        objects.objectCentricBinaryOutputs.map (·.object.instance_)),
    (BacnetObjectType.binaryValue,
      objects.binaryValues.map BacnetServerBinaryValue.instance_),
    (BacnetObjectType.multiStateValue,
      objects.multiStateValues.map BacnetServerMultiStateValue.instance_)]

/-- The identifiers of all registered objects, in either form. -/
def identifiers (objects : ServerObjects) : List BacnetObjectId :=
  objects.instancesByType.flatMap fun (objectType, instances) =>
    instances.map fun instance_ => ⟨objectType, instance_⟩

/-- No kind has both an array and object-centric objects. -/
structure OneFormEach (objects : ServerObjects) : Prop where
  analogInputs :
    objects.analogInputs = [] ∨ objects.objectCentricAnalogInputs = []
  binaryInputs :
    objects.binaryInputs = [] ∨ objects.objectCentricBinaryInputs = []
  binaryOutputs :
    objects.binaryOutputs = [] ∨ objects.objectCentricBinaryOutputs = []

/-- Identifiers are distinct and in range, and every kind has one form. -/
structure WellRegistered (objects : ServerObjects) : Prop where
  distinct : objects.identifiers.Nodup
  bounded :
    ∀ object ∈ objects.identifiers, object.instance_ ≤ kMaxObjectInstance
  oneForm : objects.OneFormEach

/-- `WellRegistered`, kind by kind. -/
structure DistinctKinds (objects : ServerObjects) : Prop where
  analogValues :
    DistinctInstances
      (objects.analogValues.map BacnetServerAnalogValue.instance_ ++
        objects.commandableAnalogValues.map
          BacnetServerCommandableAnalogValue.instance_)
  analogInputs :
    DistinctInstances
      (objects.analogInputs.map BacnetServerAnalogInput.instance_ ++
        objects.objectCentricAnalogInputs.map (·.object.instance_))
  binaryInputs :
    DistinctInstances
      (objects.binaryInputs.map BacnetServerBinaryInput.instance_ ++
        objects.objectCentricBinaryInputs.map (·.object.instance_))
  analogOutputs :
    DistinctInstances
      (objects.analogOutputs.map BacnetServerAnalogOutput.instance_)
  binaryOutputs :
    DistinctInstances
      (objects.binaryOutputs.map BacnetServerBinaryOutput.instance_ ++
        objects.objectCentricBinaryOutputs.map (·.object.instance_))
  binaryValues :
    DistinctInstances
      (objects.binaryValues.map BacnetServerBinaryValue.instance_)
  multiStateValues :
    DistinctInstances
      (objects.multiStateValues.map BacnetServerMultiStateValue.instance_)
  oneAnalogInputForm :
    objects.analogInputs = [] ∨ objects.objectCentricAnalogInputs = []
  oneBinaryInputForm :
    objects.binaryInputs = [] ∨ objects.objectCentricBinaryInputs = []
  oneBinaryOutputForm :
    objects.binaryOutputs = [] ∨ objects.objectCentricBinaryOutputs = []

variable {objects : ServerObjects}

/-- Object types tell the kinds apart, so distinct kinds are enough. -/
theorem DistinctKinds.wellRegistered
    (kinds : objects.DistinctKinds) :
    objects.WellRegistered := by
  have each :
      ∀ kind ∈ objects.instancesByType, DistinctInstances kind.2 := by
    intro kind isKind
    simp only [instancesByType, List.mem_cons, List.not_mem_nil,
      or_false] at isKind
    rcases isKind with rfl | rfl | rfl | rfl | rfl | rfl | rfl
    · exact kinds.analogValues
    · exact kinds.analogInputs
    · exact kinds.binaryInputs
    · exact kinds.analogOutputs
    · exact kinds.binaryOutputs
    · exact kinds.binaryValues
    · exact kinds.multiStateValues
  refine ⟨?_, ?_, ⟨kinds.oneAnalogInputForm,
    kinds.oneBinaryInputForm, kinds.oneBinaryOutputForm⟩⟩
  · unfold identifiers
    rw [List.nodup_flatMap]
    refine ⟨fun kind isKind => (each kind isKind).distinct.map ?_, ?_⟩
    · intro first second same
      exact (BacnetObjectId.mk.inj same).2
    · have types :
          (objects.instancesByType.map Prod.fst).Nodup := by
        simp only [instancesByType, List.map_cons, List.map_nil]
        decide
      rw [List.Nodup, List.pairwise_map] at types
      refine types.imp ?_
      intro first second otherType object inFirst inSecond
      obtain ⟨_, _, rfl⟩ := List.mem_map.mp inFirst
      obtain ⟨_, _, same⟩ := List.mem_map.mp inSecond
      exact otherType (BacnetObjectId.mk.inj same).1.symm
  · intro object isMember
    obtain ⟨kind, isKind, inKind⟩ := List.mem_flatMap.mp isMember
    obtain ⟨instance_, isInstance, rfl⟩ := List.mem_map.mp inKind
    exact (each kind isKind).bounded instance_ isInstance

/-- An instance no object is found under is not registered. -/
theorem not_mem_instances
    {Object : Type}
    {instanceOf : Object → UInt32}
    {registered : List Object}
    {instance_ : UInt32}
    (notFound :
      (registered.find? fun object =>
        instanceOf object == instance_).isNone = true) :
    instance_ ∉ registered.map instanceOf := by
  rw [Option.isNone_iff_eq_none, List.find?_eq_none] at notFound
  intro isMember
  obtain ⟨object, inRegistered, rfl⟩ := List.mem_map.mp isMember
  exact notFound object inRegistered (beq_self_eq_true _)

/-- What a call may do: change nothing, or keep every kind distinct. -/
def KeepsKinds
    (objects : ServerObjects)
    (result : ServerObjects × Bool) : Prop :=
  result = (objects, false) ∨
    result.2 = true ∧ (objects.DistinctKinds → result.1.DistinctKinds)

theorem setAnalogValues_keeps
    (values : Option (List (Declared BacnetServerAnalogValue))) :
    objects.KeepsKinds (objects.setAnalogValues values) := by
  unfold setAnalogValues
  rcases @registerArray_cases _ UInt32 _ _ _ objects.analogValues values
    with rejected | ⟨stored, accepted, distinct, allValid⟩
  · exact .inl (by rw [rejected])
  · rw [accepted]
    simp only [Bool.and_eq_true] at allValid
    refine .inr ⟨rfl, fun kinds => { kinds with analogValues := ?_ }⟩
    refine DistinctInstances.append
      (distinctInstances_stored distinct
        fun value isMember => (allValid value isMember).1)
      kinds.analogValues.right ?_
    intro instance_ isMember
    obtain ⟨value, inStored, rfl⟩ := List.mem_map.mp isMember
    exact not_mem_instances (allValid value inStored).2

theorem setCommandableAnalogValues_keeps
    (values :
      Option (List (Declared BacnetServerCommandableAnalogValue))) :
    objects.KeepsKinds (objects.setCommandableAnalogValues values) := by
  unfold setCommandableAnalogValues
  rcases @registerArray_cases _ UInt32 _ _ _
      objects.commandableAnalogValues values
    with rejected | ⟨stored, accepted, distinct, allValid⟩
  · exact .inl (by rw [rejected])
  · rw [accepted]
    simp only [Bool.and_eq_true] at allValid
    refine .inr ⟨rfl, fun kinds => { kinds with analogValues := ?_ }⟩
    refine DistinctInstances.append kinds.analogValues.left
      (distinctInstances_stored distinct
        fun value isMember => (allValid value isMember).1) ?_
    intro instance_ isPlain isMember
    obtain ⟨value, inStored, rfl⟩ := List.mem_map.mp isMember
    exact not_mem_instances (allValid value inStored).2 isPlain

theorem setAnalogOutputs_keeps
    (outputs : Option (List (Declared BacnetServerAnalogOutput))) :
    objects.KeepsKinds (objects.setAnalogOutputs outputs) := by
  unfold setAnalogOutputs
  rcases @registerArray_cases _ UInt32 _ _ _ objects.analogOutputs outputs
    with rejected | ⟨stored, accepted, distinct, allValid⟩
  · exact .inl (by rw [rejected])
  · rw [accepted]
    exact .inr ⟨rfl, fun kinds =>
      { kinds with
        analogOutputs := distinctInstances_stored distinct allValid }⟩

theorem setBinaryValues_keeps
    (values : Option (List (Declared BacnetServerBinaryValue))) :
    objects.KeepsKinds (objects.setBinaryValues values) := by
  unfold setBinaryValues
  rcases @registerArray_cases _ UInt32 _ _ _ objects.binaryValues values
    with rejected | ⟨stored, accepted, distinct, allValid⟩
  · exact .inl (by rw [rejected])
  · rw [accepted]
    exact .inr ⟨rfl, fun kinds =>
      { kinds with
        binaryValues := distinctInstances_stored distinct allValid }⟩

theorem validMultiStateValue_configuration
    {value : BacnetServerMultiStateValue}
    (isValid : validMultiStateValueConfiguration value = true) :
    validObjectConfiguration value.instance_ value.objectName = true := by
  simp only [validMultiStateValueConfiguration,
    Bool.and_eq_true] at isValid
  exact isValid.1.1.1.1

theorem setMultiStateValues_keeps
    (values : Option (List (Declared BacnetServerMultiStateValue))) :
    objects.KeepsKinds (objects.setMultiStateValues values) := by
  unfold setMultiStateValues
  rcases @registerArray_cases _ UInt32 _ _ _
      objects.multiStateValues values
    with rejected | ⟨stored, accepted, distinct, allValid⟩
  · exact .inl (by rw [rejected])
  · rw [accepted]
    exact .inr ⟨rfl, fun kinds =>
      { kinds with
        multiStateValues := distinctInstances_stored distinct
          fun value isMember =>
            validMultiStateValue_configuration
              (allValid value isMember) }⟩

/-- An exclusive array is a kind of its own. -/
theorem exclusiveArray_distinct
    {Object : Type}
    {instanceOf : Object → UInt32}
    {nameOf : Object → List UInt8}
    {stored : List Object}
    {objectCentric : List (ObjectCentric Object)}
    (alone : objectCentric = [])
    (distinct : (stored.map instanceOf).Nodup)
    (allValid :
      ∀ object ∈ stored,
        validObjectConfiguration (instanceOf object) (nameOf object) =
          true) :
    DistinctInstances
      (stored.map instanceOf ++
        objectCentric.map fun source => instanceOf source.object) := by
  rw [alone, List.map_nil, List.append_nil]
  exact distinctInstances_stored distinct allValid

theorem setAnalogInputs_keeps
    (inputs : Option (List (Declared BacnetServerAnalogInput))) :
    objects.KeepsKinds (objects.setAnalogInputs inputs) := by
  unfold setAnalogInputs
  rcases registerExclusiveArray_cases objects.objectCentricAnalogInputs
      objects.analogInputs inputs
    with rejected | ⟨alone, stored, accepted, distinct, allValid⟩
  · exact .inl (by rw [rejected])
  · rw [accepted]
    exact .inr ⟨rfl, fun kinds =>
      { kinds with
        analogInputs := exclusiveArray_distinct alone distinct allValid
        oneAnalogInputForm := .inr alone }⟩

theorem setBinaryInputs_keeps
    (inputs : Option (List (Declared BacnetServerBinaryInput))) :
    objects.KeepsKinds (objects.setBinaryInputs inputs) := by
  unfold setBinaryInputs
  rcases registerExclusiveArray_cases objects.objectCentricBinaryInputs
      objects.binaryInputs inputs
    with rejected | ⟨alone, stored, accepted, distinct, allValid⟩
  · exact .inl (by rw [rejected])
  · rw [accepted]
    exact .inr ⟨rfl, fun kinds =>
      { kinds with
        binaryInputs := exclusiveArray_distinct alone distinct allValid
        oneBinaryInputForm := .inr alone }⟩

theorem validBinaryOutput_configuration
    {output : BacnetServerBinaryOutput}
    (isValid : validBinaryOutput output = true) :
    validObjectConfiguration output.instance_ output.objectName = true :=
  (Bool.and_eq_true_iff.mp isValid).1

theorem setBinaryOutputs_keeps
    (outputs : Option (List (Declared BacnetServerBinaryOutput))) :
    objects.KeepsKinds (objects.setBinaryOutputs outputs) := by
  unfold setBinaryOutputs
  rcases registerExclusiveArray_cases objects.objectCentricBinaryOutputs
      objects.binaryOutputs outputs
    with rejected | ⟨alone, stored, accepted, distinct, allValid⟩
  · exact .inl (by rw [rejected])
  · rw [accepted]
    exact .inr ⟨rfl, fun kinds =>
      { kinds with
        binaryOutputs := exclusiveArray_distinct alone distinct
          fun output isMember =>
            validBinaryOutput_configuration (allValid output isMember)
        oneBinaryOutputForm := .inr alone }⟩

/-- A new object-centric object keeps its kind distinct. -/
theorem addedObject_distinct
    {Object : Type}
    {instanceOf : Object → UInt32}
    {nameOf : Object → List UInt8}
    {array : List Object}
    {registered : List (ObjectCentric Object)}
    {added : ObjectCentric Object}
    (kind :
      DistinctInstances
        (array.map instanceOf ++
          registered.map fun source => instanceOf source.object))
    (isValid :
      validObjectConfiguration (instanceOf added.object)
        (nameOf added.object) = true)
    (noArray : array = [])
    (isNew :
      ∀ other ∈ registered,
        instanceOf other.object ≠ instanceOf added.object) :
    DistinctInstances
      (array.map instanceOf ++
        (registered ++ [added]).map
          fun source => instanceOf source.object) := by
  subst noArray
  rw [List.map_nil, List.nil_append] at kind ⊢
  rw [List.map_append]
  refine DistinctInstances.append kind ?_ ?_
  · refine ⟨List.nodup_singleton _, ?_⟩
    intro instance_ isAdded
    obtain rfl := List.mem_singleton.mp isAdded
    simp only [validObjectConfiguration, Bool.and_eq_true,
      decide_eq_true_eq] at isValid
    exact isValid.1
  · intro instance_ isMember isAdded
    obtain ⟨other, inRegistered, rfl⟩ := List.mem_map.mp isMember
    exact isNew other inRegistered (List.mem_singleton.mp isAdded)

theorem addAnalogInput_keeps
    (properties : ObjectProperties analogInputSupport)
    (object : Declared BacnetServerAnalogInput) :
    objects.KeepsKinds
      (acceptedObject
        (objects.addAnalogInput properties object)) := by
  unfold addAnalogInput acceptedObject
  rcases registerObject_cases objects.analogInputs
      objects.objectCentricAnalogInputs properties object
    with ⟨unchanged, rejected⟩ | ⟨noArray, isValid, isNew, added⟩
  · exact .inl (Prod.ext (by simp only [unchanged])
      (beq_eq_false_iff_ne.mpr rejected))
  · rw [added]
    exact .inr ⟨rfl, fun kinds =>
      { kinds with
        analogInputs :=
          addedObject_distinct kinds.analogInputs isValid noArray isNew
        oneAnalogInputForm := .inl noArray }⟩

theorem addBinaryInput_keeps
    (properties : ObjectProperties binaryInputSupport)
    (object : Declared BacnetServerBinaryInput) :
    objects.KeepsKinds
      (acceptedObject
        (objects.addBinaryInput properties object)) := by
  unfold addBinaryInput acceptedObject
  rcases registerObject_cases objects.binaryInputs
      objects.objectCentricBinaryInputs properties object
    with ⟨unchanged, rejected⟩ | ⟨noArray, isValid, isNew, added⟩
  · exact .inl (Prod.ext (by simp only [unchanged])
      (beq_eq_false_iff_ne.mpr rejected))
  · rw [added]
    exact .inr ⟨rfl, fun kinds =>
      { kinds with
        binaryInputs :=
          addedObject_distinct kinds.binaryInputs isValid noArray isNew
        oneBinaryInputForm := .inl noArray }⟩

theorem addBinaryOutput_keeps
    (properties : ObjectProperties binaryOutputSupport)
    (object : Declared BacnetServerBinaryOutput) :
    objects.KeepsKinds
      (acceptedObject
        (objects.addBinaryOutput properties object)) := by
  unfold addBinaryOutput acceptedObject
  rcases registerObject_cases objects.binaryOutputs
      objects.objectCentricBinaryOutputs properties object
    with ⟨unchanged, rejected⟩ | ⟨noArray, isValid, isNew, added⟩
  · exact .inl (Prod.ext (by simp only [unchanged])
      (beq_eq_false_iff_ne.mpr rejected))
  · rw [added]
    exact .inr ⟨rfl, fun kinds =>
      { kinds with
        binaryOutputs :=
          addedObject_distinct kinds.binaryOutputs
            (validBinaryOutput_configuration isValid) noArray isNew
        oneBinaryOutputForm := .inl noArray }⟩

theorem setPropertyRegistrations_keeps
    (registrations :
      Option (List (Declared BacnetServerPropertyRegistration))) :
    objects.KeepsKinds
      (objects.setPropertyRegistrations registrations) := by
  unfold setPropertyRegistrations
  rcases @registerArray_cases _ (BacnetObjectId × BacnetPropertyId) _ _ _
      objects.propertyRegistrations registrations
    with rejected | ⟨stored, accepted, _⟩
  · exact .inl (by rw [rejected])
  · rw [accepted]
    exact .inr ⟨rfl, fun kinds => { kinds with }⟩

/-- Every registration call changes nothing or keeps the kinds distinct. -/
theorem perform_keeps (call : RegistrationCall) :
    objects.KeepsKinds (objects.perform call) := by
  cases call with
  | setAnalogValues values => exact setAnalogValues_keeps values
  | setCommandableAnalogValues values =>
      exact setCommandableAnalogValues_keeps values
  | setAnalogOutputs outputs => exact setAnalogOutputs_keeps outputs
  | setAnalogInputs inputs => exact setAnalogInputs_keeps inputs
  | setBinaryInputs inputs => exact setBinaryInputs_keeps inputs
  | setBinaryOutputs outputs => exact setBinaryOutputs_keeps outputs
  | setBinaryValues values => exact setBinaryValues_keeps values
  | setMultiStateValues values => exact setMultiStateValues_keeps values
  | setPropertyRegistrations registrations =>
      exact setPropertyRegistrations_keeps registrations
  | addAnalogInput properties object =>
      exact addAnalogInput_keeps properties object
  | addBinaryInput properties object =>
      exact addBinaryInput_keeps properties object
  | addBinaryOutput properties object =>
      exact addBinaryOutput_keeps properties object

theorem register_distinctKinds
    (call : RegistrationCall)
    (kinds : objects.DistinctKinds) :
    (objects.register call).DistinctKinds := by
  rcases @perform_keeps objects call with unchanged | ⟨_, keeps⟩
  · rwa [register, unchanged]
  · exact keeps kinds

theorem empty_distinctKinds : DistinctKinds {} where
  analogValues := distinctInstances_nil
  analogInputs := distinctInstances_nil
  binaryInputs := distinctInstances_nil
  analogOutputs := distinctInstances_nil
  binaryOutputs := distinctInstances_nil
  binaryValues := distinctInstances_nil
  multiStateValues := distinctInstances_nil
  oneAnalogInputForm := .inl rfl
  oneBinaryInputForm := .inl rfl
  oneBinaryOutputForm := .inl rfl

/-- The registry after any sequence of calls. -/
theorem run_distinctKinds (calls : List RegistrationCall) :
    (run register {} calls).DistinctKinds :=
  run_invariant DistinctKinds
    (fun _ call kinds => register_distinctKinds call kinds)
    empty_distinctKinds calls

/--
After any sequence of registration calls all identifiers are distinct and in
range and no kind has two forms, and a rejected call leaves the registry as
it is.
-/
theorem registry_invariant (calls : List RegistrationCall) :
    (run register {} calls).WellRegistered ∧
      ∀ call,
        ((run register {} calls).perform call).2 = false →
          ((run register {} calls).perform call).1 =
            run register {} calls := by
  refine ⟨(run_distinctKinds calls).wellRegistered, ?_⟩
  intro call rejected
  rcases @perform_keeps (run register {} calls) call
    with unchanged | ⟨accepted, _⟩
  · rw [unchanged]
  · rw [rejected] at accepted
    cases accepted

/-- A commandable Analog Value cannot repeat a plain one. -/
theorem repeatedAnalogValue_rejected :
    let calls : List RegistrationCall :=
      [.setAnalogValues (some [⟨{ instance_ := 1 }, true⟩]),
        .addAnalogInput .initializeProperties ⟨{ instance_ := 1 }, true⟩]
    let repeated : RegistrationCall :=
      .setCommandableAnalogValues (some [⟨{ instance_ := 1 }, true⟩])
    (run register {} calls).WellRegistered ∧
      ((run register {} calls).perform repeated).2 = false ∧
      ((run register {} calls).perform repeated).1 =
        run register {} calls := by
  intro calls repeated
  obtain ⟨wellRegistered, unchanged⟩ := registry_invariant calls
  exact ⟨wellRegistered, rfl, unchanged repeated rfl⟩

end ServerObjects

end BacnetStack
