import BacnetStack.ServerRegistration

namespace BacnetStack

/-!
# Configuring an object

Before an object-centric object is registered the application gives it its
identity, its value and optional properties, one call after another.  What
each call returns follows from the calls in front of it; the object keeps the
first error, and a server refuses it with that error.
-/

/--
One configuration call.  A call that assigns is refused without arguments it
can use, and names a property in the error; a property may be added without a
value, as a null pointer.
-/
inductive ConfigurationCall (Object : Type) where
  | assign
      (property : BacnetPropertyId)
      (assigned : Option (Declared Object → Declared Object))
  | addProperty
      (property : BacnetPropertyId)
      (value : Option BacnetObjectPropertySlotValue)

/-- An argument that may not be a null pointer. -/
def assignPointer {Object Value : Type}
    (property : BacnetPropertyId)
    (value : Option Value)
    (assigned : Value → Object → Object) : ConfigurationCall Object :=
  .assign property <|
    value.map fun value declared =>
      { declared with object := assigned value declared.object }

/-- `configure`, with the assignment of the identity of this kind. -/
def configureObject {Object : Type}
    (assigned : UInt32 → List UInt8 → Object → Object)
    (instanceValue : UInt32)
    (name : Option (List UInt8)) : ConfigurationCall Object :=
  .assign .objectIdentifier <|
    (name.filter (validObjectConfiguration instanceValue)).map
      fun name declared =>
        { object := assigned instanceValue name declared.object
          isComplete := true }

namespace BacnetAnalogInput

def configure
    (instanceValue : UInt32)
    (name : Option (List UInt8)) :
    ConfigurationCall BacnetServerAnalogInput :=
  configureObject
    (fun instance_ name input =>
      { input with instance_ := instance_, objectName := name })
    instanceValue name

/-- The bound variable is read instead of an input, without its scale. -/
def bindPresentValue
    (value : Option Binary32) : ConfigurationCall BacnetServerAnalogInput :=
  assignPointer .presentValue value fun value input =>
    { input with presentValueProvider := some value, hasInputScale := false }

def bindInput
    (provider : Option Binary32) :
    ConfigurationCall BacnetServerAnalogInput :=
  assignPointer .presentValue provider fun provider input =>
    { input with presentValueProvider := some provider }

def setInputScale
    (scale : BacnetLinearScale) :
    ConfigurationCall BacnetServerAnalogInput :=
  assignPointer .presentValue (if scale.isValid then some scale else none)
    fun scale input =>
      { input with inputScale := scale, hasInputScale := true }

/-- Any units are accepted. -/
def setUnits
    (engineeringUnits : UInt32) :
    ConfigurationCall BacnetServerAnalogInput :=
  assignPointer .units (some engineeringUnits) fun engineeringUnits input =>
    { input with units := engineeringUnits }

end BacnetAnalogInput

namespace BacnetBinaryInput

def configure
    (instanceValue : UInt32)
    (name : Option (List UInt8)) :
    ConfigurationCall BacnetServerBinaryInput :=
  configureObject
    (fun instance_ name input =>
      { input with instance_ := instance_, objectName := name })
    instanceValue name

def bindPresentValue
    (value : Option Bool) : ConfigurationCall BacnetServerBinaryInput :=
  assignPointer .presentValue value fun value input =>
    { input with presentValueProvider := some value }

end BacnetBinaryInput

namespace BacnetBinaryOutput

def configure
    (instanceValue : UInt32)
    (name : Option (List UInt8)) :
    ConfigurationCall BacnetServerBinaryOutput :=
  configureObject
    (fun instance_ name output =>
      { output with instance_ := instance_, objectName := name })
    instanceValue name

end BacnetBinaryOutput

/-- An object with its optional properties and its first error. -/
structure ConfiguredObject
    (Object : Type)
    (support : PropertySupport) where
  declared : Declared Object
  properties : ObjectProperties support := .initializeProperties
  configurationErrorProperty : BacnetPropertyId := .objectIdentifier

namespace ConfiguredObject

variable {Object : Type} {support : PropertySupport}

/-- An object that was just constructed has no name. -/
def construct (object : Object) : ConfiguredObject Object support :=
  { declared := { object := object, isComplete := false } }

/-- The property that `recordConfigurationStatus` keeps with the status. -/
def errorProperty
    (configured : ConfiguredObject Object support)
    (status : BacnetObjectConfigurationStatus)
    (property : BacnetPropertyId) : BacnetPropertyId :=
  if configured.properties.configurationStatus = .ok ∧ status ≠ .ok then
    property
  else
    configured.configurationErrorProperty

/-- One call, with the status it returns. -/
def perform
    (configured : ConfiguredObject Object support) :
    ConfigurationCall Object →
      ConfiguredObject Object support × BacnetObjectConfigurationStatus
  | .assign _ (some assigned) =>
      ({ configured with declared := assigned configured.declared }, .ok)
  | .assign property none =>
      ({ configured with
          properties :=
            configured.properties.recordConfigurationStatus .invalidArgument
          configurationErrorProperty :=
            configured.errorProperty .invalidArgument property },
        .invalidArgument)
  | .addProperty property value =>
      let (properties, status) :=
        configured.properties.addProperty property value
      ({ configured with
          properties := properties
          configurationErrorProperty :=
            configured.errorProperty status property },
        status)

/-- One call after another, with the statuses they return. -/
def performAll
    (configured : ConfiguredObject Object support) :
    List (ConfigurationCall Object) →
      ConfiguredObject Object support ×
        List BacnetObjectConfigurationStatus
  | [] => (configured, [])
  | call :: rest =>
      let (next, status) := configured.perform call
      let (last, statuses) := next.performAll rest
      (last, status :: statuses)

/-- `configurationStatus` with the property of `configurationError`. -/
def configurationError
    (configured : ConfiguredObject Object support) :
    BacnetObjectConfigurationStatus × BacnetPropertyId :=
  (configured.properties.configurationStatus,
    configured.configurationErrorProperty)

end ConfiguredObject

namespace ConfigurationCall

variable {Object : Type}

/-- The property an error of the call names. -/
def property : ConfigurationCall Object → BacnetPropertyId
  | .assign property _ => property
  | .addProperty property _ => property

/-- The slot of a property that is added with a value it can have. -/
def slot?
    (support : PropertySupport) :
    ConfigurationCall Object → Option BacnetObjectPropertySlot
  | .assign _ _ => none
  | .addProperty property value =>
      (value.filter fun value =>
        hasExpectedPropertyType property value &&
          support.supportsProperty property value).map
        fun value => ⟨property, value⟩

/-- What a call returns behind calls that added these slots. -/
def expectedStatus
    (support : PropertySupport)
    (added : List BacnetObjectPropertySlot) :
    ConfigurationCall Object → BacnetObjectConfigurationStatus
  | .assign _ (some _) => .ok
  | .assign _ none => .invalidArgument
  | .addProperty _ none => .invalidArgument
  | .addProperty property (some value) =>
      if !hasExpectedPropertyType property value then
        .propertyTypeMismatch
      else if !support.supportsProperty property value then
        .propertyNotSupported
      else if property ∈ added.map BacnetObjectPropertySlot.property then
        .duplicateProperty
      else
        .ok

/-- What the calls return, by what was added in front of them. -/
def expectedStatuses
    (support : PropertySupport) :
    List BacnetObjectPropertySlot → List (ConfigurationCall Object) →
      List BacnetObjectConfigurationStatus
  | _, [] => []
  | added, call :: rest =>
      call.expectedStatus support added ::
        expectedStatuses support (added ++ (call.slot? support).toList) rest

/-- The status and the property of the first call that failed. -/
def firstError
    (otherwise : BacnetObjectConfigurationStatus × BacnetPropertyId)
    (outcomes :
      List (ConfigurationCall Object × BacnetObjectConfigurationStatus)) :
    BacnetObjectConfigurationStatus × BacnetPropertyId :=
  ((outcomes.find? fun outcome => outcome.2 != .ok).map
    fun outcome => (outcome.2, outcome.1.property)).getD otherwise

end ConfigurationCall

/-- There is room for all the properties a kind supports. -/
def PropertySupport.Ample (support : PropertySupport) : Prop :=
  ∀ slots : List BacnetObjectPropertySlot,
    (slots.map BacnetObjectPropertySlot.property).Nodup →
    (∀ slot ∈ slots, support.supportsProperty slot.property slot.value) →
    slots.length ≤ support.kMaxOptionalProperties

/-- A kind that supports the properties of a list has room for them. -/
theorem PropertySupport.ample_of_subset
    {support : PropertySupport}
    (properties : List BacnetPropertyId)
    (fits : properties.length ≤ support.kMaxOptionalProperties)
    (listed :
      ∀ property value,
        support.supportsProperty property value = true →
          property ∈ properties) :
    support.Ample := by
  intro slots distinct supported
  have within : slots.map BacnetObjectPropertySlot.property ⊆ properties := by
    intro property isMember
    obtain ⟨slot, inSlots, rfl⟩ := List.mem_map.mp isMember
    exact listed _ _ (supported slot inSlots)
  have bound := distinct.length_le_of_subset within
  rw [List.length_map] at bound
  exact bound.trans fits

theorem analogInputSupport_ample : analogInputSupport.Ample := by
  apply PropertySupport.ample_of_subset
    [.description, .minPresentValue, .maxPresentValue, .resolution,
      .reliability, .eventState, .statusFlags] le_rfl
  intro property value isSupported
  dsimp only [analogInputSupport] at isSupported
  split at isSupported <;> first | decide | cases isSupported

theorem binaryInputSupport_ample : binaryInputSupport.Ample := by
  apply PropertySupport.ample_of_subset
    [.description, .reliability, .eventState, .statusFlags] le_rfl
  intro property value isSupported
  dsimp only [binaryInputSupport] at isSupported
  split at isSupported <;> first | decide | cases isSupported

theorem binaryOutputSupport_ample : binaryOutputSupport.Ample := by
  apply PropertySupport.ample_of_subset [.description] le_rfl
  intro property value isSupported
  dsimp only [binaryOutputSupport] at isSupported
  split at isSupported <;> first | decide | cases isSupported

namespace ObjectProperties

variable {support : PropertySupport}

/-- An error changes nothing but the status, and only the first one does. -/
theorem recordConfigurationStatus_eq
    (properties : ObjectProperties support)
    (status : BacnetObjectConfigurationStatus) :
    (properties.recordConfigurationStatus status).slots =
        properties.slots ∧
      (properties.recordConfigurationStatus status).configurationStatus =
        if properties.configurationStatus = .ok then
          status
        else
          properties.configurationStatus := by
  unfold recordConfigurationStatus
  split
  · exact ⟨rfl, rfl⟩
  · exact ⟨rfl, rfl⟩

/-- What adding a property does to the object and returns. -/
inductive Adds
    (properties : ObjectProperties support)
    (property : BacnetPropertyId) :
    Option BacnetObjectPropertySlotValue →
      ObjectProperties support × BacnetObjectConfigurationStatus →
      Prop where
  | refused
      {value : Option BacnetObjectPropertySlotValue}
      {status : BacnetObjectConfigurationStatus}
      (failed : status ≠ .ok) :
      Adds properties property value
        (properties.recordConfigurationStatus status, status)
  | stored
      {value : BacnetObjectPropertySlotValue}
      {after : ObjectProperties support}
      (slots : after.slots = properties.slots ++ [⟨property, value⟩])
      (status :
        after.configurationStatus = properties.configurationStatus) :
      Adds properties property (some value) (after, .ok)

theorem adds_addProperty
    (properties : ObjectProperties support)
    (property : BacnetPropertyId)
    (value : Option BacnetObjectPropertySlotValue) :
    properties.Adds property value (properties.addProperty property value) := by
  rcases value with _ | value
  · exact .refused (by decide)
  · unfold addProperty addPropertyValue
    dsimp only
    split
    · exact .refused (by decide)
    · split
      · split
        · split
          · exact .refused (by decide)
          · exact .stored rfl rfl
        · exact .refused (by decide)
      · exact .refused (by decide)

/-- The status an added property returns, as long as there is room. -/
theorem addProperty_status
    (ample : support.Ample)
    (properties : ObjectProperties support)
    (property : BacnetPropertyId)
    (value : Option BacnetObjectPropertySlotValue) :
    (properties.addProperty property value).2 =
      (ConfigurationCall.addProperty property value :
        ConfigurationCall Unit).expectedStatus support
          properties.slots := by
  rcases value with _ | value
  · rfl
  · unfold addProperty addPropertyValue ConfigurationCall.expectedStatus
    dsimp only
    split
    · rfl
    · by_cases isSupported :
          support.supportsProperty property value = true
      · rw [dif_pos isSupported, if_neg (by simp [isSupported])]
        by_cases isNew :
            property ∉
              properties.slots.map BacnetObjectPropertySlot.property
        · rw [dif_pos isNew, if_neg isNew]
          -- With the new slot the bound still holds, so it is not reached.
          have bound :=
            ample (properties.slots ++ [⟨property, value⟩])
              (by
                rw [List.map_append, List.nodup_append']
                exact ⟨properties.distinct, List.nodup_singleton _,
                  List.disjoint_singleton.mpr isNew⟩)
              (by
                intro slot isSlot
                rcases List.mem_append.mp isSlot with old | added
                · exact properties.supported slot old
                · rw [List.mem_singleton.mp added]
                  exact isSupported)
          rw [List.length_append, List.length_singleton] at bound
          rw [if_neg (Nat.ne_of_lt bound)]
        · rw [dif_neg isNew, if_pos (not_not.mp isNew)]
      · rw [dif_neg isSupported, if_pos (by simpa using isSupported)]

end ObjectProperties

/-- The first slot of a property. -/
def slotOf?
    (slots : List BacnetObjectPropertySlot)
    (property : BacnetPropertyId) : Option BacnetObjectPropertySlot :=
  slots.find? fun slot => slot.property == property

theorem mem_properties_iff
    {slots : List BacnetObjectPropertySlot}
    {property : BacnetPropertyId} :
    property ∈ slots.map BacnetObjectPropertySlot.property ↔
      (slotOf? slots property).isSome := by
  simp [slotOf?]

theorem slotOf?_append
    (first second : List BacnetObjectPropertySlot)
    (property : BacnetPropertyId) :
    slotOf? (first ++ second) property =
      (slotOf? first property).or (slotOf? second property) :=
  List.find?_append

/-- The status of a call depends on the properties that were added. -/
theorem ConfigurationCall.expectedStatus_congr
    {Object : Type}
    {support : PropertySupport}
    {left right : List BacnetObjectPropertySlot}
    (same : slotOf? left = slotOf? right)
    (call : ConfigurationCall Object) :
    call.expectedStatus support left = call.expectedStatus support right := by
  cases call with
  | assign property assigned => cases assigned <;> rfl
  | addProperty property value =>
      cases value with
      | none => rfl
      | some value =>
          simp only [expectedStatus, mem_properties_iff, same]

namespace ConfiguredObject

variable {Object : Type} {support : PropertySupport}
  {added : List BacnetObjectPropertySlot}
  {configured : ConfiguredObject Object support}

/-- A call returns what is expected, and stores what it is the first to add. -/
theorem perform_expected
    (ample : support.Ample)
    (tracks : slotOf? configured.properties.slots = slotOf? added)
    (call : ConfigurationCall Object) :
    (configured.perform call).2 = call.expectedStatus support added ∧
      slotOf? (configured.perform call).1.properties.slots =
        slotOf? (added ++ (call.slot? support).toList) := by
  cases call with
  | assign property assigned =>
      have nothing :
          added ++
              ((ConfigurationCall.assign property assigned).slot?
                support).toList = added :=
        List.append_nil added
      rw [nothing]
      cases assigned with
      | none =>
          refine ⟨rfl, ?_⟩
          change
            slotOf? (configured.properties.recordConfigurationStatus
              .invalidArgument).slots = _
          rw [(configured.properties.recordConfigurationStatus_eq _).1,
            tracks]
      | some assigned => exact ⟨rfl, tracks⟩
  | addProperty property value =>
      have status :
          (configured.properties.addProperty property value).2 =
            (ConfigurationCall.addProperty property value :
              ConfigurationCall Object).expectedStatus support added := by
        rw [configured.properties.addProperty_status ample,
          ← ConfigurationCall.expectedStatus_congr tracks]
        cases value <;> rfl
      refine ⟨status, ?_⟩
      change
        slotOf? (configured.properties.addProperty property value).1.slots =
          _
      have isAdded := configured.properties.adds_addProperty property value
      revert status isAdded
      generalize
        configured.properties.addProperty property value = result
      intro status isAdded
      funext asked
      rw [slotOf?_append, ← congrFun tracks asked]
      cases isAdded with
      | @refused _ refusal failed =>
          rw [(configured.properties.recordConfigurationStatus_eq _).1]
          rcases found : slotOf? configured.properties.slots asked
            with _ | slot
          · rw [Option.none_or]
            rcases isValid :
                (ConfigurationCall.addProperty property value :
                  ConfigurationCall Object).slot? support with _ | slot
            · rfl
            · -- A valid property is only refused when it is there already.
              obtain ⟨value, accepted, rfl⟩ :=
                Option.map_eq_some_iff.mp isValid
              obtain ⟨rfl, isAccepted⟩ := Option.filter_eq_some_iff.mp accepted
              simp only [Bool.and_eq_true] at isAccepted
              simp only [ConfigurationCall.expectedStatus, isAccepted.1,
                isAccepted.2, Bool.not_true, Bool.false_eq_true,
                ↓reduceIte] at status
              split at status
              · rename_i there
                rw [mem_properties_iff, ← congrFun tracks property] at there
                by_cases same : asked = property
                · rw [same] at found
                  rw [found] at there
                  cases there
                · simp [slotOf?, Ne.symm same]
              · exact (failed status).elim
          · rw [Option.some_or]
      | @stored value after slots kept =>
          rw [slots, slotOf?_append]
          congr 1
          have accepted :
              (hasExpectedPropertyType property value &&
                support.supportsProperty property value) = true := by
            simp only [ConfigurationCall.expectedStatus] at status
            split at status
            · cases status
            · split at status
              · cases status
              · simp_all
          simp [ConfigurationCall.slot?, Option.filter, accepted]

/-- Only the first error is kept, with the property of its call. -/
theorem perform_configurationError
    (call : ConfigurationCall Object) :
    (configured.perform call).1.configurationError =
      if configured.properties.configurationStatus = .ok ∧
          (configured.perform call).2 ≠ .ok then
        ((configured.perform call).2, call.property)
      else
        configured.configurationError := by
  have keeps
      (status : BacnetObjectConfigurationStatus)
      (failed : status ≠ .ok)
      (property : BacnetPropertyId) :
      ((configured.properties.recordConfigurationStatus
            status).configurationStatus,
          configured.errorProperty status property) =
        if configured.properties.configurationStatus = .ok ∧
            status ≠ .ok then
          (status, property)
        else
          configured.configurationError := by
    rw [(configured.properties.recordConfigurationStatus_eq _).2,
      errorProperty]
    by_cases first : configured.properties.configurationStatus = .ok
    · rw [if_pos first, if_pos ⟨first, failed⟩, if_pos ⟨first, failed⟩]
    · rw [if_neg first, if_neg fun both => first both.1,
        if_neg fun both => first both.1]
      rfl
  cases call with
  | assign property assigned =>
      cases assigned with
      | none => exact keeps .invalidArgument (by decide) property
      | some assigned =>
          rw [if_neg fun both => both.2 rfl]
          rfl
  | addProperty property value =>
      change
        ((configured.properties.addProperty property
              value).1.configurationStatus,
            configured.errorProperty
              (configured.properties.addProperty property value).2
              property) =
          if configured.properties.configurationStatus = .ok ∧
              (configured.properties.addProperty property value).2 ≠
                .ok then
            ((configured.properties.addProperty property value).2, property)
          else
            configured.configurationError
      have isAdded := configured.properties.adds_addProperty property value
      revert isAdded
      generalize
        configured.properties.addProperty property value = result
      intro isAdded
      cases isAdded with
      | refused failed => exact keeps _ failed property
      | stored slots kept =>
          rw [if_neg fun both => both.2 rfl, errorProperty,
            if_neg fun both => both.2 rfl]
          exact congrArg (·, _) kept

/-- The calls return what is expected, and the first slots are stored. -/
theorem performAll_expected
    (ample : support.Ample)
    (tracks : slotOf? configured.properties.slots = slotOf? added)
    (calls : List (ConfigurationCall Object)) :
    (configured.performAll calls).2 =
        ConfigurationCall.expectedStatuses support added calls ∧
      slotOf? (configured.performAll calls).1.properties.slots =
        slotOf? (added ++
          calls.filterMap (ConfigurationCall.slot? support)) := by
  induction calls generalizing configured added with
  | nil =>
      rw [List.filterMap_nil, List.append_nil]
      exact ⟨rfl, tracks⟩
  | cons call rest inductionHypothesis =>
      obtain ⟨status, stored⟩ := perform_expected ample tracks call
      obtain ⟨statuses, finally_⟩ := inductionHypothesis stored
      have slots :
          added ++ (call :: rest).filterMap
              (ConfigurationCall.slot? support) =
            added ++ (call.slot? support).toList ++
              rest.filterMap (ConfigurationCall.slot? support) := by
        rw [List.append_assoc, List.filterMap_cons]
        cases call.slot? support <;> rfl
      rw [slots]
      refine ⟨?_, finally_⟩
      change
        (configured.perform call).2 ::
            ((configured.perform call).1.performAll rest).2 = _
      rw [status, statuses]
      rfl

/-- An error that is there stays, and else the first one is kept. -/
theorem performAll_configurationError
    (calls : List (ConfigurationCall Object)) :
    (configured.performAll calls).1.configurationError =
      if configured.properties.configurationStatus = .ok then
        ConfigurationCall.firstError configured.configurationError
          (calls.zip (configured.performAll calls).2)
      else
        configured.configurationError := by
  induction calls generalizing configured with
  | nil => exact (ite_self configured.configurationError).symm
  | cons call rest inductionHypothesis =>
      have outcomes :
          (call :: rest).zip (configured.performAll (call :: rest)).2 =
            (call, (configured.perform call).2) ::
              rest.zip ((configured.perform call).1.performAll rest).2 :=
        rfl
      have last :
          (configured.performAll (call :: rest)).1 =
            ((configured.perform call).1.performAll rest).1 := rfl
      have kept := @perform_configurationError _ _ configured call
      rw [last, inductionHypothesis, outcomes]
      by_cases first : configured.properties.configurationStatus = .ok
      · rw [if_pos first]
        by_cases succeeded : (configured.perform call).2 = .ok
        · rw [if_neg fun both => both.2 succeeded] at kept
          have stillOk :
              (configured.perform call).1.properties.configurationStatus =
                .ok :=
            (congrArg Prod.fst kept).trans first
          rw [if_pos stillOk, kept, ConfigurationCall.firstError,
            ConfigurationCall.firstError,
            List.find?_cons_of_neg (by simp [succeeded])]
        · rw [if_pos ⟨first, succeeded⟩] at kept
          have failed :
              (configured.perform call).1.properties.configurationStatus ≠
                .ok := by
            rw [show
              (configured.perform call).1.properties.configurationStatus =
                (configured.perform call).2 from congrArg Prod.fst kept]
            exact succeeded
          rw [if_neg failed, kept, ConfigurationCall.firstError,
            List.find?_cons_of_pos (by simp [succeeded])]
          rfl
      · rw [if_neg fun both => first both.1] at kept
        have failed :
            (configured.perform call).1.properties.configurationStatus ≠
              .ok := by
          rw [show
            (configured.perform call).1.properties.configurationStatus =
              configured.properties.configurationStatus from
                congrArg Prod.fst kept]
          exact first
        rw [if_neg failed, kept, if_neg first]

/-- What an object and its registration make of a sequence of calls. -/
structure ConfiguredBy
    (calls : List (ConfigurationCall Object))
    (configured : ConfiguredObject Object support)
    (statuses : List BacnetObjectConfigurationStatus) : Prop where
  /-- Each call returns what the earlier ones leave to it. -/
  expected :
    statuses = ConfigurationCall.expectedStatuses support [] calls
  /-- There is always room for another property. -/
  room : .propertyCapacityExceeded ∉ statuses
  /-- A property has the first value that it can have. -/
  stored :
    ∀ property,
      slotOf? configured.properties.slots property =
        slotOf? (calls.filterMap (ConfigurationCall.slot? support)) property
  /-- The first error is kept. -/
  error :
    configured.configurationError =
      ConfigurationCall.firstError (.ok, .objectIdentifier)
        (calls.zip statuses)
  /-- A server refuses the object with that error. -/
  refused :
    configured.configurationError.1 ≠ .ok →
      ∀ (instanceOf : Object → UInt32) (valid : Object → Bool)
        (array : List Object) (registered : List (ObjectCentric Object)),
        registerObject instanceOf valid array registered
            configured.properties configured.declared =
          (registered, configured.configurationError.1)

theorem expectedStatuses_room
    (calls : List (ConfigurationCall Object)) :
    .propertyCapacityExceeded ∉
      ConfigurationCall.expectedStatuses support added calls := by
  induction calls generalizing added with
  | nil => exact List.not_mem_nil
  | cons call rest inductionHypothesis =>
      rw [ConfigurationCall.expectedStatuses, List.mem_cons, not_or]
      refine ⟨?_, inductionHypothesis⟩
      unfold ConfigurationCall.expectedStatus
      split
      · decide
      · decide
      · decide
      · split
        · decide
        · split
          · decide
          · split <;> decide

/--
For every kind with room for its properties and every sequence of calls on a
new object: what each call returns follows from the earlier ones and is never
a lack of room, a property has the first value it can have, and the first
error is what the object keeps and what a server refuses it with.
-/
theorem construct_configuredBy
    (ample : support.Ample)
    (object : Object)
    (calls : List (ConfigurationCall Object)) :
    ConfiguredBy calls
      ((construct object : ConfiguredObject Object support).performAll
        calls).1
      ((construct object : ConfiguredObject Object support).performAll
        calls).2 := by
  obtain ⟨statuses, stored⟩ :=
    @performAll_expected Object support [] (construct object) ample rfl calls
  have error :=
    @performAll_configurationError Object support (construct object) calls
  have isOk :
      (construct object :
        ConfiguredObject Object support).properties.configurationStatus =
          .ok := rfl
  rw [if_pos isOk] at error
  refine ⟨statuses, ?_, congrFun stored, error, ?_⟩
  · rw [statuses]
    exact expectedStatuses_room calls
  · intro failed instanceOf valid array registered
    exact if_pos failed

/-- An Analog Input whose description is given twice, the second time late. -/
theorem construct_configuredBy_analogInput :
    ConfiguredBy
        [BacnetAnalogInput.configure 1 (some [65]),
          .addProperty .description (some (.characterString [66])),
          .addProperty .description (some (.characterString [67])),
          BacnetAnalogInput.configure 2 none]
        ((construct {} :
          ConfiguredObject BacnetServerAnalogInput
            analogInputSupport).performAll
          [BacnetAnalogInput.configure 1 (some [65]),
            .addProperty .description (some (.characterString [66])),
            .addProperty .description (some (.characterString [67])),
            BacnetAnalogInput.configure 2 none]).1
        [.ok, .ok, .duplicateProperty, .invalidArgument] :=
  construct_configuredBy analogInputSupport_ample
    ({} : BacnetServerAnalogInput)
    [BacnetAnalogInput.configure 1 (some [65]),
      .addProperty .description (some (.characterString [66])),
      .addProperty .description (some (.characterString [67])),
      BacnetAnalogInput.configure 2 none]

end ConfiguredObject

end BacnetStack
