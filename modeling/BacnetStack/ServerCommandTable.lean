import BacnetStack.ServerCommandEvents

namespace BacnetStack

/-!
# The table of commands

The commandable objects of all kinds and both registration forms as one table
from identifiers to ranked commands over a default.  Accepted writes and local
operations assign one rank of one entry of the table, or its default.
-/

/-- A value of a commandable object. -/
inductive CommandValue where
  | binary (value : Bool)
  | analog (value : Binary32)

/-- The commands of one object. -/
abbrev Commands : Type := PriorityMap kSlotCount CommandValue

/-- The commands of all commandable objects. -/
abbrev CommandTable : Type := BacnetObjectId → Option Commands

namespace CommandTable

/-- Change the commands of one object. -/
def update
    (table : CommandTable)
    (object : BacnetObjectId)
    (change : Commands → Commands) : CommandTable :=
  Function.update table object ((table object).map change)

end CommandTable

namespace BacnetCommandPriority

variable {α : Type} (inject : α → CommandValue)

/-- The occupied slots as commands. -/
def commands (priority : BacnetCommandPriority α) : Commands :=
  { default := inject priority.relinquishDefault
    command := fun index => (priority.entry index).map inject }

variable {inject} {priority : BacnetCommandPriority α}

/-- The effective value is the value in force. -/
theorem value_commands :
    (priority.commands inject).value = inject priority.effectiveValue := by
  unfold effectiveValue
  cases first : priority.effectiveSlot? with
  | none =>
      refine PriorityMap.value_of_free fun index => ?_
      have free := List.find?_eq_none.mp first index (List.mem_finRange _)
      simp [commands, entry, free]
  | some index =>
      obtain ⟨occupied, before⟩ :=
        List.find?_finRange_eq_some_iff.mp first
      refine @PriorityMap.value_of_first _ _ _ index _ ?_
        fun earlier smaller => ?_
      · simp [commands, entry, occupied]
      · simp [commands, entry, before earlier smaller]

/-- Writing a slot assigns its rank. -/
theorem commands_writeSlot
    (index : Fin kSlotCount)
    (relinquish : Bool)
    (value : α) :
    (priority.writeSlot index relinquish value).commands inject =
      (priority.commands inject).assign index
        (if relinquish then none else some (inject value)) := by
  refine PriorityMap.ext rfl (funext fun other => ?_)
  dsimp only [commands, PriorityMap.assign]
  by_cases isWritten : other = index
  · rw [isWritten, Function.update_self]
    cases relinquish <;> simp [entry, writeSlot]
  · rw [Function.update_of_ne isWritten,
      entry_writeSlot_of_ne _ _ _ isWritten]

end BacnetCommandPriority

namespace WriteTarget

/-- A command is under way; a Binary Value makes no calls. -/
def callbackInProgress : WriteTarget → Bool
  | .binaryOutput output => output.callbackInProgress
  | .binaryValue _ => false
  | .commandableAnalogValue value => value.callbackInProgress
  | .analogOutput output => output.callbackInProgress

/-- The commands of a commandable object. -/
def commands : WriteTarget → Commands
  | .binaryOutput output => output.priority.commands .binary
  | .binaryValue value => value.priority.commands .binary
  | .commandableAnalogValue value => value.priority.commands .analog
  | .analogOutput output => output.priority.commands .analog

end WriteTarget

/-- What the table says of registered objects. -/
def ServerObjects.commandTable (objects : ServerObjects) : CommandTable :=
  fun object => (objects.findWriteTarget object).map WriteTarget.commands

/-- A search sees the replaced entry under its own key and no other one. -/
theorem find?_replaceFirst
    {Object : Type}
    {instanceOf : Object → UInt32}
    {replace : Object → Object}
    (keeps : ∀ object, instanceOf (replace object) = instanceOf object)
    (replaced searched : UInt32)
    (registered : List Object) :
    ((replaceFirst (fun object => instanceOf object == replaced) replace
        registered).find? fun object => instanceOf object == searched) =
      if searched = replaced then
        (registered.find? fun object => instanceOf object == replaced).map
          replace
      else
        registered.find? fun object => instanceOf object == searched := by
  induction registered with
  | nil => simp [replaceFirst]
  | cons object rest inductionHypothesis =>
      by_cases isReplaced : instanceOf object = replaced
      · by_cases isSearched : searched = replaced
        · simp [replaceFirst, isReplaced, keeps, isSearched]
        · simp [replaceFirst, isReplaced, keeps, isSearched,
            Ne.symm isSearched]
      · rw [replaceFirst, if_neg (by simpa using isReplaced)]
        by_cases isFound : instanceOf object = searched
        · have another : searched ≠ replaced := by
            rw [← isFound]
            exact isReplaced
          simp [isFound, another]
        · simp [isFound, isReplaced, inductionHypothesis]

theorem isEmpty_replaceFirst
    {Object : Type}
    (accepts : Object → Bool)
    (replace : Object → Object)
    (registered : List Object) :
    (replaceFirst accepts replace registered).isEmpty =
      registered.isEmpty := by
  cases registered with
  | nil => rfl
  | cons object rest =>
      rw [replaceFirst]
      split <;> rfl

/-- Replacing an object-centric object replaces its object. -/
theorem map_object_replaceFirst
    {Object : Type}
    (accepts : Object → Bool)
    (replace : Object → Object)
    (sources : List (ObjectCentric Object)) :
    (replaceFirst (fun source => accepts source.object)
        (fun source => { source with object := replace source.object })
        sources).map ObjectCentric.object =
      replaceFirst accepts replace
        (sources.map ObjectCentric.object) := by
  induction sources with
  | nil => rfl
  | cons source rest inductionHypothesis =>
      rw [replaceFirst, List.map_cons, replaceFirst]
      split
      · rfl
      · rw [List.map_cons, inductionHypothesis]

namespace ServerObjects

/-- One commandable object is replaced, and nothing else of this kind. -/
structure Replaces
    (objects next : ServerObjects)
    (object : BacnetObjectId)
    (target : WriteTarget) : Prop where
  written : next.findWriteTarget object = some target
  others :
    ∀ other, other ≠ object →
      next.findWriteTarget other = objects.findWriteTarget other
  analogValues : next.analogValues = objects.analogValues
  registrations :
    next.propertyRegistrations = objects.propertyRegistrations
  optional : next.optionalProperties = objects.optionalProperties

variable {objects : ServerObjects} {instance_ : UInt32}

/-- An identifier of the same type has another instance. -/
theorem instance_ne
    {other : BacnetObjectId}
    {objectType : UInt16}
    (another : other ≠ ⟨objectType, instance_⟩)
    (sameType : other.type = objectType) :
    ¬other.instance_ = instance_ := by
  rintro rfl
  exact another (congrArg (BacnetObjectId.mk · other.instance_) sameType)

/-- The write target depends on the registries of its own type. -/
theorem findWriteTarget_congr
    {next : ServerObjects}
    {object : BacnetObjectId}
    (binaryOutput :
      object.type = BacnetObjectType.binaryOutput →
      next.findBinaryOutput object.instance_ =
        objects.findBinaryOutput object.instance_)
    (binaryValue :
      object.type = BacnetObjectType.binaryValue →
      next.findBinaryValue object.instance_ =
        objects.findBinaryValue object.instance_)
    (analogValue :
      object.type = BacnetObjectType.analogValue →
      next.findCommandableAnalogValue object.instance_ =
        objects.findCommandableAnalogValue object.instance_)
    (analogOutput :
      object.type = BacnetObjectType.analogOutput →
      next.findAnalogOutput object.instance_ =
        objects.findAnalogOutput object.instance_) :
    next.findWriteTarget object = objects.findWriteTarget object := by
  unfold findWriteTarget
  split
  · rename_i isBinaryOutput
    rw [binaryOutput isBinaryOutput]
  · split
    · rename_i isBinaryValue
      rw [binaryValue isBinaryValue]
    · split
      · rename_i isAnalogValue
        rw [analogValue isAnalogValue]
      · split
        · rename_i isAnalogOutput
          rw [analogOutput isAnalogOutput]
        · rfl

theorem updateAnalogOutput_replaces
    {output : BacnetServerAnalogOutput}
    (found : objects.findAnalogOutput instance_ = some output)
    {update : BacnetServerAnalogOutput → BacnetServerAnalogOutput}
    (keeps : ∀ output, (update output).instance_ = output.instance_) :
    Replaces objects (objects.updateAnalogOutput instance_ update)
      ⟨BacnetObjectType.analogOutput, instance_⟩
      (.analogOutput (update output)) := by
  have finds
      (searched : UInt32) :
      (objects.updateAnalogOutput instance_ update).findAnalogOutput
          searched =
        if searched = instance_ then
          (objects.findAnalogOutput instance_).map update
        else
          objects.findAnalogOutput searched :=
    find?_replaceFirst keeps instance_ searched objects.analogOutputs
  refine ⟨?_, fun other another => ?_, rfl, rfl, rfl⟩
  · change ((objects.updateAnalogOutput instance_
      update).findAnalogOutput instance_).map _ = _
    rw [finds, if_pos rfl, found]
    rfl
  · refine findWriteTarget_congr (fun _ => rfl) (fun _ => rfl)
      (fun _ => rfl) ?_
    intro sameType
    rw [finds, if_neg (instance_ne another sameType)]

theorem updateCommandableAnalogValue_replaces
    {value : BacnetServerCommandableAnalogValue}
    (found : objects.findCommandableAnalogValue instance_ = some value)
    {update : BacnetServerCommandableAnalogValue → BacnetServerCommandableAnalogValue}
    (keeps : ∀ value, (update value).instance_ = value.instance_) :
    Replaces objects (objects.updateCommandableAnalogValue instance_ update)
      ⟨BacnetObjectType.analogValue, instance_⟩
      (.commandableAnalogValue (update value)) := by
  have finds
      (searched : UInt32) :
      (objects.updateCommandableAnalogValue instance_ update).findCommandableAnalogValue
          searched =
        if searched = instance_ then
          (objects.findCommandableAnalogValue instance_).map update
        else
          objects.findCommandableAnalogValue searched :=
    find?_replaceFirst keeps instance_ searched objects.commandableAnalogValues
  refine ⟨?_, fun other another => ?_, rfl, rfl, rfl⟩
  · change ((objects.updateCommandableAnalogValue instance_
      update).findCommandableAnalogValue instance_).map _ = _
    rw [finds, if_pos rfl, found]
    rfl
  · refine findWriteTarget_congr (fun _ => rfl) (fun _ => rfl) ?_
      (fun _ => rfl)
    intro sameType
    rw [finds, if_neg (instance_ne another sameType)]

theorem updateBinaryValue_replaces
    {value : BacnetServerBinaryValue}
    (found : objects.findBinaryValue instance_ = some value)
    {update : BacnetServerBinaryValue → BacnetServerBinaryValue}
    (keeps : ∀ value, (update value).instance_ = value.instance_) :
    Replaces objects (objects.updateBinaryValue instance_ update)
      ⟨BacnetObjectType.binaryValue, instance_⟩
      (.binaryValue (update value)) := by
  have finds
      (searched : UInt32) :
      (objects.updateBinaryValue instance_ update).findBinaryValue
          searched =
        if searched = instance_ then
          (objects.findBinaryValue instance_).map update
        else
          objects.findBinaryValue searched :=
    find?_replaceFirst keeps instance_ searched objects.binaryValues
  refine ⟨?_, fun other another => ?_, rfl, rfl, rfl⟩
  · change ((objects.updateBinaryValue instance_
      update).findBinaryValue instance_).map _ = _
    rw [finds, if_pos rfl, found]
    rfl
  · refine findWriteTarget_congr (fun _ => rfl) ?_ (fun _ => rfl)
      (fun _ => rfl)
    intro sameType
    rw [finds, if_neg (instance_ne another sameType)]

/-- A search in either registration form sees the replaced output. -/
theorem findBinaryOutput_update
    {update : BacnetServerBinaryOutput → BacnetServerBinaryOutput}
    (keeps : ∀ output, (update output).instance_ = output.instance_)
    (searched : UInt32) :
    (objects.updateBinaryOutput instance_ update).findBinaryOutput
        searched =
      if searched = instance_ then
        (objects.findBinaryOutput instance_).map update
      else
        objects.findBinaryOutput searched := by
  unfold findBinaryOutput allBinaryOutputs registeredObjects
    updateBinaryOutput
  by_cases empty : objects.objectCentricBinaryOutputs.isEmpty = true
  · rw [if_pos empty, if_pos empty, if_pos empty]
    exact find?_replaceFirst keeps instance_ searched objects.binaryOutputs
  · rw [if_neg empty, if_neg empty, isEmpty_replaceFirst, if_neg empty]
    rw [map_object_replaceFirst
      (fun output : BacnetServerBinaryOutput =>
        output.instance_ == instance_)]
    exact find?_replaceFirst keeps instance_ searched _

/-- Optional properties stay with their output. -/
theorem optionalProperties_updateBinaryOutput
    {update : BacnetServerBinaryOutput → BacnetServerBinaryOutput}
    (keeps : ∀ output, (update output).instance_ = output.instance_) :
    (objects.updateBinaryOutput instance_ update).optionalProperties =
      objects.optionalProperties := by
  unfold updateBinaryOutput
  split
  · rfl
  · funext object
    unfold optionalProperties
    dsimp only
    split
    · rfl
    · split
      · rfl
      · split
        · have finds :=
            @find?_replaceFirst _
              (fun source : ObjectCentric BacnetServerBinaryOutput =>
                source.object.instance_)
              (fun source => { source with object := update source.object })
              (fun source => keeps source.object) instance_
              object.instance_ objects.objectCentricBinaryOutputs
          rw [finds]
          by_cases isReplaced : object.instance_ = instance_
          · rw [if_pos isReplaced, isReplaced]
            cases objects.objectCentricBinaryOutputs.find? fun source =>
              source.object.instance_ == instance_ <;> rfl
          · rw [if_neg isReplaced]
        · rfl

theorem updateBinaryOutput_replaces
    {output : BacnetServerBinaryOutput}
    (found : objects.findBinaryOutput instance_ = some output)
    {update : BacnetServerBinaryOutput → BacnetServerBinaryOutput}
    (keeps : ∀ output, (update output).instance_ = output.instance_) :
    Replaces objects (objects.updateBinaryOutput instance_ update)
      ⟨BacnetObjectType.binaryOutput, instance_⟩
      (.binaryOutput (update output)) := by
  have finds := @findBinaryOutput_update objects instance_ update keeps
  have sameElsewhere :
      (objects.updateBinaryOutput instance_ update).analogValues =
        objects.analogValues ∧
      (objects.updateBinaryOutput instance_ update).propertyRegistrations =
        objects.propertyRegistrations ∧
      (objects.updateBinaryOutput instance_ update).binaryValues =
        objects.binaryValues ∧
      (objects.updateBinaryOutput instance_ update).commandableAnalogValues =
        objects.commandableAnalogValues ∧
      (objects.updateBinaryOutput instance_ update).analogOutputs =
        objects.analogOutputs := by
    unfold updateBinaryOutput
    split <;> exact ⟨rfl, rfl, rfl, rfl, rfl⟩
  obtain ⟨analogValues, registrations, binaryValues, commandable, outputs⟩ :=
    sameElsewhere
  refine ⟨?_, fun other another => ?_, analogValues, registrations,
    optionalProperties_updateBinaryOutput keeps⟩
  · change ((objects.updateBinaryOutput instance_
      update).findBinaryOutput instance_).map _ = _
    rw [finds, if_pos rfl, found]
    rfl
  · refine findWriteTarget_congr ?_ ?_ ?_ ?_
    · intro sameType
      rw [finds, if_neg (instance_ne another sameType)]
    · intro _
      rw [findBinaryValue, binaryValues]
      rfl
    · intro _
      rw [findCommandableAnalogValue, commandable]
      rfl
    · intro _
      rw [findAnalogOutput, outputs]
      rfl

/-- No operation is under way on any commandable object. -/
def Idle (objects : ServerObjects) : Prop :=
  ∀ object target,
    objects.findWriteTarget object = some target →
    target.callbackInProgress = false

/-- The commands of an object change, and nothing that reads depend on. -/
structure Becomes
    (objects next : ServerObjects)
    (object : BacnetObjectId)
    (change : Commands → Commands) : Prop where
  table : next.commandTable = objects.commandTable.update object change
  idle : objects.Idle → next.Idle
  analogValues : next.analogValues = objects.analogValues
  registrations :
    next.propertyRegistrations = objects.propertyRegistrations
  optional : next.optionalProperties = objects.optionalProperties

/-- Replacing an object changes its entry of the table. -/
theorem Replaces.becomes
    {next : ServerObjects}
    {object : BacnetObjectId}
    {before after : WriteTarget}
    (replaces : Replaces objects next object after)
    (found : objects.findWriteTarget object = some before)
    (sameGuard : after.callbackInProgress = before.callbackInProgress)
    {change : Commands → Commands}
    (changed : after.commands = change before.commands) :
    Becomes objects next object change := by
  refine ⟨funext fun other => ?_, fun idle other target isTarget => ?_,
    replaces.analogValues, replaces.registrations, replaces.optional⟩
  · by_cases isObject : other = object
    · rw [isObject, CommandTable.update, Function.update_self,
        commandTable, commandTable, replaces.written, found]
      exact congrArg some changed
    · rw [CommandTable.update, Function.update_of_ne isObject,
        commandTable, commandTable, replaces.others other isObject]
  · by_cases isObject : other = object
    · rw [isObject, replaces.written] at isTarget
      rw [← Option.some.inj isTarget, sameGuard]
      exact idle object before found
    · rw [replaces.others other isObject] at isTarget
      exact idle other target isTarget

/-- The object a target was found as, in the registry of its kind. -/
def Has (objects : ServerObjects) (object : BacnetObjectId) :
    WriteTarget → Prop
  | .binaryOutput output =>
      object = output.objectId ∧
        objects.findBinaryOutput output.instance_ = some output
  | .binaryValue value =>
      object = ⟨BacnetObjectType.binaryValue, value.instance_⟩ ∧
        objects.findBinaryValue value.instance_ = some value
  | .commandableAnalogValue value =>
      object = value.objectId ∧
        objects.findCommandableAnalogValue value.instance_ = some value
  | .analogOutput output =>
      object = output.objectId ∧
        objects.findAnalogOutput output.instance_ = some output

/-- A write target is where its identifier says. -/
theorem has_of_findWriteTarget
    {object : BacnetObjectId}
    {target : WriteTarget}
    (found : objects.findWriteTarget object = some target) :
    objects.Has object target := by
  obtain ⟨objectType, instance_⟩ := object
  unfold findWriteTarget at found
  split at found
  · rename_i isType
    obtain ⟨output, isOutput, rfl⟩ := Option.map_eq_some_iff.mp found
    obtain rfl := instance_of_find? isOutput
    obtain rfl : objectType = _ := isType
    exact ⟨rfl, isOutput⟩
  · split at found
    · rename_i isType
      obtain ⟨value, isValue, rfl⟩ := Option.map_eq_some_iff.mp found
      obtain rfl := instance_of_find? isValue
      obtain rfl : objectType = _ := isType
      exact ⟨rfl, isValue⟩
    · split at found
      · rename_i isType
        obtain ⟨value, isValue, rfl⟩ := Option.map_eq_some_iff.mp found
        obtain rfl := instance_of_find? isValue
        obtain rfl : objectType = _ := isType
        exact ⟨rfl, isValue⟩
      · split at found
        · rename_i isType
          obtain ⟨output, isOutput, rfl⟩ := Option.map_eq_some_iff.mp found
          obtain rfl := instance_of_find? isOutput
          obtain rfl : objectType = _ := isType
          exact ⟨rfl, isOutput⟩
        · cases found

/-! Remote writes as commands of the table. -/

end ServerObjects

/--
The command a value gives: NULL releases, and otherwise the type has to be
that of the object.
-/
def givenCommand
    (commands : Commands)
    (value : BacnetValue) : Option (Option CommandValue) :=
  match value.type, commands.default with
  | .null, _ => some none
  | .real, .analog _ => some (some (.analog value.realValue))
  | .enumerated, .binary _ =>
      if value.unsignedValue ≤ 1 then
        some (some (.binary (value.unsignedValue == 1)))
      else
        none
  | _, _ => none

/--
What a WriteProperty request does to the table, or `none` for a refused one.
A write of Out_Of_Service is accepted and gives no command.
-/
def CommandTable.write
    (table : CommandTable)
    (request : BacnetWritePropertyRequestHeader) : Option CommandTable := do
  let commands ← table request.request.object
  if request.request.arrayIndex ≠ kBacnetNoArrayIndex then
    none
  else if request.request.property = .presentValue then
    let rank ←
      BacnetCommandPriority.slotIndex?
        (if request.hasPriority then request.priority else 16)
    let entry ← givenCommand commands request.value
    some (table.update request.request.object (·.assign rank entry))
  else if request.request.property = .outOfService ∧
      request.hasPriority = false ∧ request.value.type = .boolean then
    some table
  else
    none

namespace ServerObjects

variable {objects : ServerObjects}

/-- The source accepts the values that give a command. -/
theorem validPresentValue_eq
    (target : WriteTarget)
    (value : BacnetValue) :
    validPresentValue target value =
      (givenCommand target.commands value).isSome := by
  unfold givenCommand
  by_cases small : value.unsignedValue ≤ 1
  · cases target <;>
      cases type : value.type <;>
        simp [validPresentValue, WriteTarget.commands,
          BacnetCommandPriority.commands, type, small]
  · cases target <;>
      cases type : value.type <;>
        simp [validPresentValue, WriteTarget.commands,
          BacnetCommandPriority.commands, type, small]

/-- The command a value gives to a binary object. -/
theorem givenCommand_binary
    {priority : BacnetCommandPriority Bool}
    {value : BacnetValue}
    {entry : Option CommandValue}
    (gives : givenCommand (priority.commands .binary) value = some entry) :
    entry =
      if value.type == .null then
        none
      else
        some (.binary (value.unsignedValue == 1)) := by
  unfold givenCommand at gives
  cases type : value.type <;>
    simp [type, BacnetCommandPriority.commands] at gives
  · exact gives.symm
  · exact gives.2.symm

/-- The command a value gives to an analog object. -/
theorem givenCommand_analog
    {priority : BacnetCommandPriority Binary32}
    {value : BacnetValue}
    {entry : Option CommandValue}
    (gives : givenCommand (priority.commands .analog) value = some entry) :
    entry =
      if value.type == .null then
        none
      else
        some (.analog value.realValue) := by
  unfold givenCommand at gives
  cases type : value.type <;>
    simp [type, BacnetCommandPriority.commands] at gives
  · exact gives.symm
  · exact gives.symm

section Commits

variable {object : BacnetObjectId} {change : Commands → Commands}

theorem commitBinaryOutput_becomes
    {output : BacnetServerBinaryOutput}
    (found : objects.findWriteTarget object = some (.binaryOutput output))
    {written : CommandWriteResult Bool}
    (changed :
      written.priority.commands .binary =
        change (output.priority.commands .binary)) :
    Becomes objects (objects.commitBinaryOutput output written).objects
      object change := by
  obtain ⟨rfl, isOutput⟩ := has_of_findWriteTarget found
  have replaces :=
    @updateBinaryOutput_replaces objects output.instance_ output isOutput
      (fun output => { output with priority := written.priority })
      fun _ => rfl
  exact replaces.becomes found rfl changed

theorem commitBinaryValue_becomes
    {value : BacnetServerBinaryValue}
    (found : objects.findWriteTarget object = some (.binaryValue value))
    {written : BacnetCommandPriority Bool}
    (changed :
      written.commands .binary = change (value.priority.commands .binary)) :
    Becomes objects (objects.commitBinaryValue value written).objects
      object change := by
  obtain ⟨rfl, isValue⟩ := has_of_findWriteTarget found
  have replaces :=
    @updateBinaryValue_replaces objects value.instance_ value isValue
      (fun value => { value with priority := written })
      fun _ => rfl
  exact replaces.becomes found rfl changed

theorem commitCommandableAnalogValue_becomes
    {value : BacnetServerCommandableAnalogValue}
    (found :
      objects.findWriteTarget object = some (.commandableAnalogValue value))
    {written : CommandWriteResult Binary32}
    (changed :
      written.priority.commands .analog =
        change (value.priority.commands .analog)) :
    Becomes objects
      (objects.commitCommandableAnalogValue value written).objects
      object change := by
  obtain ⟨rfl, isValue⟩ := has_of_findWriteTarget found
  have replaces :=
    @updateCommandableAnalogValue_replaces objects value.instance_ value
      isValue (fun value => { value with priority := written.priority })
      fun _ => rfl
  exact replaces.becomes found rfl changed

theorem commitAnalogOutput_becomes
    {output : BacnetServerAnalogOutput}
    (found : objects.findWriteTarget object = some (.analogOutput output))
    {written : CommandWriteResult Binary32}
    (changed :
      written.priority.commands .analog =
        change (output.priority.commands .analog)) :
    Becomes objects (objects.commitAnalogOutput output written).objects
      object change := by
  obtain ⟨rfl, isOutput⟩ := has_of_findWriteTarget found
  have replaces :=
    @updateAnalogOutput_replaces objects output.instance_ output isOutput
      (fun output => { output with priority := written.priority })
      fun _ => rfl
  exact replaces.becomes found rfl changed

end Commits

/-- A priority write of an idle object writes the addressed slot. -/
theorem applyCommandPriorityValue_eq
    {α : Type}
    {differs : α → α → Bool}
    {target : CommandTarget α}
    (idle : target.callbackInProgress = false)
    (value : α)
    (priorityValue : UInt8)
    (relinquish : Bool)
    (origin : BacnetChangeOrigin) :
    (applyCommandPriorityValue differs target value priorityValue
        relinquish origin).map CommandWriteResult.priority =
      (BacnetCommandPriority.slotIndex? priorityValue).map fun rank =>
        target.priority.writeSlot rank relinquish value := by
  rw [applyCommandPriorityValue, idle]
  cases BacnetCommandPriority.slotIndex? priorityValue <;> rfl

/-- A change of an idle object's default sets it. -/
theorem setCommandRelinquishDefault_eq
    {α : Type}
    {differs : α → α → Bool}
    {target : CommandTarget α}
    (idle : target.callbackInProgress = false)
    (value : α)
    (origin : BacnetChangeOrigin) :
    (setCommandRelinquishDefault differs target value origin).map
        CommandWriteResult.priority =
      some { target.priority with relinquishDefault := value } := by
  rw [setCommandRelinquishDefault, idle]
  rfl

/-- An accepted value is assigned to its rank. -/
theorem applyPresentValue_becomes
    {object : BacnetObjectId}
    {target : WriteTarget}
    (found : objects.findWriteTarget object = some target)
    (idle : target.callbackInProgress = false)
    {value : BacnetValue}
    {entry : Option CommandValue}
    (gives : givenCommand target.commands value = some entry)
    {priorityValue : UInt8}
    {rank : Fin kSlotCount}
    (addressed :
      BacnetCommandPriority.slotIndex? priorityValue = some rank) :
    ∃ effect,
      objects.applyPresentValue target value priorityValue = some effect ∧
      Becomes objects effect.objects object (·.assign rank entry) := by
  cases target with
  | binaryOutput output =>
      have written :=
        @applyCommandPriorityValue_eq _ binaryDiffers output.commandTarget
          idle (value.unsignedValue == 1) priorityValue
          (value.type == .null) .bacnetWriteProperty
      rw [addressed, Option.map_some, Option.map_eq_some_iff] at written
      obtain ⟨result, performed, priority⟩ := written
      refine ⟨objects.commitBinaryOutput output result, ?_,
        commitBinaryOutput_becomes found ?_⟩
      · simp only [applyPresentValue,
          BacnetServerBinaryOutput.applyPriorityValue, performed,
          Option.map_some]
      · rw [priority, BacnetCommandPriority.commands_writeSlot,
          givenCommand_binary gives]
        rfl
  | binaryValue target =>
      have changed :
          (target.priority.writeSlot rank (value.type == .null)
              (value.unsignedValue == 1)).commands .binary =
            (target.priority.commands .binary).assign rank entry := by
        rw [BacnetCommandPriority.commands_writeSlot,
          givenCommand_binary gives]
      refine ⟨_, ?_, commitBinaryValue_becomes found changed⟩
      simp only [applyPresentValue, BacnetCommandPriority.write,
        addressed, Option.map_some]
  | commandableAnalogValue target =>
      have written :=
        @applyCommandPriorityValue_eq _ analogDiffers target.commandTarget
          idle value.realValue priorityValue (value.type == .null)
          .bacnetWriteProperty
      rw [addressed, Option.map_some, Option.map_eq_some_iff] at written
      obtain ⟨result, performed, priority⟩ := written
      refine ⟨objects.commitCommandableAnalogValue target result, ?_,
        commitCommandableAnalogValue_becomes found ?_⟩
      · simp only [applyPresentValue,
          BacnetServerCommandableAnalogValue.applyPriorityValue, performed,
          Option.map_some]
      · rw [priority, BacnetCommandPriority.commands_writeSlot,
          givenCommand_analog gives]
        rfl
  | analogOutput target =>
      have written :=
        @applyCommandPriorityValue_eq _ analogDiffers target.commandTarget
          idle value.realValue priorityValue (value.type == .null)
          .bacnetWriteProperty
      rw [addressed, Option.map_some, Option.map_eq_some_iff] at written
      obtain ⟨result, performed, priority⟩ := written
      refine ⟨objects.commitAnalogOutput target result, ?_,
        commitAnalogOutput_becomes found ?_⟩
      · simp only [applyPresentValue,
          BacnetServerAnalogOutput.applyPriorityValue, performed,
          Option.map_some]
      · rw [priority, BacnetCommandPriority.commands_writeSlot,
          givenCommand_analog gives]
        rfl

/-- A write of Out_Of_Service leaves the commands alone. -/
theorem applyOutOfService_becomes
    {object : BacnetObjectId}
    {target : WriteTarget}
    (found : objects.findWriteTarget object = some target)
    (outOfService : Bool) :
    Becomes objects (objects.applyOutOfService target outOfService).objects
      object id := by
  have has := has_of_findWriteTarget found
  cases target with
  | binaryOutput output =>
      obtain ⟨rfl, isOutput⟩ := has
      have replaces :=
        @updateBinaryOutput_replaces objects output.instance_ output isOutput
          (fun output => { output with outOfService := outOfService })
          fun _ => rfl
      exact replaces.becomes found rfl rfl
  | binaryValue value =>
      obtain ⟨rfl, isValue⟩ := has
      have replaces :=
        @updateBinaryValue_replaces objects value.instance_ value isValue
          (fun value => { value with outOfService := outOfService })
          fun _ => rfl
      exact replaces.becomes found rfl rfl
  | commandableAnalogValue value =>
      obtain ⟨rfl, isValue⟩ := has
      have replaces :=
        @updateCommandableAnalogValue_replaces objects value.instance_ value
          isValue (fun value => { value with outOfService := outOfService })
          fun _ => rfl
      exact replaces.becomes found rfl rfl
  | analogOutput output =>
      obtain ⟨rfl, isOutput⟩ := has
      have replaces :=
        @updateAnalogOutput_replaces objects output.instance_ output isOutput
          (fun output => { output with outOfService := outOfService })
          fun _ => rfl
      exact replaces.becomes found rfl rfl

/-- No change of the commands is no change of the table. -/
theorem update_id
    (table : CommandTable)
    (object : BacnetObjectId) :
    table.update object id = table := by
  rw [CommandTable.update, Option.map_id, id_eq, Function.update_eq_self]

/-- Numbers outside of 1 to 16 address no slot. -/
theorem slotIndex?_eq_none_iff
    (priorityValue : UInt8) :
    BacnetCommandPriority.slotIndex? priorityValue = none ↔
      priorityValue = 0 ∨ kSlotCount < priorityValue.toNat := by
  unfold BacnetCommandPriority.slotIndex?
  split
  · rename_i addressed
    simp [addressed.1, Nat.not_lt.mpr addressed.2]
  · rename_i outside
    simp only [true_iff]
    by_contra inside
    simp only [not_or, Nat.not_lt] at inside
    exact outside inside

/-- The checks of the source accept what the table accepts. -/
theorem writeProperty_refines
    (idle : objects.Idle)
    (request : BacnetWritePropertyRequestHeader) :
    (∃ effect change,
      objects.writeProperty request = .ok effect ∧
      Becomes objects effect.objects request.request.object change ∧
      objects.commandTable.write request =
        some (objects.commandTable.update request.request.object
          change)) ∨
    ∃ error,
      objects.writeProperty request = .error error ∧
      objects.commandTable.write request = none := by
  unfold writeProperty CommandTable.write
  rw [commandTable]
  cases found : objects.findWriteTarget request.request.object with
  | none => exact .inr ⟨_, rfl, rfl⟩
  | some target =>
      dsimp only [Option.map_some, Option.bind_eq_bind, Option.bind_some]
      split
      · exact .inr ⟨_, rfl, rfl⟩
      · split
        · generalize
            (if request.hasPriority then request.priority else 16) =
              priorityValue
          cases addressed :
              BacnetCommandPriority.slotIndex? priorityValue with
          | none =>
              refine .inr ⟨valueOutOfRangeError, ?_, rfl⟩
              rw [if_pos ((slotIndex?_eq_none_iff _).mp addressed)]
          | some rank =>
              have inRange :
                  ¬(priorityValue = 0 ∨
                    kSlotCount < priorityValue.toNat) := by
                rw [← slotIndex?_eq_none_iff, addressed]
                exact Option.some_ne_none rank
              have valid := validPresentValue_eq target request.value
              rw [if_neg inRange]
              cases gives :
                  givenCommand target.commands request.value with
              | none =>
                  rw [gives] at valid
                  refine .inr ⟨invalidDataTypeError, ?_, rfl⟩
                  rw [valid]
                  rfl
              | some entry =>
                  rw [gives] at valid
                  obtain ⟨effect, performed, becomes⟩ :=
                    applyPresentValue_becomes found (idle _ _ found) gives
                      addressed
                  refine .inl ⟨effect, _, ?_, becomes, rfl⟩
                  rw [valid, performed]
                  rfl
        · split
          · rename_i isOutOfService
            by_cases accepted :
                request.hasPriority = false ∧ request.value.type = .boolean
            · refine .inl ⟨_, id, ?_,
                applyOutOfService_becomes found
                  request.value.booleanValue, ?_⟩
              · rw [if_neg (by simp [accepted])]
              · rw [if_pos ⟨isOutOfService, accepted⟩]
                exact congrArg some (update_id _ _).symm
            · refine .inr ⟨invalidDataTypeError, ?_, ?_⟩
              · rw [if_pos]
                by_contra neither
                simp only [not_or, Bool.not_eq_true, ne_eq,
                  not_not] at neither
                exact accepted neither
              · rw [if_neg fun both => accepted both.2]
          · rename_i notOutOfService
            refine .inr ⟨writeAccessDeniedError, rfl, ?_⟩
            rw [if_neg fun both => notOutOfService both.1]

end ServerObjects

/-! Local operations as commands of the table. -/

/-- What an application does to a commandable object. -/
inductive LocalOperation where
  | applyPriorityValue
      (value : CommandValue)
      (priorityValue : UInt8)
      (relinquish : Bool)
  | setRelinquishDefaultValue (value : CommandValue)
  | writeValue (value : CommandValue) (priorityValue : UInt8)
  | relinquish (priorityValue : UInt8)

namespace ServerObjects

variable (objects : ServerObjects)

/--
The local operation of one object; `none` stands for a refused call and for a
call its kind does not have.  A Binary Value is written to directly, and only
the Binary Output has `writeValue` and `relinquish`, where the form without a
priority passes the default one.
-/
def performLocal
    (target : WriteTarget)
    (operation : LocalOperation) : Option WriteEffect :=
  match target, operation with
  | .binaryOutput output,
      .applyPriorityValue (.binary value) priorityValue relinquish =>
      (output.applyPriorityValue value priorityValue relinquish .local).map
        (objects.commitBinaryOutput output)
  | .binaryOutput output, .setRelinquishDefaultValue (.binary value) =>
      (output.setRelinquishDefaultValue value .relinquishDefault).map
        (objects.commitBinaryOutput output)
  | .binaryOutput output, .writeValue (.binary value) priorityValue =>
      (output.applyLocalWrite value priorityValue false).map
        (objects.commitBinaryOutput output)
  | .binaryOutput output, .relinquish priorityValue =>
      (output.relinquish priorityValue).map
        (objects.commitBinaryOutput output)
  | .binaryValue target,
      .applyPriorityValue (.binary value) priorityValue relinquish =>
      (target.priority.write priorityValue relinquish value).map
        (objects.commitBinaryValue target)
  | .binaryValue target, .setRelinquishDefaultValue (.binary value) =>
      some (objects.commitBinaryValue target
        { target.priority with relinquishDefault := value })
  | .commandableAnalogValue target,
      .applyPriorityValue (.analog value) priorityValue relinquish =>
      (target.applyPriorityValue value priorityValue relinquish .local).map
        (objects.commitCommandableAnalogValue target)
  | .commandableAnalogValue target,
      .setRelinquishDefaultValue (.analog value) =>
      (target.setRelinquishDefaultValue value .relinquishDefault).map
        (objects.commitCommandableAnalogValue target)
  | .analogOutput output,
      .applyPriorityValue (.analog value) priorityValue relinquish =>
      (output.applyPriorityValue value priorityValue relinquish .local).map
        (objects.commitAnalogOutput output)
  | .analogOutput output, .setRelinquishDefaultValue (.analog value) =>
      (output.setRelinquishDefaultValue value .relinquishDefault).map
        (objects.commitAnalogOutput output)
  | _, _ => none

/-- The objects after a local operation on the object with this identifier. -/
def operate
    (object : BacnetObjectId)
    (operation : LocalOperation) : ServerObjects :=
  match (objects.findWriteTarget object).bind fun target =>
      objects.performLocal target operation with
  | some effect => effect.objects
  | none => objects

end ServerObjects

/-- Both values have the type of the object. -/
def sameType : CommandValue → CommandValue → Bool
  | .binary _, .binary _ => true
  | .analog _, .analog _ => true
  | _, _ => false

/-- What a local operation does to the commands of an object. -/
def LocalOperation.change?
    (object : BacnetObjectId)
    (commands : Commands) :
    LocalOperation → Option (Commands → Commands)
  | .applyPriorityValue value priorityValue releases =>
      if sameType commands.default value then
        (BacnetCommandPriority.slotIndex? priorityValue).map fun rank =>
          (·.assign rank (if releases then none else some value))
      else
        none
  | .setRelinquishDefaultValue value =>
      if sameType commands.default value then
        some (·.setDefault value)
      else
        none
  | .writeValue value priorityValue =>
      if object.type = BacnetObjectType.binaryOutput ∧
          sameType commands.default value then
        if priorityValue = 0 then
          some (·.setDefault value)
        else
          (BacnetCommandPriority.slotIndex? priorityValue).map fun rank =>
            (·.assign rank (some value))
      else
        none
  | .relinquish priorityValue =>
      if object.type = BacnetObjectType.binaryOutput then
        (BacnetCommandPriority.slotIndex? priorityValue).map fun rank =>
          (·.assign rank none)
      else
        none

/-- The table after a local operation. -/
def CommandTable.operate
    (table : CommandTable)
    (object : BacnetObjectId)
    (operation : LocalOperation) : CommandTable :=
  match (table object).bind fun commands =>
      operation.change? object commands with
  | some change => table.update object change
  | none => table

namespace ServerObjects

variable {objects : ServerObjects} {object : BacnetObjectId}

/-- An effect of the source is a change of the commands, or neither is. -/
def Refines
    (objects : ServerObjects)
    (object : BacnetObjectId)
    (effect? : Option WriteEffect)
    (change? : Option (Commands → Commands)) : Prop :=
  (∃ effect change,
    effect? = some effect ∧ change? = some change ∧
      Becomes objects effect.objects object change) ∨
  (effect? = none ∧ change? = none)

/-- A stored write refines the change of commands that goes with it. -/
theorem refines_of_commit
    {Written Stored : Type}
    {priorityOf : Written → Stored}
    {commandsOf : Stored → Commands}
    {before : Commands}
    {commit : Written → WriteEffect}
    (becomes :
      ∀ written change,
        commandsOf (priorityOf written) = change before →
        Becomes objects (commit written).objects object change)
    {performed : Option Written}
    {stored : Option Stored}
    (same : performed.map priorityOf = stored)
    {change? : Option (Commands → Commands)}
    (changes : stored.map commandsOf = change?.map fun change => change before) :
    Refines objects object (performed.map commit) change? := by
  subst same
  cases performed with
  | none =>
      refine .inr ⟨rfl, ?_⟩
      cases change? with
      | none => rfl
      | some change => cases changes
  | some written =>
      cases change? with
      | none => cases changes
      | some change =>
          exact .inl ⟨_, change, rfl, rfl,
            becomes written change (Option.some.inj changes)⟩

/-- What a priority write stores, as a change of the commands. -/
theorem map_commands_writeSlot
    {α : Type}
    {inject : α → CommandValue}
    (priority : BacnetCommandPriority α)
    (value : α)
    (priorityValue : UInt8)
    (relinquish : Bool) :
    ((BacnetCommandPriority.slotIndex? priorityValue).map fun rank =>
        priority.writeSlot rank relinquish value).map
        (BacnetCommandPriority.commands inject) =
      ((BacnetCommandPriority.slotIndex? priorityValue).map fun rank =>
        fun commands : Commands =>
          commands.assign rank
            (if relinquish then none else some (inject value))).map
        fun change => change (priority.commands inject) := by
  cases BacnetCommandPriority.slotIndex? priorityValue with
  | none => rfl
  | some rank =>
      exact congrArg some
        (BacnetCommandPriority.commands_writeSlot rank relinquish value)

/-- A local operation on a Binary Output. -/
theorem performLocal_refines_binaryOutput
    {output : BacnetServerBinaryOutput}
    (found : objects.findWriteTarget object = some (.binaryOutput output))
    (idle : (WriteTarget.binaryOutput output).callbackInProgress = false)
    (operation : LocalOperation) :
    Refines objects object
      (objects.performLocal (.binaryOutput output) operation)
      (operation.change? object
        (WriteTarget.binaryOutput output).commands) := by
  obtain ⟨rfl, _⟩ := has_of_findWriteTarget found
  have commits :=
    fun written change =>
      @commitBinaryOutput_becomes objects _ change output found
        written
  have writes :=
    @applyCommandPriorityValue_eq _ binaryDiffers output.commandTarget
      idle
  have sets :=
    @setCommandRelinquishDefault_eq _ binaryDiffers
      output.commandTarget idle
  cases operation with
  | applyPriorityValue value priorityValue relinquish =>
      cases value with
      | binary value =>
          exact refines_of_commit commits
            (writes value priorityValue relinquish .local)
            (map_commands_writeSlot output.priority value priorityValue
              relinquish)
      | analog value => exact .inr ⟨rfl, rfl⟩
  | setRelinquishDefaultValue value =>
      cases value with
      | binary value =>
          exact refines_of_commit commits
            (sets value .relinquishDefault) rfl
      | analog value => exact .inr ⟨rfl, rfl⟩
  | writeValue value priorityValue =>
      cases value with
      | binary value =>
          by_cases zero : priorityValue = 0
          · subst zero
            exact refines_of_commit commits
              (sets value .relinquishDefault) rfl
          · have performed :
                objects.performLocal (.binaryOutput output)
                    (.writeValue (.binary value) priorityValue) =
                  (output.applyPriorityValue value priorityValue false
                    .local).map (objects.commitBinaryOutput output) :=
              congrArg (Option.map _) (if_neg zero)
            have changed :
                LocalOperation.change? output.objectId
                    (WriteTarget.binaryOutput output).commands
                    (.writeValue (.binary value) priorityValue) =
                  (BacnetCommandPriority.slotIndex? priorityValue).map
                    fun rank =>
                      (·.assign rank (some (.binary value))) :=
              if_neg zero
            rw [performed, changed]
            exact refines_of_commit commits
              (writes value priorityValue false .local)
              (map_commands_writeSlot output.priority value
                priorityValue false)
      | analog value => exact .inr ⟨rfl, rfl⟩
  | relinquish priorityValue =>
      by_cases zero : priorityValue = 0
      · subst zero
        exact .inr ⟨rfl, rfl⟩
      · have performed :
            objects.performLocal (.binaryOutput output)
                (.relinquish priorityValue) =
              (output.applyPriorityValue false priorityValue true
                .local).map (objects.commitBinaryOutput output) := by
          simp only [performLocal, BacnetServerBinaryOutput.relinquish,
            BacnetServerBinaryOutput.applyLocalWrite, if_neg zero]
        rw [performed]
        exact refines_of_commit commits
          (writes false priorityValue true .local)
          (map_commands_writeSlot output.priority false priorityValue
            true)

/-- A local operation on a Binary Value. -/
theorem performLocal_refines_binaryValue
    {value : BacnetServerBinaryValue}
    (found : objects.findWriteTarget object = some (.binaryValue value))
    (operation : LocalOperation) :
    Refines objects object (objects.performLocal (.binaryValue value) operation)
      (operation.change? object (WriteTarget.binaryValue value).commands) := by
  obtain ⟨rfl, _⟩ := has_of_findWriteTarget found
  have commits :=
    fun written change =>
      @commitBinaryValue_becomes objects _ change value found
        written
  cases operation with
  | applyPriorityValue written priorityValue relinquish =>
      cases written with
      | binary written =>
          exact @refines_of_commit _ _ _ _ id _ _ _ commits _ _
            Option.map_id'
            _ (map_commands_writeSlot value.priority written
              priorityValue relinquish)
      | analog written => exact .inr ⟨rfl, rfl⟩
  | setRelinquishDefaultValue written =>
      cases written with
      | binary written =>
          exact .inl ⟨_, _, rfl, rfl, commits _ _ rfl⟩
      | analog written => exact .inr ⟨rfl, rfl⟩
  | writeValue written priorityValue =>
      cases written <;> exact .inr ⟨rfl, rfl⟩
  | relinquish priorityValue => exact .inr ⟨rfl, rfl⟩

/-- A local operation on a commandable Analog Value. -/
theorem performLocal_refines_commandableAnalogValue
    {value : BacnetServerCommandableAnalogValue}
    (found :
      objects.findWriteTarget object =
        some (.commandableAnalogValue value))
    (idle :
      (WriteTarget.commandableAnalogValue value).callbackInProgress = false)
    (operation : LocalOperation) :
    Refines objects object
      (objects.performLocal (.commandableAnalogValue value) operation)
      (operation.change? object
        (WriteTarget.commandableAnalogValue value).commands) := by
  obtain ⟨rfl, _⟩ := has_of_findWriteTarget found
  have commits :=
    fun written change =>
      @commitCommandableAnalogValue_becomes objects _ change value
        found written
  have writes :=
    @applyCommandPriorityValue_eq _ analogDiffers value.commandTarget
      idle
  have sets :=
    @setCommandRelinquishDefault_eq _ analogDiffers value.commandTarget
      idle
  cases operation with
  | applyPriorityValue written priorityValue relinquish =>
      cases written with
      | analog written =>
          exact refines_of_commit commits
            (writes written priorityValue relinquish .local)
            (map_commands_writeSlot value.priority written priorityValue
              relinquish)
      | binary written => exact .inr ⟨rfl, rfl⟩
  | setRelinquishDefaultValue written =>
      cases written with
      | analog written =>
          exact refines_of_commit commits
            (sets written .relinquishDefault) rfl
      | binary written => exact .inr ⟨rfl, rfl⟩
  | writeValue written priorityValue =>
      cases written <;> exact .inr ⟨rfl, rfl⟩
  | relinquish priorityValue => exact .inr ⟨rfl, rfl⟩

/-- A local operation on an Analog Output. -/
theorem performLocal_refines_analogOutput
    {output : BacnetServerAnalogOutput}
    (found : objects.findWriteTarget object = some (.analogOutput output))
    (idle : (WriteTarget.analogOutput output).callbackInProgress = false)
    (operation : LocalOperation) :
    Refines objects object
      (objects.performLocal (.analogOutput output) operation)
      (operation.change? object
        (WriteTarget.analogOutput output).commands) := by
  obtain ⟨rfl, _⟩ := has_of_findWriteTarget found
  have commits :=
    fun written change =>
      @commitAnalogOutput_becomes objects _ change output found
        written
  have writes :=
    @applyCommandPriorityValue_eq _ analogDiffers output.commandTarget
      idle
  have sets :=
    @setCommandRelinquishDefault_eq _ analogDiffers output.commandTarget
      idle
  cases operation with
  | applyPriorityValue written priorityValue relinquish =>
      cases written with
      | analog written =>
          exact refines_of_commit commits
            (writes written priorityValue relinquish .local)
            (map_commands_writeSlot output.priority written priorityValue
              relinquish)
      | binary written => exact .inr ⟨rfl, rfl⟩
  | setRelinquishDefaultValue written =>
      cases written with
      | analog written =>
          exact refines_of_commit commits
            (sets written .relinquishDefault) rfl
      | binary written => exact .inr ⟨rfl, rfl⟩
  | writeValue written priorityValue =>
      cases written <;> exact .inr ⟨rfl, rfl⟩
  | relinquish priorityValue => exact .inr ⟨rfl, rfl⟩

/-- A local operation refines its change of the commands. -/
theorem performLocal_refines
    {target : WriteTarget}
    (found : objects.findWriteTarget object = some target)
    (idle : target.callbackInProgress = false)
    (operation : LocalOperation) :
    Refines objects object (objects.performLocal target operation)
      (operation.change? object target.commands) := by
  cases target with
  | binaryOutput output =>
      exact performLocal_refines_binaryOutput found idle operation
  | binaryValue value =>
      exact performLocal_refines_binaryValue found operation
  | commandableAnalogValue value =>
      exact performLocal_refines_commandableAnalogValue found idle operation
  | analogOutput output =>
      exact performLocal_refines_analogOutput found idle operation

/-- Nothing happens, or the commands of the object change. -/
theorem operate_refines
    (idle : objects.Idle)
    (object : BacnetObjectId)
    (operation : LocalOperation) :
    (objects.operate object operation = objects ∧
      objects.commandTable.operate object operation =
        objects.commandTable) ∨
    ∃ change,
      Becomes objects (objects.operate object operation) object change ∧
      objects.commandTable.operate object operation =
        objects.commandTable.update object change := by
  unfold operate CommandTable.operate
  rw [commandTable]
  cases found : objects.findWriteTarget object with
  | none => exact .inl ⟨rfl, rfl⟩
  | some target =>
      simp only [Option.bind_some, Option.map_some]
      rcases performLocal_refines found (idle object target found) operation
        with ⟨effect, change, performed, changed, becomes⟩ |
          ⟨refused, unchanged⟩
      · rw [performed, changed]
        exact .inr ⟨change, becomes, rfl⟩
      · rw [refused, unchanged]
        exact .inl ⟨rfl, rfl⟩

end ServerObjects

end BacnetStack
