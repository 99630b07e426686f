import BacnetStack.ProtocolReplyKinds
import BacnetStack.ProtocolWriteCodec
import BacnetStack.ServerCommandRefinement

namespace BacnetStack

/-!
# Writes that release a priority

A write of NULL to the Present_Value of a commandable object releases the
slot of its priority, or it is refused and changes nothing.
-/

/-- The value in force of a commandable object. -/
def WriteTarget.effectiveValue : WriteTarget → CommandValue
  | .binaryOutput output => .binary output.priority.effectiveValue
  | .binaryValue value => .binary value.priority.effectiveValue
  | .commandableAnalogValue value => .analog value.priority.effectiveValue
  | .analogOutput output => .analog output.priority.effectiveValue

theorem WriteTarget.value_commands (target : WriteTarget) :
    target.commands.value = target.effectiveValue := by
  cases target <;> exact BacnetCommandPriority.value_commands

/-- A request that releases a priority of an object. -/
structure Relinquishes
    (request : BacnetWritePropertyRequestHeader)
    (object : BacnetObjectId)
    (priority : UInt8) : Prop where
  object : request.request.object = object
  property : request.request.property = .presentValue
  whole : request.request.arrayIndex = kBacnetNoArrayIndex
  isNull : request.value.type = .null
  hasPriority : request.hasPriority = true
  priority : request.priority = priority

namespace ServerObjects

variable {objects : ServerObjects} {object : BacnetObjectId}

/-- An operation under way refuses every other one. -/
theorem applyPresentValue_of_busy
    {target : WriteTarget}
    (busy : target.callbackInProgress = true)
    (value : BacnetValue)
    (priorityValue : UInt8) :
    objects.applyPresentValue target value priorityValue = none := by
  cases target with
  | binaryValue target => cases busy
  | binaryOutput output =>
      have refused : output.commandTarget.callbackInProgress = true := busy
      simp [applyPresentValue, BacnetServerBinaryOutput.applyPriorityValue,
        applyCommandPriorityValue, refused]
  | commandableAnalogValue target =>
      have refused : target.commandTarget.callbackInProgress = true := busy
      simp [applyPresentValue,
        BacnetServerCommandableAnalogValue.applyPriorityValue,
        applyCommandPriorityValue, refused]
  | analogOutput output =>
      have refused : output.commandTarget.callbackInProgress = true := busy
      simp [applyPresentValue, BacnetServerAnalogOutput.applyPriorityValue,
        applyCommandPriorityValue, refused]

/-- An accepted release frees the slot. -/
theorem writeProperty_relinquish
    {target : WriteTarget}
    (found : objects.findWriteTarget object = some target)
    {request : BacnetWritePropertyRequestHeader}
    {priority : UInt8}
    (relinquishes : Relinquishes request object priority)
    {rank : Fin kSlotCount}
    (addressed : BacnetCommandPriority.slotIndex? priority = some rank)
    {effect : WriteEffect}
    (performed : objects.writeProperty request = .ok effect) :
    Becomes objects effect.objects object (·.assign rank none) := by
  have inRange : ¬(priority = 0 ∨ kSlotCount < priority.toNat) := by
    rw [← slotIndex?_eq_none_iff, addressed]
    exact Option.some_ne_none rank
  have gives : givenCommand target.commands request.value = some none := by
    rw [givenCommand, relinquishes.isNull]
  have valid : validPresentValue target request.value = true := by
    rw [validPresentValue_eq, gives]
    rfl
  have applied :
      objects.applyPresentValue target request.value priority =
        some effect := by
    unfold writeProperty at performed
    simp only [relinquishes.object, found, relinquishes.whole,
      relinquishes.property, relinquishes.hasPriority,
      relinquishes.priority, ne_eq, not_true_eq_false, if_false, if_true,
      if_neg inRange, valid, Bool.not_true, Bool.false_eq_true]
      at performed
    split at performed
    · rename_i result isResult
      rw [isResult, Except.ok.inj performed]
    · cases performed
  have idle : target.callbackInProgress = false := by
    by_contra busy
    rw [Bool.not_eq_false] at busy
    rw [applyPresentValue_of_busy busy] at applied
    cases applied
  obtain ⟨same, performedToo, becomes⟩ :=
    @applyPresentValue_becomes objects object target found idle request.value
      none gives priority rank addressed
  rw [applied] at performedToo
  obtain rfl := Option.some.inj performedToo
  exact becomes

end ServerObjects

namespace BacnetServer

variable {server : BacnetServer} {object : BacnetObjectId}

/-- The answer to a release, and what it leaves behind. -/
theorem poll_relinquish
    {input : PollInput}
    {request : BacnetWritePropertyRequestHeader}
    (received : server.ReceivesWrite input request)
    {priority : UInt8}
    (relinquishes : Relinquishes request object priority)
    {rank : Fin kSlotCount}
    (addressed : BacnetCommandPriority.slotIndex? priority = some rank)
    {commands : Commands}
    (held : server.objects.commandTable object = some commands) :
    ((server.poll input).server.objects.commandTable object =
        some (commands.assign rank none) ∧
      (server.poll input).datagram.map Datagram.packet =
        some (simpleAckPacket request.invokeId kServiceWriteProperty)) ∨
    ((server.poll input).server.objects.commandTable object =
        some commands ∧
      ∃ error : BacnetError,
        (server.poll input).datagram.map Datagram.packet =
          some (serviceErrorPacket request.invokeId kServiceWriteProperty
            error.1 error.2)) := by
  obtain ⟨target, found, isCommands⟩ := Option.map_eq_some_iff.mp held
  rw [poll_write received]
  rcases @handleWriteProperty_cases server input request
    with ⟨effect, performed, next, acknowledged⟩ |
      ⟨error, -, same, answered⟩
  · have becomes :=
      ServerObjects.writeProperty_relinquish found relinquishes addressed
        performed
    refine .inl ⟨?_, by rw [acknowledged]; rfl⟩
    rw [next]
    show effect.objects.commandTable object = _
    rw [becomes.table, CommandTable.update, Function.update_self, held]
    rfl
  · exact .inr ⟨by rw [same, held], error, by rw [answered]; rfl⟩

/-- A request to release a priority is received as it was meant. -/
theorem relinquishes_of_build
    {priority invokeId : UInt8}
    (positive : priority ≠ 0)
    {packet : List UInt8}
    (built :
      buildWritePropertyRequest 544 object .presentValue { type := .null }
        { hasPriority := true, priority := priority } invokeId =
          some packet) :
    ∃ request,
      parseWritePropertyRequest packet = .parsed request ∧
        request.invokeId = invokeId ∧
        Relinquishes request object priority := by
  have single :
      ¬ReadsAsList .presentValue kBacnetNoArrayIndex .null := by
    decide
  obtain ⟨received, parsed, sameType, -⟩ :=
    writeReceived_of_single (fun _ => positive) built single
  exact ⟨_, parsed, rfl, rfl, rfl, rfl, sameType, rfl, rfl⟩

end BacnetServer

end BacnetStack
