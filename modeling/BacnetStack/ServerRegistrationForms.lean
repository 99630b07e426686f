import BacnetStack.ServerPoll
import BacnetStack.ServerRegistration
import BacnetStack.ServerCommandTable

namespace BacnetStack

open EventRun

/-!
# The two registration forms

Three kinds of objects are registered as an array or one at a time.  A server
only looks at the objects of a kind in order and at their optional properties,
whichever form they have, so a peer cannot tell the forms apart: two servers
that agree on what is looked at answer every packet alike and still agree
afterwards, also when the packet writes an object.
-/

/-- Two registries that show a server the same. -/
structure ServerObjects.SameView (first second : ServerObjects) : Prop where
  analogValues : second.analogValues = first.analogValues
  commandableAnalogValues :
    second.commandableAnalogValues = first.commandableAnalogValues
  analogOutputs : second.analogOutputs = first.analogOutputs
  analogInputs : second.allAnalogInputs = first.allAnalogInputs
  binaryInputs : second.allBinaryInputs = first.allBinaryInputs
  binaryOutputs : second.allBinaryOutputs = first.allBinaryOutputs
  binaryValues : second.binaryValues = first.binaryValues
  multiStateValues : second.multiStateValues = first.multiStateValues
  registrations :
    second.propertyRegistrations = first.propertyRegistrations
  optional : second.optionalProperties = first.optionalProperties

namespace ServerObjects.SameView

variable {first second : ServerObjects} (same : first.SameView second)

include same

/-- A lookup finds the same object in both forms. -/
theorem findAnalogValue :
    second.findAnalogValue = first.findAnalogValue := by
  unfold ServerObjects.findAnalogValue
  rw [same.analogValues]

theorem findCommandableAnalogValue :
    second.findCommandableAnalogValue =
      first.findCommandableAnalogValue := by
  unfold ServerObjects.findCommandableAnalogValue
  rw [same.commandableAnalogValues]

theorem findAnalogOutput :
    second.findAnalogOutput = first.findAnalogOutput := by
  unfold ServerObjects.findAnalogOutput
  rw [same.analogOutputs]

theorem findAnalogInput :
    second.findAnalogInput = first.findAnalogInput := by
  unfold ServerObjects.findAnalogInput
  rw [same.analogInputs]

theorem findBinaryInput :
    second.findBinaryInput = first.findBinaryInput := by
  unfold ServerObjects.findBinaryInput
  rw [same.binaryInputs]

theorem findBinaryOutput :
    second.findBinaryOutput = first.findBinaryOutput := by
  unfold ServerObjects.findBinaryOutput
  rw [same.binaryOutputs]

theorem findBinaryValue :
    second.findBinaryValue = first.findBinaryValue := by
  unfold ServerObjects.findBinaryValue
  rw [same.binaryValues]

theorem findMultiStateValue :
    second.findMultiStateValue = first.findMultiStateValue := by
  unfold ServerObjects.findMultiStateValue
  rw [same.multiStateValues]

/-- A write is directed to the same object. -/
theorem findWriteTarget :
    second.findWriteTarget = first.findWriteTarget := by
  unfold ServerObjects.findWriteTarget
  rw [same.findBinaryOutput, same.findBinaryValue,
    same.findCommandableAnalogValue, same.findAnalogOutput]

/-- The same value is read, whatever it is read for. -/
theorem readProperty : second.readProperty = first.readProperty := by
  unfold ServerObjects.readProperty findPropertyRegistration
  rw [same.optional, same.registrations]

/-- The own properties of each kind are the same. -/
theorem readAnalogValueProperty :
    second.readAnalogValueProperty = first.readAnalogValueProperty := by
  unfold ServerObjects.readAnalogValueProperty
  rw [same.readProperty]

theorem readCommandableAnalogValueProperty :
    second.readCommandableAnalogValueProperty =
      first.readCommandableAnalogValueProperty := by
  unfold ServerObjects.readCommandableAnalogValueProperty
  rw [same.readProperty]

theorem readAnalogOutputProperty :
    second.readAnalogOutputProperty = first.readAnalogOutputProperty := by
  unfold ServerObjects.readAnalogOutputProperty
  rw [same.readProperty]

theorem readAnalogInputProperty :
    second.readAnalogInputProperty = first.readAnalogInputProperty := by
  unfold ServerObjects.readAnalogInputProperty
  rw [same.readProperty]

theorem readBinaryInputProperty :
    second.readBinaryInputProperty = first.readBinaryInputProperty := by
  unfold ServerObjects.readBinaryInputProperty
  rw [same.readProperty]

theorem readBinaryOutputProperty :
    second.readBinaryOutputProperty = first.readBinaryOutputProperty := by
  unfold ServerObjects.readBinaryOutputProperty
  rw [same.readProperty]

theorem readBinaryValueProperty :
    second.readBinaryValueProperty = first.readBinaryValueProperty := by
  unfold ServerObjects.readBinaryValueProperty
  rw [same.readProperty]

theorem readMultiStateValueProperty :
    second.readMultiStateValueProperty =
      first.readMultiStateValueProperty := by
  unfold ServerObjects.readMultiStateValueProperty
  rw [same.readProperty]

/-- A subscriber sees the same value. -/
theorem readCovValue : second.readCovValue = first.readCovValue := by
  unfold ServerObjects.readCovValue
  rw [same.findAnalogValue, same.findCommandableAnalogValue,
    same.findAnalogOutput, same.findAnalogInput, same.findBinaryInput,
    same.findBinaryOutput, same.findBinaryValue,
    same.readAnalogValueProperty, same.readCommandableAnalogValueProperty,
    same.readAnalogOutputProperty, same.readAnalogInputProperty,
    same.readBinaryInputProperty, same.readBinaryOutputProperty,
    same.readBinaryValueProperty]

/-- A notification reports the same values. -/
theorem collectCovValues :
    BacnetStack.collectCovValues second =
      BacnetStack.collectCovValues first := by
  unfold BacnetStack.collectCovValues
  rw [same.readCovValue]

/-- The property lists are the same. -/
theorem baseProperties : second.baseProperties = first.baseProperties := by
  unfold ServerObjects.baseProperties
  rw [same.findCommandableAnalogValue]

theorem extraRegistrations :
    second.extraRegistrations = first.extraRegistrations := by
  unfold ServerObjects.extraRegistrations
  rw [same.registrations]

theorem objectPropertyCount :
    second.objectPropertyCount = first.objectPropertyCount := by
  unfold ServerObjects.objectPropertyCount
  rw [same.baseProperties, same.extraRegistrations, same.optional]

/-- And so are their entries. -/
theorem objectPropertyAt :
    second.objectPropertyAt = first.objectPropertyAt := by
  unfold ServerObjects.objectPropertyAt
  rw [same.baseProperties, same.extraRegistrations, same.optional]

end ServerObjects.SameView

namespace BacnetServer

variable {server : BacnetServer} {objects : ServerObjects}
  (same : server.objects.SameView objects)

include same

/-- The Device is no matter of the objects. -/
theorem readDeviceProperty_setObjects :
    (server.setObjects objects).readDeviceProperty =
      server.readDeviceProperty := by
  have services :
      (server.setObjects objects).protocolServicesSupported =
        server.protocolServicesSupported := by
    unfold protocolServicesSupported hasCommandableObjects setObjects
    rw [same.analogOutputs, same.commandableAnalogValues,
      same.binaryOutputs, same.binaryValues]
  have types :
      (server.setObjects objects).protocolObjectTypesSupported =
        server.protocolObjectTypesSupported := by
    unfold protocolObjectTypesSupported setObjects
      ServerObjects.analogValueCount
    dsimp only
    rw [same.analogInputs, same.analogValues, same.commandableAnalogValues,
      same.analogOutputs, same.binaryInputs, same.binaryOutputs,
      same.binaryValues, same.multiStateValues]
  unfold readDeviceProperty ServerObjects.findPropertyRegistration
  rw [services, types]
  unfold setObjects
  rw [same.registrations]
  rfl

/-- Nor are the properties registered for it. -/
theorem deviceRegistrations_setObjects :
    (server.setObjects objects).deviceRegistrations =
      server.deviceRegistrations := by
  unfold deviceRegistrations setObjects
  rw [same.registrations]
  rfl

/-- The object list is as long. -/
theorem objectCount_setObjects :
    (server.setObjects objects).objectCount = server.objectCount := by
  unfold objectCount setObjects ServerObjects.analogValueCount
  dsimp only
  rw [same.analogInputs, same.analogValues, same.commandableAnalogValues,
    same.analogOutputs, same.binaryInputs, same.binaryOutputs,
    same.binaryValues, same.multiStateValues]

/-- It has the same entries. -/
theorem objectListEntry_setObjects :
    (server.setObjects objects).objectListEntry = server.objectListEntry := by
  unfold objectListEntry
  rw [objectCount_setObjects same]
  unfold setObjects
  dsimp only
  rw [same.analogInputs, same.analogValues, same.commandableAnalogValues,
    same.analogOutputs, same.binaryInputs, same.binaryOutputs,
    same.binaryValues, same.multiStateValues]
  rfl

/-- A request finds the same object. -/
theorem lookupObject_setObjects :
    (server.setObjects objects).lookupObject = server.lookupObject := by
  unfold lookupObject setObjects
  dsimp only
  rw [same.findAnalogValue, same.findCommandableAnalogValue,
    same.findAnalogOutput, same.findAnalogInput, same.findBinaryInput,
    same.findBinaryOutput, same.findBinaryValue, same.findMultiStateValue]
  rfl

/-- A found property has the same value. -/
theorem readFoundProperty_setObjects :
    (server.setObjects objects).readFoundProperty =
      server.readFoundProperty := by
  unfold readFoundProperty setObjects
  dsimp only
  rw [same.readAnalogValueProperty, same.readCommandableAnalogValueProperty,
    same.readAnalogOutputProperty, same.readAnalogInputProperty,
    same.readBinaryInputProperty, same.readBinaryOutputProperty,
    same.readBinaryValueProperty, same.readMultiStateValueProperty]

/-- A read is refused for the same reason. -/
theorem checkRead_setObjects :
    (server.setObjects objects).checkRead = server.checkRead := by
  unfold checkRead checkDeviceRead devicePropertyCount
  rw [objectCount_setObjects same, deviceRegistrations_setObjects same,
    readDeviceProperty_setObjects same, readFoundProperty_setObjects same]
  unfold setObjects
  rw [same.objectPropertyCount]

/-- A read is answered by the same octets. -/
theorem buildReadAck_setObjects :
    (server.setObjects objects).buildReadAck = server.buildReadAck := by
  unfold buildReadAck devicePropertyCount devicePropertyAt
  rw [objectCount_setObjects same, objectListEntry_setObjects same,
    deviceRegistrations_setObjects same]
  unfold setObjects
  rw [same.objectPropertyCount, same.objectPropertyAt]

end BacnetServer

namespace ServerObjects

variable {first second : ServerObjects}

/-- An output is replaced where it is in the order of its kind. -/
theorem allBinaryOutputs_update
    (objects : ServerObjects)
    (instance_ : UInt32)
    (update : BacnetServerBinaryOutput → BacnetServerBinaryOutput) :
    (objects.updateBinaryOutput instance_ update).allBinaryOutputs =
      replaceFirst (fun output => output.instance_ == instance_) update
        objects.allBinaryOutputs := by
  unfold allBinaryOutputs registeredObjects updateBinaryOutput
  by_cases empty : objects.objectCentricBinaryOutputs.isEmpty = true
  · rw [if_pos empty, if_pos empty, if_pos empty]
  · rw [if_neg empty, if_neg empty, isEmpty_replaceFirst, if_neg empty]
    exact map_object_replaceFirst
      (fun output : BacnetServerBinaryOutput =>
        output.instance_ == instance_) update _

/-- Nothing but the Binary Outputs is replaced. -/
theorem updateBinaryOutput_eq
    (objects : ServerObjects)
    (instance_ : UInt32)
    (update : BacnetServerBinaryOutput → BacnetServerBinaryOutput) :
    ∃ outputs objectCentric,
      objects.updateBinaryOutput instance_ update = {
        objects with
        binaryOutputs := outputs
        objectCentricBinaryOutputs := objectCentric } := by
  unfold updateBinaryOutput
  split
  · exact ⟨_, objects.objectCentricBinaryOutputs, rfl⟩
  · exact ⟨objects.binaryOutputs, _, rfl⟩

/-- A command changes a Binary Output of either form. -/
theorem SameView.updateBinaryOutput
    (same : first.SameView second)
    (instance_ : UInt32)
    {update : BacnetServerBinaryOutput → BacnetServerBinaryOutput}
    (keeps : ∀ output, (update output).instance_ = output.instance_) :
    (first.updateBinaryOutput instance_ update).SameView
      (second.updateBinaryOutput instance_ update) := by
  have firstOutputs := first.allBinaryOutputs_update instance_ update
  have secondOutputs := second.allBinaryOutputs_update instance_ update
  have firstOptional :=
    @optionalProperties_updateBinaryOutput first instance_ update keeps
  have secondOptional :=
    @optionalProperties_updateBinaryOutput second instance_ update keeps
  obtain ⟨_, _, isFirst⟩ := first.updateBinaryOutput_eq instance_ update
  obtain ⟨_, _, isSecond⟩ := second.updateBinaryOutput_eq instance_ update
  rw [isFirst] at firstOutputs firstOptional ⊢
  rw [isSecond] at secondOutputs secondOptional ⊢
  exact {
    same with
    binaryOutputs := by
      rw [firstOutputs, secondOutputs, same.binaryOutputs]
    optional := by
      rw [firstOptional, secondOptional, same.optional] }

/-- The other commandable objects have one form only. -/
theorem SameView.updateCommandableAnalogValue
    (same : first.SameView second)
    (instance_ : UInt32)
    (update : BacnetServerCommandableAnalogValue →
      BacnetServerCommandableAnalogValue) :
    (first.updateCommandableAnalogValue instance_ update).SameView
      (second.updateCommandableAnalogValue instance_ update) :=
  { same with
    commandableAnalogValues :=
      congrArg (replaceFirst _ update) same.commandableAnalogValues }

theorem SameView.updateAnalogOutput
    (same : first.SameView second)
    (instance_ : UInt32)
    (update : BacnetServerAnalogOutput → BacnetServerAnalogOutput) :
    (first.updateAnalogOutput instance_ update).SameView
      (second.updateAnalogOutput instance_ update) :=
  { same with
    analogOutputs :=
      congrArg (replaceFirst _ update) same.analogOutputs }

theorem SameView.updateBinaryValue
    (same : first.SameView second)
    (instance_ : UInt32)
    (update : BacnetServerBinaryValue → BacnetServerBinaryValue) :
    (first.updateBinaryValue instance_ update).SameView
      (second.updateBinaryValue instance_ update) :=
  { same with
    binaryValues := congrArg (replaceFirst _ update) same.binaryValues }

end ServerObjects

/-- Two effects with the same calls that leave the same to look at. -/
def WriteEffect.SameView (first second : WriteEffect) : Prop :=
  first.calls = second.calls ∧ first.objects.SameView second.objects

namespace ServerObjects.SameView

variable {first second : ServerObjects} (same : first.SameView second)

include same

/-- A write of a Present_Value has the same effect. -/
theorem applyPresentValue
    (target : WriteTarget)
    (value : BacnetValue)
    (priorityValue : UInt8) :
    Option.Rel WriteEffect.SameView
      (first.applyPresentValue target value priorityValue)
      (second.applyPresentValue target value priorityValue) := by
  cases target with
  | binaryOutput target =>
      unfold ServerObjects.applyPresentValue
      dsimp only
      rcases target.applyPriorityValue (value.unsignedValue == 1)
        priorityValue (value.type == .null) .bacnetWriteProperty
        with _ | written
      · exact .none
      · exact .some ⟨rfl, @SameView.updateBinaryOutput _ _ same _
          (fun output => { output with priority := written.priority })
          (fun _ => rfl)⟩
  | binaryValue target =>
      unfold ServerObjects.applyPresentValue
      dsimp only
      rcases target.priority.write priorityValue (value.type == .null)
        (value.unsignedValue == 1) with _ | written
      · exact .none
      · exact .some ⟨rfl, same.updateBinaryValue _ _⟩
  | commandableAnalogValue target =>
      unfold ServerObjects.applyPresentValue
      dsimp only
      rcases target.applyPriorityValue value.realValue priorityValue
        (value.type == .null) .bacnetWriteProperty with _ | written
      · exact .none
      · exact .some ⟨rfl, same.updateCommandableAnalogValue _ _⟩
  | analogOutput target =>
      unfold ServerObjects.applyPresentValue
      dsimp only
      rcases target.applyPriorityValue value.realValue priorityValue
        (value.type == .null) .bacnetWriteProperty with _ | written
      · exact .none
      · exact .some ⟨rfl, same.updateAnalogOutput _ _⟩

/-- So has a write of Out_Of_Service. -/
theorem applyOutOfService
    (target : WriteTarget)
    (outOfService : Bool) :
    (first.applyOutOfService target outOfService).SameView
      (second.applyOutOfService target outOfService) := by
  cases target with
  | binaryOutput target =>
      exact ⟨rfl, @SameView.updateBinaryOutput _ _ same _
        (fun output => { output with outOfService := outOfService })
        (fun _ => rfl)⟩
  | binaryValue target => exact ⟨rfl, same.updateBinaryValue _ _⟩
  | commandableAnalogValue target =>
      exact ⟨rfl, same.updateCommandableAnalogValue _ _⟩
  | analogOutput target => exact ⟨rfl, same.updateAnalogOutput _ _⟩

/-- A write is refused alike or has the same effect. -/
theorem writeProperty (request : BacnetWritePropertyRequestHeader) :
    (∃ error,
        first.writeProperty request = .error error ∧
          second.writeProperty request = .error error) ∨
      ∃ effect other,
        first.writeProperty request = .ok effect ∧
          second.writeProperty request = .ok other ∧
          effect.SameView other := by
  unfold ServerObjects.writeProperty
  rw [same.findWriteTarget]
  rcases first.findWriteTarget request.request.object with _ | target
  · exact .inl ⟨_, rfl, rfl⟩
  dsimp only
  by_cases indexed : request.request.arrayIndex ≠ kBacnetNoArrayIndex
  · exact .inl ⟨_, if_pos indexed, if_pos indexed⟩
  rw [if_neg indexed, if_neg indexed]
  by_cases present : request.request.property = .presentValue
  · rw [if_pos present, if_pos present]
    generalize (if request.hasPriority then request.priority else 16) =
      priorityValue
    by_cases outside :
        priorityValue = 0 ∨ kSlotCount < priorityValue.toNat
    · exact .inl ⟨_, if_pos outside, if_pos outside⟩
    rw [if_neg outside, if_neg outside]
    by_cases invalid : (!validPresentValue target request.value) = true
    · exact .inl ⟨_, if_pos invalid, if_pos invalid⟩
    rw [if_neg invalid, if_neg invalid]
    have applied := same.applyPresentValue target request.value priorityValue
    generalize first.applyPresentValue target request.value priorityValue =
      firstApplied at applied ⊢
    generalize second.applyPresentValue target request.value priorityValue =
      secondApplied at applied ⊢
    cases applied with
    | some effects => exact .inr ⟨_, _, rfl, rfl, effects⟩
    | none => exact .inl ⟨_, rfl, rfl⟩
  rw [if_neg present, if_neg present]
  by_cases outOfService : request.request.property = .outOfService
  · rw [if_pos outOfService, if_pos outOfService]
    split
    · exact .inl ⟨_, rfl, rfl⟩
    · exact .inr ⟨_, _, rfl, rfl, same.applyOutOfService target _⟩
  · rw [if_neg outOfService, if_neg outOfService]
    exact .inl ⟨_, rfl, rfl⟩

end ServerObjects.SameView

/-! What a peer sees of either form. -/

/-- Two servers that differ only in how their objects were registered. -/
def BacnetServer.SameView (first second : BacnetServer) : Prop :=
  ∃ objects,
    first.objects.SameView objects ∧ second = first.setObjects objects

/-- Two polls that show the same and leave servers that differ no more. -/
structure PollOutput.SameView (first second : PollOutput) : Prop where
  server : first.server.SameView second.server
  result : second.result = first.result
  datagram : second.datagram = first.datagram
  transmission : second.transmission = first.transmission
  activated : second.activated = first.activated

namespace BacnetServer.SameView

variable {first second : BacnetServer} (same : first.SameView second)

include same

/-- A poll that sends nothing. -/
theorem silent (result : BacnetServerPollResult) :
    (first.silent result).SameView (second.silent result) :=
  ⟨same, rfl, rfl, rfl, rfl⟩

/-- A poll that answers. -/
theorem sendReply
    (input : PollInput)
    (reply : Option (List UInt8))
    (sent : BacnetServerPollResult) :
    (BacnetStack.sendReply first input reply sent).SameView
      (BacnetStack.sendReply second input reply sent) := by
  cases reply with
  | none => exact ⟨same, rfl, rfl, rfl, rfl⟩
  | some packet => exact ⟨same, rfl, rfl, rfl, rfl⟩

/-- The same change of one slot keeps the view. -/
theorem setSlot
    (index : CovIndex)
    (slot : CovSlot) :
    (first.setSlot index slot).SameView (second.setSlot index slot) := by
  obtain ⟨objects, view, rfl⟩ := same
  exact ⟨objects, view, rfl⟩

/-- A slot is found in the same state. -/
theorem visit
    (now : UInt32)
    (index : CovIndex) :
    second.visit now index = first.visit now index := by
  obtain ⟨objects, view, rfl⟩ := same
  unfold BacnetServer.visit visitSlot setObjects
  rw [view.collectCovValues]

/-- The same notification is sent for a slot. -/
theorem sendCovNotification
    (sendSucceeds : Bool)
    (now : UInt32)
    (index : CovIndex)
    (slot : CovSlot)
    (values : List BacnetCovPropertyValue)
    (isRetransmission : Bool) :
    (first.sendCovNotification sendSucceeds now index slot values
        isRetransmission).SameView
      (second.sendCovNotification sendSucceeds now index slot values
        isRetransmission) := by
  obtain ⟨objects, view, rfl⟩ := same
  exact ⟨⟨objects, view, rfl⟩, rfl, rfl, rfl, rfl⟩

omit same in
/-- The scan over the slots, by induction on those that remain. -/
theorem scanSlots
    (sendSucceeds : Bool)
    (now : UInt32)
    (slots : List CovIndex)
    (same : first.SameView second) :
    (BacnetServer.scanSlots sendSucceeds now slots first).SameView
      (BacnetServer.scanSlots sendSucceeds now slots second) := by
  induction slots generalizing first second with
  | nil =>
      exact ⟨same, rfl, rfl, rfl, rfl⟩
  | cons index rest inductionHypothesis =>
      rw [BacnetServer.scanSlots, BacnetServer.scanSlots,
        same.visit now index]
      cases first.visit now index with
      | next slot =>
          exact inductionHypothesis (same.setSlot index slot)
      | send slot values isRetransmission =>
          exact same.sendCovNotification sendSucceeds now index slot values
            isRetransmission

/-- An idle poll. -/
theorem processCovSubscriptions (input : PollInput) :
    (first.processCovSubscriptions input).SameView
      (second.processCovSubscriptions input) := by
  have sameTime :
      second.nowMs input.clockMs = first.nowMs input.clockMs := by
    obtain ⟨objects, _, rfl⟩ := same
    rfl
  unfold BacnetServer.processCovSubscriptions
  rw [sameTime]
  exact scanSlots _ _ _ same

/-- A ReadProperty request is answered alike. -/
theorem handleReadProperty
    (input : PollInput)
    (request : BacnetReadPropertyRequestHeader) :
    (first.handleReadProperty input request).SameView
      (second.handleReadProperty input request) := by
  have kept := same
  obtain ⟨objects, view, rfl⟩ := same
  unfold BacnetServer.handleReadProperty
  rw [lookupObject_setObjects view, checkRead_setObjects view,
    buildReadAck_setObjects view]
  dsimp only
  split
  · exact kept.sendReply input _ _
  · exact kept.sendReply input _ _

/-- A WriteProperty request is answered alike. -/
theorem handleWriteProperty
    (input : PollInput)
    (request : BacnetWritePropertyRequestHeader) :
    (first.handleWriteProperty input request).SameView
      (second.handleWriteProperty input request) := by
  have kept := same
  obtain ⟨objects, view, rfl⟩ := same
  unfold BacnetServer.handleWriteProperty
  rcases view.writeProperty request with
    ⟨error, refused, alsoRefused⟩ |
      ⟨effect, other, accepted, alsoAccepted, _, left⟩
  · replace alsoRefused :
        (first.setObjects objects).objects.writeProperty request =
          .error error :=
      alsoRefused
    rw [refused, alsoRefused]
    exact kept.sendReply input _ _
  · replace alsoAccepted :
        (first.setObjects objects).objects.writeProperty request =
          .ok other :=
      alsoAccepted
    have written :
        (first.setObjects effect.objects).SameView
          (first.setObjects other.objects) :=
      ⟨other.objects, left, rfl⟩
    rw [accepted, alsoAccepted]
    exact written.sendReply input _ _

/-- A SubscribeCOV request is answered alike. -/
theorem handleSubscribeCov
    (input : PollInput)
    (request : BacnetSubscribeCovRequestHeader) :
    (first.handleSubscribeCov input request).SameView
      (second.handleSubscribeCov input request) := by
  have kept := same
  obtain ⟨objects, view, rfl⟩ := same
  have refusal :
      request.refusal (first.setObjects objects).objects =
        request.refusal first.objects := by
    unfold BacnetSubscribeCovRequestHeader.refusal setObjects
    rw [view.readCovValue]
  have matchedSlot :
      (first.setObjects objects).matchedSlot? = first.matchedSlot? :=
    rfl
  have freeSlot : (first.setObjects objects).freeSlot? = first.freeSlot? :=
    rfl
  unfold BacnetServer.handleSubscribeCov
  rw [refusal, matchedSlot, freeSlot]
  cases request.refusal first.objects with
  | some error => exact kept.sendReply input _ _
  | none =>
      dsimp only
      by_cases cancels : request.lifetimeSeconds = 0
      · rw [if_pos cancels, if_pos cancels]
        cases first.matchedSlot? (request.tuple input.source) with
        | some index => exact (kept.setSlot index _).sendReply input _ _
        | none => exact kept.sendReply input _ _
      · rw [if_neg cancels, if_neg cancels]
        cases (first.matchedSlot? (request.tuple input.source)).or
          first.freeSlot? with
        | some index =>
            have acknowledged :=
              (kept.setSlot index
                (activatedSlot input.source request
                  (first.expiryDeadline input request.lifetimeSeconds)
                  (first.covSlots index))).sendReply input
                (buildSimpleAckResponse kMaxDatagramSize request.invokeId
                  request.serviceChoice) .subscribeCovAckSent
            exact { acknowledged with activated := rfl }
        | none => exact kept.sendReply input _ _

/-- Any other confirmed request is answered alike. -/
theorem handleConfirmedRequest
    (input : PollInput)
    (invokeId : UInt8) :
    (first.handleConfirmedRequest input invokeId).SameView
      (second.handleConfirmedRequest input invokeId) := by
  unfold BacnetServer.handleConfirmedRequest
  split
  · exact same.silent _
  · exact same.handleReadProperty input _
  · split
    · exact same.silent _
    · exact same.handleWriteProperty input _
    · split
      · exact same.silent _
      · exact same.handleSubscribeCov input _
      · exact same.sendReply input _ _

/-- Any datagram is answered alike. -/
theorem handleRequest (input : PollInput) :
    (first.handleRequest input).SameView
      (second.handleRequest input) := by
  have sameDevice : second.device = first.device := by
    obtain ⟨objects, _, rfl⟩ := same
    rfl
  unfold BacnetServer.handleRequest BacnetServer.sendIAm
  rw [sameDevice]
  split
  · split
    · exact same.sendReply input _ _
    · exact same.silent _
  · split
    · exact same.silent _
    · exact same.silent _
    · exact same.handleConfirmedRequest input _

/-- Whatever is received, both servers answer it alike. -/
theorem poll (input : PollInput) :
    (first.poll input).SameView (second.poll input) := by
  obtain ⟨running, hasTransport, answered, covSlots, completed⟩ :
      second.running = first.running ∧
        second.hasTransport = first.hasTransport ∧
        second.answeredSlot? input = first.answeredSlot? input ∧
        second.covSlots = first.covSlots ∧
        second.completeSlot = first.completeSlot := by
    obtain ⟨objects, _, rfl⟩ := same
    exact ⟨rfl, rfl, rfl, rfl, rfl⟩
  unfold BacnetServer.poll
  rw [running, hasTransport, answered, covSlots, completed]
  split
  · exact same.silent _
  · split
    · exact same.processCovSubscriptions input
    · split
      · exact same.silent _
      · split
        · exact (same.setSlot _ _).silent _
        · exact same.handleRequest input

/-- A server is started with both forms. -/
theorem start
    (device : BacnetServerDevice)
    (localPort : UInt16)
    (bound : Bool) :
    (first.start device localPort bound).SameView
      (second.start device localPort bound) := by
  have kept := same
  obtain ⟨objects, view, rfl⟩ := same
  have acceptsDevice :
      (first.setObjects objects).acceptsDevice device =
        first.acceptsDevice device := by
    unfold BacnetServer.acceptsDevice setObjects
    rw [view.registrations]
  unfold BacnetServer.start
  rw [acceptsDevice]
  split
  · exact ⟨objects, view, rfl⟩
  · exact kept

end BacnetServer.SameView

/--
Two events that differ only in how the objects were registered which the
application changes to.
-/
inductive ServerEvent.SameView : ServerEvent → ServerEvent → Prop where
  | same (event : ServerEvent) : SameView event event
  | setObjects
      {first second : ServerObjects}
      (view : first.SameView second) :
      SameView (.setObjects first) (.setObjects second)

theorem ServerObjects.SameView.refl (objects : ServerObjects) :
    objects.SameView objects :=
  ⟨rfl, rfl, rfl, rfl, rfl, rfl, rfl, rfl, rfl, rfl⟩

namespace BacnetServer

theorem SameView.setObjects
    {first second : BacnetServer}
    (same : first.SameView second)
    {objects others : ServerObjects}
    (view : objects.SameView others) :
    (first.setObjects objects).SameView (second.setObjects others) := by
  obtain ⟨_, _, rfl⟩ := same
  exact ⟨others, view, rfl⟩

/-- No step lets the servers drift apart. -/
theorem SameView.step
    {first second : BacnetServer}
    (same : first.SameView second)
    {event other : ServerEvent}
    (alike : event.SameView other) :
    (first.step event).SameView (second.step other) := by
  cases alike with
  | setObjects view => exact same.setObjects view
  | same event =>
      cases event with
      | poll input => exact (same.poll input).server
      | setObjects objects => exact same.setObjects (.refl objects)
      | start device localPort bound =>
          exact same.start device localPort bound
      | stop =>
          obtain ⟨objects, view, rfl⟩ := same
          exact ⟨objects, view, rfl⟩
      | setTransport =>
          obtain ⟨objects, view, rfl⟩ := same
          change SameView (if first.running then _ else _)
            (if first.running then _ else _)
          split
          · exact ⟨objects, view, rfl⟩
          · exact ⟨objects, view, rfl⟩
      | setClock hasClock =>
          obtain ⟨objects, view, rfl⟩ := same
          exact ⟨objects, view, rfl⟩
      | setLocalWritePriority priority =>
          obtain ⟨objects, view, rfl⟩ := same
          change SameView (if _ then _ else _) (if _ then _ else _)
          split
          · exact ⟨objects, view, rfl⟩
          · exact ⟨objects, view, rfl⟩

end BacnetServer

section Kinds

variable
  {Object : Type}
  {support : PropertySupport}
  {instanceOf : Object → UInt32}
  {valid : Object → Bool}

/-- One more object without optional properties is stored. -/
def registerPlain
    (support : PropertySupport)
    (instanceOf : Object → UInt32)
    (valid : Object → Bool)
    (registered : List (ObjectCentric Object))
    (declared : Declared Object) :
    List (ObjectCentric Object) × BacnetObjectConfigurationStatus :=
  registerObject instanceOf valid [] registered
    (.initializeProperties : ObjectProperties support) declared

/-- Below the capacity only the object itself decides. -/
theorem registerPlain_ok_iff
    {registered : List (ObjectCentric Object)}
    (room : registered.length < kMaxObjectCentricObjects)
    (declared : Declared Object) :
    (registerPlain support instanceOf valid registered declared).2 = .ok ↔
      (declared.isComplete && valid declared.object) = true ∧
        instanceOf declared.object ∉
          registered.map fun source => instanceOf source.object := by
  have repeated :
      (registered.any fun source =>
        instanceOf source.object == instanceOf declared.object) = true ↔
      instanceOf declared.object ∈
        registered.map fun source => instanceOf source.object := by
    simp only [List.any_eq_true, List.mem_map, beq_iff_eq]
  unfold registerPlain registerObject
  dsimp only
  rw [if_neg (by simp [ObjectProperties.initializeProperties]),
    if_neg (by simp)]
  by_cases isValid :
      (declared.isComplete && valid declared.object) = true
  · by_cases isRepeated :
        (registered.any fun source =>
          instanceOf source.object == instanceOf declared.object) = true
    · have inRegistered := repeated.mp isRepeated
      rw [if_neg (by simp [isValid]), if_pos isRepeated]
      simp [inRegistered]
    · have notRegistered := mt repeated.mpr isRepeated
      rw [if_neg (by simp [isValid]), if_neg isRepeated,
        if_neg room.ne]
      exact ⟨fun _ => ⟨isValid, notRegistered⟩, fun _ => rfl⟩
  · have isInvalid :
        (!(declared.isComplete && valid declared.object)) = true := by
      rw [Bool.not_eq_true', ← Bool.not_eq_true]
      exact isValid
    rw [if_pos isInvalid]
    simp [isValid]

/-- An accepted object is appended. -/
theorem registerPlain_stored
    {registered : List (ObjectCentric Object)}
    {declared : Declared Object}
    (accepted :
      (registerPlain support instanceOf valid registered declared).2 =
        .ok) :
    (registerPlain support instanceOf valid registered declared).1 =
      registered ++ [⟨declared.object, []⟩] := by
  rcases @registerObject_cases Object instanceOf valid support []
      registered .initializeProperties declared with
    ⟨_, refused⟩ | ⟨_, _, _, stored⟩
  · exact (refused accepted).elim
  · unfold registerPlain
    rw [stored]
    rfl

/-- The step of a registration one by one. -/
def storePlain
    (support : PropertySupport)
    (instanceOf : Object → UInt32)
    (valid : Object → Bool)
    (registered : List (ObjectCentric Object))
    (declared : Declared Object) : List (ObjectCentric Object) :=
  (registerPlain support instanceOf valid registered declared).1

/-- The same objects, each with its empty list of optional properties. -/
def withoutProperties
    (declared : List (Declared Object)) : List (ObjectCentric Object) :=
  declared.map fun declared => ⟨declared.object, []⟩

/-- The loop of an array registration accepts what is accepted one by one. -/
theorem acceptsArray_iff_along
    {previous : List UInt32}
    {registered : List (ObjectCentric Object)}
    {declared : List (Declared Object)}
    (known :
      ∀ instance_,
        instance_ ∈ previous ↔
          instance_ ∈
            registered.map fun source => instanceOf source.object)
    (fits :
      registered.length + declared.length ≤ kMaxObjectCentricObjects) :
    acceptsArray instanceOf valid previous declared = true ↔
      Along (storePlain support instanceOf valid)
        (fun registered declared =>
          (registerPlain support instanceOf valid registered
            declared).2 = .ok)
        registered declared := by
  induction declared generalizing previous registered with
  | nil =>
      simp [acceptsArray, Along]
  | cons first rest inductionHypothesis =>
      rw [List.length_cons] at fits
      have room : registered.length < kMaxObjectCentricObjects := by omega
      have firstAccepted :=
        @registerPlain_ok_iff Object support instanceOf valid registered
          room first
      rw [acceptsArray, Along, firstAccepted, ← known,
        Bool.and_eq_true, Bool.and_eq_true, Bool.not_eq_true',
        decide_eq_false_iff_not]
      refine and_congr_right fun accepted => ?_
      have stored :
          storePlain support instanceOf valid registered first =
            registered ++ [⟨first.object, []⟩] :=
        registerPlain_stored
          (firstAccepted.mpr ⟨accepted.1, (known _).not.mp accepted.2⟩)
      rw [stored]
      apply inductionHypothesis
      · intro instance_
        rw [List.mem_cons, known, List.map_append, List.mem_append,
          or_comm]
        simp
      · rw [List.length_append, List.length_singleton]
        omega

/-- What is stored when every object is accepted. -/
theorem run_storePlain
    {registered : List (ObjectCentric Object)}
    {declared : List (Declared Object)}
    (accepted :
      Along (storePlain support instanceOf valid)
        (fun registered declared =>
          (registerPlain support instanceOf valid registered
            declared).2 = .ok)
        registered declared) :
    run (storePlain support instanceOf valid) registered declared =
      registered ++ withoutProperties declared := by
  induction declared generalizing registered with
  | nil =>
      simp [withoutProperties]
  | cons first rest inductionHypothesis =>
      have stored :
          storePlain support instanceOf valid registered first =
            registered ++ [⟨first.object, []⟩] :=
        registerPlain_stored accepted.1
      rw [run_cons, inductionHypothesis accepted.2, stored,
        List.append_assoc, List.singleton_append]
      rfl

end Kinds

/-- Objects without optional properties, of a kind with two forms. -/
inductive PlainObjects where
  | analogInputs (inputs : List (Declared BacnetServerAnalogInput))
  | binaryInputs (inputs : List (Declared BacnetServerBinaryInput))
  | binaryOutputs (outputs : List (Declared BacnetServerBinaryOutput))

namespace PlainObjects

/-- How many objects there are. -/
def count : PlainObjects → Nat
  | .analogInputs inputs => inputs.length
  | .binaryInputs inputs => inputs.length
  | .binaryOutputs outputs => outputs.length

/-- The objects as an array. -/
def asArray : PlainObjects → RegistrationCall
  | .analogInputs inputs => .setAnalogInputs (some inputs)
  | .binaryInputs inputs => .setBinaryInputs (some inputs)
  | .binaryOutputs outputs => .setBinaryOutputs (some outputs)

/-- The objects one at a time. -/
def oneByOne : PlainObjects → List RegistrationCall
  | .analogInputs inputs =>
      inputs.map (.addAnalogInput .initializeProperties)
  | .binaryInputs inputs =>
      inputs.map (.addBinaryInput .initializeProperties)
  | .binaryOutputs outputs =>
      outputs.map (.addBinaryOutput .initializeProperties)

/-- What the loop of an array registration says of the objects. -/
def accepts : PlainObjects → Bool
  | .analogInputs inputs =>
      acceptsArray BacnetServerAnalogInput.instance_
        (fun input =>
          validObjectConfiguration input.instance_ input.objectName)
        [] inputs
  | .binaryInputs inputs =>
      acceptsArray BacnetServerBinaryInput.instance_
        (fun input =>
          validObjectConfiguration input.instance_ input.objectName)
        [] inputs
  | .binaryOutputs outputs =>
      acceptsArray BacnetServerBinaryOutput.instance_
        ServerObjects.validBinaryOutput [] outputs

/-- No object of the kind is registered. -/
def Unregistered (objects : ServerObjects) : PlainObjects → Prop
  | .analogInputs _ => objects.allAnalogInputs = []
  | .binaryInputs _ => objects.allBinaryInputs = []
  | .binaryOutputs _ => objects.allBinaryOutputs = []

end PlainObjects

/-- A call is accepted by the registry it is made on. -/
def Accepted
    (objects : ServerObjects)
    (call : RegistrationCall) : Prop :=
  (objects.perform call).2 = true

theorem registeredObjects_eq_nil_iff
    {Object : Type}
    {array : List Object}
    {objectCentric : List (ObjectCentric Object)} :
    registeredObjects array objectCentric = [] ↔
      array = [] ∧ objectCentric = [] := by
  unfold registeredObjects
  cases objectCentric with
  | nil => simp
  | cons source rest => simp

/-- An array in the place of no objects is stored when it is accepted. -/
theorem registerExclusiveArray_eq
    {Object : Type}
    {instanceOf : Object → UInt32}
    {valid : Object → Bool}
    (objects : List (Declared Object)) :
    registerExclusiveArray instanceOf valid [] [] (some objects) =
      (if acceptsArray instanceOf valid [] objects then
          objects.map Declared.object
        else
          [],
        acceptsArray instanceOf valid [] objects) := by
  change (if acceptsArray instanceOf valid [] objects then
      (objects.map Declared.object, true)
    else
      ([], false)) = _
  cases acceptsArray instanceOf valid [] objects with
  | true => rfl
  | false => rfl

namespace ServerObjects

variable {objects : ServerObjects}

section Runs

variable
  {Object : Type}
  {support : PropertySupport}
  {instanceOf : Object → UInt32}
  {valid : Object → Bool}
  {place : List (ObjectCentric Object) → ServerObjects}
  {add : Declared Object → RegistrationCall}
  (performs :
    ∀ registered declared,
      (place registered).perform (add declared) =
        acceptedObject
          (place
              (registerPlain support instanceOf valid registered
                declared).1,
            (registerPlain support instanceOf valid registered
              declared).2))

include performs

/-- A call that only reaches one list of objects is a step of that list. -/
theorem register_add
    (registered : List (ObjectCentric Object))
    (declared : Declared Object) :
    (place registered).register (add declared) =
      place (storePlain support instanceOf valid registered declared) := by
  rw [register, performs]
  rfl

/-- Such calls are accepted as the steps of the list are. -/
theorem along_oneByOne_iff
    {registered : List (ObjectCentric Object)}
    {declared : List (Declared Object)} :
    Along register Accepted (place registered) (declared.map add) ↔
      Along (storePlain support instanceOf valid)
        (fun registered declared =>
          (registerPlain support instanceOf valid registered
            declared).2 = .ok)
        registered declared := by
  induction declared generalizing registered with
  | nil =>
      rfl
  | cons first rest inductionHypothesis =>
      rw [List.map_cons, Along, Along, register_add performs,
        inductionHypothesis, Accepted, performs]
      simp [acceptedObject]

/-- Objects that are added one by one are stored in order. -/
theorem run_oneByOne
    {registered : List (ObjectCentric Object)}
    {declared : List (Declared Object)} :
    run register (place registered) (declared.map add) =
      place
        (run (storePlain support instanceOf valid) registered declared) := by
  induction declared generalizing registered with
  | nil =>
      rfl
  | cons first rest inductionHypothesis =>
      rw [List.map_cons, run_cons, run_cons, register_add performs,
        inductionHypothesis]

/-- The two forms of one kind, registered in the place of none. -/
theorem forms_of_empty
    {stored : List Object → ServerObjects}
    {set : List (Declared Object) → RegistrationCall}
    (sets :
      ∀ declared,
        (place []).perform (set declared) =
          (stored
              (registerExclusiveArray instanceOf valid [] []
                (some declared)).1,
            (registerExclusiveArray instanceOf valid [] []
              (some declared)).2))
    {declared : List (Declared Object)}
    (fits : declared.length ≤ kMaxObjectCentricObjects) :
    (Accepted (place []) (set declared) ↔
        acceptsArray instanceOf valid [] declared = true) ∧
      (Along register Accepted (place []) (declared.map add) ↔
        acceptsArray instanceOf valid [] declared = true) ∧
      (acceptsArray instanceOf valid [] declared = true →
        (place []).register (set declared) =
            stored (declared.map Declared.object) ∧
          run register (place []) (declared.map add) =
            place (withoutProperties declared)) := by
  have sameLoop :=
    @acceptsArray_iff_along Object support instanceOf valid [] [] declared
      (fun _ => Iff.rfl) (by rwa [List.length_nil, Nat.zero_add])
  refine ⟨?_, (along_oneByOne_iff performs).trans sameLoop.symm, ?_⟩
  · rw [Accepted, sets, registerExclusiveArray_eq]
  · intro accepted
    refine ⟨?_, ?_⟩
    · rw [register, sets, registerExclusiveArray_eq]
      dsimp only
      rw [if_pos accepted]
    · rw [run_oneByOne performs, run_storePlain (sameLoop.mp accepted),
        List.nil_append]

end Runs

/-- Objects without optional properties have none to look at. -/
theorem properties_of_find?
    {Object : Type}
    {accepts : ObjectCentric Object → Bool}
    {declared : List (Declared Object)}
    {source : ObjectCentric Object}
    (found : (withoutProperties declared).find? accepts = some source) :
    source.properties = [] := by
  obtain ⟨_, _, rfl⟩ := List.mem_map.mp (List.mem_of_find?_eq_some found)
  rfl

end ServerObjects

/-! Both forms give the same view. -/

namespace PlainObjects

variable {objects others : ServerObjects}

/-- The registry with the plain objects one by one, in the place of none. -/
def storedIn (objects : ServerObjects) : PlainObjects → ServerObjects
  | .analogInputs inputs =>
      { objects with
        analogInputs := []
        objectCentricAnalogInputs := withoutProperties inputs }
  | .binaryInputs inputs =>
      { objects with
        binaryInputs := []
        objectCentricBinaryInputs := withoutProperties inputs }
  | .binaryOutputs outputs =>
      { objects with
        binaryOutputs := []
        objectCentricBinaryOutputs := withoutProperties outputs }

/-- Plain objects in the place of none add no optional properties. -/
theorem optionalProperties_storedIn
    {plain : PlainObjects}
    (unregistered : plain.Unregistered objects) :
    (plain.storedIn objects).optionalProperties =
      objects.optionalProperties := by
  funext object
  cases plain with
  | analogInputs inputs =>
      obtain ⟨_, empty⟩ := registeredObjects_eq_nil_iff.mp unregistered
      unfold ServerObjects.optionalProperties storedIn
      rw [empty]
      dsimp only
      split
      · split
        · rename_i found
          exact ServerObjects.properties_of_find? found
        · rfl
      · rfl
  | binaryInputs inputs =>
      obtain ⟨_, empty⟩ := registeredObjects_eq_nil_iff.mp unregistered
      unfold ServerObjects.optionalProperties storedIn
      rw [empty]
      dsimp only
      split
      · rfl
      · split
        · split
          · rename_i found
            exact ServerObjects.properties_of_find? found
          · rfl
        · rfl
  | binaryOutputs outputs =>
      obtain ⟨_, empty⟩ := registeredObjects_eq_nil_iff.mp unregistered
      unfold ServerObjects.optionalProperties storedIn
      rw [empty]
      dsimp only
      split
      · rfl
      · split
        · rfl
        · split
          · split
            · rename_i found
              exact ServerObjects.properties_of_find? found
            · rfl
          · rfl

/-- The registry with the plain objects as an array, in the place of none. -/
def arrayIn (objects : ServerObjects) : PlainObjects → ServerObjects
  | .analogInputs inputs =>
      { objects with
        analogInputs := inputs.map Declared.object
        objectCentricAnalogInputs := [] }
  | .binaryInputs inputs =>
      { objects with
        binaryInputs := inputs.map Declared.object
        objectCentricBinaryInputs := [] }
  | .binaryOutputs outputs =>
      { objects with
        binaryOutputs := outputs.map Declared.object
        objectCentricBinaryOutputs := [] }

/--
In the place of none, the loop alone decides whether objects are accepted as
an array and one by one, and they are then registered in that form.
-/
theorem register_forms
    {plain : PlainObjects}
    (unregistered : plain.Unregistered objects)
    (fits : plain.count ≤ kMaxObjectCentricObjects) :
    (Accepted objects plain.asArray ↔ plain.accepts = true) ∧
      (Along ServerObjects.register Accepted objects plain.oneByOne ↔
        plain.accepts = true) ∧
      (plain.accepts = true →
        objects.register plain.asArray = plain.arrayIn objects ∧
          run ServerObjects.register objects plain.oneByOne =
            plain.storedIn objects) := by
  cases plain with
  | analogInputs inputs =>
      obtain ⟨noArray, noSources⟩ :=
        registeredObjects_eq_nil_iff.mp unregistered
      have empty :
          { objects with
            analogInputs := []
            objectCentricAnalogInputs := [] } = objects := by
        rw [← noArray, ← noSources]
      have forms :=
        @ServerObjects.forms_of_empty BacnetServerAnalogInput
          analogInputSupport BacnetServerAnalogInput.instance_
          (fun input =>
            validObjectConfiguration input.instance_ input.objectName)
          (fun sources =>
            { objects with
              analogInputs := []
              objectCentricAnalogInputs := sources })
          (.addAnalogInput .initializeProperties) (fun _ _ => rfl)
          (fun inputs =>
            { objects with
              analogInputs := inputs
              objectCentricAnalogInputs := [] })
          (fun inputs => .setAnalogInputs (some inputs)) (fun _ => rfl)
          inputs fits
      rw [empty] at forms
      exact forms
  | binaryInputs inputs =>
      obtain ⟨noArray, noSources⟩ :=
        registeredObjects_eq_nil_iff.mp unregistered
      have empty :
          { objects with
            binaryInputs := []
            objectCentricBinaryInputs := [] } = objects := by
        rw [← noArray, ← noSources]
      have forms :=
        @ServerObjects.forms_of_empty BacnetServerBinaryInput
          binaryInputSupport BacnetServerBinaryInput.instance_
          (fun input =>
            validObjectConfiguration input.instance_ input.objectName)
          (fun sources =>
            { objects with
              binaryInputs := []
              objectCentricBinaryInputs := sources })
          (.addBinaryInput .initializeProperties) (fun _ _ => rfl)
          (fun inputs =>
            { objects with
              binaryInputs := inputs
              objectCentricBinaryInputs := [] })
          (fun inputs => .setBinaryInputs (some inputs)) (fun _ => rfl)
          inputs fits
      rw [empty] at forms
      exact forms
  | binaryOutputs outputs =>
      obtain ⟨noArray, noSources⟩ :=
        registeredObjects_eq_nil_iff.mp unregistered
      have empty :
          { objects with
            binaryOutputs := []
            objectCentricBinaryOutputs := [] } = objects := by
        rw [← noArray, ← noSources]
      have forms :=
        @ServerObjects.forms_of_empty BacnetServerBinaryOutput
          binaryOutputSupport BacnetServerBinaryOutput.instance_
          ServerObjects.validBinaryOutput
          (fun sources =>
            { objects with
              binaryOutputs := []
              objectCentricBinaryOutputs := sources })
          (.addBinaryOutput .initializeProperties) (fun _ _ => rfl)
          (fun outputs =>
            { objects with
              binaryOutputs := outputs
              objectCentricBinaryOutputs := [] })
          (fun outputs => .setBinaryOutputs (some outputs)) (fun _ => rfl)
          outputs fits
      rw [empty] at forms
      exact forms
/-- Nothing of the kind is looked at in the array form either. -/
theorem optionalProperties_arrayIn
    {plain : PlainObjects}
    (unregistered : plain.Unregistered objects) :
    (plain.arrayIn objects).optionalProperties =
      objects.optionalProperties := by
  cases plain with
  | analogInputs inputs =>
      obtain ⟨_, empty⟩ := registeredObjects_eq_nil_iff.mp unregistered
      unfold arrayIn
      rw [← empty]
      rfl
  | binaryInputs inputs =>
      obtain ⟨_, empty⟩ := registeredObjects_eq_nil_iff.mp unregistered
      unfold arrayIn
      rw [← empty]
      rfl
  | binaryOutputs outputs =>
      obtain ⟨_, empty⟩ := registeredObjects_eq_nil_iff.mp unregistered
      unfold arrayIn
      rw [← empty]
      rfl

/-- Either form shows the objects in their order. -/
theorem registeredObjects_forms
    {Object : Type}
    (declared : List (Declared Object)) :
    registeredObjects [] (withoutProperties declared) =
      registeredObjects (declared.map Declared.object) [] := by
  unfold registeredObjects withoutProperties
  cases declared with
  | nil => rfl
  | cons first rest => simp

theorem Unregistered.of_sameView
    {plain : PlainObjects}
    (unregistered : plain.Unregistered objects)
    (view : objects.SameView others) :
    plain.Unregistered others := by
  cases plain with
  | analogInputs inputs => exact view.analogInputs.trans unregistered
  | binaryInputs inputs => exact view.binaryInputs.trans unregistered
  | binaryOutputs outputs => exact view.binaryOutputs.trans unregistered

/-- The forms show the same in registries that show the same. -/
theorem forms_sameView
    {plain : PlainObjects}
    (unregistered : plain.Unregistered objects)
    (view : objects.SameView others) :
    (plain.arrayIn objects).SameView (plain.storedIn others) := by
  have optional :
      (plain.storedIn others).optionalProperties =
        (plain.arrayIn objects).optionalProperties := by
    rw [optionalProperties_storedIn (unregistered.of_sameView view),
      optionalProperties_arrayIn unregistered, view.optional]
  cases plain with
  | analogInputs inputs =>
      exact {
        view with
        analogInputs := registeredObjects_forms inputs
        optional := optional }
  | binaryInputs inputs =>
      exact {
        view with
        binaryInputs := registeredObjects_forms inputs
        optional := optional }
  | binaryOutputs outputs =>
      exact {
        view with
        binaryOutputs := registeredObjects_forms outputs
        optional := optional }

end PlainObjects

namespace BacnetServer

/-- Servers a peer cannot tell apart stay so in every run. -/
theorem SameView.run
    {first second : BacnetServer}
    (same : first.SameView second)
    {events others : List ServerEvent}
    (alike : List.Forall₂ ServerEvent.SameView events others) :
    (EventRun.run BacnetServer.step first events).SameView
      (EventRun.run BacnetServer.step second others) := by
  have preserved
      (server other : BacnetServer)
      (event otherEvent : ServerEvent)
      (same : server.SameView other)
      (alike : event.SameView otherEvent) :
      (BacnetServer.step server event).SameView
        (BacnetServer.step other otherEvent) :=
    same.step alike
  exact run_related_of_forall₂ BacnetServer.SameView preserved same alike

/--
Up to the capacity of the table, objects without optional properties are
accepted one by one exactly if they are accepted as an array.  Two servers
that a peer could not tell apart before are then not to be told apart by
which of the two forms was used: whatever happens to both of them afterwards,
every packet is answered alike.
-/
theorem registrationForms_alike
    {server other : BacnetServer}
    (same : server.SameView other)
    {plain : PlainObjects}
    (unregistered : plain.Unregistered server.objects)
    (fits : plain.count ≤ kMaxObjectCentricObjects) :
    (Along ServerObjects.register Accepted other.objects plain.oneByOne ↔
        Accepted server.objects plain.asArray) ∧
      (Accepted server.objects plain.asArray →
        ∀ events others,
          List.Forall₂ ServerEvent.SameView events others →
            ∀ input,
              ((EventRun.run step
                  (server.setObjects
                    (server.objects.register plain.asArray))
                  events).poll input).SameView
                ((EventRun.run step
                  (other.setObjects
                    (EventRun.run ServerObjects.register other.objects
                      plain.oneByOne))
                  others).poll input)) := by
  obtain ⟨objects, view, rfl⟩ := same
  have inOthers := unregistered.of_sameView view
  obtain ⟨acceptedArray, _, asArray⟩ :=
    PlainObjects.register_forms unregistered fits
  obtain ⟨_, acceptedEach, oneByOne⟩ :=
    PlainObjects.register_forms inOthers fits
  refine ⟨acceptedEach.trans acceptedArray.symm, ?_⟩
  intro accepted events others alike input
  have accepts := acceptedArray.mp accepted
  have registered :
      (server.setObjects (server.objects.register plain.asArray)).SameView
        ((server.setObjects objects).setObjects
          (EventRun.run ServerObjects.register objects
            plain.oneByOne)) := by
    rw [(asArray accepts).1, (oneByOne accepts).2]
    exact ⟨_, PlainObjects.forms_sameView unregistered view, rfl⟩
  exact (registered.run alike).poll input

/-- Two Binary Outputs of a server that is then started and read. -/
def twoOutputs : PlainObjects :=
  .binaryOutputs
    [⟨{ instance_ := 1, objectName := [65] }, true⟩,
      ⟨{ instance_ := 2, objectName := [66] }, true⟩]

theorem registrationForms_alike_twoOutputs :
    ((EventRun.run step
        (({} : BacnetServer).setObjects
          (({} : ServerObjects).register twoOutputs.asArray))
        [.setTransport, .start {} 47808 true]).poll
      { packet :=
          [0x81, 0x0A, 0, 17, 1, 4, 0, 5, 7, 12, 0x0C, 1, 0, 0, 2,
            0x19, 0x55] }).SameView
      ((EventRun.run step
          (({} : BacnetServer).setObjects
            (EventRun.run ServerObjects.register {} twoOutputs.oneByOne))
          [.setTransport, .start {} 47808 true]).poll
        { packet :=
            [0x81, 0x0A, 0, 17, 1, 4, 0, 5, 7, 12, 0x0C, 1, 0, 0, 2,
              0x19, 0x55] }) :=
  (@registrationForms_alike {} {} ⟨{}, .refl {}, rfl⟩ twoOutputs rfl
    (by decide)).2
    (show (({} : ServerObjects).perform twoOutputs.asArray).2 = true by
      decide +kernel)
    _ _ (List.forall₂_same.mpr fun event _ => .same event) _

end BacnetServer

end BacnetStack
