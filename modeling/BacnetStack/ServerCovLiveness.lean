import Mathlib.Algebra.Order.Group.Nat
import Mathlib.Algebra.Order.BigOperators.Group.List
import BacnetStack.ServerCovFairness
import BacnetStack.ServerCovRetry

namespace BacnetStack

open EventRun WrappingClock

/-!
# Whether a subscription can still notify

While time stands still and no value changes, every slot sends a bounded
number of notifications, so that the scan gets to the slots behind it.  What
can keep a subscription from notifying for good is its own retry deadline: on
a server without a clock no deadline passes.
-/

/-- Sent once, the values read for a subscription count as unchanged. -/
def RecognisesReport
    (objects : ServerObjects)
    (subscription : BacnetServerCovSubscription) : Prop :=
  ∀ values,
    collectCovValues objects subscription = some values →
    ReportRecognised subscription values values

section Standstill

variable
  (objects : ServerObjects)
  (device : BacnetServerDevice)
  (hasClock : Bool)
  (now : UInt32)

/-- A change is sent once, and repeated at most until the limit. -/
def changeSends (slot : CovSlot) : Nat :=
  match collectCovValues objects slot.subscription with
  | some values =>
      if covValuesChanged slot values then
        device.numberOfApduRetries.toNat + 2
      else
        0
  | none => 0

/-- A bound of what a slot sends while time stands still. -/
def sendsLeft (slot : CovSlot) : Nat :=
  if slot.subscription.state = .inactive ∨
      lifetimeOver hasClock now slot.subscription = true ∨
      backoffPending now slot = true then
    0
  else if slot.subscription.state = .awaitingConfirmedAck then
    if acknowledgementOverdue device hasClock now slot.subscription then
      device.numberOfApduRetries.toNat - slot.confirmedRetryCount.toNat +
        changeSends objects device slot
    else
      0
  else
    changeSends objects device slot

/-- No notification with the values read for a subscription is built. -/
def TooLarge (subscription : BacnetServerCovSubscription) : Prop :=
  ∀ values timeRemaining invokeId,
    collectCovValues objects subscription = some values →
    buildCovNotification kMaxDatagramSize subscription.processId
        ⟨BacnetObjectType.device, device.deviceInstance⟩
        subscription.object timeRemaining values subscription.confirmed
        invokeId =
      none

/--
The sends of a subscription at one moment come to an end: it awaits an
acknowledgement that is not overdue at once, or what it reports is recognised
and its retransmissions are counted to their limit, or its packet cannot be
built.
-/
def ComesToRest (subscription : BacnetServerCovSubscription) : Prop :=
  (subscription.confirmed = true ∧
    (hasClock = false ∨ device.apduTimeout ≠ 0)) ∨
  (RecognisesReport objects subscription ∧
    (subscription.confirmed = true →
      LimitFits device.numberOfApduRetries)) ∨
  (subscription.confirmed = false ∧
    TooLarge objects device subscription)

/-- At one moment a slot has nothing to send, or comes to rest. -/
def RestsAt (slot : CovSlot) : Prop :=
  sendsLeft objects device hasClock now slot = 0 ∨
    ComesToRest objects device hasClock slot.subscription

variable {objects device hasClock now}

/-- A slot that waits out a failed send sends nothing. -/
theorem sendsLeft_of_backoff
    {slot : CovSlot}
    (waits : backoffPending now slot = true) :
    sendsLeft objects device hasClock now slot = 0 :=
  if_pos (.inr (.inr waits))

/-- A failed send has to be waited out. -/
theorem backoffPending_failedSend (slot : CovSlot) :
    backoffPending now (failedSend device now slot) = true := by
  unfold failedSend
  dsimp only
  generalize
    (if slot.sendRetryCount.toUInt32 < device.numberOfApduRetries then
      slot.sendRetryCount + 1
    else
      slot.sendRetryCount) = sendRetryCount
  have someDelay :
      0 < (if device.apduTimeout ≠ 0 then
        device.apduTimeout
      else
        1000).toNat := by
    split
    · rename_i positive
      exact Nat.pos_of_ne_zero fun zero =>
        positive (UInt32.toNat_inj.mp zero)
    · decide
  have someAttempt :
      0 < (if sendRetryCount ≠ 0 then sendRetryCount.toNat else 1) := by
    split
    · rename_i positive
      exact Nat.pos_of_ne_zero fun zero =>
        positive (UInt8.toNat_inj.mp zero)
    · exact Nat.one_pos
  have someTime := Nat.mul_pos someDelay someAttempt
  generalize
    (if device.apduTimeout ≠ 0 then
      device.apduTimeout
    else
      1000).toNat *
      (if sendRetryCount ≠ 0 then sendRetryCount.toNat else 1) =
        requestedDelayMs at someTime
  have limit : kMaxCovRetryDelayMs = 2147483646 := rfl
  by_cases wrapped :
      now + UInt32.ofNat (min requestedDelayMs kMaxCovRetryDelayMs) = 0
  · rw [backoffPending, if_pos wrapped]
    have next :
        1 = now +
          UInt32.ofNat (min requestedDelayMs kMaxCovRetryDelayMs + 1) := by
      rw [UInt32.ofNat_add, ← UInt32.add_assoc, wrapped]
      rfl
    rw [next, not_reached_ahead now (by omega) (by omega), ← next]
    rfl
  · rw [backoffPending, if_neg wrapped,
      not_reached_ahead now (by omega) (by omega)]
    simpa using wrapped

/-- A visit that sends nothing leaves no more to send. -/
theorem sendsLeft_next
    {slot after : CovSlot}
    (visited :
      visitSlot objects device hasClock now slot = .next after) :
    sendsLeft objects device hasClock now after ≤
      sendsLeft objects device hasClock now slot := by
  rcases visitSlot_next_cases visited
    with rfl | ⟨_, _, rfl⟩ | ⟨awaiting, alive, noBackoff, overdue, _, rfl⟩
  · exact le_rfl
  · exact Nat.zero_le _
  · have before :
        sendsLeft objects device hasClock now slot =
          device.numberOfApduRetries.toNat -
              slot.confirmedRetryCount.toNat +
            changeSends objects device slot := by
      simp [sendsLeft, awaiting, alive, noBackoff, overdue]
    have after :
        sendsLeft objects device hasClock now slot.giveUp ≤
          changeSends objects device slot := by
      unfold sendsLeft
      split
      · exact Nat.zero_le _
      · exact le_rfl
    rw [before]
    exact after.trans (Nat.le_add_left _ _)

/-- A slot that sends had something to send. -/
theorem sendsLeft_of_send
    {slot after : CovSlot}
    {values : List BacnetCovPropertyValue}
    {isRetransmission : Bool}
    (visited :
      visitSlot objects device hasClock now slot =
        .send after values isRetransmission) :
    0 < sendsLeft objects device hasClock now slot := by
  obtain ⟨alive, noBackoff, resent | fresh⟩ :=
    visitSlot_send_cases visited
  · obtain ⟨_, awaiting, overdue, retriesLeft, _, _⟩ := resent
    rw [← Bool.not_eq_true, retriesExhausted_eq_true_iff]
      at retriesLeft
    simp only [sendsLeft, awaiting, alive, noBackoff, overdue]
    exact Nat.add_pos_left (by omega) _
  · obtain ⟨_, active, collected, changed, _⟩ := fresh
    simp [sendsLeft, active, alive, noBackoff, changeSends, collected,
      changed]

/-- Values that were sent are no change. -/
theorem changeSends_completedSend
    {slot : CovSlot}
    {values : List BacnetCovPropertyValue}
    (recognises : RecognisesReport objects slot.subscription)
    (collected :
      collectCovValues objects slot.subscription = some values)
    (invokeId : UInt8) :
    changeSends objects device
        (completedSend now invokeId values slot) = 0 := by
  have sameRead :
      collectCovValues objects
          (completedSend now invokeId values slot).subscription =
        some values := collected
  have references := references_of_collectCovValues collected
  have stores := stores_completedSend references now invokeId
  have unchanged :
      covValuesChanged (completedSend now invokeId values slot) values =
        false := by
    rw [← Bool.not_eq_true, covValuesChanged_iff stores references]
    rintro (differs | unrecognised)
    · exact not_reportDiffers_self _ _ differs
    · exact unrecognised (recognises values collected)
  rw [changeSends, sameRead]
  dsimp only
  rw [unchanged]
  rfl

/-- A repetition stores what is stored already. -/
theorem covValuesChanged_retryValues
    {slot : CovSlot}
    {values : List BacnetCovPropertyValue}
    {invokeId : UInt8}
    (changed :
      covValuesChanged
          (completedSend now invokeId (retryValues slot) slot) values =
        true) :
    covValuesChanged slot values = true := by
  unfold covValuesChanged at changed ⊢
  rw [Bool.or_eq_true] at changed ⊢
  refine changed.imp_right fun changed => ?_
  rw [List.any_eq_true] at changed ⊢
  obtain ⟨index, isIndex, changed⟩ := changed
  refine ⟨index, isIndex, ?_⟩
  cases found : values[index.val]? with
  | none =>
      rw [found] at changed
      cases changed
  | some reported =>
      rw [found] at changed
      dsimp only at changed ⊢
      cases stored : (retryValues slot)[index.val]? with
      | none =>
          simp only [completedSend, storeCovValues, stored] at changed
          exact changed
      | some repeated =>
          simp only [completedSend, storeCovValues, stored] at changed
          rw [getElem?_retryValues slot stored] at changed
          by_cases valid : (slot.snapshots index).valid = true
          · rw [snapshotOf_snapshotValue valid] at changed
            exact changed
          · simp [covValueChanged, valid]

/-- A repetition leaves no more changes to send. -/
theorem changeSends_retryValues
    (slot : CovSlot)
    (invokeId : UInt8) :
    changeSends objects device
        (completedSend now invokeId (retryValues slot) slot) ≤
      changeSends objects device slot := by
  have sameRead :
      collectCovValues objects
          (completedSend now invokeId (retryValues slot)
            slot).subscription =
        collectCovValues objects slot.subscription := rfl
  unfold changeSends
  rw [sameRead]
  cases collectCovValues objects slot.subscription with
  | none => exact le_rfl
  | some values =>
      dsimp only
      split
      · rename_i changed
        rw [if_pos (covValuesChanged_retryValues changed)]
      · exact Nat.zero_le _

/-- What is overdue the moment it was sent is recognised and counted. -/
theorem ComesToRest.of_overdue
    (slot : CovSlot)
    {invokeId : UInt8}
    {values : List BacnetCovPropertyValue}
    (rests : ComesToRest objects device hasClock slot.subscription)
    (awaiting :
      (completedSend now invokeId values slot).subscription.state =
        .awaitingConfirmedAck)
    (overdue :
      acknowledgementOverdue device hasClock now
          (completedSend now invokeId values slot).subscription =
        true) :
    RecognisesReport objects slot.subscription ∧
      LimitFits device.numberOfApduRetries := by
  rw [acknowledgementOverdue, Bool.and_eq_true, decide_eq_true_eq]
    at overdue
  have confirmed : slot.subscription.confirmed = true := by
    rw [CovLedger.state_completedSend] at awaiting
    split at awaiting
    · assumption
    · cases awaiting
  rcases rests with ⟨_, noClock | timeout⟩ | ⟨recognises, fits⟩ |
    ⟨unconfirmed, _⟩
  · rw [noClock] at overdue
    cases overdue.1
  · have atOnce : device.apduTimeout ≤ now - now := overdue.2
    rw [UInt32.sub_self] at atOnce
    exact (timeout (UInt32.le_zero_iff.mp atOnce)).elim
  · exact ⟨recognises, fits confirmed⟩
  · rw [confirmed] at unconfirmed
    cases unconfirmed

/-- What awaits no acknowledgement after it was sent is recognised. -/
theorem ComesToRest.of_not_awaiting
    (slot : CovSlot)
    {server : BacnetServer}
    {values : List BacnetCovPropertyValue}
    {sendSucceeds : Bool}
    (rests : ComesToRest objects server.device hasClock slot.subscription)
    (collected :
      collectCovValues objects slot.subscription = some values)
    (delivered :
      server.delivers sendSucceeds now slot.subscription values = true)
    (notAwaiting :
      ¬(completedSend now
          (server.drawInvokeId slot.subscription.confirmed) values
          slot).subscription.state =
        .awaitingConfirmedAck) :
    RecognisesReport objects slot.subscription := by
  rcases rests with ⟨confirmed, _⟩ | ⟨recognises, _⟩ | ⟨_, tooLarge⟩
  · rw [CovLedger.state_completedSend, if_pos confirmed] at notAwaiting
    exact (notAwaiting rfl).elim
  · exact recognises
  · have notBuilt :
        server.covNotificationPacket slot.subscription values now = none :=
      tooLarge values _ _ collected
    rw [BacnetServer.delivers, notBuilt] at delivered
    cases delivered

/-- A notification that is repeated leaves less to send. -/
theorem sendsLeft_completedRepeat
    {slot : CovSlot}
    (rests : ComesToRest objects device hasClock slot.subscription)
    (retriesLeft :
      slot.confirmedRetryCount.toNat < device.numberOfApduRetries.toNat)
    (invokeId : UInt8) :
    sendsLeft objects device hasClock now
        (completedSend now invokeId (retryValues slot)
          { slot with
            confirmedRetryCount := slot.confirmedRetryCount + 1 }) <
      device.numberOfApduRetries.toNat - slot.confirmedRetryCount.toNat +
        changeSends objects device slot := by
  have repeats :=
    @changeSends_retryValues objects device now slot invokeId
  unfold sendsLeft
  split
  · omega
  · split
    · rename_i awaiting
      split
      · rename_i overdue
        obtain ⟨_, fits⟩ :=
          ComesToRest.of_overdue
            { slot with
              confirmedRetryCount := slot.confirmedRetryCount + 1 }
            rests awaiting overdue
        have incremented := fits.toNat_succ retriesLeft
        change
          device.numberOfApduRetries.toNat -
              (slot.confirmedRetryCount + 1).toNat + _ < _
        refine (Nat.add_le_add_left repeats _).trans_lt ?_
        omega
      · omega
    · exact repeats.trans_lt (by omega)

/-- After a change is notified it can only be repeated. -/
theorem sendsLeft_completedChange
    {server : BacnetServer}
    {slot : CovSlot}
    {values : List BacnetCovPropertyValue}
    {sendSucceeds : Bool}
    (rests : ComesToRest objects server.device hasClock slot.subscription)
    (collected :
      collectCovValues objects slot.subscription = some values)
    (delivered :
      server.delivers sendSucceeds now slot.subscription values = true) :
    sendsLeft objects server.device hasClock now
        (completedSend now
          (server.drawInvokeId slot.subscription.confirmed) values
          { slot with confirmedRetryCount := 0 }) <
      server.device.numberOfApduRetries.toNat + 2 := by
  have unchanged
      (recognises : RecognisesReport objects slot.subscription) :=
    @changeSends_completedSend objects server.device now
      { slot with confirmedRetryCount := 0 } values recognises collected
      (server.drawInvokeId slot.subscription.confirmed)
  unfold sendsLeft
  split
  · exact Nat.succ_pos _
  · split
    · rename_i awaiting
      split
      · rename_i overdue
        obtain ⟨recognises, _⟩ :=
          ComesToRest.of_overdue { slot with confirmedRetryCount := 0 }
            rests awaiting overdue
        rw [unchanged recognises]
        omega
      · exact Nat.succ_pos _
    · rename_i notAwaiting
      rw [unchanged
        (ComesToRest.of_not_awaiting { slot with confirmedRetryCount := 0 }
          rests collected delivered notAwaiting)]
      exact Nat.succ_pos _

/-- A visit that sends leaves less to send. -/
theorem sendsLeft_sentSlot
    {server : BacnetServer}
    {slot after : CovSlot}
    {values : List BacnetCovPropertyValue}
    {isRetransmission : Bool}
    (rests : ComesToRest objects server.device hasClock slot.subscription)
    (visited :
      visitSlot objects server.device hasClock now slot =
        .send after values isRetransmission)
    (sendSucceeds : Bool) :
    sendsLeft objects server.device hasClock now
        (server.sentSlot sendSucceeds now after values) <
      sendsLeft objects server.device hasClock now slot := by
  have before := sendsLeft_of_send visited
  unfold BacnetServer.sentSlot
  split
  · rename_i delivered
    obtain ⟨alive, noBackoff, resent | fresh⟩ :=
      visitSlot_send_cases visited
    · obtain ⟨_, awaiting, overdue, retriesLeft, rfl, rfl⟩ := resent
      have left :
          sendsLeft objects server.device hasClock now slot =
            server.device.numberOfApduRetries.toNat -
                slot.confirmedRetryCount.toNat +
              changeSends objects server.device slot := by
        simp [sendsLeft, awaiting, alive, noBackoff, overdue]
      rw [← Bool.not_eq_true, retriesExhausted_eq_true_iff]
        at retriesLeft
      rw [left]
      exact sendsLeft_completedRepeat rests (Nat.lt_of_not_le retriesLeft)
        (server.drawInvokeId slot.subscription.confirmed)
    · obtain ⟨_, active, collected, changed, rfl⟩ := fresh
      have left :
          sendsLeft objects server.device hasClock now slot =
            server.device.numberOfApduRetries.toNat + 2 := by
        simp [sendsLeft, active, alive, noBackoff, changeSends, collected,
          changed]
      rw [left]
      exact sendsLeft_completedChange rests collected delivered
  · rw [sendsLeft_of_backoff (backoffPending_failedSend _)]
    exact before

end Standstill

/-! The scan gets to every slot. -/

namespace BacnetServer

/-- At one moment the slots in front of a slot come to rest. -/
def EarlierRest
    (now : UInt32)
    (index : CovIndex)
    (server : BacnetServer) : Prop :=
  ∀ earlier, earlier < index →
    RestsAt server.objects server.device server.hasClock now
      (server.covSlots earlier)

/-- How often the slots in front of a slot can still send. -/
def sendsBefore
    (now : UInt32)
    (index : CovIndex)
    (server : BacnetServer) : Nat :=
  ((slotsBefore index).map fun earlier =>
    sendsLeft server.objects server.device server.hasClock now
      (server.covSlots earlier)).sum

/-- Idle polls leave a slot alone that they do not get to. -/
structure WaitsAs
    (original : BacnetServer)
    (clockMs : UInt32)
    (index : CovIndex)
    (server : BacnetServer) : Prop where
  ready : server.Ready
  objects : server.objects = original.objects
  device : server.device = original.device
  hasClock : server.hasClock = original.hasClock
  slot : server.covSlots index = original.covSlots index
  rests : server.EarlierRest (server.nowMs clockMs) index

variable {original server : BacnetServer} {index : CovIndex}

/-- A visit sends for a slot that comes to rest, and leaves it so. -/
theorem restsAt_visitedSlot
    {input : PollInput}
    {earlier : CovIndex}
    (rests :
      RestsAt server.objects server.device server.hasClock
        (server.nowMs input.clockMs) (server.covSlots earlier)) :
    RestsAt server.objects server.device server.hasClock
        (server.nowMs input.clockMs)
        (server.visitedSlot input earlier) ∧
      sendsLeft server.objects server.device server.hasClock
          (server.nowMs input.clockMs)
          (server.visitedSlot input earlier) ≤
        sendsLeft server.objects server.device server.hasClock
          (server.nowMs input.clockMs) (server.covSlots earlier) ∧
      ((server.visit (server.nowMs input.clockMs) earlier).isSend =
          true →
        sendsLeft server.objects server.device server.hasClock
            (server.nowMs input.clockMs)
            (server.visitedSlot input earlier) <
          sendsLeft server.objects server.device server.hasClock
            (server.nowMs input.clockMs)
            (server.covSlots earlier)) := by
  unfold visitedSlot
  rcases visited :
      server.visit (server.nowMs input.clockMs) earlier
    with after | ⟨after, values, isRetransmission⟩
  · have noMore := sendsLeft_next visited
    refine ⟨?_, noMore, fun sends => absurd sends Bool.false_ne_true⟩
    rcases rests with quiet | comesToRest
    · left
      exact Nat.le_zero.mp (quiet ▸ noMore)
    · rcases visitSlot_next_cases visited
        with rfl | ⟨_, _, rfl⟩ | ⟨_, _, _, _, _, rfl⟩
      · exact .inr comesToRest
      · exact .inl (if_pos (.inl rfl))
      · exact .inr comesToRest
  · have some := sendsLeft_of_send visited
    have comesToRest :=
      rests.resolve_left fun quiet => some.ne' quiet
    have less :=
      sendsLeft_sentSlot comesToRest visited input.sendSucceeds
    refine ⟨.inr ?_, less.le, fun _ => less⟩
    dsimp only
    unfold sentSlot
    obtain ⟨_, _, resent | fresh⟩ := visitSlot_send_cases visited
    · obtain ⟨_, _, _, _, _, rfl⟩ := resent
      split <;> exact comesToRest
    · obtain ⟨_, _, _, _, rfl⟩ := fresh
      split <;> exact comesToRest

/-- In front of a hidden slot one is the first that sends. -/
theorem exists_first_of_shadowed
    {input : PollInput}
    (hidden :
      server.shadowed (server.nowMs input.clockMs) index = true) :
    ∃ first, first < index ∧
      server.shadowed (server.nowMs input.clockMs) first = false ∧
      (server.visit (server.nowMs input.clockMs) first).isSend =
        true := by
  simp only [shadowed, List.any_eq_true, mem_slotsBefore] at hidden
  obtain ⟨earlier, before, sends⟩ := hidden
  rcases server.processCovSubscriptions_cases input
    with ⟨quiet, _⟩ | ⟨first, _, _, _, quiet, sendsFirst, _⟩
  · rw [quiet earlier] at sends
    cases sends
  · have notAfter : first ≤ earlier := by
      by_contra after
      rw [quiet earlier (not_le.mp after)] at sends
      cases sends
    exact ⟨first, notAfter.trans_lt before,
      server.shadowed_eq_false_iff.mpr quiet, by rw [sendsFirst]; rfl⟩

/-- An idle poll that does not get to the slot leaves less in front of it. -/
theorem WaitsAs.poll
    {input : PollInput}
    (waits : WaitsAs original input.clockMs index server)
    (idle : input.packet = [])
    (hidden :
      server.shadowed (server.nowMs input.clockMs) index = true) :
    WaitsAs original input.clockMs index (server.step (.poll input)) ∧
      sendsBefore (server.nowMs input.clockMs) index
          (server.step (.poll input)) <
        sendsBefore (server.nowMs input.clockMs) index server := by
  have configuration := server.poll_configuration input
  have slots
      (other : CovIndex) :
      (server.step (.poll input)).covSlots other =
        if server.shadowed (server.nowMs input.clockMs) other then
          server.covSlots other
        else
          server.visitedSlot input other := by
    rw [step, server.poll_idle waits.ready idle,
      covSlots_processCovSubscriptions]
  have objects :
      (server.step (.poll input)).objects = server.objects := by
    rw [step, server.poll_idle waits.ready idle,
      processCovSubscriptions_objects]
  have device : (server.step (.poll input)).device = server.device := by
    rw [step, configuration]
  have hasClock :
      (server.step (.poll input)).hasClock = server.hasClock := by
    rw [step, configuration]
  refine ⟨{
    ready := ?_
    objects := objects.trans waits.objects
    device := device.trans waits.device
    hasClock := hasClock.trans waits.hasClock
    slot := ?_
    rests := ?_ }, ?_⟩
  · rw [step, configuration]
    exact ⟨waits.ready.running, waits.ready.transport⟩
  · rw [slots, if_pos hidden, waits.slot]
  · have sameTime :
        (server.step (.poll input)).nowMs input.clockMs =
          server.nowMs input.clockMs := by
      rw [nowMs, nowMs, hasClock]
    intro earlier before
    rw [sameTime, objects, device, hasClock, slots]
    split
    · exact waits.rests earlier before
    · exact (restsAt_visitedSlot (waits.rests earlier before)).1
  · unfold sendsBefore
    simp only [objects, device, hasClock, slots]
    obtain ⟨first, before, reached, sends⟩ :=
      exists_first_of_shadowed hidden
    refine List.sum_lt_sum _ _ (fun earlier isEarlier => ?_)
      ⟨first, mem_slotsBefore.mpr before, ?_⟩
    · split
      · exact le_rfl
      · exact (restsAt_visitedSlot
          (waits.rests earlier (mem_slotsBefore.mp isEarlier))).2.1
    · rw [if_neg (by simp [reached])]
      exact (restsAt_visitedSlot (waits.rests first before)).2.2 sends

end BacnetServer

/-! Continuations of a reachable state. -/

/-- The registrations of an object-centric object. -/
def ObjectCentric.registration
    {Object Identity : Type}
    (identityOf : Object → Identity)
    (source : ObjectCentric Object) :
    Identity × List BacnetPropertyId :=
  (identityOf source.object,
    source.properties.map BacnetObjectPropertySlot.property)

/--
The same objects are registered under the same names with the same
properties; any of their values may differ.
-/
structure SameRegistrations (objects next : ServerObjects) : Prop where
  analogValues :
    (next.analogValues.map fun value =>
        (value.instance_, value.objectName)) =
      objects.analogValues.map fun value =>
        (value.instance_, value.objectName)
  commandableAnalogValues :
    (next.commandableAnalogValues.map fun value =>
        (value.instance_, value.objectName)) =
      objects.commandableAnalogValues.map fun value =>
        (value.instance_, value.objectName)
  analogOutputs :
    (next.analogOutputs.map fun output =>
        (output.instance_, output.objectName)) =
      objects.analogOutputs.map fun output =>
        (output.instance_, output.objectName)
  analogInputs :
    (next.analogInputs.map fun input =>
        (input.instance_, input.objectName)) =
      objects.analogInputs.map fun input =>
        (input.instance_, input.objectName)
  objectCentricAnalogInputs :
    (next.objectCentricAnalogInputs.map
        (ObjectCentric.registration fun input =>
          (input.instance_, input.objectName))) =
      objects.objectCentricAnalogInputs.map
        (ObjectCentric.registration fun input =>
          (input.instance_, input.objectName))
  binaryInputs :
    (next.binaryInputs.map fun input =>
        (input.instance_, input.objectName)) =
      objects.binaryInputs.map fun input =>
        (input.instance_, input.objectName)
  objectCentricBinaryInputs :
    (next.objectCentricBinaryInputs.map
        (ObjectCentric.registration fun input =>
          (input.instance_, input.objectName))) =
      objects.objectCentricBinaryInputs.map
        (ObjectCentric.registration fun input =>
          (input.instance_, input.objectName))
  binaryOutputs :
    (next.binaryOutputs.map fun output =>
        (output.instance_, output.objectName)) =
      objects.binaryOutputs.map fun output =>
        (output.instance_, output.objectName)
  objectCentricBinaryOutputs :
    (next.objectCentricBinaryOutputs.map
        (ObjectCentric.registration fun output =>
          (output.instance_, output.objectName))) =
      objects.objectCentricBinaryOutputs.map
        (ObjectCentric.registration fun output =>
          (output.instance_, output.objectName))
  binaryValues :
    (next.binaryValues.map fun value =>
        (value.instance_, value.objectName)) =
      objects.binaryValues.map fun value =>
        (value.instance_, value.objectName)
  multiStateValues :
    (next.multiStateValues.map fun value =>
        (value.instance_, value.objectName, value.numberOfStates)) =
      objects.multiStateValues.map fun value =>
        (value.instance_, value.objectName, value.numberOfStates)
  propertyRegistrations :
    (next.propertyRegistrations.map fun registration =>
        (registration.object, registration.property)) =
      objects.propertyRegistrations.map fun registration =>
        (registration.object, registration.property)

/-- The same registrations are the same as themselves. -/
theorem SameRegistrations.refl (objects : ServerObjects) :
    SameRegistrations objects objects :=
  ⟨rfl, rfl, rfl, rfl, rfl, rfl, rfl, rfl, rfl, rfl, rfl, rfl⟩

/-- Registrations that stay the same twice stay the same. -/
theorem SameRegistrations.trans
    {objects next last : ServerObjects}
    (first : SameRegistrations objects next)
    (second : SameRegistrations next last) :
    SameRegistrations objects last where
  analogValues := second.analogValues.trans first.analogValues
  commandableAnalogValues :=
    second.commandableAnalogValues.trans first.commandableAnalogValues
  analogOutputs := second.analogOutputs.trans first.analogOutputs
  analogInputs := second.analogInputs.trans first.analogInputs
  objectCentricAnalogInputs :=
    second.objectCentricAnalogInputs.trans first.objectCentricAnalogInputs
  binaryInputs := second.binaryInputs.trans first.binaryInputs
  objectCentricBinaryInputs :=
    second.objectCentricBinaryInputs.trans first.objectCentricBinaryInputs
  binaryOutputs := second.binaryOutputs.trans first.binaryOutputs
  objectCentricBinaryOutputs :=
    second.objectCentricBinaryOutputs.trans
      first.objectCentricBinaryOutputs
  binaryValues := second.binaryValues.trans first.binaryValues
  multiStateValues :=
    second.multiStateValues.trans first.multiStateValues
  propertyRegistrations :=
    second.propertyRegistrations.trans first.propertyRegistrations

namespace BacnetServer

/-- Values change, or the server polls while its transport works. -/
def Undisturbed (server : BacnetServer) : ServerEvent → Prop
  | .setObjects objects => SameRegistrations server.objects objects
  | .poll input => input.packet = [] ∧ input.sendSucceeds = true
  | _ => False

/--
With these values of the registered objects, at this reading of the clock,
a subscription that is not over and not backing off has a change to report.
-/
structure HasChange
    (server : BacnetServer)
    (index : CovIndex)
    (objects : ServerObjects)
    (clockMs : UInt32)
    (values : List BacnetCovPropertyValue) : Prop where
  registrations : SameRegistrations server.objects objects
  alive :
    lifetimeOver server.hasClock (server.nowMs clockMs)
      (server.covSlots index).subscription = false
  noBackoff :
    backoffPending (server.nowMs clockMs) (server.covSlots index) = false
  collected :
    collectCovValues objects (server.covSlots index).subscription =
      some values
  changed : covValuesChanged (server.covSlots index) values = true

variable {server : BacnetServer} {index : CovIndex}

/-- The same objects are registered, and the slot is as it was, or free. -/
structure StaysOrFrees
    (original : BacnetServer)
    (index : CovIndex)
    (server : BacnetServer) : Prop where
  hasClock : server.hasClock = original.hasClock
  registrations : SameRegistrations original.objects server.objects
  slot :
    server.covSlots index = original.covSlots index ∨
      ¬server.InUse index

/-- A visit never sends for a slot that has no change to report. -/
theorem StaysOrFrees.visit
    {original : BacnetServer}
    (active : (original.covSlots index).subscription.state = .active)
    (never :
      ∀ objects clockMs values,
        ¬original.HasChange index objects clockMs values)
    (stays : StaysOrFrees original index server)
    (clockMs : UInt32) :
    ∃ after,
      server.visit (server.nowMs clockMs) index = .next after ∧
      (after = server.covSlots index ∨
        after.subscription.state = .inactive) := by
  have notAwaiting :
      (server.covSlots index).subscription.state ≠
        .awaitingConfirmedAck := by
    intro awaiting
    rcases stays.slot with same | free
    · rw [same, active] at awaiting
      cases awaiting
    · exact free (by simp [InUse, awaiting])
  rcases visited : server.visit (server.nowMs clockMs) index
    with after | ⟨after, values, isRetransmission⟩
  · refine ⟨after, rfl, ?_⟩
    rcases visitSlot_next_cases visited
      with rfl | ⟨_, _, rfl⟩ | ⟨awaiting, _, _, _, _, _⟩
    · exact .inl rfl
    · exact .inr rfl
    · exact (notAwaiting awaiting).elim
  · obtain ⟨alive, noBackoff, resent | fresh⟩ :=
      visitSlot_send_cases visited
    · exact (notAwaiting resent.2.1).elim
    · obtain ⟨_, isActive, collected, changed, _⟩ := fresh
      have same :=
        stays.slot.resolve_right
          (not_not_intro (by simp [InUse, isActive]))
      rw [nowMs, stays.hasClock, same] at alive noBackoff
      rw [same] at collected changed
      exact (never server.objects clockMs values {
        registrations := stays.registrations
        alive := alive
        noBackoff := noBackoff
        collected := collected
        changed := changed }).elim

/-- An idle poll leaves the objects alone. -/
theorem poll_idle_objects
    {input : PollInput}
    (idle : input.packet = []) :
    (server.poll input).server.objects = server.objects := by
  unfold BacnetServer.poll
  split
  · rfl
  · rw [if_pos (List.isEmpty_iff.mpr idle)]
    exact server.processCovSubscriptions_objects input

/-- Nothing that leaves a server undisturbed helps such a slot. -/
theorem StaysOrFrees.step
    {original : BacnetServer}
    (active : (original.covSlots index).subscription.state = .active)
    (never :
      ∀ objects clockMs values,
        ¬original.HasChange index objects clockMs values)
    (stays : StaysOrFrees original index server)
    {event : ServerEvent}
    (undisturbed : Undisturbed server event) :
    StaysOrFrees original index (server.step event) := by
  cases event with
  | setObjects objects =>
      exact ⟨stays.hasClock, stays.registrations.trans undisturbed,
        stays.slot⟩
  | poll input =>
      have configuration := server.poll_configuration input
      rw [BacnetServer.step]
      refine ⟨?_, ?_, ?_⟩
      · rw [configuration]
        exact stays.hasClock
      · rw [poll_idle_objects undisturbed.1]
        exact stays.registrations
      · rw [InUse]
        rcases server.poll_cases input
          with ⟨same, _⟩ | ⟨_, same⟩ | ⟨_, received, _⟩ |
            ⟨_, received, _⟩
        · rw [same]
          exact stays.slot
        · rw [same, covSlots_processCovSubscriptions]
          split
          · exact stays.slot
          · obtain ⟨after, visited, isSame | freed⟩ :=
              stays.visit active never input.clockMs
            · rw [visitedSlot, visited]
              dsimp only
              rw [isSame]
              exact stays.slot
            · rw [visitedSlot, visited]
              exact .inr (not_not_intro freed)
        · exact (received undisturbed.1).elim
        · exact (received undisturbed.1).elim
  | start device localPort bound => exact undisturbed.elim
  | stop => exact undisturbed.elim
  | setTransport => exact undisturbed.elim
  | setClock hasClock => exact undisturbed.elim
  | setLocalWritePriority priority => exact undisturbed.elim

/-- A running server has a transport, and others have no subscriptions. -/
structure HoldsWhileReady (server : BacnetServer) : Prop where
  transport : server.running = true → server.hasTransport = true
  running : ∀ index, server.InUse index → server.running = true

/-- No step leaves a subscription behind in a stopped server. -/
theorem HoldsWhileReady.step
    (holds : server.HoldsWhileReady)
    (event : ServerEvent) :
    (server.step event).HoldsWhileReady := by
  have free
      {index : CovIndex}
      (inUse : server.clearSubscriptions.InUse index) : False :=
    inUse rfl
  cases event with
  | poll input =>
      have configuration := server.poll_configuration input
      refine ⟨?_, fun index inUse => ?_⟩
      · rw [BacnetServer.step, configuration]
        exact holds.transport
      · rw [BacnetServer.step, configuration]
        by_contra stopped
        change ¬server.running = true at stopped
        have silent : (server.poll input).server = server := by
          simp [BacnetServer.poll, stopped, BacnetServer.silent]
        rw [BacnetServer.step, silent] at inUse
        exact stopped (holds.running index inUse)
  | setObjects objects => exact ⟨holds.transport, holds.running⟩
  | start device localPort bound =>
      simp only [BacnetServer.step, start]
      split
      · rename_i accepted
        simp only [acceptsDevice, Bool.and_eq_true] at accepted
        exact ⟨fun _ => accepted.1.1.1, fun _ inUse => (free inUse).elim⟩
      · exact holds
  | stop =>
      exact ⟨fun running => absurd running Bool.false_ne_true,
        fun _ inUse => (free inUse).elim⟩
  | setTransport =>
      simp only [BacnetServer.step, setTransport]
      split
      · exact holds
      · exact ⟨fun _ => rfl, holds.running⟩
  | setClock hasClock => exact ⟨holds.transport, holds.running⟩
  | setLocalWritePriority priority =>
      simp only [BacnetServer.step, setLocalWritePriority]
      split <;> exact ⟨holds.transport, holds.running⟩

end BacnetServer

end BacnetStack
