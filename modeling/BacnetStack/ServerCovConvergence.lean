import BacnetStack.ServerCovLiveness
import BacnetStack.ServerCovSubscribers

namespace BacnetStack

open EventRun

/-!
# Subscribers catch up

While the values that a subscription reports stay the same it is sent a
bounded number of notifications: those that are left of the exchange it is
in, and at most one more change with its repetitions.  Whenever an idle poll
has nothing to send, the subscribers that are not waited for were sent the
values the objects have now.
-/

/-- Notifications of a history that reached the transport. -/
def deliveredCount (history : List CovTransmission) : Nat :=
  history.countP CovTransmission.delivered

/-- Repetitions of an unacknowledged notification that are still allowed. -/
def repetitionsLeft
    (limit : Nat)
    (slot : CovSlot) : Nat :=
  if slot.subscription.state = .awaitingConfirmedAck then
    limit - slot.confirmedRetryCount.toNat
  else
    0

/-- A change that is not sent yet, with the repetitions it may need. -/
def changesLeft
    (limit : Nat)
    (reading : Option (List BacnetCovPropertyValue))
    (slot : CovSlot) : Nat :=
  match reading with
  | some values =>
      if covValuesChanged slot values then
        1 + if slot.subscription.confirmed then limit else 0
      else
        0
  | none => 0

/-- What a slot may still deliver while its values read the same. -/
def noticesLeft
    (limit : Nat)
    (reading : Option (List BacnetCovPropertyValue))
    (slot : CovSlot) : Nat :=
  if slot.subscription.state = .inactive then
    0
  else
    repetitionsLeft limit slot + changesLeft limit reading slot

section Budget

variable {limit : Nat} {reading : Option (List BacnetCovPropertyValue)}
  {slot : CovSlot}

theorem noticesLeft_of_inactive
    (inactive : slot.subscription.state = .inactive) :
    noticesLeft limit reading slot = 0 :=
  if_pos inactive

theorem noticesLeft_of_inUse
    (inUse : slot.subscription.state ≠ .inactive) :
    noticesLeft limit reading slot =
      repetitionsLeft limit slot + changesLeft limit reading slot :=
  if_neg inUse

theorem noticesLeft_of_active
    (active : slot.subscription.state = .active) :
    noticesLeft limit reading slot = changesLeft limit reading slot := by
  rw [noticesLeft_of_inUse (by simp [active]), repetitionsLeft,
    if_neg (by simp [active]), Nat.zero_add]

/-- What is left depends on what is compared and on who is waited for. -/
theorem changesLeft_congr
    {other : CovSlot}
    (subscription :
      other.subscription.hasCovIncrement =
          slot.subscription.hasCovIncrement ∧
        other.subscription.covIncrement =
          slot.subscription.covIncrement ∧
        other.subscription.confirmed = slot.subscription.confirmed)
    (snapshots : other.snapshots = slot.snapshots) :
    changesLeft limit reading other = changesLeft limit reading slot := by
  obtain ⟨hasIncrement, increment, confirmed⟩ := subscription
  have compared (values : List BacnetCovPropertyValue) :
      covValuesChanged other values = covValuesChanged slot values := by
    simp only [covValuesChanged, covValueChanged, covRealChanged, snapshots,
      hasIncrement, increment]
  unfold changesLeft
  rw [confirmed]
  rcases reading with _ | values
  · rfl
  · dsimp only
    rw [compared]

/-- A subscription is sent one change and its repetitions, at the most. -/
theorem noticesLeft_le
    (awaits :
      slot.subscription.state = .awaitingConfirmedAck →
        slot.subscription.confirmed = true) :
    noticesLeft limit reading slot ≤
      if slot.subscription.confirmed then 2 * limit + 1 else 1 := by
  unfold noticesLeft repetitionsLeft changesLeft
  rcases state : slot.subscription.state with _ | _ | _
  · simp
  · rcases reading with _ | values
    · simp
    · simp only [reduceCtorEq, ↓reduceIte]
      split <;> split <;> omega
  · rw [awaits state]
    rcases reading with _ | values
    · simp only [reduceCtorEq, ↓reduceIte]
      omega
    · simp only [reduceCtorEq, ↓reduceIte]
      split <;> omega

end Budget

/-- A step that does not activate a slot keeps its terms or frees it. -/
theorem RecordStep.keepsTerms
    {server : BacnetServer}
    {event : ServerEvent}
    {index : CovIndex}
    {slot slot' : CovSlot}
    {history history' : List CovTransmission}
    (change :
      RecordStep server event index slot history slot' history')
    (notActivated : history' ≠ []) :
    slot'.subscription.state = .inactive ∨
      slot.subscription.state ≠ .inactive ∧
        slot'.subscription.tuple = slot.subscription.tuple ∧
        slot'.subscription.terms = slot.subscription.terms := by
  by_cases free : slot'.subscription.state = .inactive
  · exact .inl free
  right
  cases change with
  | kept => exact ⟨free, rfl, rfl⟩
  | dropped cause => exact (free rfl).elim
  | activated => exact (notActivated rfl).elim
  | completed input isPoll awaiting samePeer answers =>
      exact ⟨by simp [awaiting], rfl, rfl⟩
  | passed input after isPoll idle visited =>
      rcases visitSlot_next_cases visited
        with rfl | ⟨_, _, rfl⟩ | ⟨awaiting, _, _, _, _, rfl⟩
      · exact ⟨free, rfl, rfl⟩
      · exact (free rfl).elim
      · exact ⟨by simp [awaiting], rfl, rfl⟩
  | sent input after transmission isPoll idle visited built place =>
      have same :
          slot.subscription.state ≠ .inactive ∧
            after.subscription = slot.subscription := by
        rcases visitSlot_send_cases visited
          with ⟨_, _, ⟨_, awaiting, _, _, _, rfl⟩ | ⟨_, active, _, _, rfl⟩⟩
        · exact ⟨by simp [awaiting], rfl⟩
        · exact ⟨by simp [active], rfl⟩
      refine ⟨same.1, ?_⟩
      unfold BacnetServer.sentSlot
      rw [← same.2]
      split
      · exact ⟨rfl, rfl⟩
      · exact ⟨rfl, rfl⟩

/-- The values of a tuple, however its subscription stands. -/
theorem collectCovValues_congr
    {objects : ServerObjects}
    {left right : BacnetServerCovSubscription}
    (same : left.tuple = right.tuple) :
    collectCovValues objects left = collectCovValues objects right := by
  simp only [BacnetServerCovSubscription.tuple, CovTuple.mk.injEq] at same
  obtain ⟨_, _, object, form, property, arrayIndex⟩ := same
  simp only [collectCovValues, BacnetServerCovSubscription.reported, object,
    form, property, arrayIndex]

/-- Values that were sent and are recognised are no change. -/
theorem changesLeft_completedSend
    {objects : ServerObjects}
    {slot : CovSlot}
    {values : List BacnetCovPropertyValue}
    (recognises : RecognisesReport objects slot.subscription)
    (collected : collectCovValues objects slot.subscription = some values)
    (limit : Nat)
    (now : UInt32)
    (invokeId : UInt8) :
    changesLeft limit (some values)
      (completedSend now invokeId values slot) = 0 := by
  have references := references_of_collectCovValues collected
  have stores := stores_completedSend references now invokeId
  have unchanged :
      covValuesChanged (completedSend now invokeId values slot) values =
        false := by
    rw [← Bool.not_eq_true, covValuesChanged_iff stores references]
    rintro (differs | unrecognised)
    · exact not_reportDiffers_self _ _ differs
    · exact unrecognised (recognises values collected)
  rw [changesLeft, unchanged]
  rfl

/-- A repetition leaves no more changes. -/
theorem changesLeft_retryValues
    (limit : Nat)
    (reading : Option (List BacnetCovPropertyValue))
    (slot : CovSlot)
    (now : UInt32)
    (invokeId : UInt8) :
    changesLeft limit reading
        (completedSend now invokeId (retryValues slot) slot) ≤
      changesLeft limit reading slot := by
  unfold changesLeft
  rcases reading with _ | values
  · exact le_rfl
  · dsimp only
    split
    · rename_i changed
      rw [if_pos (covValuesChanged_retryValues changed)]
      exact le_rfl
    · exact Nat.zero_le _

/-- A change that is sent uses up what was left of it. -/
theorem noticesLeft_original
    {server : BacnetServer}
    {slot : CovSlot}
    {values : List BacnetCovPropertyValue}
    (recognises : RecognisesReport server.objects slot.subscription)
    (active : slot.subscription.state = .active)
    (collected :
      collectCovValues server.objects slot.subscription = some values)
    (changed : covValuesChanged slot values = true)
    (limit : Nat)
    (sendSucceeds : Bool)
    (now : UInt32) :
    (if server.delivers sendSucceeds now slot.subscription values then
        1 else 0) +
      noticesLeft limit (some values)
        (server.sentSlot sendSucceeds now
          { slot with confirmedRetryCount := 0 } values) ≤
      noticesLeft limit (some values) slot := by
  have before :
      noticesLeft limit (some values) slot =
        1 + if slot.subscription.confirmed then limit else 0 := by
    rw [noticesLeft_of_active active, changesLeft, changed]
    rfl
  have sameSend :
      server.delivers sendSucceeds now
          ({ slot with confirmedRetryCount := 0 } : CovSlot).subscription
          values =
        server.delivers sendSucceeds now slot.subscription values := rfl
  unfold BacnetServer.sentSlot
  rw [sameSend]
  split
  · have quiet :=
      @changesLeft_completedSend _ { slot with confirmedRetryCount := 0 } _
        recognises collected limit now
        (server.drawInvokeId slot.subscription.confirmed)
    have inUse :
        (completedSend now
            (server.drawInvokeId slot.subscription.confirmed) values
            { slot with
              confirmedRetryCount := 0 }).subscription.state ≠
          .inactive := by
      rw [CovLedger.state_completedSend]
      split <;> simp
    rw [before]
    apply Nat.add_le_add_left
    rw [noticesLeft_of_inUse inUse, quiet, Nat.add_zero, repetitionsLeft,
      CovLedger.state_completedSend]
    dsimp only
    split
    · exact Nat.sub_le _ _
    · exact Nat.zero_le _
  · rw [Nat.zero_add]
    have stillActive :
        (failedSend server.device now
            { slot with
              confirmedRetryCount := 0 }).subscription.state =
          .active := active
    rw [noticesLeft_of_active active, noticesLeft_of_active stillActive]
    exact (changesLeft_congr ⟨rfl, rfl, rfl⟩ rfl).le

/-- A repetition uses up one of those that were left. -/
theorem noticesLeft_repetition
    {server : BacnetServer}
    {slot : CovSlot}
    (fits : LimitFits server.device.numberOfApduRetries)
    (awaiting : slot.subscription.state = .awaitingConfirmedAck)
    (retriesLeft : retriesExhausted server.device slot = false)
    (reading : Option (List BacnetCovPropertyValue))
    (sendSucceeds : Bool)
    (now : UInt32) :
    1 +
      noticesLeft server.device.numberOfApduRetries.toNat reading
        (server.sentSlot sendSucceeds now
          { slot with confirmedRetryCount := slot.confirmedRetryCount + 1 }
          (retryValues slot)) ≤
      noticesLeft server.device.numberOfApduRetries.toNat reading slot := by
  rw [← Bool.not_eq_true, retriesExhausted_eq_true_iff] at retriesLeft
  have below := Nat.lt_of_not_le retriesLeft
  have counted := fits.toNat_succ below
  have before :
      noticesLeft server.device.numberOfApduRetries.toNat reading slot =
        server.device.numberOfApduRetries.toNat -
            slot.confirmedRetryCount.toNat +
          changesLeft server.device.numberOfApduRetries.toNat reading
            slot := by
    rw [noticesLeft_of_inUse (by simp [awaiting]), repetitionsLeft,
      if_pos awaiting]
  have after
      {next : CovSlot}
      (retryCount :
        next.confirmedRetryCount = slot.confirmedRetryCount + 1)
      (noMore :
        changesLeft server.device.numberOfApduRetries.toNat reading next ≤
          changesLeft server.device.numberOfApduRetries.toNat reading
            slot) :
      1 +
          noticesLeft server.device.numberOfApduRetries.toNat reading
            next ≤
        noticesLeft server.device.numberOfApduRetries.toNat reading
          slot := by
    rw [before]
    unfold noticesLeft repetitionsLeft
    rw [retryCount, counted]
    split
    · omega
    · split <;> omega
  unfold BacnetServer.sentSlot
  split
  · refine after rfl (le_trans ?_
      (changesLeft_retryValues _ reading slot now
        (server.drawInvokeId slot.subscription.confirmed)))
    exact (changesLeft_congr ⟨rfl, rfl, rfl⟩ rfl).le
  · exact after rfl (changesLeft_congr ⟨rfl, rfl, rfl⟩ rfl).le

/-- The device, the values and their kinds are as they were. -/
structure Steady
    (limit : Nat)
    (reading : Option (List BacnetCovPropertyValue))
    (server : BacnetServer)
    (subscription : BacnetServerCovSubscription) : Prop where
  limit : server.device.numberOfApduRetries.toNat = limit
  reads : collectCovValues server.objects subscription = reading
  recognises : RecognisesReport server.objects subscription

/-- What a step delivers it takes from what was left. -/
theorem RecordStep.deliveredCount_add
    {server : BacnetServer}
    {event : ServerEvent}
    {index : CovIndex}
    {slot slot' : CovSlot}
    {history history' : List CovTransmission}
    (change :
      RecordStep server event index slot history slot' history')
    (notActivated : history' ≠ [])
    {limit : Nat}
    (fits : limit ≤ 255)
    {reading : Option (List BacnetCovPropertyValue)}
    (steady :
      slot.subscription.state ≠ .inactive →
        Steady limit reading server slot.subscription) :
    deliveredCount history' + noticesLeft limit reading slot' ≤
      deliveredCount history + noticesLeft limit reading slot := by
  cases change with
  | kept => exact le_rfl
  | dropped cause =>
      rw [@noticesLeft_of_inactive _ _ slot.drop rfl]
      exact Nat.add_le_add_left (Nat.zero_le _) _
  | activated => exact (notActivated rfl).elim
  | completed input isPoll awaiting samePeer answers =>
      apply Nat.add_le_add_left
      rw [@noticesLeft_of_active _ _ (server.completeSlot input slot) rfl,
        noticesLeft_of_inUse (by simp [awaiting])]
      refine le_trans ?_ (Nat.le_add_left _ _)
      exact (changesLeft_congr ⟨rfl, rfl, rfl⟩ rfl).le
  | passed input after isPoll idle visited =>
      apply Nat.add_le_add_left
      rcases visitSlot_next_cases visited
        with rfl | ⟨_, _, rfl⟩ | ⟨awaiting, _, _, _, _, rfl⟩
      · exact le_rfl
      · rw [@noticesLeft_of_inactive _ _ slot.expire rfl]
        exact Nat.zero_le _
      · rw [@noticesLeft_of_active _ _ slot.giveUp rfl,
          noticesLeft_of_inUse (by simp [awaiting])]
        refine le_trans ?_ (Nat.le_add_left _ _)
        exact (changesLeft_congr ⟨rfl, rfl, rfl⟩ rfl).le
  | sent input after transmission isPoll idle visited built place invokeId
      delivered =>
      have counted :
          deliveredCount (transmission :: history) =
            deliveredCount history +
              if transmission.delivered then 1 else 0 :=
        List.countP_cons
      rw [counted, Nat.add_assoc]
      apply Nat.add_le_add_left
      rw [delivered]
      obtain ⟨_, _, ⟨_, awaiting, _, retriesLeft, values, rfl⟩ |
        ⟨_, active, collected, changed, rfl⟩⟩ :=
        visitSlot_send_cases visited
      · obtain ⟨rfl, _, _⟩ := steady (by simp [awaiting])
        have repeated :=
          noticesLeft_repetition fits awaiting retriesLeft reading
            input.sendSucceeds (server.nowMs input.clockMs)
        rw [values]
        refine le_trans (Nat.add_le_add_right ?_ _) repeated
        split <;> simp
      · obtain ⟨_, reads, recognises⟩ := steady (by simp [active])
        obtain rfl : some transmission.values = reading :=
          collected.symm.trans reads
        exact noticesLeft_original recognises active collected changed _
          input.sendSucceeds (server.nowMs input.clockMs)

/-! From one step to whole runs. -/

/--
A step leaves the values of a subscription as they are and does not give its
slot to a request.
-/
structure Calm
    (index : CovIndex)
    (server : BacnetServer)
    (event : ServerEvent) : Prop where
  values :
    collectCovValues (server.step event).objects
        (server.covSlots index).subscription =
      collectCovValues server.objects (server.covSlots index).subscription
  notActivated :
    ∀ input, event = .poll input →
      (server.poll input).activated ≠ some index

namespace TrackedServer

/-- What a step adds to the history of a slot that it does not activate. -/
theorem history_step
    {tracked : TrackedServer}
    {event : ServerEvent}
    {index : CovIndex}
    (notActivated :
      ∀ input, event = .poll input →
        (tracked.server.poll input).activated ≠ some index) :
    ∃ added,
      ∀ history : CovIndex → List CovTransmission,
        (({ tracked with history := history } : TrackedServer).step
            event).history index =
          added ++ history index := by
  cases event with
  | poll input =>
      simp only [step, observe, if_neg (notActivated input rfl)]
      rcases (tracked.server.poll input).transmission
        with _ | transmission
      · exact ⟨[], fun _ => rfl⟩
      · by_cases same : transmission.index = index
        · exact ⟨[transmission], fun _ => if_pos same⟩
        · exact ⟨[], fun _ => if_neg same⟩
  | _ => exact ⟨[], fun _ => rfl⟩

/-- The step of a slot that is not activated, behind any history. -/
theorem recordStep_of_calm
    {tracked : TrackedServer}
    {event : ServerEvent}
    {index : CovIndex}
    (calm : Calm index tracked.server event) :
    ∃ added earlier,
      (tracked.step event).history index =
          added ++ tracked.history index ∧
        added ++ [earlier] ≠ [] ∧
        RecordStep tracked.server event index (tracked.slot index)
          [earlier] ((tracked.step event).slot index)
          (added ++ [earlier]) := by
  obtain ⟨added, adds⟩ := history_step calm.notActivated
  -- Whatever the history says, the slot goes through the same step.
  let earlier : CovTransmission :=
    { index := index
      values := []
      invokeId := 0
      isRetransmission := false
      delivered := false }
  have change :=
    ({ tracked with history := fun _ => [earlier] } :
      TrackedServer).recordStep event index
  rw [adds, step_server] at change
  refine ⟨added, earlier, adds tracked.history, by simp, ?_⟩
  rw [slot, slot, step_server]
  exact change

end TrackedServer

/-- A subscription that is still there is as steady as it was. -/
theorem Steady.step
    {tracked : TrackedServer}
    {event : ServerEvent}
    {index : CovIndex}
    (calm : Calm index tracked.server event)
    {limit : Nat}
    {reading : Option (List BacnetCovPropertyValue)}
    (steady :
      (tracked.slot index).subscription.state ≠ .inactive →
        Steady limit reading tracked.server
          (tracked.slot index).subscription)
    (inUse :
      ((tracked.step event).slot index).subscription.state ≠ .inactive) :
    Steady limit reading (tracked.step event).server
      ((tracked.step event).slot index).subscription := by
  obtain ⟨added, earlier, _, nonempty, change⟩ :=
    TrackedServer.recordStep_of_calm calm
  rcases change.keepsTerms nonempty with free | ⟨before, tuple, terms⟩
  · exact (inUse free).elim
  obtain ⟨isLimit, reads, recognises⟩ := steady before
  have sameReading :
      collectCovValues (tracked.step event).server.objects
          ((tracked.step event).slot index).subscription =
        collectCovValues tracked.server.objects
          (tracked.slot index).subscription := by
    rw [TrackedServer.step_server, collectCovValues_congr tuple]
    exact calm.values
  have sameIncrement :
      ((tracked.step event).slot index).subscription.hasCovIncrement =
        (tracked.slot index).subscription.hasCovIncrement :=
    congrArg CovTerms.hasCovIncrement terms
  refine ⟨?_, sameReading.trans reads, ?_⟩
  · rcases tracked.server.device_step event index with same | free
    · rw [TrackedServer.step_server, same]
      exact isLimit
    · rw [TrackedServer.slot, TrackedServer.step_server] at inUse
      exact (inUse free).elim
  · intro values collected position old new isOld isNew
    have recognised :=
      recognises values (sameReading.symm.trans collected) position old new
        isOld isNew
    unfold Recognised incrementApplies at recognised ⊢
    rw [sameIncrement]
    exact recognised

/-- What was delivered and what is left never exceed what there was. -/
theorem deliveredCount_run
    {index : CovIndex}
    {limit : Nat}
    (fits : limit ≤ 255)
    {reading : Option (List BacnetCovPropertyValue)}
    {tracked : TrackedServer}
    (steady :
      (tracked.slot index).subscription.state ≠ .inactive →
        Steady limit reading tracked.server
          (tracked.slot index).subscription)
    {events : List ServerEvent}
    (calm :
      Along TrackedServer.step
        (fun tracked event => Calm index tracked.server event) tracked
        events) :
    deliveredCount
          ((run TrackedServer.step tracked events).history index) +
        noticesLeft limit reading
          ((run TrackedServer.step tracked events).slot index) ≤
      deliveredCount (tracked.history index) +
        noticesLeft limit reading (tracked.slot index) := by
  induction events generalizing tracked with
  | nil => exact le_rfl
  | cons event rest inductionHypothesis =>
      refine (inductionHypothesis (Steady.step calm.1 steady)
        calm.2).trans ?_
      obtain ⟨added, earlier, adds, nonempty, change⟩ :=
        TrackedServer.recordStep_of_calm calm.1
      have delivers := change.deliveredCount_add nonempty fits steady
      have counted (history : List CovTransmission) :
          deliveredCount (added ++ history) =
            deliveredCount added + deliveredCount history :=
        List.countP_append
      rw [counted] at delivers
      rw [adds, counted]
      omega

/-- Only what was sent is a valid snapshot. -/
def SnapshotsSent
    (slot : CovSlot)
    (history : List CovTransmission) : Prop :=
  slot.subscription.state ≠ .inactive →
    ∀ place, (slot.snapshots place).valid = true →
      ∃ sent, lastSent history = some sent

theorem SnapshotsSent.step
    {server : BacnetServer}
    {event : ServerEvent}
    {index : CovIndex}
    {slot slot' : CovSlot}
    {history history' : List CovTransmission}
    (before : SnapshotsSent slot history)
    (change :
      RecordStep server event index slot history slot' history') :
    SnapshotsSent slot' history' := by
  intro inUse place valid
  cases change with
  | kept => exact before inUse place valid
  | dropped cause => exact (inUse rfl).elim
  | activated => cases valid
  | completed input isPoll awaiting samePeer answers =>
      exact before (by simp [awaiting]) place valid
  | passed input after isPoll idle visited =>
      rcases visitSlot_next_cases visited
        with rfl | ⟨_, _, rfl⟩ | ⟨awaiting, _, _, _, _, rfl⟩
      · exact before inUse place valid
      · exact (inUse rfl).elim
      · exact before (by simp [awaiting]) place valid
  | sent input after transmission isPoll idle visited built isPlace
      invokeId delivered =>
      have same :
          slot.subscription.state ≠ .inactive ∧
            after.snapshots = slot.snapshots := by
        rcases visitSlot_send_cases visited
          with ⟨_, _, ⟨_, awaiting, _, _, _, rfl⟩ | ⟨_, active, _, _, rfl⟩⟩
        · exact ⟨by simp [awaiting], rfl⟩
        · exact ⟨by simp [active], rfl⟩
      rw [BacnetServer.sentSlot, ← delivered] at valid
      rcases reached : transmission.delivered with _ | _
      · rw [reached, if_neg Bool.false_ne_true] at valid
        rw [lastSent_cons_failed reached]
        refine before same.1 place ?_
        rw [← same.2]
        exact valid
      · exact ⟨transmission, lastSent_cons_delivered reached history⟩

theorem TrackedServer.Reachable.snapshotsSent
    {tracked : TrackedServer}
    (reachable : tracked.Reachable)
    (index : CovIndex) :
    SnapshotsSent (tracked.slot index) (tracked.history index) := by
  obtain ⟨events, rfl⟩ := reachable
  refine TrackedServer.after_invariant
    (fun tracked =>
      SnapshotsSent (tracked.slot index) (tracked.history index))
    ?_ ?_ events
  · intro inUse
    exact (inUse rfl).elim
  · intro tracked event sent
    exact sent.step (tracked.recordStep event index)

/-- Without a valid snapshot everything counts as changed. -/
theorem covValuesChanged_of_invalid
    {slot : CovSlot}
    (invalid : ∀ place, (slot.snapshots place).valid = false)
    (values : List BacnetCovPropertyValue) :
    covValuesChanged slot values = true := by
  rcases values with _ | ⟨first, rest⟩
  · rfl
  · rw [covValuesChanged, Bool.or_eq_true]
    right
    rw [List.any_eq_true]
    refine ⟨0, List.mem_finRange _, ?_⟩
    simp [covValueChanged, invalid]

/--
When an idle poll sends nothing, an active subscription that waits for
nothing was last sent values from which the present ones do not differ.
-/
theorem upToDate_of_silent
    {tracked : TrackedServer}
    (reachable : tracked.Reachable)
    (ready : tracked.server.Ready)
    {input : PollInput}
    (idle : input.packet = [])
    (silent : (tracked.server.poll input).transmission = none)
    {index : CovIndex}
    (active : (tracked.slot index).subscription.state = .active)
    (alive :
      lifetimeOver tracked.server.hasClock
          (tracked.server.nowMs input.clockMs)
          (tracked.slot index).subscription =
        false)
    (noBackoff :
      backoffPending (tracked.server.nowMs input.clockMs)
        (tracked.slot index) = false)
    {current : List BacnetCovPropertyValue}
    (readable :
      collectCovValues tracked.server.objects
        (tracked.slot index).subscription = some current) :
    ∃ sent,
      lastSent (tracked.history index) = some sent ∧
        ¬ReportDiffers (tracked.slot index).subscription sent.values
          current := by
  have quiet :
      (tracked.server.visit (tracked.server.nowMs input.clockMs)
        index).isSend = false := by
    rw [tracked.server.poll_idle ready idle] at silent
    rcases tracked.server.processCovSubscriptions_cases input
      with ⟨quiet, _⟩ | ⟨_, _, _, _, _, _, output⟩
    · exact quiet index
    · rw [output] at silent
      cases silent
  rcases Option.eq_none_or_eq_some (lastSent (tracked.history index))
    with nothing | ⟨sent, isSent⟩
  · have invalid (place : Fin kCovObjectPropertyCount) :
        ((tracked.slot index).snapshots place).valid = false := by
      rw [← Bool.not_eq_true]
      intro valid
      obtain ⟨sent, isSent⟩ :=
        reachable.snapshotsSent index (by simp [active]) place valid
      rw [nothing] at isSent
      cases isSent
    have visited :=
      @visitSlot_active _ tracked.server.device _ _ _ _ active alive
        noBackoff readable
    rw [if_pos (covValuesChanged_of_invalid invalid current)] at visited
    rw [BacnetServer.visit, visited] at quiet
    cases quiet
  · refine ⟨sent, isSent, fun differs => ?_⟩
    have check :
        ChangeCheck tracked (tracked.server.nowMs input.clockMs) index
          sent.values current :=
      ⟨active, alive, noBackoff, by rw [isSent, Option.map_some], readable⟩
    rw [(visit_isSend_iff reachable check).mpr (.inl differs)] at quiet
    cases quiet

/-- What a subscriber gets while the values it is sent stay the same. -/
structure CatchesUp
    (index : CovIndex)
    (tracked after : TrackedServer) : Prop where
  /-- One change at the most, with the repetitions that are allowed. -/
  few :
    deliveredCount (after.history index) ≤
      deliveredCount (tracked.history index) +
        if (tracked.slot index).subscription.confirmed then
          2 * tracked.server.device.numberOfApduRetries.toNat + 1
        else
          1
  /-- When nothing is sent any more, it has the present values. -/
  current :
    ∀ input : PollInput,
      after.server.Ready →
        input.packet = [] →
        (after.server.poll input).transmission = none →
        (after.slot index).subscription.state = .active →
        lifetimeOver after.server.hasClock
            (after.server.nowMs input.clockMs)
            (after.slot index).subscription = false →
        backoffPending (after.server.nowMs input.clockMs)
          (after.slot index) = false →
        ∀ values,
          collectCovValues after.server.objects
              (after.slot index).subscription = some values →
            ∃ sent,
              lastSent (after.history index) = some sent ∧
                ¬ReportDiffers (after.slot index).subscription sent.values
                  values

/--
In every run behind any reachable state, a subscription whose values stay the
same is delivered few notifications, and it has the present values as soon as
an idle poll finds nothing to send.
-/
theorem covReports_converge
    {tracked : TrackedServer}
    (reachable : tracked.Reachable)
    (fits : LimitFits tracked.server.device.numberOfApduRetries)
    {index : CovIndex}
    (recognises :
      tracked.server.InUse index →
        RecognisesReport tracked.server.objects
          (tracked.slot index).subscription)
    {events : List ServerEvent}
    (calm :
      Along TrackedServer.step
        (fun tracked event => Calm index tracked.server event) tracked
        events) :
    CatchesUp index tracked (run TrackedServer.step tracked events) := by
  constructor
  · have awaits := (reachable.covLedger index).confirmed
    have total :=
      @deliveredCount_run index _ fits
        (collectCovValues tracked.server.objects
          (tracked.slot index).subscription) tracked
        (fun inUse => ⟨rfl, rfl, recognises inUse⟩) events calm
    refine (Nat.le_of_add_right_le total).trans ?_
    exact Nat.add_le_add_left (noticesLeft_le awaits) _
  · intro input ready idle silent active alive noBackoff values readable
    have stillReachable :
        (run TrackedServer.step tracked events).Reachable := by
      obtain ⟨earlier, rfl⟩ := reachable
      exact ⟨earlier ++ events, run_append _ _ _ _⟩
    exact upToDate_of_silent stillReachable ready idle silent active alive
      noBackoff readable

/-- The subscriber of a changed value is told once and has the new value. -/
theorem covReports_converge_presentValue :
    CatchesUp 0 (TrackedServer.after changedValueRun)
        (run TrackedServer.step (TrackedServer.after changedValueRun)
          [.poll { clockMs := 1 }, .poll { clockMs := 2 }]) ∧
      ((run TrackedServer.step (TrackedServer.after changedValueRun)
          [.poll { clockMs := 1 }, .poll { clockMs := 2 }]).history
        0).map CovTransmission.values =
        [presentValueReport .one, presentValueReport .zero] := by
  have calmPoll
      {tracked : TrackedServer}
      {input : PollInput}
      (values :
        collectCovValues (tracked.server.step (.poll input)).objects
            (tracked.slot 0).subscription =
          collectCovValues tracked.server.objects
            (tracked.slot 0).subscription)
      (notActivated : (tracked.server.poll input).activated ≠ some 0) :
      Calm 0 tracked.server (.poll input) := by
    refine ⟨values, fun other isPoll => ?_⟩
    cases isPoll
    exact notActivated
  refine ⟨covReports_converge (TrackedServer.reachable_after _) (by decide)
    (fun _ => ?_) ⟨?_, ?_, trivial⟩, by decide +kernel⟩
  · intro values collected position old new isOld isNew
    obtain rfl : presentValueReport .one = values :=
      Option.some.inj (Eq.trans rfl collected)
    rcases position with _ | position
    · obtain rfl := Option.some.inj isNew
      exact .inr rfl
    · cases isNew
  · exact calmPoll (by decide +kernel) (by decide +kernel)
  · exact calmPoll (by decide +kernel) (by decide +kernel)

end BacnetStack
