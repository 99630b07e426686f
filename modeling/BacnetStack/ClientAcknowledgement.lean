import BacnetStack.ClientCovLedger

namespace BacnetStack

/-!
# Acknowledgements are safe

Over every run a session acknowledges a confirmed notification only for a
COV-active handle it is for, to its sender and with its invoke id, and never
more often than the notification was received.
-/

namespace ClientSystem

variable {τ : Type}

/-- The client and what waits at the sessions are the same. -/
structure KeepsNotifications (before after : ClientSystem τ) : Prop where
  client : after.client = before.client
  endpoint :
    ∀ id, (after.sessions id).endpoint = (before.sessions id).endpoint
  pending :
    ∀ id, (after.sessions id).pendingCovNotifications =
      (before.sessions id).pendingCovNotifications

namespace KeepsNotifications

variable {before after : ClientSystem τ}

theorem refl (system : ClientSystem τ) :
    system.KeepsNotifications system :=
  ⟨rfl, fun _ => rfl, fun _ => rfl⟩

/-- No notification is kept in a handle. -/
theorem setSubscription
    (keeps : before.KeepsNotifications after)
    (handle : SubscriptionId)
    (subscription : BacnetPropertySubscription) :
    before.KeepsNotifications (after.setSubscription handle subscription) :=
  ⟨keeps.client, keeps.endpoint, keeps.pending⟩

/-- A session changes, but neither its peer nor what waits for delivery. -/
theorem setSession
    (keeps : before.KeepsNotifications after)
    {id : SessionId}
    {session : BacnetDeviceSession}
    (endpoint : session.endpoint = (after.sessions id).endpoint)
    (pending :
      session.pendingCovNotifications =
        (after.sessions id).pendingCovNotifications) :
    before.KeepsNotifications (after.setSession id session) := by
  refine ⟨keeps.client, fun other => ?_, fun other => ?_⟩
  · show (Function.update after.sessions id _ other).endpoint = _
    by_cases same : other = id
    · rw [same, Function.update_self]
      exact endpoint.trans (keeps.endpoint id)
    · rw [Function.update_of_ne same]
      exact keeps.endpoint other
  · show (Function.update after.sessions id _
      other).pendingCovNotifications = _
    by_cases same : other = id
    · rw [same, Function.update_self]
      exact pending.trans (keeps.pending id)
    · rw [Function.update_of_ne same]
      exact keeps.pending other

/-- A session stops waiting for a handle. -/
theorem releaseSlot
    (keeps : before.KeepsNotifications after)
    (id : SessionId)
    (handle : SubscriptionId) :
    before.KeepsNotifications (after.releaseSlot id handle) := by
  unfold ClientSystem.releaseSlot
  split
  · exact keeps.setSession rfl rfl
  · exact keeps

/-- A handle is stopped. -/
theorem stopSubscription
    (system : ClientSystem τ)
    (handle : SubscriptionId) :
    system.KeepsNotifications (system.stopSubscription handle) := by
  unfold ClientSystem.stopSubscription
  dsimp only
  split
  · split
    · exact ((refl system).releaseSlot _ handle).setSubscription _ _
    · exact (refl system).setSubscription _ _
  · exact refl system

/-- A handle is released. -/
theorem releaseSubscription
    (system : ClientSystem τ)
    (handle : SubscriptionId) :
    system.KeepsNotifications (system.releaseSubscription handle) := by
  unfold ClientSystem.releaseSubscription
  dsimp only
  split
  · exact refl system
  · exact ((refl system).releaseSlot _ handle).setSubscription _ _

/-- A handle is moved. -/
theorem moveFrom
    (keeps : before.KeepsNotifications after)
    (handle other : SubscriptionId) :
    before.KeepsNotifications (after.moveFrom handle other) := by
  have moved := (keeps.setSubscription handle
    (after.subscriptions other)).setSubscription other
      (after.subscriptions other).movedFrom
  unfold ClientSystem.moveFrom
  dsimp only
  split
  · exact moved
  · split
    · exact moved.setSession rfl rfl
    · exact moved

end KeepsNotifications

/-- Nothing is acknowledged where no notification moves. -/
theorem CovLedger.of_keeps
    {system after : ClientSystem τ}
    (ledger : system.CovLedger none)
    (keeps : system.KeepsNotifications after)
    (acknowledgements : after.acknowledgements = system.acknowledgements) :
    after.CovLedger none := by
  have moves : system.client.Moves after.client none [] := by
    rw [keeps.client]
    exact .refl _
  exact ledger.of_client acknowledgements keeps.endpoint keeps.pending moves

variable {runtime : ClientRuntime τ} {guard : NotificationGuard τ}

/-- A notification is taken and looked at for its acknowledgement. -/
theorem CovLedger.takeAndAcknowledge
    {system taken after : ClientSystem τ}
    (ledger : system.CovLedger none)
    {id : SessionId}
    {handle : SubscriptionId}
    {notification : BacnetCovNotification}
    {accepted : Bool}
    (own : (system.subscriptions handle).session = some id)
    (covActive : (system.subscriptions handle).covActive = true)
    (takes :
      system.takeCovNotification runtime id handle =
        (some notification, taken))
    (acknowledges :
      taken.acknowledgeTaken runtime id handle notification =
        (accepted, after)) :
    after.CovLedger (if accepted then none else some notification) := by
  have same := (sameSubscriptions_takeCovNotification takes).1
  obtain ⟨pending, session⟩ := same.session id
  have matched := isFor_of_take takes
  refine (ledger.take takes).acknowledge ?_ ?_ ?_ acknowledges
  · rw [same.subscriptions]
    exact own
  · rw [same.subscriptions]
    exact covActive
  · rw [same.subscriptions, session]
    exact matched

/-- Every change of a call keeps the account of acknowledgements. -/
theorem Steps.covLedger
    {system after : ClientSystem τ}
    (steps : Steps runtime guard system after)
    (ledger : system.CovLedger none) :
    after.CovLedger none := by
  induction steps with
  | refl => exact ledger
  | trans _ _ early late => exact late (early ledger)
  | quiet quiet =>
      refine ledger.of_client ?_ (fun id => (quiet.session id).endpoint)
        (fun id => (quiet.session id).pending) (.of_quiet quiet.client)
      unfold acknowledgements
      rw [quiet.history]
  | @turn system =>
      exact ledger.of_keeps
        ((KeepsNotifications.refl system).setSession rfl rfl) rfl
  | @callback system =>
      exact ledger.of_keeps ⟨rfl, fun _ => rfl, fun _ => rfl⟩ rfl
  | callbackReturned =>
      exact ledger.of_keeps ⟨rfl, fun _ => rfl, fun _ => rfl⟩ rfl
  | @adjust system handle subscription =>
      exact ledger.of_keeps
        ((KeepsNotifications.refl system).setSubscription _ _) rfl
  | @start system id handle subscription =>
      have adjusted := (KeepsNotifications.refl system).setSubscription
        handle subscription
      exact ledger.of_keeps (adjusted.setSession rfl rfl) rfl
  | @release system notified id handle subscription _ _ _ inner =>
      have adjusted := (KeepsNotifications.refl notified).setSubscription
        handle subscription
      refine (inner ledger).of_keeps (adjusted.releaseSlot id handle) ?_
      unfold acknowledgements
      rw [history_releaseSlot]
      rfl
  | @reactivate system finished handle _ _ inner =>
      exact (inner ledger).of_keeps
        ((KeepsNotifications.refl finished).setSubscription _ _) rfl
  | stop system handle =>
      refine ledger.of_keeps (.stopSubscription system handle) ?_
      unfold acknowledgements
      rw [history_stopSubscription]
  | @subscribe system id handle subscription =>
      exact ledger.of_keeps
        ((KeepsNotifications.refl system).setSubscription _ _) rfl
  | @answer system _ invokeId service peer =>
      obtain ⟨dropped, moves, -⟩ :=
        system.client.moves_pollSubscribeCov runtime invokeId service peer
      exact ledger.of_client rfl (fun _ => rfl) (fun _ => rfl) moves
  | pass _ _ _ taken => exact ledger.take taken
  | refuse own covActive _ taken unsent =>
      exact (ledger.takeAndAcknowledge own covActive taken unsent).queue _
  | accept own covActive _ taken sent =>
      have accepted := ledger.takeAndAcknowledge own covActive taken sent
      exact accepted.of_keeps ⟨rfl, fun _ => rfl, fun _ => rfl⟩ rfl

section

variable (runtime : ClientRuntime τ) (application : ClientApplication τ)
  (depth : Nat)

/-- So does a step of the application. -/
theorem covLedger_step
    {system : ClientSystem τ}
    (ledger : system.CovLedger none)
    (step : ClientStep) :
    (system.step runtime (application.callback runtime depth)
      step).CovLedger none := by
  cases step with
  | call call =>
      exact (steps_call (callbackSteps_application application depth)
        (callAllowed_trivial system call)).covLedger ledger
  | moveConstruct handle other =>
      unfold ClientSystem.step
      dsimp only
      split
      · refine ledger.of_keeps
          ((KeepsNotifications.refl system).moveFrom handle other) ?_
        obtain ⟨sessions, moved⟩ := system.moveFrom_eq handle other
        rw [moved]
        rfl
      · exact ledger
  | moveAssign handle other =>
      show (system.moveAssign handle other).CovLedger none
      unfold moveAssign
      split
      · exact ledger
      · refine ledger.of_keeps
          ((KeepsNotifications.releaseSubscription system handle).moveFrom
            handle other) ?_
        obtain ⟨sessions, moved⟩ :=
          (system.releaseSubscription handle).moveFrom_eq handle other
        unfold acknowledgements
        rw [moved]
        dsimp only
        rw [history_releaseSubscription]
  | destroy handle =>
      refine ledger.of_keeps
        ((KeepsNotifications.releaseSubscription system
          handle).setSubscription handle {}) ?_
      unfold acknowledgements
      exact congrArg (List.filterMap ClientEvent.acknowledgement?)
        (history_releaseSubscription system handle)
  | startClient bound =>
      have moves : system.client.Moves (system.client.start bound) none _ :=
        .clear rfl rfl
      exact ledger.of_client rfl (fun _ => rfl) (fun _ => rfl) moves
  | stopClient =>
      have moves : system.client.Moves system.client.stop none _ :=
        .clear rfl rfl
      exact ledger.of_client rfl (fun _ => rfl) (fun _ => rfl) moves

/-- At first nothing was acknowledged and nothing waits. -/
theorem IsInitial.covLedger
    {system : ClientSystem τ}
    (initial : system.IsInitial) :
    system.CovLedger none := by
  have acknowledgements : system.acknowledgements = [] := by
    unfold ClientSystem.acknowledgements
    rw [initial.history]
    rfl
  refine ⟨fun acknowledgement isMember => ?_, ?_,
    fun notification ids => ?_, fun notification => ?_⟩
  · rw [acknowledgements] at isMember
    exact absurd isMember List.not_mem_nil
  · rw [acknowledgements, initial.traffic]
    rfl
  · have waiting : system.waitingCount ids notification = 0 := by
      unfold waitingCount
      rw [initial.queued]
      refine Nat.add_eq_zero_iff.mpr
        ⟨rfl, Finset.sum_eq_zero fun id _ => ?_⟩
      rw [initial.pending id]
      rfl
    unfold acknowledgedCount
    rw [waiting, acknowledgements]
    exact Nat.zero_le _
  · unfold BacnetClient.notifiedCount
    rw [initial.traffic]
    exact Nat.zero_le _

end

/-- What is promised about the acknowledgements of a run. -/
structure AcknowledgesSafely (system : ClientSystem τ) : Prop where
  /-- Each was sent for a COV-active handle the notification is for. -/
  justified :
    ∀ acknowledgement ∈ system.acknowledgements,
      system.Justifies acknowledgement
  /-- Those of the traffic are these, each to the peer, with its id. -/
  sent :
    system.client.traffic.filterMap ClientTraffic.covAcknowledgement? =
      system.acknowledgements.map fun acknowledgement =>
        (acknowledgement.endpoint, acknowledgement.notification.invokeId,
          acknowledgement.accepted)
  /-- No datagram is acknowledged twice with success. -/
  once :
    ∀ notification,
      system.acknowledgedCount notification ≤
        system.client.receivedCount notification

/-- What the account says about each acknowledgement. -/
theorem CovLedger.acknowledgesSafely
    {system : ClientSystem τ}
    (ledger : system.CovLedger none) :
    system.AcknowledgesSafely := by
  refine ⟨ledger.justified, ledger.sent, fun notification => ?_⟩
  have accounted := ledger.accounted notification ∅
  have received := ledger.received notification
  omega

/-- In every state of every run. -/
theorem acknowledgesSafely_run
    (runtime : ClientRuntime τ)
    (application : ClientApplication τ)
    (depth : Nat)
    {system : ClientSystem τ}
    (initial : system.IsInitial)
    (steps : List ClientStep) :
    (system.run runtime (application.callback runtime depth)
      steps).AcknowledgesSafely :=
  (EventRun.run_invariant (fun current : ClientSystem τ =>
      current.CovLedger none)
    (fun _ step ledger =>
      covLedger_step runtime application depth ledger step)
    initial.covLedger steps).acknowledgesSafely

end ClientSystem

/-- A subscription, its acknowledgement and a confirmed notification. -/
def confirmedSystem : ClientSystem (List (Option ReceivedDatagram)) :=
  (scriptedSystem
      [some (scriptedSimpleAck scriptedPeer 1),
        some (scriptedNotification scriptedPeer 1 true 7)]).run
    scriptedRuntime
    ((ClientApplication.observer _).callback scriptedRuntime 0)
    [.startClient true,
      .call (.subscribe 0 0 { type := 0, instance_ := 1 } .presentValue
        kBacnetNoArrayIndex { preferCov := true } true 0),
      .call (.pollSingle 0 0 0), .call (.pollSingle 0 0 1),
      .call (.pollSingle 0 0 2)]

theorem acknowledgesSafely_confirmedSystem :
    confirmedSystem.AcknowledgesSafely :=
  ClientSystem.acknowledgesSafely_run _ _ _ (isInitial_scriptedSystem _) _

example :
    confirmedSystem.acknowledgements.map
        (fun acknowledgement =>
          (acknowledgement.notification.invokeId,
            acknowledgement.accepted)) = [(7, true)] := by
  decide +kernel

end BacnetStack
