import BacnetStack.ClientAcknowledgement

namespace BacnetStack

/-!
# Notifications are given out at most once

What the handles of a client were given is counted against what its socket
received.  A notification waits in one place at a time, so no datagram is
given to two handles, and a confirmed one is given out exactly as often as it
was acknowledged.
-/

/-- The event gives a notification to a handle. -/
def ClientEvent.gives
    (notification : BacnetCovNotification) : ClientEvent → Bool
  | .delivered _ _ given => given == notification
  | .callback _ _ | .acknowledged _ _ _ _ _ | .callbackReturned _ _ => false

/-- The event acknowledges a notification with success. -/
def ClientEvent.acknowledges
    (notification : BacnetCovNotification)
    (event : ClientEvent) : Bool :=
  event.acknowledgement?.any fun acknowledgement =>
    acknowledgement.accepted && acknowledgement.notification == notification

namespace ClientSystem

variable {τ : Type}

/-- How often a notification was given to a handle. -/
def givenCount
    (system : ClientSystem τ)
    (notification : BacnetCovNotification) : Nat :=
  system.history.countP (ClientEvent.gives notification)

/-- The acknowledgements with success, counted in the history. -/
theorem acknowledgedCount_eq_countP
    (system : ClientSystem τ)
    (notification : BacnetCovNotification) :
    system.acknowledgedCount notification =
      system.history.countP (ClientEvent.acknowledges notification) := by
  unfold acknowledgedCount acknowledgements
  induction system.history with
  | nil => rfl
  | cons event rest inductionHypothesis =>
      rw [List.countP_cons, ← inductionHypothesis, List.filterMap_cons]
      unfold ClientEvent.acknowledges
      cases event.acknowledgement? with
      | none => rfl
      | some acknowledgement => exact List.countP_cons ..

/--
Whatever is counted as given away, and whatever waits or is held by a poll,
was recognised before; and whatever was recognised had been received.
-/
structure Accounts
    (system : ClientSystem τ)
    (given : BacnetCovNotification → Nat)
    (held : Option BacnetCovNotification) : Prop where
  accounted :
    ∀ notification ids,
      given notification + system.waitingCount ids notification +
          held.toList.count notification ≤
        system.client.notifiedCount notification
  received :
    ∀ notification,
      system.client.notifiedCount notification ≤
        system.client.receivedCount notification

namespace Accounts

variable
  {system after : ClientSystem τ}
  {given : BacnetCovNotification → Nat}

/-- The client moves notifications, and the sessions keep theirs. -/
theorem of_client
    (accounts : system.Accounts given none)
    {taken : Option BacnetCovNotification}
    {dropped : List BacnetCovNotification}
    (pending :
      ∀ id, (after.sessions id).pendingCovNotifications =
        (system.sessions id).pendingCovNotifications)
    (moves : system.client.Moves after.client taken dropped) :
    after.Accounts given taken := by
  constructor
  · intro notification ids
    have accounted := accounts.accounted notification ids
    have balance := moves.balance notification
    have waiting := waitingCount_of_pending pending ids notification
    rw [Option.toList_none, List.count_nil] at accounted
    omega
  · intro notification
    have received := moves.received notification
    have before := accounts.received notification
    omega

/-- The client and what waits at the sessions are the same. -/
theorem of_keeps
    (accounts : system.Accounts given none)
    (keeps : system.KeepsNotifications after) :
    after.Accounts given none := by
  have moves : system.client.Moves after.client none [] := by
    rw [keeps.client]
    exact .refl _
  exact accounts.of_client keeps.pending moves

/-- What a session has pending and a poll holds may be exchanged. -/
theorem setSession
    {held taken : Option BacnetCovNotification}
    (accounts : system.Accounts given held)
    {id : SessionId}
    {session : BacnetDeviceSession}
    (balance :
      ∀ notification,
        session.pendingCovNotifications.entries.count notification +
            taken.toList.count notification ≤
          (system.sessions id).pendingCovNotifications.entries.count
              notification +
            held.toList.count notification) :
    (system.setSession id session).Accounts given taken := by
  constructor
  · intro notification ids
    have accounted := accounts.accounted notification (insert id ids)
    have waiting := system.waitingCount_setSession
      (Finset.mem_insert_self id ids) session notification
    have mono := (system.setSession id session).waitingCount_mono
      (Finset.subset_insert id ids) notification
    have exchanged := balance notification
    show given notification + _ + _ ≤
      system.client.notifiedCount notification
    omega
  · exact accounts.received

/-- A notification that was held waits at a session again. -/
theorem queue
    {notification : BacnetCovNotification}
    (accounts : system.Accounts given (some notification))
    (id : SessionId) :
    (system.setSession id
      ((system.sessions id).queueCovNotification notification)).Accounts
        given none := by
  apply accounts.setSession
  intro other
  exact (system.sessions id).pendingCovNotifications.count_push_le
    notification other

/-- A poll takes a notification for a handle, or puts another one aside. -/
theorem take
    {runtime : ClientRuntime τ}
    (accounts : system.Accounts given none)
    {id : SessionId}
    {handle : SubscriptionId}
    {taken : Option BacnetCovNotification}
    (takes :
      system.takeCovNotification runtime id handle = (taken, after)) :
    after.Accounts given taken := by
  have polled :
      (system.onClient fun client =>
        client.pollCovNotification runtime false).2.Accounts given
          (system.client.pollCovNotification runtime false).1 :=
    accounts.of_client (fun _ => rfl)
      (system.client.moves_pollCovNotification runtime)
  cases takes_takeCovNotification takes with
  | pending found =>
      apply accounts.setSession
      intro other
      rw [BoundedQueue.count_takeMatching found other, Option.toList_some]
      exact Nat.le_add_right _ _
  | none _ isNone =>
      rw [isNone] at polled
      exact polled
  | wanted _ isSome =>
      rw [isSome] at polled
      exact polled
  | aside _ isSome =>
      rw [isSome] at polled
      exact polled.queue id

/-- Sending a packet moves no notification. -/
theorem send
    {held : Option BacnetCovNotification}
    (accounts : system.Accounts given held)
    {destination : BacnetIpEndpoint}
    {packet : List UInt8}
    {accepted : Bool}
    (traffic :
      after.client.traffic =
        .sent destination packet accepted :: system.client.traffic)
    (queued :
      after.client.queuedCovNotifications =
        system.client.queuedCovNotifications)
    (sessions : after.sessions = system.sessions) :
    after.Accounts given held := by
  have notified (notification : BacnetCovNotification) :
      after.client.notifiedCount notification =
        system.client.notifiedCount notification := by
    unfold BacnetClient.notifiedCount
    rw [traffic]
    apply List.count_cons_of_ne
    intro same
    cases same
  have received (notification : BacnetCovNotification) :
      after.client.receivedCount notification =
        system.client.receivedCount notification := by
    unfold BacnetClient.receivedCount
    rw [traffic]
    apply List.countP_cons_of_neg
    exact Bool.false_ne_true
  have waiting (ids : Finset SessionId)
      (notification : BacnetCovNotification) :
      after.waitingCount ids notification =
        system.waitingCount ids notification := by
    unfold waitingCount
    rw [queued, sessions]
  constructor
  · intro notification ids
    rw [waiting, notified]
    exact accounts.accounted notification ids
  · intro notification
    rw [notified, received]
    exact accounts.received notification

/-- A notification that was held is given away. -/
theorem give
    {notification : BacnetCovNotification}
    (accounts : system.Accounts given (some notification))
    {more : BacnetCovNotification → Nat}
    (counted :
      ∀ other, more other = given other + [notification].count other)
    (client : after.client = system.client)
    (sessions : after.sessions = system.sessions) :
    after.Accounts more none := by
  constructor
  · intro other ids
    have accounted := accounts.accounted other ids
    have waiting :
        after.waitingCount ids other = system.waitingCount ids other := by
      unfold waitingCount
      rw [client, sessions]
    rw [Option.toList_some] at accounted
    rw [counted, waiting, client, Option.toList_none, List.count_nil]
    omega
  · rw [client]
    exact accounts.received

end Accounts

/-- What the history of a run says about notifications that were given. -/
structure CovTally (system : ClientSystem τ) : Prop where
  accounts : system.Accounts system.givenCount none
  acknowledged :
    ∀ notification, notification.confirmed = true →
      system.givenCount notification =
        system.acknowledgedCount notification
  source :
    ∀ id handle notification,
      .delivered id handle notification ∈ system.history →
        notification.source = (system.sessions id).endpoint

/-- The history is as before, up to what says nothing about notifications. -/
structure SameTally (before after : ClientSystem τ) : Prop where
  given :
    ∀ notification,
      after.givenCount notification = before.givenCount notification
  acknowledged :
    ∀ notification,
      after.acknowledgedCount notification =
        before.acknowledgedCount notification
  delivered :
    ∀ id handle notification,
      .delivered id handle notification ∈ after.history →
        .delivered id handle notification ∈ before.history

theorem SameTally.of_history
    {before after : ClientSystem τ}
    (history : after.history = before.history) :
    before.SameTally after := by
  refine ⟨fun notification => ?_, fun notification => ?_, ?_⟩
  · unfold givenCount
    rw [history]
  · rw [acknowledgedCount_eq_countP, acknowledgedCount_eq_countP, history]
  · intro id handle notification isMember
    rw [history] at isMember
    exact isMember

/-- An event that neither gives nor acknowledges anything is recorded. -/
theorem SameTally.of_record
    {before after : ClientSystem τ}
    {event : ClientEvent}
    (history : after.history = event :: before.history)
    (gives : ∀ notification, event.gives notification = false)
    (acknowledges :
      ∀ notification, event.acknowledges notification = false) :
    before.SameTally after := by
  refine ⟨fun notification => ?_, fun notification => ?_, ?_⟩
  · unfold givenCount
    rw [history, List.countP_cons, gives]
    rfl
  · rw [acknowledgedCount_eq_countP, acknowledgedCount_eq_countP, history,
      List.countP_cons, acknowledges]
    rfl
  · intro id handle notification isMember
    rw [history] at isMember
    rcases List.mem_cons.mp isMember with isNew | isOld
    · have given := gives notification
      rw [← isNew] at given
      simp [ClientEvent.gives] at given
    · exact isOld

namespace CovTally

variable {system after : ClientSystem τ}

/-- The history says the same and nothing is lost in between. -/
theorem of_same
    (tally : system.CovTally)
    (same : system.SameTally after)
    (endpoint :
      ∀ id, (after.sessions id).endpoint = (system.sessions id).endpoint)
    (accounts : after.Accounts system.givenCount none) :
    after.CovTally := by
  refine ⟨?_, fun notification confirmed => ?_, ?_⟩
  · rw [funext same.given]
    exact accounts
  · rw [same.given, same.acknowledged]
    exact tally.acknowledged notification confirmed
  · intro id handle notification isMember
    rw [endpoint]
    exact tally.source id handle notification
      (same.delivered id handle notification isMember)

theorem of_keeps
    (tally : system.CovTally)
    (same : system.SameTally after)
    (keeps : system.KeepsNotifications after) :
    after.CovTally :=
  tally.of_same same keeps.endpoint (tally.accounts.of_keeps keeps)

end CovTally

section

variable {runtime : ClientRuntime τ} {guard : NotificationGuard τ}

/-- An acknowledgement was sent, or the notification does not ask for one. -/
theorem acknowledgeTaken_cases
    {system after : ClientSystem τ}
    {id : SessionId}
    {handle : SubscriptionId}
    {notification : BacnetCovNotification}
    {accepted : Bool}
    (source : notification.source = (system.sessions id).endpoint)
    (acknowledges :
      system.acknowledgeTaken runtime id handle notification =
        (accepted, after)) :
    (notification.confirmed = true ∧
        after.sessions = system.sessions ∧
        after.client.queuedCovNotifications =
          system.client.queuedCovNotifications ∧
        after.client.traffic =
          .sent (system.sessions id).endpoint
            (simpleAckPacket notification.invokeId
              kServiceConfirmedCovNotification) accepted ::
            system.client.traffic ∧
        after.history =
          .acknowledged handle (system.subscriptions handle)
            (system.sessions id).endpoint notification accepted ::
            system.history) ∨
      (notification.confirmed = false ∧ accepted = true ∧
        after = system) := by
  unfold acknowledgeTaken at acknowledges
  split at acknowledges
  · rename_i confirmed
    rw [CovLedger.onClient_acknowledgeCovNotification runtime confirmed,
      source] at acknowledges
    obtain ⟨rfl, rfl⟩ := Prod.mk.inj acknowledges
    exact Or.inl ⟨confirmed, rfl, rfl, rfl, rfl⟩
  · rename_i unconfirmed
    obtain ⟨rfl, rfl⟩ := Prod.mk.inj acknowledges
    exact Or.inr ⟨Bool.eq_false_of_not_eq_true unconfirmed, rfl, rfl⟩

theorem Accounts.acknowledgeTaken
    {system after : ClientSystem τ}
    {given : BacnetCovNotification → Nat}
    {held : Option BacnetCovNotification}
    (accounts : system.Accounts given held)
    {id : SessionId}
    {handle : SubscriptionId}
    {notification : BacnetCovNotification}
    {accepted : Bool}
    (source : notification.source = (system.sessions id).endpoint)
    (acknowledges :
      system.acknowledgeTaken runtime id handle notification =
        (accepted, after)) :
    after.Accounts given held := by
  rcases acknowledgeTaken_cases source acknowledges
    with ⟨_, sessions, queued, traffic, _⟩ | ⟨_, _, rfl⟩
  · exact accounts.send traffic queued sessions
  · exact accounts

/-- How the tally of a history grows by an accepted notification. -/
theorem CovTally.accept
    {system after : ClientSystem τ}
    (tally : system.CovTally)
    {id : SessionId}
    {handle : SubscriptionId}
    {notification : BacnetCovNotification}
    {acknowledgement : List ClientEvent}
    (history :
      after.history =
        .delivered id handle notification ::
          (acknowledgement ++ system.history))
    (only :
      (notification.confirmed = true ∧ ∃ subscription endpoint,
        acknowledgement =
          [.acknowledged handle subscription endpoint notification true]) ∨
      (notification.confirmed = false ∧ acknowledgement = []))
    (source : notification.source = (after.sessions id).endpoint)
    (endpoint :
      ∀ id, (after.sessions id).endpoint = (system.sessions id).endpoint)
    (accounts : after.Accounts after.givenCount none) :
    after.CovTally := by
  have silent (other : BacnetCovNotification) :
      acknowledgement.countP (ClientEvent.gives other) = 0 := by
    rcases only with ⟨_, _, _, rfl⟩ | ⟨_, rfl⟩ <;> rfl
  have given (other : BacnetCovNotification) :
      after.givenCount other =
        system.givenCount other +
          if notification == other then 1 else 0 := by
    unfold givenCount
    rw [history, List.countP_cons, List.countP_append, silent, Nat.zero_add]
    rfl
  have acknowledged
      (other : BacnetCovNotification)
      (confirmed : other.confirmed = true) :
      after.acknowledgedCount other =
        system.acknowledgedCount other +
          if notification == other then 1 else 0 := by
    rw [acknowledgedCount_eq_countP, acknowledgedCount_eq_countP, history,
      List.countP_cons, List.countP_append]
    rcases only with ⟨_, _, _, rfl⟩ | ⟨unconfirmed, rfl⟩
    · rw [List.countP_singleton, Nat.add_comm _ (List.countP _ _)]
      rfl
    · have differs : notification ≠ other := by
        rintro rfl
        rw [unconfirmed] at confirmed
        cases confirmed
      rw [List.countP_nil, Nat.zero_add, beq_false_of_ne differs]
      rfl
  refine ⟨accounts, fun other confirmed => ?_, ?_⟩
  · rw [given, acknowledged other confirmed,
      tally.acknowledged other confirmed]
  · intro other target shown isMember
    rw [history] at isMember
    rcases List.mem_cons.mp isMember with isNew | isOld
    · obtain ⟨rfl, rfl, rfl⟩ := ClientEvent.delivered.inj isNew
      exact source
    · rcases List.mem_append.mp isOld with isAcknowledgement | isEarlier
      · rcases only with ⟨_, _, _, rfl⟩ | ⟨_, rfl⟩
        · cases List.mem_singleton.mp isAcknowledgement
        · cases isAcknowledgement
      · rw [endpoint]
        exact tally.source other target shown isEarlier

/-- The notification a poll gives to a handle is added to the tally. -/
theorem CovTally.delivers
    {system taken accepted : ClientSystem τ}
    (tally : system.CovTally)
    {id : SessionId}
    {handle : SubscriptionId}
    {notification : BacnetCovNotification}
    (takes :
      system.takeCovNotification runtime id handle =
        (some notification, taken))
    (sent :
      taken.acknowledgeTaken runtime id handle notification =
        (true, accepted)) :
    (accepted.record (.delivered id handle notification)).CovTally := by
  obtain ⟨same, history⟩ := sameSubscriptions_takeCovNotification takes
  have endpoint (other : SessionId) :
      (taken.sessions other).endpoint =
        (system.sessions other).endpoint := by
    obtain ⟨pending, session⟩ := same.session other
    rw [session]
  have source :
      notification.source = (taken.sessions id).endpoint := by
    rw [endpoint]
    exact (isFor_of_take takes).source
  have held := (tally.accounts.take takes).acknowledgeTaken source sent
  have sessions := (sameSubscriptions_acknowledgeTaken sent).2
  rcases acknowledgeTaken_cases source sent
    with ⟨confirmed, _, _, _, acknowledged⟩ | ⟨unconfirmed, _, rfl⟩
  · have whole :
        (accepted.record (.delivered id handle notification)).history =
          .delivered id handle notification ::
            ([.acknowledged handle (taken.subscriptions handle)
              (taken.sessions id).endpoint notification true] ++
              system.history) := by
      rw [← history]
      exact congrArg _ acknowledged
    refine tally.accept whole (Or.inl ⟨confirmed, _, _, rfl⟩) ?_ ?_ ?_
    · exact source.trans (by rw [← sessions]; rfl)
    · intro other
      rw [← endpoint other, ← sessions]
      rfl
    · refine held.give (fun other => ?_) rfl rfl
      unfold givenCount
      rw [whole, List.countP_cons, List.countP_append, List.count_singleton]
      exact Nat.add_right_cancel_iff.mpr (Nat.zero_add _)
  · have whole :
        (accepted.record (.delivered id handle notification)).history =
          .delivered id handle notification :: ([] ++ system.history) :=
      congrArg _ history
    refine tally.accept whole (Or.inr ⟨unconfirmed, rfl⟩) source endpoint ?_
    refine held.give (fun other => ?_) rfl rfl
    unfold givenCount
    rw [whole, List.countP_cons, List.nil_append, List.count_singleton]
    rfl

/-- The notification a poll could not acknowledge waits again. -/
theorem CovTally.refuses
    {system taken refused : ClientSystem τ}
    (tally : system.CovTally)
    {id : SessionId}
    {handle : SubscriptionId}
    {notification : BacnetCovNotification}
    (takes :
      system.takeCovNotification runtime id handle =
        (some notification, taken))
    (unsent :
      taken.acknowledgeTaken runtime id handle notification =
        (false, refused)) :
    (refused.setSession id
      ((refused.sessions id).queueCovNotification notification)).CovTally := by
  obtain ⟨same, history⟩ := sameSubscriptions_takeCovNotification takes
  have endpoint (other : SessionId) :
      (taken.sessions other).endpoint =
        (system.sessions other).endpoint := by
    obtain ⟨pending, session⟩ := same.session other
    rw [session]
  have source :
      notification.source = (taken.sessions id).endpoint := by
    rw [endpoint]
    exact (isFor_of_take takes).source
  have held := (tally.accounts.take takes).acknowledgeTaken source unsent
  have sessions := (sameSubscriptions_acknowledgeTaken unsent).2
  rcases acknowledgeTaken_cases source unsent
    with ⟨_, _, _, _, acknowledged⟩ | ⟨_, impossible, _⟩
  · refine tally.of_same ?_ (fun other => ?_) (held.queue id)
    · refine SameTally.of_record
        (acknowledged.trans (congrArg _ history)) (fun _ => rfl) ?_
      intro other
      rfl
    · rw [← endpoint other, ← sessions]
      by_cases isSame : other = id
      · subst isSame
        rw [sessions_setSession_self]
        rfl
      · exact congrArg BacnetDeviceSession.endpoint
          (Function.update_of_ne isSame ..)
  · cases impossible

theorem Steps.covTally
    {system after : ClientSystem τ}
    (steps : Steps runtime guard system after)
    (tally : system.CovTally) :
    after.CovTally := by
  induction steps with
  | refl => exact tally
  | trans _ _ early late => exact late (early tally)
  | quiet quiet =>
      exact tally.of_same (.of_history quiet.history)
        (fun id => (quiet.session id).endpoint)
        (tally.accounts.of_client (fun id => (quiet.session id).pending)
          (.of_quiet quiet.client))
  | @turn system =>
      exact tally.of_keeps (.of_history rfl)
        ((KeepsNotifications.refl system).setSession rfl rfl)
  | @callback system =>
      exact tally.of_keeps
        (.of_record rfl (fun _ => rfl) (fun _ => rfl))
        ⟨rfl, fun _ => rfl, fun _ => rfl⟩
  | callbackReturned =>
      exact tally.of_keeps
        (.of_record rfl (fun _ => rfl) (fun _ => rfl))
        ⟨rfl, fun _ => rfl, fun _ => rfl⟩
  | @adjust system handle subscription =>
      exact tally.of_keeps (.of_history rfl)
        ((KeepsNotifications.refl system).setSubscription _ _)
  | @start system id handle subscription =>
      have adjusted := (KeepsNotifications.refl system).setSubscription
        handle subscription
      exact tally.of_keeps (.of_history rfl)
        (adjusted.setSession rfl rfl)
  | @release system notified id handle subscription _ _ _ inner =>
      have adjusted := (KeepsNotifications.refl notified).setSubscription
        handle subscription
      exact (inner tally).of_keeps (.of_history (history_releaseSlot ..))
        (adjusted.releaseSlot id handle)
  | @reactivate system finished handle _ _ inner =>
      exact (inner tally).of_keeps (.of_history rfl)
        ((KeepsNotifications.refl finished).setSubscription _ _)
  | stop system handle =>
      exact tally.of_keeps
        (.of_history (history_stopSubscription system handle))
        (.stopSubscription system handle)
  | @subscribe system id handle subscription =>
      exact tally.of_keeps (.of_history rfl)
        ((KeepsNotifications.refl system).setSubscription _ _)
  | @answer system _ invokeId service peer =>
      obtain ⟨dropped, moves, -⟩ :=
        system.client.moves_pollSubscribeCov runtime invokeId service peer
      exact tally.of_same (.of_history rfl) (fun _ => rfl)
        (tally.accounts.of_client (fun _ => rfl) moves)
  | pass _ _ _ taken =>
      obtain ⟨same, history⟩ := sameSubscriptions_takeCovNotification taken
      refine tally.of_same (.of_history history) (fun id => ?_)
        (tally.accounts.take taken)
      obtain ⟨pending, session⟩ := same.session id
      rw [session]
  | refuse _ _ _ taken unsent => exact tally.refuses taken unsent
  | accept _ _ _ taken sent => exact tally.delivers taken sent

end

variable (runtime : ClientRuntime τ) (application : ClientApplication τ)
  (depth : Nat)

theorem covTally_step
    {system : ClientSystem τ}
    (tally : system.CovTally)
    (step : ClientStep) :
    (system.step runtime (application.callback runtime depth)
      step).CovTally := by
  cases step with
  | call call =>
      exact (steps_call (callbackSteps_application application depth)
        (callAllowed_trivial system call)).covTally tally
  | moveConstruct handle other =>
      unfold ClientSystem.step
      dsimp only
      split
      · refine tally.of_keeps (.of_history ?_)
          ((KeepsNotifications.refl system).moveFrom handle other)
        obtain ⟨sessions, moved⟩ := system.moveFrom_eq handle other
        rw [moved]
      · exact tally
  | moveAssign handle other =>
      show (system.moveAssign handle other).CovTally
      unfold moveAssign
      split
      · exact tally
      · refine tally.of_keeps (.of_history ?_)
          ((KeepsNotifications.releaseSubscription system handle).moveFrom
            handle other)
        obtain ⟨sessions, moved⟩ :=
          (system.releaseSubscription handle).moveFrom_eq handle other
        rw [moved]
        exact history_releaseSubscription system handle
  | destroy handle =>
      exact tally.of_keeps
        (.of_history (history_releaseSubscription system handle))
        ((KeepsNotifications.releaseSubscription system
          handle).setSubscription handle {})
  | startClient bound =>
      have moves : system.client.Moves (system.client.start bound) none _ :=
        .clear rfl rfl
      exact tally.of_same (.of_history rfl) (fun _ => rfl)
        (tally.accounts.of_client (fun _ => rfl) moves)
  | stopClient =>
      have moves : system.client.Moves system.client.stop none _ :=
        .clear rfl rfl
      exact tally.of_same (.of_history rfl) (fun _ => rfl)
        (tally.accounts.of_client (fun _ => rfl) moves)

theorem IsInitial.covTally
    {system : ClientSystem τ}
    (initial : system.IsInitial) :
    system.CovTally := by
  have nothingGiven (notification : BacnetCovNotification) :
      system.givenCount notification = 0 := by
    unfold givenCount
    rw [initial.history]
    rfl
  have ledger := initial.covLedger
  refine ⟨⟨fun notification ids => ?_, ledger.received⟩,
    fun notification _ => ?_, ?_⟩
  · have accounted := ledger.accounted notification ids
    rw [nothingGiven]
    omega
  · unfold acknowledgedCount acknowledgements
    rw [nothingGiven, initial.history]
    rfl
  · intro id handle notification isMember
    rw [initial.history] at isMember
    cases isMember

theorem covTally_run
    {system : ClientSystem τ}
    (initial : system.IsInitial)
    (steps : List ClientStep) :
    (system.run runtime (application.callback runtime depth)
      steps).CovTally :=
  EventRun.run_invariant (fun current : ClientSystem τ => current.CovTally)
    (fun _ step tally =>
      covTally_step runtime application depth tally step)
    initial.covTally steps

/-- What is promised about the notifications handles are given. -/
structure GivesSafely (system : ClientSystem τ) : Prop where
  /-- No more often than a datagram with it was received. -/
  once :
    ∀ notification,
      system.givenCount notification ≤
        system.client.receivedCount notification
  /-- A confirmed one as often as it was acknowledged with success. -/
  acknowledged :
    ∀ notification, notification.confirmed = true →
      system.givenCount notification =
        system.acknowledgedCount notification
  /-- Only by the session of the device that sent it. -/
  source :
    ∀ id handle notification,
      .delivered id handle notification ∈ system.history →
        notification.source = (system.sessions id).endpoint

/-- In every state of every run. -/
theorem givesSafely_run
    {system : ClientSystem τ}
    (initial : system.IsInitial)
    (steps : List ClientStep) :
    (system.run runtime (application.callback runtime depth)
      steps).GivesSafely := by
  have tally := covTally_run runtime application depth initial steps
  refine ⟨fun notification => ?_, tally.acknowledged, tally.source⟩
  have accounted := tally.accounts.accounted notification ∅
  have received := tally.accounts.received notification
  omega

end ClientSystem

/-- The run of the client with one confirmed notification. -/
theorem givesSafely_confirmedSystem :
    confirmedSystem.GivesSafely :=
  ClientSystem.givesSafely_run _ _ _ (isInitial_scriptedSystem _) _

end BacnetStack
