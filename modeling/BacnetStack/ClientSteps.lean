import BacnetStack.ClientResponses

namespace BacnetStack

/-!
# What a call can do

A call of an application runs through the functions of a session, and every
callback in it may make calls of its own.  Whatever happens in between, the
system only ever changes in a few ways.  They are listed once, each with the
guard it has in the source, and every call is shown to be a chain of them; an
invariant is then proved for each way of the list and not for each function.
-/

namespace BacnetPropertySubscription

/-- A change of a handle that neither starts nor ends anything. -/
structure Adjusts (before after : BacnetPropertySubscription) : Prop where
  session : after.session = before.session
  inFlight : after.inFlight = before.inFlight
  active : after.active = true → before.active = true
  covActive : after.covActive = true → before.covActive = true

/-- A change of a handle that no longer waits. -/
structure Releases (before after : BacnetPropertySubscription) : Prop where
  session : after.session = before.session
  inFlight : after.inFlight = false
  active : after.active = true → before.active = true
  covActive :
    after.covActive = true →
      before.covActive = true ∨ before.active = true

/-- A change of an active handle that begins to wait. -/
structure Starts (before after : BacnetPropertySubscription) : Prop where
  session : after.session = before.session
  wasActive : before.active = true
  wasIdle : before.inFlight = false
  inFlight : after.inFlight = true
  covActive : after.covActive = before.covActive

end BacnetPropertySubscription

/--
What is assumed of the states in which a poll takes a notification for a
handle, of those in which it looks for the answer to a subscribe request, of
the sessions that are polled, and of those whose arrays are.
-/
structure NotificationGuard (τ : Type) where
  take : ClientSystem τ → SessionId → SubscriptionId → Prop
  answer : ClientSystem τ → Prop
  polls : SessionId → Prop := fun _ => True
  turns : SessionId → Prop := fun _ => True

/-- No session is polled but one. -/
def NotificationGuard.PollsOnly {τ : Type}
    (guard : NotificationGuard τ)
    (id : SessionId) : Prop :=
  ∀ other, guard.polls other → other = id

/-- The guard that assumes nothing. -/
def NotificationGuard.trivial (τ : Type) : NotificationGuard τ where
  take _ _ _ := True
  answer _ := True

/-- The event reports that a callback was overtaken. -/
def ClientEvent.isOvertaken : ClientEvent → Bool
  | .callbackReturned _ overtaken => overtaken
  | .callback _ _ | .acknowledged _ _ _ _ _ | .delivered _ _ _ => false

namespace ClientSystem

variable {τ : Type}

/-- A callback returned with another handle in flight. -/
def WasOvertaken (system : ClientSystem τ) : Prop :=
  ∃ event ∈ system.history, event.isOvertaken = true

instance (system : ClientSystem τ) : Decidable system.WasOvertaken :=
  inferInstanceAs (Decidable (∃ event ∈ system.history, _))

/-- A session may begin to wait for a handle. -/
structure SlotFree
    (system : ClientSystem τ)
    (id : SessionId) : Prop where
  noJob : (system.sessions id).jobInFlight = false
  slot :
    (system.sessions id).inFlightSubscription = none ∨ system.WasOvertaken

/-- A session waits for a handle, or the handle is one of its own. -/
def Owns
    (system : ClientSystem τ)
    (id : SessionId)
    (handle : SubscriptionId) : Prop :=
  (system.sessions id).inFlightSubscription = some handle ∨
    (system.subscriptions handle).session = some id

/-- Some session waits for the answer to a subscribe request. -/
def AwaitsSubscribe (system : ClientSystem τ) : Prop :=
  ∃ id handle,
    (system.sessions id).inFlightSubscription = some handle ∧
      (system.subscriptions handle).inFlightOperation = .subscribeCov

variable (runtime : ClientRuntime τ) (guard : NotificationGuard τ)

/-- The changes a call consists of. -/
inductive Steps : ClientSystem τ → ClientSystem τ → Prop where
  | refl (system : ClientSystem τ) : Steps system system
  | trans
      {first second third : ClientSystem τ}
      (early : Steps first second)
      (late : Steps second third) :
      Steps first third
  /-- Requests, reads, scans and everything else that is no subscription. -/
  | quiet
      {system after : ClientSystem τ}
      (quiet : system.QuietStep after)
      (scans : system.SoundScans → after.SoundScans)
      (responses :
        ∀ id, guard.PollsOnly id →
          (system.sessions id).Exclusive → system.Unanswered id →
            after.Unanswered id) :
      Steps system after
  /-- The place is moved where the next poll of an array begins to look. -/
  | turn
      {system : ClientSystem τ}
      {id : SessionId}
      (index : Nat)
      (moves : guard.turns id) :
      Steps system
        (system.setSession id
          { system.sessions id with roundRobinSubscriptionIndex := index })
  /-- The callback of a handle that is active or COV-active is invoked. -/
  | callback
      {system : ClientSystem τ}
      {handle : SubscriptionId}
      (notification : BacnetSubscriptionNotification)
      (live :
        (system.subscriptions handle).active = true ∨
          (system.subscriptions handle).covActive = true) :
      Steps system (system.record (.callback handle notification))
  | callbackReturned
      (system : ClientSystem τ)
      (handle : SubscriptionId)
      (overtaken : Bool) :
      Steps system (system.record (.callbackReturned handle overtaken))
  | adjust
      {system : ClientSystem τ}
      {handle : SubscriptionId}
      {subscription : BacnetPropertySubscription}
      (adjusts :
        (system.subscriptions handle).Adjusts subscription) :
      Steps system (system.setSubscription handle subscription)
  | start
      {system : ClientSystem τ}
      {id : SessionId}
      {handle : SubscriptionId}
      {subscription : BacnetPropertySubscription}
      (own : (system.subscriptions handle).session = some id)
      (starts : (system.subscriptions handle).Starts subscription)
      (free : system.SlotFree id) :
      Steps system (system.setInFlight id handle subscription)
  /-- A handle and its session stop waiting, after whatever came before. -/
  | release
      {system notified : ClientSystem τ}
      {id : SessionId}
      {handle : SubscriptionId}
      {subscription : BacnetPropertySubscription}
      (owns : system.Owns id handle)
      (inner : Steps system notified)
      (releases :
        (notified.subscriptions handle).Releases subscription) :
      Steps system
        ((notified.setSubscription handle subscription).releaseSlot
          id handle)
  /-- A handle that was given a notification is COV-active afterwards. -/
  | reactivate
      {system finished : ClientSystem τ}
      {handle : SubscriptionId}
      (covActive : (system.subscriptions handle).covActive = true)
      (inner : Steps system finished) :
      Steps system
        (finished.setSubscription handle
          { finished.subscriptions handle with covActive := true })
  | stop (system : ClientSystem τ) (handle : SubscriptionId) :
      Steps system (system.stopSubscription handle)
  | subscribe
      {system : ClientSystem τ}
      {id : SessionId}
      {handle : SubscriptionId}
      {subscription : BacnetPropertySubscription}
      (unused : (system.subscriptions handle).session = none)
      (session : subscription.session = some id)
      (idle : subscription.inFlight = false) :
      Steps system (system.setSubscription handle subscription)
  /-- The client is polled for the answer to a subscribe request. -/
  | answer
      {system : ClientSystem τ}
      {id : SessionId}
      (invokeId service : UInt8)
      (peer : Option BacnetIpEndpoint)
      (polls : guard.polls id)
      (waits : (system.sessions id).inFlightSubscription.isSome = true)
      (awaits : system.AwaitsSubscribe)
      (allowed : guard.answer system) :
      Steps system
        (system.onClient fun client =>
          client.pollSubscribeCov runtime invokeId service peer).2
  /-- No notification was found for a handle. -/
  | pass
      {system after : ClientSystem τ}
      {id : SessionId}
      {handle : SubscriptionId}
      (own : (system.subscriptions handle).session = some id)
      (covActive : (system.subscriptions handle).covActive = true)
      (allowed : guard.take system id handle)
      (taken :
        system.takeCovNotification runtime id handle = (none, after)) :
      Steps system after
  /-- A notification that could not be acknowledged waits again. -/
  | refuse
      {system after refused : ClientSystem τ}
      {id : SessionId}
      {handle : SubscriptionId}
      {notification : BacnetCovNotification}
      (own : (system.subscriptions handle).session = some id)
      (covActive : (system.subscriptions handle).covActive = true)
      (allowed : guard.take system id handle)
      (taken :
        system.takeCovNotification runtime id handle =
          (some notification, after))
      (unsent :
        after.acknowledgeTaken runtime id handle notification =
          (false, refused)) :
      Steps system
        (refused.setSession id
          ((refused.sessions id).queueCovNotification notification))
  /-- A notification is given to a handle. -/
  | accept
      {system after accepted : ClientSystem τ}
      {id : SessionId}
      {handle : SubscriptionId}
      {notification : BacnetCovNotification}
      (own : (system.subscriptions handle).session = some id)
      (covActive : (system.subscriptions handle).covActive = true)
      (allowed : guard.take system id handle)
      (taken :
        system.takeCovNotification runtime id handle =
          (some notification, after))
      (sent :
        after.acknowledgeTaken runtime id handle notification =
          (true, accepted)) :
      Steps system (accepted.record (.delivered id handle notification))

/-! What the parts of a change leave alone. -/

theorem WasOvertaken.of_history
    {before after : ClientSystem τ}
    (overtaken : before.WasOvertaken)
    (same : after.history = before.history) :
    after.WasOvertaken := by
  obtain ⟨event, isMember, isOvertaken⟩ := overtaken
  exact ⟨event, same ▸ isMember, isOvertaken⟩

/-- Of two settings of one session the last one counts. -/
theorem setSession_setSession
    (system : ClientSystem τ)
    (id : SessionId)
    (first second : BacnetDeviceSession) :
    (system.setSession id first).setSession id second =
      system.setSession id second := by
  unfold setSession
  rw [Function.update_idem]

theorem subscriptions_setSubscription_self
    (system : ClientSystem τ)
    (handle : SubscriptionId)
    (subscription : BacnetPropertySubscription) :
    (system.setSubscription handle subscription).subscriptions handle =
      subscription :=
  Function.update_self ..

/-- Only the place where the polls of an array begin is moved. -/
theorem sessions_setTurn
    (system : ClientSystem τ)
    (id : SessionId)
    (index : Nat)
    (other : SessionId) :
    (system.setSession id
        { system.sessions id with
          roundRobinSubscriptionIndex := index }).sessions other = {
      system.sessions other with
      roundRobinSubscriptionIndex :=
        if other = id then index
        else (system.sessions other).roundRobinSubscriptionIndex
    } := by
  show Function.update system.sessions id _ other = _
  by_cases same : other = id
  · subst same
    rw [Function.update_self, if_pos rfl]
  · rw [Function.update_of_ne same, if_neg same]

section

variable {runtime : ClientRuntime τ}

theorem subscriptions_releaseSlot
    (system : ClientSystem τ)
    (id : SessionId)
    (handle : SubscriptionId) :
    (system.releaseSlot id handle).subscriptions = system.subscriptions := by
  unfold releaseSlot
  split
  · rfl
  · rfl

theorem history_releaseSlot
    (system : ClientSystem τ)
    (id : SessionId)
    (handle : SubscriptionId) :
    (system.releaseSlot id handle).history = system.history := by
  unfold releaseSlot
  split
  · rfl
  · rfl

theorem client_releaseSlot
    (system : ClientSystem τ)
    (id : SessionId)
    (handle : SubscriptionId) :
    (system.releaseSlot id handle).client = system.client := by
  unfold releaseSlot
  split
  · rfl
  · rfl

theorem scans_releaseSlot
    (system : ClientSystem τ)
    (id : SessionId)
    (handle : SubscriptionId) :
    (system.releaseSlot id handle).scans = system.scans := by
  unfold releaseSlot
  split
  · rfl
  · rfl

/-- Only the slot of a handle is cleared, and only if it names the handle. -/
theorem sessions_releaseSlot
    (system : ClientSystem τ)
    (id : SessionId)
    (handle : SubscriptionId)
    (other : SessionId) :
    (system.releaseSlot id handle).sessions other = {
      system.sessions other with
      inFlightSubscription :=
        if other = id ∧
            (system.sessions id).inFlightSubscription = some handle then
          none
        else
          (system.sessions other).inFlightSubscription
    } := by
  unfold releaseSlot
  split
  · rename_i waits
    show Function.update system.sessions id _ other = _
    by_cases same : other = id
    · subst same
      rw [Function.update_self, if_pos ⟨rfl, waits⟩]
    · rw [Function.update_of_ne same, if_neg (fun both => same both.1)]
  · rename_i differs
    rw [if_neg (fun both => differs both.2)]

theorem releaseSlot_setSubscription
    (system : ClientSystem τ)
    (id : SessionId)
    (handle other : SubscriptionId)
    (subscription : BacnetPropertySubscription) :
    (system.releaseSlot id handle).setSubscription other subscription =
      (system.setSubscription other subscription).releaseSlot id handle := by
  unfold releaseSlot
  split
  · rename_i waits
    exact (if_pos waits).symm
  · rename_i differs
    exact (if_neg differs).symm

theorem subscriptions_stopSubscription
    (system : ClientSystem τ)
    (handle : SubscriptionId) :
    (system.stopSubscription handle).subscriptions =
      if (system.subscriptions handle).active = true then
        Function.update system.subscriptions handle
          (system.subscriptions handle).stopped
      else
        system.subscriptions := by
  unfold stopSubscription
  dsimp only
  split
  · split
    · show Function.update (releaseSlot system _ handle).subscriptions _ _ = _
      rw [subscriptions_releaseSlot]
    · rfl
  · rfl

theorem history_stopSubscription
    (system : ClientSystem τ)
    (handle : SubscriptionId) :
    (system.stopSubscription handle).history = system.history := by
  unfold stopSubscription
  dsimp only
  split
  · split
    · exact history_releaseSlot system _ handle
    · rfl
  · rfl

theorem scans_stopSubscription
    (system : ClientSystem τ)
    (handle : SubscriptionId) :
    (system.stopSubscription handle).scans = system.scans := by
  unfold stopSubscription
  dsimp only
  split
  · split
    · exact scans_releaseSlot system _ handle
    · rfl
  · rfl

/-- Nothing but the client and what waits for delivery differs. -/
structure SameSubscriptions (before after : ClientSystem τ) : Prop where
  subscriptions : after.subscriptions = before.subscriptions
  scans : after.scans = before.scans
  session :
    ∀ id, ∃ pending,
      after.sessions id =
        { before.sessions id with pendingCovNotifications := pending }

theorem SameSubscriptions.refl (system : ClientSystem τ) :
    system.SameSubscriptions system :=
  ⟨rfl, rfl, fun id => ⟨(system.sessions id).pendingCovNotifications, rfl⟩⟩

theorem sameSubscriptions_onClient
    (system : ClientSystem τ)
    {Result : Type}
    (operation : BacnetClient τ → Result × BacnetClient τ) :
    system.SameSubscriptions (system.onClient operation).2 :=
  ⟨rfl, rfl, fun id => ⟨(system.sessions id).pendingCovNotifications, rfl⟩⟩

theorem SameSubscriptions.trans
    {first second third : ClientSystem τ}
    (early : first.SameSubscriptions second)
    (late : second.SameSubscriptions third) :
    first.SameSubscriptions third := by
  refine ⟨late.subscriptions.trans early.subscriptions,
    late.scans.trans early.scans, fun id => ?_⟩
  obtain ⟨earlyPending, earlySession⟩ := early.session id
  obtain ⟨latePending, lateSession⟩ := late.session id
  exact ⟨latePending, by rw [lateSession, earlySession]⟩

/-- The pending notifications of a session are set. -/
theorem SameSubscriptions.setPending
    {first second : ClientSystem τ}
    (same : first.SameSubscriptions second)
    (id : SessionId)
    (pending : CovNotificationQueue) :
    first.SameSubscriptions
      (second.setSession id
        { second.sessions id with pendingCovNotifications := pending }) := by
  refine same.trans ⟨rfl, rfl, fun other => ?_⟩
  by_cases isSame : other = id
  · subst isSame
    exact ⟨pending, Function.update_self ..⟩
  · exact ⟨(second.sessions other).pendingCovNotifications,
      Function.update_of_ne isSame ..⟩

/-- No notification that is pending at a session is for a handle. -/
def NonePending
    (system : ClientSystem τ)
    (id : SessionId)
    (handle : SubscriptionId) : Prop :=
  ∀ entry ∈ (system.sessions id).pendingCovNotifications.entries,
    ¬entry.IsFor (system.sessions id).endpoint (system.subscriptions handle)

instance
    (system : ClientSystem τ)
    (id : SessionId)
    (handle : SubscriptionId) :
    Decidable (system.NonePending id handle) :=
  inferInstanceAs (Decidable (∀ entry ∈ _, _))

/-- How a poll for a notification can end. -/
inductive Takes
    (runtime : ClientRuntime τ)
    (system : ClientSystem τ)
    (id : SessionId)
    (handle : SubscriptionId) :
    Option BacnetCovNotification → ClientSystem τ → Prop where
  /-- One of the pending notifications is for the handle. -/
  | pending
      {notification : BacnetCovNotification}
      {rest : CovNotificationQueue}
      (found :
        (system.sessions id).pendingCovNotifications.takeMatching
            (fun entry =>
              decide (entry.IsFor (system.sessions id).endpoint
                (system.subscriptions handle))) =
          some (notification, rest)) :
      Takes runtime system id handle (some notification)
        (system.setSession id
          { system.sessions id with pendingCovNotifications := rest })
  /-- The client has none. -/
  | none
      (nonePending : system.NonePending id handle)
      (polled :
        (system.client.pollCovNotification runtime false).1 = none) :
      Takes runtime system id handle none
        (system.onClient fun client =>
          client.pollCovNotification runtime false).2
  /-- The next one of the client is for the handle. -/
  | wanted
      {notification : BacnetCovNotification}
      (nonePending : system.NonePending id handle)
      (polled :
        (system.client.pollCovNotification runtime false).1 =
          some notification)
      (isFor :
        notification.IsFor (system.sessions id).endpoint
          (system.subscriptions handle)) :
      Takes runtime system id handle (some notification)
        (system.onClient fun client =>
          client.pollCovNotification runtime false).2
  /-- The next one of the client is put aside. -/
  | aside
      {notification : BacnetCovNotification}
      (nonePending : system.NonePending id handle)
      (polled :
        (system.client.pollCovNotification runtime false).1 =
          some notification) :
      Takes runtime system id handle none
        ((system.onClient fun client =>
          client.pollCovNotification runtime false).2.setSession id
            ((system.sessions id).queueCovNotification notification))

theorem takes_takeCovNotification
    {system after : ClientSystem τ}
    {id : SessionId}
    {handle : SubscriptionId}
    {taken : Option BacnetCovNotification}
    (takes :
      system.takeCovNotification runtime id handle = (taken, after)) :
    Takes runtime system id handle taken after := by
  unfold takeCovNotification at takes
  dsimp only at takes
  split at takes
  · rename_i notification rest found
    obtain ⟨rfl, rfl⟩ := Prod.mk.inj takes
    exact .pending found
  · rename_i absent
    have nonePending : system.NonePending id handle :=
      fun entry isMember => of_decide_eq_false
        (BoundedQueue.takeMatching_eq_none_iff.mp absent entry isMember)
    split at takes
    · rename_i polledSystem shape
      obtain ⟨rfl, rfl⟩ := Prod.mk.inj takes
      have polled :
          (system.client.pollCovNotification runtime false).1 = none :=
        (Prod.mk.inj shape).1
      obtain ⟨-, rfl⟩ := Prod.mk.inj shape
      exact .none nonePending polled
    · rename_i notification polledSystem shape
      have polled :
          (system.client.pollCovNotification runtime false).1 =
            some notification :=
        (Prod.mk.inj shape).1
      obtain ⟨-, rfl⟩ := Prod.mk.inj shape
      split at takes
      · rename_i wanted
        obtain ⟨rfl, rfl⟩ := Prod.mk.inj takes
        exact .wanted nonePending polled (of_decide_eq_true wanted)
      · obtain ⟨rfl, rfl⟩ := Prod.mk.inj takes
        exact .aside nonePending polled

theorem sameSubscriptions_takeCovNotification
    {system after : ClientSystem τ}
    {id : SessionId}
    {handle : SubscriptionId}
    {taken : Option BacnetCovNotification}
    (takes :
      system.takeCovNotification runtime id handle = (taken, after)) :
    system.SameSubscriptions after ∧ after.history = system.history := by
  have polls := system.sameSubscriptions_onClient fun client =>
    client.pollCovNotification runtime false
  cases takes_takeCovNotification takes with
  | pending =>
      exact ⟨(SameSubscriptions.refl system).setPending _ _, rfl⟩
  | none => exact ⟨polls, rfl⟩
  | wanted => exact ⟨polls, rfl⟩
  | aside => exact ⟨polls.setPending _ _, rfl⟩

/-- A notification that is taken for a handle is for it. -/
theorem isFor_of_take
    {system after : ClientSystem τ}
    {id : SessionId}
    {handle : SubscriptionId}
    {notification : BacnetCovNotification}
    (takes :
      system.takeCovNotification runtime id handle =
        (some notification, after)) :
    notification.IsFor (system.sessions id).endpoint
      (system.subscriptions handle) := by
  cases takes_takeCovNotification takes with
  | pending found =>
      have wanted := BoundedQueue.matching_of_takeMatching found
      exact of_decide_eq_true wanted
  | wanted _ _ isFor => exact isFor

theorem sameSubscriptions_acknowledgeTaken
    {system after : ClientSystem τ}
    {id : SessionId}
    {handle : SubscriptionId}
    {notification : BacnetCovNotification}
    {accepted : Bool}
    (acknowledges :
      system.acknowledgeTaken runtime id handle notification =
        (accepted, after)) :
    system.SameSubscriptions after ∧ after.sessions = system.sessions := by
  unfold acknowledgeTaken at acknowledges
  split at acknowledges
  · obtain ⟨-, rfl⟩ := Prod.mk.inj acknowledges
    exact ⟨⟨rfl, rfl, fun id =>
      ⟨(system.sessions id).pendingCovNotifications, rfl⟩⟩, rfl⟩
  · obtain ⟨-, rfl⟩ := Prod.mk.inj acknowledges
    exact ⟨.refl system, rfl⟩

theorem history_acknowledgeTaken
    {system after : ClientSystem τ}
    {id : SessionId}
    {handle : SubscriptionId}
    {notification : BacnetCovNotification}
    {accepted : Bool}
    (acknowledges :
      system.acknowledgeTaken runtime id handle notification =
        (accepted, after)) :
    system.history <:+ after.history := by
  unfold acknowledgeTaken at acknowledges
  split at acknowledges
  · obtain ⟨-, rfl⟩ := Prod.mk.inj acknowledges
    exact List.suffix_cons _ _
  · obtain ⟨-, rfl⟩ := Prod.mk.inj acknowledges
    exact List.suffix_refl _

end

variable {runtime guard}

theorem session_setSubscription
    {system : ClientSystem τ}
    {handle : SubscriptionId}
    {subscription : BacnetPropertySubscription}
    (same :
      subscription.session = (system.subscriptions handle).session)
    (other : SubscriptionId) :
    ((system.setSubscription handle subscription).subscriptions
        other).session =
      (system.subscriptions other).session := by
  show (Function.update system.subscriptions handle subscription
    other).session = _
  by_cases isSame : other = handle
  · subst isSame
    rw [Function.update_self]
    exact same
  · rw [Function.update_of_ne isSame]

/-- No call takes a handle from its session. -/
theorem Steps.session_eq
    {system after : ClientSystem τ}
    (steps : Steps runtime guard system after)
    {handle : SubscriptionId}
    {id : SessionId}
    (own : (system.subscriptions handle).session = some id) :
    (after.subscriptions handle).session = some id := by
  induction steps with
  | refl => exact own
  | trans _ _ early late => exact late (early own)
  | quiet quiet => exact quiet.subscriptions ▸ own
  | turn => exact own
  | callback => exact own
  | callbackReturned => exact own
  | adjust adjusts =>
      exact (session_setSubscription adjusts.session handle).trans own
  | start _ starts =>
      exact (session_setSubscription starts.session handle).trans own
  | release _ _ releases inner =>
      rw [subscriptions_releaseSlot]
      exact (session_setSubscription releases.session handle).trans
        (inner own)
  | reactivate _ _ inner =>
      refine (session_setSubscription ?_ handle).trans (inner own)
      rfl
  | stop system stopped =>
      rw [subscriptions_stopSubscription]
      split
      · refine (session_setSubscription ?_ handle).trans own
        rfl
      · exact own
  | @subscribe system id' created subscription unused =>
      show (Function.update system.subscriptions created subscription
        handle).session = _
      rw [Function.update_of_ne]
      · exact own
      · rintro rfl
        rw [unused] at own
        exact nomatch own
  | answer => exact own
  | pass _ _ _ taken =>
      rw [(sameSubscriptions_takeCovNotification taken).1.subscriptions]
      exact own
  | refuse _ _ _ taken unsent =>
      show ((setSession _ _ _).subscriptions handle).session = _
      have same := (sameSubscriptions_takeCovNotification taken).1.trans
        (sameSubscriptions_acknowledgeTaken unsent).1
      exact (congrArg (fun all => (all handle).session)
        same.subscriptions).trans own
  | accept _ _ _ taken sent =>
      have same := (sameSubscriptions_takeCovNotification taken).1.trans
        (sameSubscriptions_acknowledgeTaken sent).1
      exact (congrArg (fun all => (all handle).session)
        same.subscriptions).trans own

/-- What has happened stays recorded. -/
theorem Steps.history_suffix
    {system after : ClientSystem τ}
    (steps : Steps runtime guard system after) :
    system.history <:+ after.history := by
  induction steps with
  | refl => exact List.suffix_refl _
  | trans _ _ early late => exact early.trans late
  | quiet quiet => exact quiet.history ▸ List.suffix_refl _
  | turn => exact List.suffix_refl _
  | callback => exact List.suffix_cons _ _
  | callbackReturned => exact List.suffix_cons _ _
  | adjust => exact List.suffix_refl _
  | start => exact List.suffix_refl _
  | release _ _ _ inner =>
      rw [history_releaseSlot]
      exact inner
  | reactivate _ _ inner => exact inner
  | stop => exact history_stopSubscription _ _ ▸ List.suffix_refl _
  | subscribe => exact List.suffix_refl _
  | answer => exact List.suffix_refl _
  | pass _ _ _ taken =>
      have same := (sameSubscriptions_takeCovNotification taken).2
      exact same ▸ List.suffix_refl _
  | refuse _ _ _ taken unsent =>
      have same := (sameSubscriptions_takeCovNotification taken).2
      have acknowledged := history_acknowledgeTaken unsent
      rw [same] at acknowledged
      exact acknowledged
  | accept _ _ _ taken sent =>
      have same := (sameSubscriptions_takeCovNotification taken).2
      have acknowledged := history_acknowledgeTaken sent
      rw [same] at acknowledged
      exact acknowledged.trans (List.suffix_cons _ _)

theorem Steps.wasOvertaken
    {system after : ClientSystem τ}
    (steps : Steps runtime guard system after)
    (overtaken : system.WasOvertaken) :
    after.WasOvertaken := by
  obtain ⟨event, isMember, isOvertaken⟩ := overtaken
  exact ⟨event, steps.history_suffix.subset isMember, isOvertaken⟩

/-- What is assumed of the states in between may be forgotten. -/
theorem Steps.forget
    {system after : ClientSystem τ}
    (steps : Steps runtime guard system after) :
    Steps runtime (.trivial τ) system after := by
  induction steps with
  | refl => exact .refl _
  | trans _ _ early late => exact .trans early late
  | quiet quiet scans =>
      exact .quiet quiet scans fun id only =>
        absurd (only (id + 1) trivial) (Nat.succ_ne_self id)
  | turn index => exact .turn index trivial
  | callback notification live => exact .callback notification live
  | callbackReturned => exact .callbackReturned _ _ _
  | adjust adjusts => exact .adjust adjusts
  | start own starts free => exact .start own starts free
  | release owns _ releases inner => exact .release owns inner releases
  | reactivate covActive _ inner => exact .reactivate covActive inner
  | stop => exact .stop _ _
  | subscribe unused session idle => exact .subscribe unused session idle
  | answer invokeId service peer _ waits awaits =>
      exact .answer invokeId service peer trivial waits awaits trivial
  | pass own covActive _ taken => exact .pass own covActive trivial taken
  | refuse own covActive _ taken unsent =>
      exact .refuse own covActive trivial taken unsent
  | accept own covActive _ taken sent =>
      exact .accept own covActive trivial taken sent

/-- A relation that everything a call does to a session stays within. -/
structure SessionRule
    (guard : NotificationGuard τ)
    (relation :
      SessionId → BacnetDeviceSession → BacnetDeviceSession → Prop) : Prop where
  trans {id : SessionId} {first second third : BacnetDeviceSession} :
    relation id first second → relation id second third →
      relation id first third
  quiet {id : SessionId} {before after : BacnetDeviceSession} :
    before.QuietStep after → relation id before after
  turn (id : SessionId) (session : BacnetDeviceSession) (index : Nat) :
    guard.turns id →
      relation id session { session with roundRobinSubscriptionIndex := index }
  slot
      (id : SessionId)
      (session : BacnetDeviceSession)
      (handle : Option SubscriptionId) :
    relation id session { session with inFlightSubscription := handle }
  pending
      (id : SessionId)
      (session : BacnetDeviceSession)
      (notifications : CovNotificationQueue) :
    relation id session
      { session with pendingCovNotifications := notifications }

namespace SessionRule

variable
  {relation : SessionId → BacnetDeviceSession → BacnetDeviceSession → Prop}
  (rule : SessionRule guard relation)

include rule

theorem refl
    (id : SessionId)
    (session : BacnetDeviceSession) :
    relation id session session :=
  rule.quiet (.refl session)

/-- A session is set, and the others stay as they are. -/
theorem setSession
    (system : ClientSystem τ)
    {id : SessionId}
    {session : BacnetDeviceSession}
    (related : relation id (system.sessions id) session)
    (other : SessionId) :
    relation other (system.sessions other)
      ((system.setSession id session).sessions other) := by
  show relation other _ (Function.update system.sessions id session other)
  by_cases same : other = id
  · subst same
    rw [Function.update_self]
    exact related
  · rw [Function.update_of_ne same]
    exact rule.refl other _

theorem releaseSlot
    (system : ClientSystem τ)
    (id : SessionId)
    (handle : SubscriptionId)
    (other : SessionId) :
    relation other (system.sessions other)
      ((system.releaseSlot id handle).sessions other) := by
  rw [sessions_releaseSlot]
  exact rule.slot other _ _

theorem sameSubscriptions
    {before after : ClientSystem τ}
    (same : before.SameSubscriptions after)
    (id : SessionId) :
    relation id (before.sessions id) (after.sessions id) := by
  obtain ⟨notifications, session⟩ := same.session id
  rw [session]
  exact rule.pending id _ _

theorem stopSubscription
    (system : ClientSystem τ)
    (handle : SubscriptionId)
    (id : SessionId) :
    relation id (system.sessions id)
      ((system.stopSubscription handle).sessions id) := by
  unfold ClientSystem.stopSubscription
  dsimp only
  split
  · split
    · exact rule.releaseSlot system _ handle id
    · exact rule.refl id _
  · exact rule.refl id _

/-- Every session stays within the relation. -/
theorem steps
    {system after : ClientSystem τ}
    (steps : Steps runtime guard system after)
    (id : SessionId) :
    relation id (system.sessions id) (after.sessions id) := by
  induction steps with
  | refl => exact rule.refl id _
  | trans _ _ early late => exact rule.trans early late
  | quiet quiet => exact rule.quiet (quiet.session id)
  | turn index moves =>
      exact rule.setSession _ (rule.turn _ _ index moves) id
  | callback => exact rule.refl id _
  | callbackReturned => exact rule.refl id _
  | adjust => exact rule.refl id _
  | start => exact rule.setSession _ (rule.slot _ _ _) id
  | @release _ notified other handle subscription _ _ _ inner =>
      exact rule.trans inner
        (rule.releaseSlot (notified.setSubscription handle subscription)
          other handle id)
  | reactivate _ _ inner => exact inner
  | stop system handle => exact rule.stopSubscription system handle id
  | subscribe => exact rule.refl id _
  | answer => exact rule.refl id _
  | pass _ _ _ taken =>
      exact rule.sameSubscriptions
        (sameSubscriptions_takeCovNotification taken).1 id
  | refuse _ _ _ taken unsent =>
      have same := (sameSubscriptions_takeCovNotification taken).1.trans
        (sameSubscriptions_acknowledgeTaken unsent).1
      exact rule.sameSubscriptions (same.setPending _ _) id
  | accept _ _ _ taken sent =>
      exact rule.sameSubscriptions
        ((sameSubscriptions_takeCovNotification taken).1.trans
          (sameSubscriptions_acknowledgeTaken sent).1) id

end SessionRule

end ClientSystem

end BacnetStack
