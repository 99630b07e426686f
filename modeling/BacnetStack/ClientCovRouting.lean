import BacnetStack.ClientAcknowledgement
import BacnetStack.ClientTransactions

namespace BacnetStack

/-!
# Who is given a notification

The sessions share the client's queue and its socket, and the handles of a
session share its pending notifications.  Whoever is polled first takes what
comes next.  Followed for one notification and one session, this keeps a
balance between what was recognised, what waits for the session and what its
handles were given, as long as nobody else is polled when it is next.
-/

/-- The notification a client gives out next. -/
def BacnetClient.GivesNext {τ : Type}
    (runtime : ClientRuntime τ)
    (client : BacnetClient τ)
    (notification : BacnetCovNotification) : Prop :=
  client.running = true ∧
    (client.queuedCovNotifications.entries.head? = some notification ∨
      client.queuedCovNotifications.entries = [] ∧
        ∃ datagram, (runtime.receive client.transport).1 = some datagram ∧
          datagram.covNotification? = some notification)

/-- What a client gives out is its next notification. -/
theorem BacnetClient.givesNext_of_poll {τ : Type}
    {runtime : ClientRuntime τ}
    {client : BacnetClient τ}
    {notification : BacnetCovNotification}
    (polled :
      (client.pollCovNotification runtime false).1 = some notification) :
    client.GivesNext runtime notification := by
  have next :
      (client.nextCovNotification runtime).1 = some notification := by
    unfold pollCovNotification at polled
    split at polled
    · exact nomatch polled
    · rename_i other after shape
      rw [shape]
      exact polled
  unfold nextCovNotification at next
  split at next
  · exact nomatch next
  · rename_i isRunning
    have running : client.running = true :=
      Bool.not_eq_eq_eq_not.mp (Bool.eq_false_iff.mpr isRunning)
    refine ⟨running, ?_⟩
    split at next
    · rename_i first rest taken
      obtain rfl := Option.some.inj next
      rw [BoundedQueue.takeFirst_eq_some_iff.mp taken]
      exact .inl rfl
    · rename_i empty
      refine .inr ⟨BoundedQueue.takeFirst_eq_none_iff.mp empty, ?_⟩
      split at next
      · exact nomatch next
      · rename_i datagram received receives
        split at next
        · exact nomatch next
        · rename_i carried isCarried
          obtain rfl := Option.some.inj next
          refine ⟨datagram, ?_, isCarried⟩
          unfold receive at receives
          split at receives
          · exact nomatch receives
          · rename_i shape
            rw [shape]
            exact (Prod.mk.inj receives).1

/-- The next notification of a client is what it gives out. -/
theorem BacnetClient.GivesNext.poll {τ : Type}
    {runtime : ClientRuntime τ}
    {client : BacnetClient τ}
    {notification : BacnetCovNotification}
    (next : client.GivesNext runtime notification) :
    (client.pollCovNotification runtime false).1 = some notification := by
  obtain ⟨running, queued | ⟨empty, datagram, arrives, carried⟩⟩ := next
  · obtain ⟨rest, shape⟩ := List.head?_eq_some_iff.mp queued
    exact (pollCovNotification_of_queued runtime running shape).1
  · have taken : client.queuedCovNotifications.takeFirst = none :=
      BoundedQueue.takeFirst_eq_none_iff.mpr empty
    unfold pollCovNotification nextCovNotification receive
    rw [running, taken]
    generalize runtime.receive client.transport = received at arrives
    obtain ⟨arrived, transport⟩ := received
    obtain rfl : arrived = some datagram := arrives
    dsimp only
    rw [carried]
    rfl

namespace ClientSystem

variable {τ : Type}

/-- The notification a handle is given when it is polled. -/
def IsNextFor
    (runtime : ClientRuntime τ)
    (system : ClientSystem τ)
    (id : SessionId)
    (handle : SubscriptionId)
    (notification : BacnetCovNotification) : Prop :=
  notification.IsFor (system.sessions id).endpoint
      (system.subscriptions handle) ∧
    ((system.sessions id).pendingCovNotifications.entries.find?
        (fun entry =>
          decide (entry.IsFor (system.sessions id).endpoint
            (system.subscriptions handle))) = some notification ∨
      system.NonePending id handle ∧
        system.client.GivesNext runtime notification)

variable {runtime : ClientRuntime τ}

/-- What is taken for a handle was next for it. -/
theorem Takes.isNextFor
    {system after : ClientSystem τ}
    {id : SessionId}
    {handle : SubscriptionId}
    {notification : BacnetCovNotification}
    (takes : Takes runtime system id handle (some notification) after) :
    system.IsNextFor runtime id handle notification := by
  cases takes with
  | pending found =>
      have isFor := BoundedQueue.matching_of_takeMatching found
      obtain ⟨entry, isFound, shape⟩ := Option.map_eq_some_iff.mp found
      obtain ⟨rfl, -⟩ := Prod.mk.inj shape
      exact ⟨of_decide_eq_true isFor, .inl isFound⟩
  | wanted nonePending polled isFor =>
      exact ⟨isFor, .inr ⟨nonePending,
        BacnetClient.givesNext_of_poll polled⟩⟩

/-- What is next for a handle is taken for it. -/
theorem IsNextFor.take
    {system : ClientSystem τ}
    {id : SessionId}
    {handle : SubscriptionId}
    {notification : BacnetCovNotification}
    (next : system.IsNextFor runtime id handle notification) :
    (system.takeCovNotification runtime id handle).1 =
      some notification := by
  obtain ⟨isFor, found | ⟨nonePending, gives⟩⟩ := next
  · unfold takeCovNotification BoundedQueue.takeMatching
    dsimp only
    rw [found]
    rfl
  · have absent :
        (system.sessions id).pendingCovNotifications.takeMatching
          (fun entry =>
            decide (entry.IsFor (system.sessions id).endpoint
              (system.subscriptions handle))) = none :=
      BoundedQueue.takeMatching_eq_none_iff.mpr fun entry isMember =>
        decide_eq_false (nonePending entry isMember)
    have polled := gives.poll
    unfold takeCovNotification onClient
    dsimp only
    rw [absent]
    generalize system.client.pollCovNotification runtime false = answer
      at polled
    obtain ⟨given, client⟩ := answer
    obtain rfl : given = some notification := polled
    dsimp only
    rw [if_pos (decide_eq_true isFor)]

/--
A poll that finds a notification for its handle, and can acknowledge it, gives
it to the handle.
-/
theorem delivered_of_isNextFor
    {guard : NotificationGuard τ}
    {callback : SubscriptionCallback τ}
    (callbacks : CallbackSteps runtime guard callback)
    {system current : ClientSystem τ}
    {id : SessionId}
    {handle : SubscriptionId}
    {nowMs : UInt32}
    (stage :
      system.pollStage runtime callback id handle nowMs = some current)
    {notification : BacnetCovNotification}
    (next : current.IsNextFor runtime id handle notification)
    (accepted :
      ((current.takeCovNotification runtime id
        handle).2.acknowledgeTaken runtime id handle notification).1 =
          true) :
    ∃ earlier,
      current.history <:+ earlier ∧
        .delivered id handle notification :: earlier <:+
          (system.call runtime callback
            (.pollSingle id handle nowMs)).history := by
  have forgetful := callbacks.forget
  unfold pollStage notificationStage at stage
  show ∃ earlier, current.history <:+ earlier ∧
    .delivered id handle notification :: earlier <:+
      ((system.resolveNow runtime nowMs).2.pollSingleAt runtime callback id
        handle (system.resolveNow runtime nowMs).1).history
  unfold pollSingleAt
  generalize (system.resolveNow runtime nowMs).2 = resolved at stage ⊢
  generalize (system.resolveNow runtime nowMs).1 = now at stage ⊢
  split at stage
  · exact nomatch stage
  · rename_i isOwn
    rw [if_neg isOwn]
    have begun : Steps runtime (.trivial τ) resolved
        (resolved.beginPoll runtime callback id now) :=
      steps_beginPoll forgetful (fun _ _ => trivial) trivial now
    have own := begun.session_eq (not_not.mp isOwn)
    dsimp only at stage ⊢
    generalize resolved.beginPoll runtime callback id now = polled
      at stage own ⊢
    split at stage
    · exact nomatch stage
    · rename_i ready
      obtain rfl := Option.some.inj stage
      obtain ⟨slotFree, covActive⟩ :=
        Bool.or_eq_false_iff.mp (Bool.eq_false_iff.mpr ready)
      rw [Bool.not_eq_eq_eq_not, Bool.not_false] at covActive
      rw [if_neg (Bool.eq_false_iff.mp slotFree)]
      have free : (polled.sessions id).inFlightSubscription = none :=
        Option.not_isSome_iff_eq_none.mp (Bool.eq_false_iff.mp slotFree)
      have given := next.take
      generalize takes :
        polled.takeCovNotification runtime id handle = answer
        at given accepted
      obtain ⟨found, taken⟩ := answer
      obtain rfl : found = some notification := given
      generalize acknowledges :
        taken.acknowledgeTaken runtime id handle notification = answer
        at accepted
      obtain ⟨isAccepted, accepting⟩ := answer
      obtain rfl : isAccepted = true := accepted
      have polls :
          polled.pollCovNotification runtime callback id handle now =
            (true, accepting.deliverCovNotification callback id handle
              notification now) := by
        unfold pollCovNotification
        rw [if_pos covActive, takes]
        dsimp only
        rw [acknowledges]
      obtain ⟨steps, mayStart⟩ := steps_pollCovNotification forgetful own
        free (fun _ => trivial) polls
      rw [polls]
      have both := (sameSubscriptions_takeCovNotification takes).1.trans
        (sameSubscriptions_acknowledgeTaken acknowledges).1
      have delivers : Steps runtime (.trivial τ)
          (accepting.record (.delivered id handle notification))
          (accepting.deliverCovNotification callback id handle
            notification now) := by
        apply steps_deliverCovNotification forgetful
        · rw [both.subscriptions]
          exact own
        · rw [both.subscriptions]
          exact covActive
      have starts : Steps runtime (.trivial τ) _ _ :=
        steps_startSubscriptionWork forgetful (steps.session_eq own)
          (mayStart rfl)
      refine ⟨accepting.history, ?_,
        delivers.history_suffix.trans starts.history_suffix⟩
      have kept := history_acknowledgeTaken acknowledges
      rw [(sameSubscriptions_takeCovNotification takes).2] at kept
      exact kept

end ClientSystem

/-- One session, one notification and the handles it is counted for. -/
structure CovRoute where
  home : SessionId
  notification : BacnetCovNotification
  welcome : SubscriptionId → Bool

namespace CovRoute

variable {τ : Type} (route : CovRoute)

/-- An event gives the notification to a handle that is counted. -/
def isDelivery : ClientEvent → Bool
  | .delivered session subscription notification =>
      session == route.home && route.welcome subscription &&
        notification == route.notification
  | .callback _ _ | .acknowledged _ _ _ _ _ | .callbackReturned _ _ => false

/-- How often the notification was given to the handles. -/
def deliveredCount (system : ClientSystem τ) : Nat :=
  system.history.countP route.isDelivery

/-- How often the notification waits where the session can get it. -/
def waitingCount (system : ClientSystem τ) : Nat :=
  system.client.queuedCovNotifications.entries.count route.notification +
    (system.sessions route.home).pendingCovNotifications.entries.count
      route.notification

/--
Every occurrence of the notification that was recognised waits, was given to
the handles, or is `taken`, as it was before.
-/
def Preserves
    (before after : ClientSystem τ)
    (taken : Option BacnetCovNotification) : Prop :=
  route.deliveredCount before + route.waitingCount before +
      after.client.notifiedCount route.notification =
    route.deliveredCount after + route.waitingCount after +
      taken.toList.count route.notification +
      before.client.notifiedCount route.notification

/-- The states in which a poll of a handle does not disturb the route. -/
structure TakeAllowed
    (runtime : ClientRuntime τ)
    (system : ClientSystem τ)
    (id : SessionId)
    (handle : SubscriptionId) : Prop where
  /-- At the session the notification is next for counted handles only. -/
  welcome :
    id = route.home →
      system.IsNextFor runtime id handle route.notification →
        route.welcome handle = true
  /-- The session has room for what it puts aside. -/
  room :
    id = route.home →
      route.notification ∉
        (system.sessions id).pendingCovNotifications.displaced
  /-- Another session does not get it from the client. -/
  elsewhere :
    id ≠ route.home → system.NonePending id handle →
      ¬system.client.GivesNext runtime route.notification

/-- The guard of a route. -/
def guard (runtime : ClientRuntime τ) : NotificationGuard τ where
  take system id handle := route.TakeAllowed runtime system id handle
  answer system :=
    system.AwaitsSubscribe →
      route.notification ∉ system.client.queuedCovNotifications.displaced

variable {route}

namespace Preserves

variable {first second third : ClientSystem τ}
  {taken : Option BacnetCovNotification}

theorem refl (system : ClientSystem τ) :
    route.Preserves system system none :=
  rfl

theorem trans
    (early : route.Preserves first second none)
    (late : route.Preserves second third taken) :
    route.Preserves first third taken := by
  unfold Preserves at early late ⊢
  rw [Option.toList_none, List.count_nil] at early
  omega

/-- Nothing happens to what is taken. -/
theorem followed
    (preserves : route.Preserves first second taken)
    (late : route.Preserves second third none) :
    route.Preserves first third taken := by
  unfold Preserves at preserves late ⊢
  rw [Option.toList_none, List.count_nil] at late
  omega

/-- What was taken and is not counted is let go. -/
theorem release
    (preserves : route.Preserves first second taken)
    (late : route.Preserves second third none)
    (other : taken ≠ some route.notification) :
    route.Preserves first third none := by
  have none : taken.toList.count route.notification = 0 := by
    refine List.count_eq_zero.mpr fun isMember => other ?_
    exact Option.mem_toList.mp isMember
  unfold Preserves at preserves late ⊢
  rw [none] at preserves
  omega

/-- The client moves notifications, and nothing else happens. -/
theorem of_moves
    {dropped : List BacnetCovNotification}
    (moves : first.client.Moves second.client taken dropped)
    (kept : route.notification ∉ dropped)
    (history : second.history = first.history)
    (pending :
      (second.sessions route.home).pendingCovNotifications =
        (first.sessions route.home).pendingCovNotifications) :
    route.Preserves first second taken := by
  have balance := moves.balance route.notification
  rw [List.count_eq_zero.mpr kept] at balance
  unfold Preserves deliveredCount waitingCount
  rw [history, pending]
  omega

/-- Nothing that is counted changes. -/
theorem of_same
    (delivered : route.deliveredCount second = route.deliveredCount first)
    (queued :
      second.client.queuedCovNotifications =
        first.client.queuedCovNotifications)
    (notified :
      second.client.notifiedCount route.notification =
        first.client.notifiedCount route.notification)
    (pending :
      (second.sessions route.home).pendingCovNotifications =
        (first.sessions route.home).pendingCovNotifications) :
    route.Preserves first second none := by
  unfold Preserves waitingCount
  rw [delivered, queued, notified, pending]
  rfl

/-- The client and what waits at the sessions are the same. -/
theorem of_keeps
    (keeps : first.KeepsNotifications second)
    (delivered : route.deliveredCount second = route.deliveredCount first) :
    route.Preserves first second none :=
  of_same delivered (congrArg _ keeps.client) (by rw [keeps.client])
    (keeps.pending route.home)

theorem of_history
    (keeps : first.KeepsNotifications second)
    (history : second.history = first.history) :
    route.Preserves first second none :=
  of_keeps keeps (congrArg (List.countP route.isDelivery) history)

/-- An event that is no delivery is recorded. -/
theorem record
    (system : ClientSystem τ)
    {event : ClientEvent}
    (other : route.isDelivery event = false) :
    route.Preserves system (system.record event) none := by
  refine of_keeps ⟨rfl, fun _ => rfl, fun _ => rfl⟩ ?_
  refine List.countP_cons_of_neg ?_
  rw [other]
  exact Bool.false_ne_true

/-- What the session has pending and what is taken are exchanged. -/
theorem setSession
    {system : ClientSystem τ}
    {session : BacnetDeviceSession}
    {held : Option BacnetCovNotification}
    (balance :
      session.pendingCovNotifications.entries.count route.notification +
          taken.toList.count route.notification =
        (system.sessions
            route.home).pendingCovNotifications.entries.count
              route.notification +
          held.toList.count route.notification)
    {before : ClientSystem τ}
    (preserves : route.Preserves before system held) :
    route.Preserves before (system.setSession route.home session) taken := by
  have pending :
      ((system.setSession route.home session).sessions
        route.home).pendingCovNotifications =
          session.pendingCovNotifications :=
    congrArg _ (ClientSystem.sessions_setSession_self _ _ _)
  unfold Preserves deliveredCount waitingCount at preserves ⊢
  rw [pending]
  show _ + _ + system.client.notifiedCount route.notification =
    system.history.countP route.isDelivery +
      (system.client.queuedCovNotifications.entries.count
        route.notification + _) + _ + _
  omega

/-- Another session changes. -/
theorem setOther
    (system : ClientSystem τ)
    {id : SessionId}
    (other : id ≠ route.home)
    (session : BacnetDeviceSession) :
    route.Preserves system (system.setSession id session) none := by
  unfold Preserves waitingCount
  show _ = _ + (_ + ((Function.update system.sessions id session
    route.home).pendingCovNotifications.entries.count
      route.notification)) + _ + _
  rw [Function.update_of_ne other.symm]
  rfl

end Preserves

/-! What the calls of an application do to a notification. -/

variable {runtime : ClientRuntime τ}

theorem preserves_pollCovNotification
    (runtime : ClientRuntime τ)
    (system : ClientSystem τ) :
    route.Preserves system
      (system.onClient fun client =>
        client.pollCovNotification runtime false).2
      (system.client.pollCovNotification runtime false).1 :=
  .of_moves (system.client.moves_pollCovNotification runtime)
    List.not_mem_nil rfl rfl

/-- A poll of the session itself takes a notification, or puts it aside. -/
theorem preserves_take
    {system after : ClientSystem τ}
    {handle : SubscriptionId}
    {taken : Option BacnetCovNotification}
    (allowed : route.TakeAllowed runtime system route.home handle)
    (takes : system.Takes runtime route.home handle taken after) :
    route.Preserves system after taken ∧
      (taken.isSome = true →
        route.notification ∉
          (after.sessions route.home).pendingCovNotifications.displaced) := by
  have polled := route.preserves_pollCovNotification runtime system
  have room := allowed.room rfl
  cases takes with
  | pending found =>
      refine ⟨.setSession ?_ (.refl system), fun _ => ?_⟩
      · rw [BoundedQueue.count_takeMatching found, Option.toList_some]
        rfl
      · rw [ClientSystem.sessions_setSession_self]
        dsimp only
        rw [BoundedQueue.displaced_of_room
          (BoundedQueue.room_of_takeMatching found)]
        exact List.not_mem_nil
  | none _ isNone =>
      rw [isNone] at polled
      exact ⟨polled, nofun⟩
  | wanted _ isSome =>
      rw [isSome] at polled
      exact ⟨polled, fun _ => room⟩
  | @aside notification _ isSome =>
      rw [isSome] at polled
      refine ⟨.setSession ?_ polled, nofun⟩
      have pushed :=
        (system.sessions route.home).pendingCovNotifications.count_push
          notification route.notification
      rw [List.count_eq_zero.mpr room] at pushed
      exact pushed

/-- A poll of another session leaves the route alone. -/
theorem preserves_takeElsewhere
    {system after : ClientSystem τ}
    {id : SessionId}
    {handle : SubscriptionId}
    {taken : Option BacnetCovNotification}
    (other : id ≠ route.home)
    (allowed : route.TakeAllowed runtime system id handle)
    (takes : system.Takes runtime id handle taken after) :
    route.Preserves system after none := by
  have polled := route.preserves_pollCovNotification runtime system
  -- Whatever the client gives out is another notification.
  have differs {notification : BacnetCovNotification}
      (nonePending : system.NonePending id handle)
      (isSome :
        (system.client.pollCovNotification runtime false).1 =
          some notification) :
      some notification ≠ some route.notification := by
    intro same
    refine allowed.elsewhere other nonePending ?_
    rw [← Option.some.inj same]
    exact BacnetClient.givesNext_of_poll isSome
  cases takes with
  | pending => exact .setOther system other _
  | none _ isNone =>
      rw [isNone] at polled
      exact polled
  | wanted nonePending isSome =>
      rw [isSome] at polled
      exact polled.release (.refl _) (differs nonePending isSome)
  | aside nonePending isSome =>
      rw [isSome] at polled
      exact polled.release (.setOther _ other _)
        (differs nonePending isSome)

/-- An acknowledgement is no notification, and its event no delivery. -/
theorem preserves_acknowledgeTaken
    {system after : ClientSystem τ}
    {id : SessionId}
    {handle : SubscriptionId}
    {notification : BacnetCovNotification}
    {accepted : Bool}
    (acknowledges :
      system.acknowledgeTaken runtime id handle notification =
        (accepted, after)) :
    route.Preserves system after none := by
  unfold ClientSystem.acknowledgeTaken at acknowledges
  split at acknowledges
  · rename_i confirmed
    rw [ClientSystem.CovLedger.onClient_acknowledgeCovNotification runtime
      confirmed] at acknowledges
    obtain ⟨-, rfl⟩ := Prod.mk.inj acknowledges
    refine .of_same ?_ rfl ?_ rfl
    · exact List.countP_cons_of_neg Bool.false_ne_true
    · refine List.count_cons_of_ne ?_
      exact nofun
  · obtain ⟨-, rfl⟩ := Prod.mk.inj acknowledges
    exact .refl system

/-- A notification is given to a handle. -/
theorem preserves_delivered
    {before system : ClientSystem τ}
    {id : SessionId}
    {handle : SubscriptionId}
    {notification : BacnetCovNotification}
    (counted :
      id = route.home → notification = route.notification →
        route.welcome handle = true)
    (preserves :
      route.Preserves before system
        (if id = route.home then some notification else none)) :
    route.Preserves before
      (system.record (.delivered id handle notification)) none := by
  by_cases isHome : id = route.home
  · rw [if_pos isHome] at preserves
    by_cases same : notification = route.notification
    · have isDelivery :
          route.isDelivery (.delivered id handle notification) = true := by
        show (id == route.home && route.welcome handle &&
          notification == route.notification) = true
        rw [counted isHome same, isHome, same, beq_self_eq_true,
          beq_self_eq_true]
        rfl
      have delivered :
          route.deliveredCount
              (system.record (.delivered id handle notification)) =
            route.deliveredCount system + 1 :=
        List.countP_cons_of_pos isDelivery
      unfold Preserves at preserves ⊢
      rw [same, Option.toList_some, List.count_singleton_self] at preserves
      rw [delivered]
      show _ + _ + system.client.notifiedCount route.notification =
        route.deliveredCount system + 1 + route.waitingCount system + 0 + _
      omega
    · refine preserves.release (.record system ?_)
        fun isSame => same (Option.some.inj isSame)
      show (id == route.home && route.welcome handle &&
        notification == route.notification) = false
      rw [beq_false_of_ne same, Bool.and_false]
  · rw [if_neg isHome] at preserves
    refine preserves.trans (.record system ?_)
    show (id == route.home && route.welcome handle &&
      notification == route.notification) = false
    rw [beq_false_of_ne isHome, Bool.false_and, Bool.false_and]

/-- Every chain of steps in which nobody else takes the notification. -/
theorem preserves_of_steps
    {system after : ClientSystem τ}
    (steps : ClientSystem.Steps runtime (route.guard runtime) system after) :
    route.Preserves system after none := by
  induction steps with
  | refl system => exact .refl system
  | trans _ _ early late => exact early.trans late
  | quiet quiet =>
      exact .of_moves (.of_quiet quiet.client) List.not_mem_nil
        quiet.history (quiet.session route.home).pending
  | @turn system =>
      exact .of_history
        ((ClientSystem.KeepsNotifications.refl system).setSession rfl rfl)
        rfl
  | callback => exact .record _ rfl
  | callbackReturned => exact .record _ rfl
  | @adjust system handle subscription =>
      exact .of_history
        ((ClientSystem.KeepsNotifications.refl system).setSubscription _ _)
        rfl
  | @start system id handle subscription =>
      have adjusted :=
        (ClientSystem.KeepsNotifications.refl system).setSubscription
          handle subscription
      exact .of_history (adjusted.setSession rfl rfl) rfl
  | @release system notified id handle subscription _ _ _ inner =>
      have adjusted :=
        (ClientSystem.KeepsNotifications.refl notified).setSubscription
          handle subscription
      exact inner.trans (.of_history (adjusted.releaseSlot id handle)
        (ClientSystem.history_releaseSlot _ _ _))
  | @reactivate system finished handle _ _ inner =>
      exact inner.trans (.of_history
        ((ClientSystem.KeepsNotifications.refl finished).setSubscription
          _ _) rfl)
  | stop system handle =>
      exact .of_history (.stopSubscription system handle)
        (ClientSystem.history_stopSubscription system handle)
  | @subscribe system id handle subscription =>
      exact .of_history
        ((ClientSystem.KeepsNotifications.refl system).setSubscription _ _)
        rfl
  | @answer system _ invokeId service peer _ _ awaits allowed =>
      obtain ⟨dropped, moves, within⟩ :=
        system.client.moves_pollSubscribeCov runtime invokeId service peer
      exact .of_moves moves (fun isMember =>
        allowed awaits (within isMember)) rfl rfl
  | @pass system after id handle _ _ allowed taken =>
      have takes := ClientSystem.takes_takeCovNotification taken
      by_cases isHome : id = route.home
      · subst isHome
        exact (preserves_take allowed takes).1
      · exact preserves_takeElsewhere isHome allowed takes
  | @refuse system after refused id handle notification _ _ allowed taken
      unsent =>
      have takes := ClientSystem.takes_takeCovNotification taken
      have acknowledged : route.Preserves after refused none :=
        preserves_acknowledgeTaken unsent
      have same := (ClientSystem.sameSubscriptions_acknowledgeTaken unsent).2
      by_cases isHome : id = route.home
      · subst isHome
        obtain ⟨preserves, room⟩ := preserves_take allowed takes
        refine .setSession ?_ (preserves.followed acknowledged)
        have pushed :=
          (refused.sessions route.home).pendingCovNotifications.count_push
            notification route.notification
        rw [same, List.count_eq_zero.mpr (room rfl)] at pushed
        rw [same]
        exact pushed
      · have preserves := preserves_takeElsewhere isHome allowed takes
        exact (preserves.trans acknowledged).trans (.setOther _ isHome _)
  | @accept system after accepted id handle notification _ _ allowed taken
      sent =>
      have takes := ClientSystem.takes_takeCovNotification taken
      have acknowledged : route.Preserves after accepted none :=
        preserves_acknowledgeTaken sent
      apply preserves_delivered
      · intro isHome same
        have next := takes.isNextFor
        rw [same, isHome] at next
        exact allowed.welcome isHome (isHome ▸ next)
      · by_cases isHome : id = route.home
        · rw [if_pos isHome]
          subst isHome
          exact (preserves_take allowed takes).1.followed acknowledged
        · rw [if_neg isHome]
          exact (preserves_takeElsewhere isHome allowed takes).trans
            acknowledged

section

variable (route) (runtime) (callback : SubscriptionCallback τ)

/-- A call that does not disturb the route. -/
structure CallAllowed
    (system : ClientSystem τ)
    (call : ClientCall) : Prop where
  /-- Nobody else is polled where the notification is next. -/
  polled :
    ∀ id handle nowMs, call = .pollSingle id handle nowMs →
      ∀ current ∈ system.pollStage runtime callback id handle nowMs,
        route.TakeAllowed runtime current id handle
  /-- The client has room for a notification that comes with an answer. -/
  room :
    system.AwaitsSubscribe →
      route.notification ∉ system.client.queuedCovNotifications.displaced
  /-- No read, write or scan receives the notification in its place. -/
  recognised :
    (system.call runtime callback call).client.receivedCount
          route.notification +
        system.client.notifiedCount route.notification =
      system.client.receivedCount route.notification +
        (system.call runtime callback call).client.notifiedCount
          route.notification

/--
Whatever was received since `before` was given to the handles or waits for
them, and a handle that is polled when it comes to it is given it.
-/
structure Keeps (before after : ClientSystem τ) : Prop where
  balance :
    route.deliveredCount before + route.waitingCount before +
        after.client.receivedCount route.notification =
      route.deliveredCount after + route.waitingCount after +
        before.client.receivedCount route.notification
  given :
    ∀ handle nowMs current, route.welcome handle = true →
      after.pollStage runtime callback route.home handle nowMs =
          some current →
        current.IsNextFor runtime route.home handle route.notification →
          ((current.takeCovNotification runtime route.home
              handle).2.acknowledgeTaken runtime route.home handle
                route.notification).1 = true →
            route.deliveredCount current <
              route.deliveredCount
                (after.call runtime callback
                  (.pollSingle route.home handle nowMs))

variable {route} {runtime} {callback}

theorem CallAllowed.callAllowed
    {system : ClientSystem τ}
    {call : ClientCall}
    (allowed : route.CallAllowed runtime callback system call) :
    ClientSystem.CallAllowed runtime (route.guard runtime) callback system
      call := by
  refine ⟨fun _ _ => trivial, fun _ _ _ _ => trivial,
    fun current quiet awaits => ?_, allowed.polled⟩
  rw [quiet.client.queued]
  apply allowed.room
  obtain ⟨id, handle, waits, subscribing⟩ := awaits
  rw [(quiet.session id).slot] at waits
  rw [quiet.subscriptions] at subscribing
  exact ⟨id, handle, waits, subscribing⟩

/-- A handle that is polled when the notification is next is given it. -/
theorem given_of_callbacks
    {guard : NotificationGuard τ}
    (callbacks : ClientSystem.CallbackSteps runtime guard callback)
    {system current : ClientSystem τ}
    {handle : SubscriptionId}
    {nowMs : UInt32}
    (welcome : route.welcome handle = true)
    (stage :
      system.pollStage runtime callback route.home handle nowMs =
        some current)
    (next :
      current.IsNextFor runtime route.home handle route.notification)
    (accepted :
      ((current.takeCovNotification runtime route.home
        handle).2.acknowledgeTaken runtime route.home handle
          route.notification).1 = true) :
    route.deliveredCount current <
      route.deliveredCount
        (system.call runtime callback
          (.pollSingle route.home handle nowMs)) := by
  obtain ⟨earlier, before, after⟩ :=
    ClientSystem.delivered_of_isNextFor callbacks stage next accepted
  have isDelivery :
      route.isDelivery
        (.delivered route.home handle route.notification) = true := by
    show (route.home == route.home && route.welcome handle &&
      route.notification == route.notification) = true
    rw [welcome, beq_self_eq_true, beq_self_eq_true]
    rfl
  calc
    route.deliveredCount current
      ≤ earlier.countP route.isDelivery := before.sublist.countP_le
    _ < earlier.countP route.isDelivery + 1 := Nat.lt_succ_self _
    _ = (.delivered route.home handle route.notification ::
          earlier).countP route.isDelivery :=
        (List.countP_cons_of_pos isDelivery).symm
    _ ≤ _ := after.sublist.countP_le

theorem keeps_run
    (callbacks :
      ClientSystem.CallbackSteps runtime (route.guard runtime) callback)
    {system : ClientSystem τ}
    {calls : List ClientCall}
    (allowed :
      EventRun.Along (ClientSystem.call runtime callback)
        (route.CallAllowed runtime callback) system calls) :
    route.Keeps runtime callback system
      (EventRun.run (ClientSystem.call runtime callback) system calls) := by
  refine ⟨?_, fun handle nowMs current welcome stage next accepted =>
    given_of_callbacks callbacks welcome stage next accepted⟩
  refine EventRun.run_invariant_along
    (fun after : ClientSystem τ =>
      route.deliveredCount system + route.waitingCount system +
          after.client.receivedCount route.notification =
        route.deliveredCount after + route.waitingCount after +
          system.client.receivedCount route.notification)
    (fun current call isAllowed balance => ?_) rfl allowed
  have preserves := preserves_of_steps
    (ClientSystem.steps_call callbacks isAllowed.callAllowed)
  have recognised := isAllowed.recognised
  unfold Preserves at preserves
  rw [Option.toList_none, List.count_nil] at preserves
  omega

end

end CovRoute

end BacnetStack
