import BacnetStack.ClientRuns
import Mathlib.Algebra.Order.BigOperators.Group.Finset
import Mathlib.Algebra.Order.Group.Nat

namespace BacnetStack

/-!
# Where a notification is

Every notification that a poll recognised is with the client, with a session,
in the hands of the poll that looks at it, acknowledged, or dropped.  The
acknowledgements of a run are read off its history and counted against the
notifications, and the packets of the traffic are compared with them.
-/

/-- An acknowledgement as the history records it. -/
structure CovAcknowledgement where
  subscription : SubscriptionId
  handle : BacnetPropertySubscription
  endpoint : BacnetIpEndpoint
  notification : BacnetCovNotification
  accepted : Bool
  deriving Repr, DecidableEq

/-- The acknowledgement an event reports, if it reports one. -/
def ClientEvent.acknowledgement? : ClientEvent → Option CovAcknowledgement
  | .acknowledged subscription handle endpoint notification accepted =>
      some {
        subscription := subscription
        handle := handle
        endpoint := endpoint
        notification := notification
        accepted := accepted
      }
  | .callback _ _ | .delivered _ _ _ | .callbackReturned _ _ => none

namespace ClientTraffic

/--
The destination, the invoke id and the fate of a packet that acknowledges a
COV notification.
-/
def covAcknowledgement? :
    ClientTraffic → Option (BacnetIpEndpoint × UInt8 × Bool)
  | .sent destination packet accepted =>
      packet[7]?.bind fun invokeId =>
        if packet =
            simpleAckPacket invokeId kServiceConfirmedCovNotification then
          some (destination, invokeId, accepted)
        else
          none
  | .received _ | .notified _ => none

/-- A datagram was received that carries the given notification. -/
def carries
    (notification : BacnetCovNotification)
    (entry : ClientTraffic) : Bool :=
  entry.arrival? == some notification

theorem covAcknowledgement?_sent
    (destination : BacnetIpEndpoint)
    (invokeId : UInt8)
    (accepted : Bool) :
    (ClientTraffic.sent destination
        (simpleAckPacket invokeId kServiceConfirmedCovNotification)
        accepted).covAcknowledgement? =
      some (destination, invokeId, accepted) :=
  if_pos rfl

/-- Quiet traffic acknowledges nothing. -/
theorem IsQuiet.covAcknowledgement?_eq_none
    {entry : ClientTraffic}
    (quiet : entry.IsQuiet) :
    entry.covAcknowledgement? = none := by
  cases entry with
  | received | notified => rfl
  | sent destination packet accepted =>
      refine Option.bind_eq_none_iff.mpr fun invokeId _ => ?_
      exact if_neg fun isAcknowledgement => quiet ⟨invokeId, isAcknowledgement⟩

/-- Quiet traffic holds no recognised notification. -/
theorem IsQuiet.ne_notified
    {entry : ClientTraffic}
    (quiet : entry.IsQuiet)
    (notification : BacnetCovNotification) :
    entry ≠ .notified notification := by
  rintro rfl
  exact quiet

end ClientTraffic

namespace BacnetClient

variable {τ : Type}

/-- How often a poll recognised a notification. -/
def notifiedCount
    (client : BacnetClient τ)
    (notification : BacnetCovNotification) : Nat :=
  client.traffic.count (.notified notification)

/-- How many datagrams with a notification were received. -/
def receivedCount
    (client : BacnetClient τ)
    (notification : BacnetCovNotification) : Nat :=
  client.traffic.countP (ClientTraffic.carries notification)

/--
A client sent no acknowledgement.  What it had, and what it recognised in a
datagram meanwhile, it still has, gave away as `taken`, or dropped.
-/
structure Moves
    (before after : BacnetClient τ)
    (taken : Option BacnetCovNotification)
    (dropped : List BacnetCovNotification) : Prop where
  acknowledged :
    after.traffic.filterMap ClientTraffic.covAcknowledgement? =
      before.traffic.filterMap ClientTraffic.covAcknowledgement?
  balance :
    ∀ notification,
      after.queuedCovNotifications.entries.count notification +
          taken.toList.count notification + dropped.count notification +
          before.notifiedCount notification =
        before.queuedCovNotifications.entries.count notification +
          after.notifiedCount notification
  received :
    ∀ notification,
      after.notifiedCount notification +
          before.receivedCount notification ≤
        before.notifiedCount notification +
          after.receivedCount notification

namespace Moves

/-- Nothing but the queue of a client differs. -/
theorem of_traffic
    {before after : BacnetClient τ}
    (traffic : after.traffic = before.traffic)
    {taken : Option BacnetCovNotification}
    {dropped : List BacnetCovNotification}
    (balance :
      ∀ notification,
        after.queuedCovNotifications.entries.count notification +
            taken.toList.count notification + dropped.count notification =
          before.queuedCovNotifications.entries.count notification) :
    before.Moves after taken dropped := by
  refine ⟨by rw [traffic], fun notification => ?_, fun notification => ?_⟩
  · unfold notifiedCount
    rw [traffic, balance notification]
  · unfold notifiedCount receivedCount
    rw [traffic]

theorem refl (client : BacnetClient τ) : client.Moves client none [] :=
  .of_traffic rfl fun _ => rfl

/-- The client drops its queue. -/
theorem clear
    {before after : BacnetClient τ}
    (traffic : after.traffic = before.traffic)
    (queued : after.queuedCovNotifications = .empty) :
    before.Moves after none before.queuedCovNotifications.entries := by
  refine .of_traffic traffic fun notification => ?_
  rw [queued]
  exact Nat.zero_add _

/-- Requests and reads move no notification. -/
theorem of_quiet
    {before after : BacnetClient τ}
    (quiet : before.QuietStep after) :
    before.Moves after none [] := by
  obtain ⟨new, traffic, isQuiet⟩ := quiet.traffic
  have acknowledged :
      new.filterMap ClientTraffic.covAcknowledgement? = [] := by
    refine List.filterMap_eq_nil_iff.mpr fun entry isMember => ?_
    exact (isQuiet entry isMember).covAcknowledgement?_eq_none
  have notified (notification : BacnetCovNotification) :
      after.notifiedCount notification =
        before.notifiedCount notification := by
    have none : new.count (.notified notification) = 0 := by
      refine List.count_eq_zero.mpr fun isMember => ?_
      exact (isQuiet _ isMember).ne_notified notification rfl
    unfold notifiedCount
    rw [traffic, List.count_append, none, Nat.zero_add]
  refine ⟨?_, fun notification => ?_, fun notification => ?_⟩
  · rw [traffic, List.filterMap_append, acknowledged, List.nil_append]
  · rw [quiet.queued, notified]
    rfl
  · rw [notified]
    unfold receivedCount
    rw [traffic, List.countP_append]
    omega

/-- A datagram is received and recognised as a notification. -/
theorem recognised
    (runtime : ClientRuntime τ)
    {client received : BacnetClient τ}
    {datagram : ReceivedDatagram}
    {notification : BacnetCovNotification}
    (receives : client.receive runtime = (some datagram, received))
    (carried : datagram.covNotification? = some notification) :
    client.Moves (received.noteNotification notification)
      (some notification) [] := by
  have shape :
      received.traffic = .received datagram :: client.traffic ∧
        received.queuedCovNotifications = client.queuedCovNotifications := by
    unfold receive at receives
    split at receives
    · exact nomatch receives
    · obtain ⟨isSame, rfl⟩ := Prod.mk.inj receives
      obtain rfl := Option.some.inj isSame
      exact ⟨rfl, rfl⟩
  have traffic :
      (received.noteNotification notification).traffic =
        .notified notification :: .received datagram :: client.traffic :=
    congrArg _ shape.1
  have notified (other : BacnetCovNotification) :
      (received.noteNotification notification).notifiedCount other =
        client.notifiedCount other + [notification].count other := by
    have unequal :
        (ClientTraffic.received datagram == .notified other) = false := rfl
    have equal :
        (ClientTraffic.notified notification == .notified other) =
          (notification == other) := by
      by_cases same : notification = other
      · subst same
        rw [beq_self_eq_true, beq_self_eq_true]
      · rw [beq_false_of_ne same, beq_false_of_ne]
        exact fun isSame => same (ClientTraffic.notified.inj isSame)
    unfold notifiedCount
    rw [traffic, List.count_cons, List.count_cons, unequal,
      if_neg Bool.false_ne_true, List.count_singleton, equal]
    rfl
  refine ⟨by rw [traffic]; rfl, fun other => ?_, fun other => ?_⟩
  · show received.queuedCovNotifications.entries.count other + _ + _ + _ = _
    rw [shape.2, notified, Option.toList_some, List.count_nil]
    omega
  · have arrived :
        (received.noteNotification notification).receivedCount other =
          client.receivedCount other + [notification].count other := by
      have isCarried :
          ClientTraffic.carries other (.received datagram) =
            (notification == other) := by
        show (datagram.covNotification? == some other) = _
        rw [carried]
        rfl
      have notCarried :
          ClientTraffic.carries other (.notified notification) = false := rfl
      unfold receivedCount
      rw [traffic, List.countP_cons, List.countP_cons, notCarried,
        if_neg Bool.false_ne_true, isCarried, List.count_singleton]
      rfl
    rw [notified, arrived]
    omega

end Moves

variable (runtime : ClientRuntime τ) (client : BacnetClient τ)

/-- The next notification leaves the queue, or was just recognised. -/
theorem moves_nextCovNotification :
    client.Moves (client.nextCovNotification runtime).2
      (client.nextCovNotification runtime).1 [] := by
  unfold nextCovNotification
  split
  · exact .refl client
  · split
    · rename_i notification rest shape
      refine .of_traffic ?_ fun other => ?_
      · rfl
      · rw [BoundedQueue.takeFirst_eq_some_iff.mp shape, Option.toList_some,
          List.count_nil, List.count_cons, List.count_cons,
          List.count_nil, Nat.zero_add]
        rfl
    · split
      · rename_i received receives
        have quiet := client.quiet_receive runtime
        rw [receives] at quiet
        exact .of_quiet quiet
      · rename_i datagram received receives
        split
        · have quiet := client.quiet_receive runtime
          rw [receives] at quiet
          exact .of_quiet quiet
        · rename_i notification carried
          exact .recognised runtime receives carried

theorem moves_pollCovNotification :
    client.Moves (client.pollCovNotification runtime false).2
      (client.pollCovNotification runtime false).1 [] := by
  have moves := client.moves_nextCovNotification runtime
  unfold pollCovNotification
  split
  all_goals
    rename_i shape
    rw [shape] at moves
    exact moves

/-- A notification that arrives instead of an answer is queued. -/
theorem moves_pollSubscribeCov
    (invokeId service : UInt8)
    (peer : Option BacnetIpEndpoint) :
    ∃ dropped,
      client.Moves
          (client.pollSubscribeCov runtime invokeId service peer).2 none
          dropped ∧
        dropped ⊆ client.queuedCovNotifications.displaced := by
  have quiet := client.quiet_receive runtime
  unfold pollSubscribeCov
  split
  · split
    · rename_i received receives
      rw [receives] at quiet
      exact ⟨[], .of_quiet quiet, List.nil_subset _⟩
    · rename_i datagram received receives
      rw [receives] at quiet
      split
      · rename_i notification carried
        have recognised := Moves.recognised runtime receives carried
        refine ⟨received.queuedCovNotifications.displaced,
          ⟨recognised.acknowledged, fun other => ?_, recognised.received⟩,
          ?_⟩
        · have balance := recognised.balance other
          have pushed :=
            received.queuedCovNotifications.count_push notification other
          rw [Option.toList_some, List.count_nil, Nat.add_zero] at balance
          rw [Option.toList_none, List.count_nil, Nat.add_zero]
          show (received.queuedCovNotifications.push
            notification).entries.count other + _ + _ = _
          rw [pushed]
          exact balance
        · rw [quiet.queued]
          exact List.Subset.refl _
      · split
        · exact ⟨[], .of_quiet quiet, List.nil_subset _⟩
        · exact ⟨[], .of_quiet quiet, List.nil_subset _⟩
  · exact ⟨[], .refl client, List.nil_subset _⟩

end BacnetClient

namespace ClientSystem

variable {τ : Type}

/-- The acknowledgements of a run, newest first. -/
def acknowledgements (system : ClientSystem τ) : List CovAcknowledgement :=
  system.history.filterMap ClientEvent.acknowledgement?

/-- How often a notification was acknowledged with success. -/
def acknowledgedCount
    (system : ClientSystem τ)
    (notification : BacnetCovNotification) : Nat :=
  system.acknowledgements.countP fun acknowledgement =>
    acknowledgement.accepted &&
      acknowledgement.notification == notification

/-- How often a notification waits at the client and at some sessions. -/
def waitingCount
    (system : ClientSystem τ)
    (ids : Finset SessionId)
    (notification : BacnetCovNotification) : Nat :=
  system.client.queuedCovNotifications.entries.count notification +
    ∑ id ∈ ids,
      (system.sessions id).pendingCovNotifications.entries.count notification

/-- What an acknowledgement has to meet. -/
structure Justifies
    (system : ClientSystem τ)
    (acknowledgement : CovAcknowledgement) : Prop where
  covActive : acknowledgement.handle.covActive = true
  confirmed : acknowledgement.notification.confirmed = true
  matched :
    acknowledgement.notification.IsFor acknowledgement.endpoint
      acknowledgement.handle
  endpoint :
    ∃ id, acknowledgement.handle.session = some id ∧
      (system.sessions id).endpoint = acknowledgement.endpoint

/--
The acknowledgements of a run, while a poll holds a notification in its
hands: each is justified and was sent, and there are no more of them than
notifications that were recognised and are nowhere else.
-/
structure CovLedger
    (system : ClientSystem τ)
    (held : Option BacnetCovNotification) : Prop where
  justified :
    ∀ acknowledgement ∈ system.acknowledgements,
      system.Justifies acknowledgement
  sent :
    system.client.traffic.filterMap ClientTraffic.covAcknowledgement? =
      system.acknowledgements.map fun acknowledgement =>
        (acknowledgement.endpoint, acknowledgement.notification.invokeId,
          acknowledgement.accepted)
  accounted :
    ∀ notification ids,
      system.acknowledgedCount notification +
          system.waitingCount ids notification +
          held.toList.count notification ≤
        system.client.notifiedCount notification
  received :
    ∀ notification,
      system.client.notifiedCount notification ≤
        system.client.receivedCount notification

theorem waitingCount_mono
    (system : ClientSystem τ)
    {ids more : Finset SessionId}
    (subset : ids ⊆ more)
    (notification : BacnetCovNotification) :
    system.waitingCount ids notification ≤
      system.waitingCount more notification :=
  Nat.add_le_add_left
    (Finset.sum_le_sum_of_subset subset) _

/-- The pending notifications of one session change. -/
theorem waitingCount_setSession
    (system : ClientSystem τ)
    {ids : Finset SessionId}
    {id : SessionId}
    (isMember : id ∈ ids)
    (session : BacnetDeviceSession)
    (notification : BacnetCovNotification) :
    (system.setSession id session).waitingCount ids notification +
        (system.sessions id).pendingCovNotifications.entries.count
          notification =
      system.waitingCount ids notification +
        session.pendingCovNotifications.entries.count notification := by
  have others :
      ∑ other ∈ ids.erase id,
          ((system.setSession id session).sessions
            other).pendingCovNotifications.entries.count notification =
        ∑ other ∈ ids.erase id,
          (system.sessions other).pendingCovNotifications.entries.count
            notification := by
    refine Finset.sum_congr rfl fun other isOther => ?_
    show (Function.update system.sessions id session
      other).pendingCovNotifications.entries.count notification = _
    rw [Function.update_of_ne (Finset.ne_of_mem_erase isOther)]
  unfold waitingCount
  rw [← Finset.add_sum_erase ids _ isMember, others,
    ← Finset.add_sum_erase ids
      (fun other =>
        (system.sessions other).pendingCovNotifications.entries.count
          notification) isMember,
    sessions_setSession_self]
  show system.client.queuedCovNotifications.entries.count notification +
    _ + _ = _
  omega

/-- Only the queue of the client holds something else. -/
theorem waitingCount_of_pending
    {before after : ClientSystem τ}
    (pending :
      ∀ id, (after.sessions id).pendingCovNotifications =
        (before.sessions id).pendingCovNotifications)
    (ids : Finset SessionId)
    (notification : BacnetCovNotification) :
    after.waitingCount ids notification +
        before.client.queuedCovNotifications.entries.count notification =
      before.waitingCount ids notification +
        after.client.queuedCovNotifications.entries.count notification := by
  have same :
      ∑ id ∈ ids,
          (after.sessions id).pendingCovNotifications.entries.count
            notification =
        ∑ id ∈ ids,
          (before.sessions id).pendingCovNotifications.entries.count
            notification :=
    Finset.sum_congr rfl fun id _ => by rw [pending id]
  unfold waitingCount
  rw [same]
  omega

theorem Justifies.of_endpoint
    {before after : ClientSystem τ}
    {acknowledgement : CovAcknowledgement}
    (justified : before.Justifies acknowledgement)
    (endpoint :
      ∀ id, (after.sessions id).endpoint = (before.sessions id).endpoint) :
    after.Justifies acknowledgement := by
  obtain ⟨id, session, isEndpoint⟩ := justified.endpoint
  exact ⟨justified.covActive, justified.confirmed, justified.matched, id,
    session, (endpoint id).trans isEndpoint⟩

namespace CovLedger

variable {system after : ClientSystem τ}

/-- A notification that was held is dropped. -/
theorem drop
    {held : Option BacnetCovNotification}
    (ledger : system.CovLedger held) :
    system.CovLedger none :=
  ⟨ledger.justified, ledger.sent,
    fun notification ids =>
      Nat.le_trans (Nat.le_add_right _ _) (ledger.accounted notification ids),
    ledger.received⟩

/-- The client moves notifications, and the sessions keep theirs. -/
theorem of_client
    (ledger : system.CovLedger none)
    {taken : Option BacnetCovNotification}
    (acknowledgements : after.acknowledgements = system.acknowledgements)
    (endpoint :
      ∀ id, (after.sessions id).endpoint = (system.sessions id).endpoint)
    (pending :
      ∀ id, (after.sessions id).pendingCovNotifications =
        (system.sessions id).pendingCovNotifications)
    {dropped : List BacnetCovNotification}
    (moves : system.client.Moves after.client taken dropped) :
    after.CovLedger taken := by
  refine ⟨fun acknowledgement isMember => ?_, ?_,
    fun notification ids => ?_, fun notification => ?_⟩
  · rw [acknowledgements] at isMember
    exact (ledger.justified acknowledgement isMember).of_endpoint endpoint
  · rw [moves.acknowledged, acknowledgements]
    exact ledger.sent
  · have accounted := ledger.accounted notification ids
    have balance := moves.balance notification
    have waiting := waitingCount_of_pending pending ids notification
    rw [Option.toList_none, List.count_nil] at accounted
    unfold acknowledgedCount at accounted ⊢
    rw [acknowledgements]
    omega
  · have received := moves.received notification
    have before := ledger.received notification
    omega

/-- What a session has pending and a poll holds may be exchanged. -/
theorem setSession
    {held taken : Option BacnetCovNotification}
    (ledger : system.CovLedger held)
    {id : SessionId}
    {session : BacnetDeviceSession}
    (endpoint : session.endpoint = (system.sessions id).endpoint)
    (balance :
      ∀ notification,
        session.pendingCovNotifications.entries.count notification +
            taken.toList.count notification ≤
          (system.sessions id).pendingCovNotifications.entries.count
              notification +
            held.toList.count notification) :
    (system.setSession id session).CovLedger taken := by
  have endpoints (other : SessionId) :
      ((system.setSession id session).sessions other).endpoint =
        (system.sessions other).endpoint := by
    show (Function.update system.sessions id session other).endpoint = _
    by_cases same : other = id
    · rw [same, Function.update_self]
      exact endpoint
    · rw [Function.update_of_ne same]
  refine ⟨fun acknowledgement isMember =>
      (ledger.justified acknowledgement isMember).of_endpoint endpoints,
    ledger.sent, fun notification ids => ?_, ledger.received⟩
  have accounted := ledger.accounted notification (insert id ids)
  have waiting := system.waitingCount_setSession
    (Finset.mem_insert_self id ids) session notification
  have mono := (system.setSession id session).waitingCount_mono
    (Finset.subset_insert id ids) notification
  have exchanged := balance notification
  show system.acknowledgedCount notification + _ + _ ≤
    system.client.notifiedCount notification
  omega

/-- A notification that was held waits at a session again. -/
theorem queue
    {notification : BacnetCovNotification}
    (ledger : system.CovLedger (some notification))
    (id : SessionId) :
    (system.setSession id
      ((system.sessions id).queueCovNotification notification)).CovLedger
        none :=
  ledger.setSession rfl fun other =>
    (system.sessions id).pendingCovNotifications.count_push_le
      notification other

/-- A poll takes a notification for a handle, or puts another one aside. -/
theorem take
    {runtime : ClientRuntime τ}
    (ledger : system.CovLedger none)
    {id : SessionId}
    {handle : SubscriptionId}
    {taken : Option BacnetCovNotification}
    (takes :
      system.takeCovNotification runtime id handle = (taken, after)) :
    after.CovLedger taken := by
  have moves := system.client.moves_pollCovNotification runtime
  have polled :
      (system.onClient fun client =>
        client.pollCovNotification runtime false).2.CovLedger
          (system.client.pollCovNotification runtime false).1 :=
    ledger.of_client rfl (fun _ => rfl) (fun _ => rfl) moves
  cases takes_takeCovNotification takes with
  | pending found =>
      refine ledger.setSession rfl fun other => ?_
      rw [BoundedQueue.count_takeMatching found other, Option.toList_some]
      exact Nat.le_add_right _ _
  | none _ isNone =>
      rw [isNone] at polled
      exact polled
  | wanted _ isSome =>
      rw [isSome] at polled
      exact polled
  | aside _ isSome =>
      rw [isSome] at polled
      exact polled.queue id

/-- An acknowledgement is one packet, for the sender of the notification. -/
theorem onClient_acknowledgeCovNotification
    (runtime : ClientRuntime τ)
    {notification : BacnetCovNotification}
    (confirmed : notification.confirmed = true) :
    (system.onClient fun client =>
        client.acknowledgeCovNotification runtime notification) =
      system.onClient fun client =>
        client.send runtime notification.source
          (simpleAckPacket notification.invokeId
            kServiceConfirmedCovNotification) := by
  have sends (client : BacnetClient τ) :
      client.acknowledgeCovNotification runtime notification =
        client.send runtime notification.source
          (simpleAckPacket notification.invokeId
            kServiceConfirmedCovNotification) :=
    if_pos confirmed
  exact congrArg system.onClient (funext sends)

/-- One more acknowledgement, of the notification that is held. -/
theorem acknowledged
    (acknowledgement : CovAcknowledgement)
    (ledger : system.CovLedger (some acknowledgement.notification))
    (acknowledgements :
      after.acknowledgements = acknowledgement :: system.acknowledgements)
    (traffic :
      after.client.traffic =
        .sent acknowledgement.endpoint
          (simpleAckPacket acknowledgement.notification.invokeId
            kServiceConfirmedCovNotification)
          acknowledgement.accepted :: system.client.traffic)
    (queued :
      after.client.queuedCovNotifications =
        system.client.queuedCovNotifications)
    (sessions : after.sessions = system.sessions)
    (justified : system.Justifies acknowledgement) :
    after.CovLedger
      (if acknowledgement.accepted then none
        else some acknowledgement.notification) := by
  have endpoint (id : SessionId) :
      (after.sessions id).endpoint = (system.sessions id).endpoint := by
    rw [sessions]
  have notified (notification : BacnetCovNotification) :
      after.client.notifiedCount notification =
        system.client.notifiedCount notification := by
    unfold BacnetClient.notifiedCount
    rw [traffic]
    refine List.count_cons_of_ne ?_
    exact nofun
  have received (notification : BacnetCovNotification) :
      after.client.receivedCount notification =
        system.client.receivedCount notification := by
    unfold BacnetClient.receivedCount
    rw [traffic]
    exact List.countP_cons_of_neg nofun
  refine ⟨fun other isMember => ?_, ?_, fun notification ids => ?_,
    fun notification => ?_⟩
  · rw [acknowledgements] at isMember
    rcases List.mem_cons.mp isMember with rfl | isEarlier
    · exact justified.of_endpoint endpoint
    · exact (ledger.justified other isEarlier).of_endpoint endpoint
  · rw [traffic, acknowledgements, List.map_cons, ← ledger.sent]
    exact List.filterMap_cons_some
      (ClientTraffic.covAcknowledgement?_sent _ _ _)
  · have accounted := ledger.accounted notification ids
    have waiting :
        after.waitingCount ids notification =
          system.waitingCount ids notification := by
      unfold waitingCount
      rw [queued, sessions]
    unfold acknowledgedCount at accounted ⊢
    rw [notified, waiting, acknowledgements, List.countP_cons]
    rw [Option.toList_some, List.count_singleton] at accounted
    cases acknowledgement.accepted with
    | false =>
        rw [Bool.false_and, if_neg Bool.false_ne_true,
          if_neg Bool.false_ne_true, Option.toList_some,
          List.count_singleton]
        exact accounted
    | true =>
        rw [Bool.true_and, if_pos rfl, Option.toList_none, List.count_nil]
        omega
  · rw [notified, received]
    exact ledger.received notification

/-- An acknowledgement is sent for a notification that is held. -/
theorem acknowledge
    {runtime : ClientRuntime τ}
    {notification : BacnetCovNotification}
    (ledger : system.CovLedger (some notification))
    {id : SessionId}
    {handle : SubscriptionId}
    (own : (system.subscriptions handle).session = some id)
    (covActive : (system.subscriptions handle).covActive = true)
    (matched :
      notification.IsFor (system.sessions id).endpoint
        (system.subscriptions handle))
    {accepted : Bool}
    (acknowledges :
      system.acknowledgeTaken runtime id handle notification =
        (accepted, after)) :
    after.CovLedger (if accepted then none else some notification) := by
  unfold acknowledgeTaken at acknowledges
  split at acknowledges
  · rename_i confirmed
    rw [onClient_acknowledgeCovNotification runtime confirmed,
      matched.source] at acknowledges
    obtain ⟨rfl, rfl⟩ := Prod.mk.inj acknowledges
    refine acknowledged {
        subscription := handle
        handle := system.subscriptions handle
        endpoint := (system.sessions id).endpoint
        notification := notification
        accepted := _
      } ledger rfl rfl rfl rfl ?_
    exact ⟨covActive, confirmed, matched, id, own, rfl⟩
  · obtain ⟨rfl, rfl⟩ := Prod.mk.inj acknowledges
    exact ledger.drop

end CovLedger

end ClientSystem

end BacnetStack
