import BacnetStack.ClientTraffic
import BacnetStack.ClientRuns

namespace BacnetStack

/-!
# Notifications that arrive during a transaction

All transactions of a client read the same socket, so a COV notification can
arrive while any of them is polled.  The poll for a subscribe response keeps
it; the other polls read it and drop it.
-/

/-- A call of a client. -/
inductive ClientOperation where
  | start (bound : Bool)
  | stop
  | idle
  | nowMs
  | sendWhoIs (destination : BacnetIpEndpoint)
  | sendReadProperty
      (destination : BacnetIpEndpoint)
      (request : BacnetPropertyRequest)
      (invokeId : UInt8)
  | sendSubscribeCov
      (destination : BacnetIpEndpoint)
      (processId : UInt32)
      (object : BacnetObjectId)
      (lifetimeSeconds : UInt32)
      (invokeId : UInt8)
      (issueConfirmedNotifications : Bool)
  | sendSubscribeCovProperty
      (destination : BacnetIpEndpoint)
      (processId : UInt32)
      (object : BacnetObjectId)
      (property : BacnetPropertyId)
      (lifetimeSeconds : UInt32)
      (invokeId : UInt8)
      (issueConfirmedNotifications : Bool)
      (arrayIndex : UInt32)
      (hasCovIncrement : Bool)
      (covIncrement : Binary32)
  | sendWriteProperty
      (destination : BacnetIpEndpoint)
      (request : BacnetPropertyRequest)
      (value : BacnetValue)
      (invokeId : UInt8)
  | sendWritePropertyWithOptions
      (destination : BacnetIpEndpoint)
      (object : BacnetObjectId)
      (property : BacnetPropertyId)
      (value : BacnetValue)
      (options : BacnetWritePropertyOptions)
      (invokeId : UInt8)
  | pollIAm
  | pollReadPropertyStatus
      (expectedInvokeId : UInt8)
      (expectedRequest : BacnetPropertyRequest)
  | pollReadPriorityArrayStatus
      (expectedInvokeId : UInt8)
      (expectedRequest : BacnetPropertyRequest)
  | pollWriteProperty (expectedInvokeId : UInt8)
  | pollSubscribeCov
      (expectedInvokeId expectedServiceChoice : UInt8)
      (expectedPeer : Option BacnetIpEndpoint)
  | pollCovNotification (acknowledgeConfirmed : Bool)
  deriving Repr, DecidableEq

namespace ClientOperation

/-- A poll of a read, a write or a discovery. -/
def pollsOther : ClientOperation → Bool
  | .pollIAm | .pollReadPropertyStatus _ _
  | .pollReadPriorityArrayStatus _ _ | .pollWriteProperty _ => true
  | _ => false

/-- A poll of any transaction, a subscription included. -/
def pollsTransaction : ClientOperation → Bool
  | .pollSubscribeCov _ _ _ => true
  | operation => operation.pollsOther

end ClientOperation

namespace BacnetClient

variable {τ : Type} (runtime : ClientRuntime τ)

/-- The client after one call. -/
def operate (client : BacnetClient τ) : ClientOperation → BacnetClient τ
  | .start bound => client.start bound
  | .stop => client.stop
  | .idle => client.idle runtime
  | .nowMs => (client.nowMs runtime).2
  | .sendWhoIs destination => (client.sendWhoIs runtime destination).2
  | .sendReadProperty destination request invokeId =>
      (client.sendReadProperty runtime destination request invokeId).2
  | .sendSubscribeCov destination processId object lifetimeSeconds invokeId
      issueConfirmedNotifications =>
      (client.sendSubscribeCov runtime destination processId object
        lifetimeSeconds invokeId issueConfirmedNotifications).2
  | .sendSubscribeCovProperty destination processId object property
      lifetimeSeconds invokeId issueConfirmedNotifications arrayIndex
      hasCovIncrement covIncrement =>
      (client.sendSubscribeCovProperty runtime destination processId object
        property lifetimeSeconds invokeId issueConfirmedNotifications
        arrayIndex hasCovIncrement covIncrement).2
  | .sendWriteProperty destination request value invokeId =>
      (client.sendWriteProperty runtime destination request value invokeId).2
  | .sendWritePropertyWithOptions destination object property value options
      invokeId =>
      (client.sendWritePropertyWithOptions runtime destination object
        property value options invokeId).2
  | .pollIAm => (client.pollIAm runtime).2
  | .pollReadPropertyStatus expectedInvokeId expectedRequest =>
      (client.pollReadPropertyStatus runtime expectedInvokeId
        expectedRequest).2
  | .pollReadPriorityArrayStatus expectedInvokeId expectedRequest =>
      (client.pollReadPriorityArrayStatus runtime expectedInvokeId
        expectedRequest).2
  | .pollWriteProperty expectedInvokeId =>
      (client.pollWriteProperty runtime expectedInvokeId).2
  | .pollSubscribeCov expectedInvokeId expectedServiceChoice expectedPeer =>
      (client.pollSubscribeCov runtime expectedInvokeId
        expectedServiceChoice expectedPeer).2
  | .pollCovNotification acknowledgeConfirmed =>
      (client.pollCovNotification runtime acknowledgeConfirmed).2

/-- The traffic between two states of a client, newest first. -/
def newTraffic (before after : BacnetClient τ) : List ClientTraffic :=
  after.traffic.take (after.traffic.length - before.traffic.length)

/-- The notifications that arrived between two states of a client. -/
def arrivedNotifications
    (before after : BacnetClient τ) : List BacnetCovNotification :=
  (before.newTraffic after).filterMap ClientTraffic.arrival?

/--
A notification that arrives while a transaction is polled and the queue has
room is kept at the end of the queue.
-/
def KeepsArrival
    (client : BacnetClient τ)
    (operation : ClientOperation) : Prop :=
  operation.pollsTransaction = true →
    ∀ notification ∈
        client.arrivedNotifications (client.operate runtime operation),
      client.queuedCovNotifications.HasRoom →
        (client.operate runtime operation).queuedCovNotifications.entries =
          client.queuedCovNotifications.entries ++ [notification]

/--
No notification arrives while a read, a write or a discovery is polled and
the queue has room.
-/
def NoOtherArrival
    (client : BacnetClient τ)
    (operation : ClientOperation) : Prop :=
  operation.pollsOther = true →
    client.queuedCovNotifications.HasRoom →
      client.arrivedNotifications (client.operate runtime operation) = []

theorem newTraffic_of_append
    {before after : BacnetClient τ}
    {new : List ClientTraffic}
    (traffic : after.traffic = new ++ before.traffic) :
    before.newTraffic after = new := by
  unfold newTraffic
  rw [traffic, List.length_append, Nat.add_sub_cancel]
  exact List.take_left

/-- The other polls leave the queue alone. -/
theorem quiet_operate
    (client : BacnetClient τ)
    {operation : ClientOperation}
    (other : operation.pollsOther = true) :
    client.QuietStep (client.operate runtime operation) := by
  cases operation with
  | pollIAm => exact client.quiet_pollDatagram runtime _ _
  | pollReadPropertyStatus => exact client.quiet_pollDatagram runtime _ _
  | pollReadPriorityArrayStatus =>
      exact client.quiet_pollDatagram runtime _ _
  | pollWriteProperty => exact client.quiet_pollWriteProperty runtime _
  | start | stop | idle | nowMs | sendWhoIs | sendReadProperty
  | sendSubscribeCov | sendSubscribeCovProperty | sendWriteProperty
  | sendWritePropertyWithOptions | pollSubscribeCov
  | pollCovNotification => exact nomatch other

/-- What arrives while a subscription is polled is queued. -/
theorem queued_pollSubscribeCov
    (client : BacnetClient τ)
    (invokeId service : UInt8)
    (peer : Option BacnetIpEndpoint)
    {notification : BacnetCovNotification}
    (arrived :
      notification ∈
        client.arrivedNotifications
          (client.pollSubscribeCov runtime invokeId service peer).2) :
    (client.pollSubscribeCov runtime invokeId service
        peer).2.queuedCovNotifications =
      client.queuedCovNotifications.push notification := by
  have nothing (new : List ClientTraffic)
      {after : BacnetClient τ}
      (traffic : after.traffic = new ++ client.traffic)
      (empty : new.filterMap ClientTraffic.arrival? = []) :
      notification ∉ client.arrivedNotifications after := by
    unfold arrivedNotifications
    rw [newTraffic_of_append traffic, empty]
    exact List.not_mem_nil
  revert arrived
  unfold pollSubscribeCov
  split
  · split
    · rename_i received receives
      obtain ⟨traffic, -⟩ := receive_none receives
      exact fun arrived => absurd arrived (nothing [] traffic rfl)
    · rename_i datagram received receives
      obtain ⟨traffic, queued⟩ := receive_some receives
      split
      · rename_i carriedNotification carried
        intro arrived
        have noted :
            ((received.noteNotification
                carriedNotification).queueCovNotification
                  carriedNotification).traffic =
              [.notified carriedNotification, .received datagram] ++
                client.traffic :=
          congrArg _ traffic
        unfold arrivedNotifications at arrived
        have isCarried :
            (ClientTraffic.received datagram).arrival? =
              some carriedNotification := carried
        rw [newTraffic_of_append noted, List.filterMap_cons_none rfl,
          List.filterMap_cons_some isCarried, List.filterMap_nil] at arrived
        obtain rfl := List.mem_singleton.mp arrived
        show received.queuedCovNotifications.push notification = _
        rw [queued]
      · rename_i notCarried
        have empty :
            [ClientTraffic.received datagram].filterMap
              ClientTraffic.arrival? = [] :=
          List.filterMap_cons_none notCarried
        split
        · exact fun arrived => absurd arrived (nothing _ traffic empty)
        · exact fun arrived => absurd arrived (nothing _ traffic empty)
  · exact fun arrived => absurd arrived (nothing [] rfl rfl)

/-- A queued notification is what the next poll for one answers. -/
theorem pollCovNotification_of_queued
    {client : BacnetClient τ}
    (running : client.running = true)
    {notification : BacnetCovNotification}
    {rest : List BacnetCovNotification}
    (queued :
      client.queuedCovNotifications.entries = notification :: rest) :
    (client.pollCovNotification runtime false).1 = some notification ∧
      (client.pollCovNotification runtime
        false).2.queuedCovNotifications.entries = rest := by
  have bounded : rest.length ≤ kMaxQueuedCovNotifications := by
    have bounded := client.queuedCovNotifications.bounded
    rw [queued] at bounded
    exact Nat.le_of_succ_le bounded
  have taken :
      client.queuedCovNotifications.takeFirst =
        some (notification, ⟨rest, bounded⟩) :=
    BoundedQueue.takeFirst_eq_some_iff.mpr queued
  unfold pollCovNotification nextCovNotification
  rw [running, taken]
  exact ⟨rfl, rfl⟩

/-- One call keeps what arrives, unless it is one of the other polls. -/
theorem keepsArrival_iff
    (client : BacnetClient τ)
    (operation : ClientOperation) :
    client.KeepsArrival runtime operation ↔
      client.NoOtherArrival runtime operation := by
  constructor
  · intro kept other room
    have isTransaction : operation.pollsTransaction = true := by
      cases operation with
      | pollSubscribeCov => rfl
      | _ => exact other
    refine List.eq_nil_iff_forall_not_mem.mpr fun notification arrived => ?_
    have grown := kept isTransaction notification arrived room
    rw [(client.quiet_operate runtime other).queued] at grown
    exact List.cons_ne_nil _ _ (List.self_eq_append_right.mp grown)
  · intro none isTransaction notification arrived room
    by_cases other : operation.pollsOther = true
    · rw [none other room] at arrived
      exact absurd arrived List.not_mem_nil
    · cases operation with
      | pollSubscribeCov invokeId service peer =>
          show (client.pollSubscribeCov runtime invokeId service
            peer).2.queuedCovNotifications.entries = _
          rw [client.queued_pollSubscribeCov runtime invokeId service peer
            arrived]
          exact BoundedQueue.push_of_room room notification
      | _ => exact absurd isTransaction other

/--
Over any calls of a client, a notification that arrives while the queue has
room is kept exactly if none arrives while another transaction is polled.
-/
theorem along_keepsArrival_iff
    (client : BacnetClient τ)
    (operations : List ClientOperation) :
    EventRun.Along (operate runtime) (KeepsArrival runtime) client
        operations ↔
      EventRun.Along (operate runtime) (NoOtherArrival runtime) client
        operations :=
  EventRun.along_congr (keepsArrival_iff runtime)

end BacnetClient

/-- A notification that arrives while a property is read is lost. -/
theorem not_along_keepsArrival :
    ¬∀ (client : BacnetClient (List (Option ReceivedDatagram)))
      (operations : List ClientOperation),
      EventRun.Along (BacnetClient.operate scriptedRuntime)
        (BacnetClient.KeepsArrival scriptedRuntime) client operations := by
  intro always
  have kept := always
    { transport := [some (scriptedNotification scriptedPeer 1 false 0)] }
    [.start true, .pollReadPropertyStatus 1 {}]
  have missed :=
    (BacnetClient.keepsArrival_iff scriptedRuntime _ _).mp kept.2.1 rfl
      (by decide +kernel)
  exact absurd missed (by decide +kernel)

end BacnetStack
