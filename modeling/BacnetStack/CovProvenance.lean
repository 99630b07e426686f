import BacnetStack.ClientCovTally
import BacnetStack.ServerCovOrigin
import Mathlib.Data.List.Perm.Subperm

namespace BacnetStack

open EventRun

/-!
# Notifications between a server and a client

A run of a server and a run of a client, with a network in between that may
lose, delay, reorder and, where nothing else is said, repeat datagrams.
Whatever a handle of the client is given was read by the server from the
object it subscribed to, and nothing is given more often than it was sent.
-/

/-- The packet an event makes a server hand to its transport. -/
def BacnetServer.sentPacket?
    (server : BacnetServer) : ServerEvent → Option (List UInt8)
  | .poll input => (server.poll input).datagram.map Datagram.packet
  | .setObjects _ | .start _ _ _ | .stop | .setTransport | .setClock _
  | .setLocalWritePriority _ => none

/-- The packets of a run, in order. -/
def BacnetServer.sentPackets
    (server : BacnetServer) : List ServerEvent → List (List UInt8)
  | [] => []
  | event :: rest =>
      (server.sentPacket? event).toList ++
        (server.step event).sentPackets rest

/-- Every packet of a run was built by one of its polls. -/
theorem BacnetServer.poll_of_mem_sentPackets
    {server : BacnetServer}
    {events : List ServerEvent}
    {packet : List UInt8}
    (isSent : packet ∈ server.sentPackets events) :
    ∃ earlier later input datagram,
      events = earlier ++ .poll input :: later ∧
        ((run BacnetServer.step server earlier).poll input).datagram =
          some datagram ∧
        datagram.packet = packet := by
  induction events generalizing server with
  | nil => cases isSent
  | cons event rest inductionHypothesis =>
      rcases List.mem_append.mp isSent with isFirst | isLater
      · have first := Option.mem_toList.mp isFirst
        cases event with
        | poll input =>
            obtain ⟨datagram, built, isPacket⟩ :=
              Option.map_eq_some_iff.mp first
            exact ⟨[], rest, input, datagram, rfl, built, isPacket⟩
        | setObjects => cases first
        | start => cases first
        | stop => cases first
        | setTransport => cases first
        | setClock => cases first
        | setLocalWritePriority => cases first
      · obtain ⟨earlier, later, input, datagram, rfl, built, isPacket⟩ :=
          inductionHypothesis isLater
        exact ⟨event :: earlier, later, input, datagram, rfl, built,
          isPacket⟩

namespace BacnetClient

variable {τ : Type}

/-- The packet of an entry that came from a peer. -/
def packetFrom?
    (peer : BacnetIpEndpoint) : ClientTraffic → Option (List UInt8)
  | .received datagram =>
      if datagram.source = peer then some datagram.packet else none
  | .sent _ _ _ | .notified _ => none

/-- The packets a client received from a peer. -/
def receivedFrom
    (client : BacnetClient τ)
    (peer : BacnetIpEndpoint) : List (List UInt8) :=
  client.traffic.filterMap (packetFrom? peer)

end BacnetClient

/-- The packet is parsed as the notification, its source aside. -/
def carriesNotification
    (notification : BacnetCovNotification)
    (packet : List UInt8) : Bool :=
  (parseCovNotification packet).map (fun parsed =>
    { parsed with source := notification.source }) == some notification

/-- An entry with a notification from a peer has such a packet. -/
theorem packetFrom?_of_carries
    {notification : BacnetCovNotification}
    {entry : ClientTraffic}
    (carries : entry.carries notification = true) :
    ((BacnetClient.packetFrom? notification.source entry).map
      (carriesNotification notification)).getD false = true := by
  have arrived : entry.arrival? = some notification := beq_iff_eq.mp carries
  cases entry with
  | received datagram =>
      obtain ⟨parsed, isParsed, rfl⟩ := Option.map_eq_some_iff.mp arrived
      unfold BacnetClient.packetFrom?
      dsimp only
      rw [if_pos rfl, Option.map_some, Option.getD_some,
        carriesNotification, isParsed, Option.map_some]
      exact beq_self_eq_true _
  | sent => cases arrived
  | notified => cases arrived

/-- How often a notification arrived is seen at the packets of its sender. -/
theorem BacnetClient.receivedCount_le {τ : Type}
    (client : BacnetClient τ)
    (notification : BacnetCovNotification) :
    client.receivedCount notification ≤
      (client.receivedFrom notification.source).countP
        (carriesNotification notification) := by
  unfold receivedCount receivedFrom
  rw [List.countP_filterMap]
  apply List.countP_mono_left
  intro entry _ carries
  exact packetFrom?_of_carries carries

namespace ClientSystem

variable {τ : Type} (runtime : ClientRuntime τ)
  (application : ClientApplication τ) (depth : Nat)

/--
Every notification a handle is given by the session of a server has an origin
in the run of that server, however the network delays, reorders, loses or
repeats its packets.
-/
theorem delivered_hasOrigin
    (events : List ServerEvent)
    {system : ClientSystem τ}
    (initial : system.IsInitial)
    (steps : List ClientStep)
    {peer : BacnetIpEndpoint}
    (genuine :
      (system.run runtime (application.callback runtime depth)
          steps).client.receivedFrom peer ⊆
        BacnetServer.sentPackets {} events)
    {id : SessionId}
    {handle : SubscriptionId}
    {notification : BacnetCovNotification}
    (isGiven :
      .delivered id handle notification ∈
        (system.run runtime (application.callback runtime depth)
          steps).history)
    (fromPeer :
      ((system.run runtime (application.callback runtime depth)
        steps).sessions id).endpoint = peer) :
    ∃ earlier later input index original datagram,
      events = earlier ++ .poll input :: later ∧
        NotificationOrigin earlier input index original datagram
          notification := by
  have safe := givesSafely_run runtime application depth initial steps
  have source := safe.source id handle notification isGiven
  rw [fromPeer] at source
  have isCounted :
      0 < (system.run runtime (application.callback runtime depth)
        steps).givenCount notification := by
    refine List.countP_pos_iff.mpr ⟨_, isGiven, ?_⟩
    exact beq_self_eq_true notification
  have arrived := isCounted.trans_le
    ((safe.once notification).trans
      (BacnetClient.receivedCount_le _ notification))
  obtain ⟨packet, isReceived, carries⟩ := List.countP_pos_iff.mp arrived
  rw [source] at isReceived
  obtain ⟨earlier, later, input, datagram, shape, sent, rfl⟩ :=
    BacnetServer.poll_of_mem_sentPackets (genuine isReceived)
  obtain ⟨parsed, isParsed, same⟩ :=
    Option.map_eq_some_iff.mp (beq_iff_eq.mp carries)
  obtain ⟨index, original, origin⟩ :=
    notification_hasOrigin earlier sent isParsed
  refine ⟨earlier, later, input, index, original, datagram, shape, ?_⟩
  rw [← same]
  exact ⟨origin.sent, origin.inUse, origin.destination, origin.processId,
    origin.object, origin.confirmed, origin.references, origin.read,
    origin.properties⟩

/--
A network that repeats no packet lets no notification of a server reach
handles more often than the server sent it.
-/
theorem given_le_sent
    (events : List ServerEvent)
    {system : ClientSystem τ}
    (initial : system.IsInitial)
    (steps : List ClientStep)
    (notification : BacnetCovNotification)
    (genuine :
      ((system.run runtime (application.callback runtime depth)
          steps).client.receivedFrom notification.source).Subperm
        (BacnetServer.sentPackets {} events)) :
    (system.run runtime (application.callback runtime depth)
        steps).givenCount notification ≤
      (BacnetServer.sentPackets {} events).countP
        (carriesNotification notification) := by
  have safe := givesSafely_run runtime application depth initial steps
  calc
    (system.run runtime (application.callback runtime depth)
        steps).givenCount notification
      ≤ (system.run runtime (application.callback runtime depth)
          steps).client.receivedCount notification := safe.once notification
    _ ≤ ((system.run runtime (application.callback runtime depth)
          steps).client.receivedFrom notification.source).countP
          (carriesNotification notification) :=
        BacnetClient.receivedCount_le _ notification
    _ ≤ _ := genuine.countP_le _

end ClientSystem

/-- The server acknowledges a subscribe request and reports the value. -/
def reportedEvents : List ServerEvent :=
  reportedRun ++ [.poll {}]

/-- A client that receives what the server of that run sends. -/
def reportedSystem : ClientSystem (List (Option ReceivedDatagram)) :=
  (scriptedSystem
      ((BacnetServer.sentPackets {} reportedEvents).map fun packet =>
        some ⟨scriptedPeer, packet⟩)).run
    scriptedRuntime
    ((ClientApplication.observer _).callback scriptedRuntime 0)
    [.startClient true,
      .call (.subscribe 0 0 ⟨BacnetObjectType.analogValue, 1⟩ .presentValue
        kBacnetNoArrayIndex { preferCov := true } true 0),
      .call (.pollSingle 0 0 0), .call (.pollSingle 0 0 1),
      .call (.pollSingle 0 0 2)]

/-- The notification its handle is given. -/
def reportedNotification : BacnetCovNotification where
  processId := 0x00800001
  object := ⟨BacnetObjectType.analogValue, 1⟩
  value := { realValue .one with text := asciiBytes "1.000" }
  properties := [
    { property := .presentValue
      value := { realValue .one with text := asciiBytes "1.000" } },
    { property := .statusFlags
      value := {
        bitStringOf 0 4 with text := asciiBytes "bits=0x00000000/4" } }]
  source := scriptedPeer

theorem delivered_hasOrigin_reportedSystem :
    ∃ earlier later input index original datagram,
      reportedEvents = earlier ++ .poll input :: later ∧
        NotificationOrigin earlier input index original datagram
          reportedNotification :=
  ClientSystem.delivered_hasOrigin scriptedRuntime
    (ClientApplication.observer _) 0 reportedEvents
    (isInitial_scriptedSystem _) _
    (show reportedSystem.client.receivedFrom scriptedPeer ⊆ _ by
      decide +kernel)
    (show .delivered 0 0 reportedNotification ∈ reportedSystem.history by
      decide +kernel)
    (show (reportedSystem.sessions 0).endpoint = scriptedPeer from rfl)

theorem given_le_sent_reportedSystem :
    reportedSystem.givenCount reportedNotification ≤
      (BacnetServer.sentPackets {} reportedEvents).countP
        (carriesNotification reportedNotification) :=
  ClientSystem.given_le_sent scriptedRuntime
    (ClientApplication.observer _) 0 reportedEvents
    (isInitial_scriptedSystem _) _ reportedNotification
    (show (reportedSystem.client.receivedFrom scriptedPeer).Subperm _ by
      decide +kernel)

end BacnetStack
