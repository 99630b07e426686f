import BacnetStack.ClientRuns
import BacnetStack.ServerObjectList
import BacnetStack.ServerReplies

namespace BacnetStack

open EventRun

/-!
# Discovery

Clients ask a network who is there, and the servers on it announce
themselves.  The servers do whatever they do, for whomever they do it, and
the network may lose, delay, reorder and repeat what they send.  What a
client hears was announced, and what was announced and delivered is heard.
-/

/-- A session with a device at a known endpoint. -/
def BacnetDeviceSession.fromEndpoint
    (deviceInstance : UInt32)
    (endpoint : BacnetIpEndpoint) : BacnetDeviceSession where
  deviceInstance := deviceInstance
  endpoint := endpoint

/-- A session with a discovered device; port 0 keeps the discovered port. -/
def BacnetDeviceSession.fromIAm
    (device : BacnetIAmDevice)
    (portOverride : UInt16) : BacnetDeviceSession :=
  let discoveredEndpoint :=
    if portOverride ≠ 0 then { device.endpoint with port := portOverride }
    else device.endpoint
  .fromEndpoint device.info.deviceInstance discoveredEndpoint

/-- Servers, what they sent, and a client with its inbox. -/
structure DiscoveryNetwork where
  servers : Nat → BacnetServer := fun _ => {}
  /-- Everything that was sent and may still be delivered, oldest first. -/
  inFlight : List ReceivedDatagram := []
  client : BacnetClient (List (Option ReceivedDatagram)) :=
    { transport := [] }
  /-- The devices the client was told of, newest first. -/
  heard : List BacnetIAmDevice := []

/-- What may happen on the network. -/
inductive DiscoveryEvent where
  | server (index : Nat) (event : ServerEvent)
  /-- A datagram in flight reaches the client; it may do so again. -/
  | deliver (position : Nat)
  | pollIAm
  | startClient (bound : Bool)
  | stopClient

namespace DiscoveryNetwork

variable (endpointOf : Nat → BacnetIpEndpoint)

/-- The datagram that an event of a server puts on the network. -/
def sentBy
    (endpoint : BacnetIpEndpoint)
    (server : BacnetServer) : ServerEvent → Option ReceivedDatagram
  | .poll input =>
      if input.sendSucceeds then
        (server.poll input).datagram.map fun datagram =>
          ⟨endpoint, datagram.packet⟩
      else
        none
  | .setObjects _ | .start _ _ _ | .stop | .setTransport | .setClock _
  | .setLocalWritePriority _ => none

/-- The client polls for an announcement, and notes what it is told. -/
def poll (network : DiscoveryNetwork) : DiscoveryNetwork :=
  let (device, client) := network.client.pollIAm scriptedRuntime
  { network with
    client := client
    heard := device.toList ++ network.heard }

/-- The network after an event. -/
def step
    (network : DiscoveryNetwork) : DiscoveryEvent → DiscoveryNetwork
  | .server index event =>
      { network with
        servers :=
          Function.update network.servers index
            ((network.servers index).step event)
        inFlight :=
          network.inFlight ++
            (sentBy (endpointOf index) (network.servers index)
              event).toList }
  | .deliver position =>
      match network.inFlight[position]? with
      | none => network
      | some datagram =>
          { network with
            client :=
              { network.client with
                transport := network.client.transport ++ [some datagram] } }
  | .pollIAm => network.poll
  | .startClient bound =>
      { network with client := network.client.start bound }
  | .stopClient => { network with client := network.client.stop }

/-- A datagram with an announcement, as the client takes it. -/
def announcement? (datagram : ReceivedDatagram) : Option BacnetIAmDevice :=
  (parseIAmResponse datagram.packet).map fun info =>
    ⟨datagram.source, info⟩

/-- What a poll does to a stopped client, an empty and a filled inbox. -/
theorem poll_cases (network : DiscoveryNetwork) :
    (network.client.running = false ∧ network.poll = network) ∨
    (network.client.running = true ∧
      (network.client.transport = [] ∧ network.poll = network ∨
        ∃ first rest client,
          network.client.transport = first :: rest ∧
            client.transport = rest ∧
            client.running = true ∧
            network.poll =
              { network with
                client := client
                heard :=
                  ((intoBuffer first).bind announcement?).toList ++
                    network.heard })) := by
  obtain ⟨servers, inFlight, client, heard⟩ := network
  obtain ⟨transport, running, queued, traffic⟩ := client
  cases running with
  | false => exact .inl ⟨rfl, rfl⟩
  | true =>
      refine .inr ⟨rfl, ?_⟩
      cases transport with
      | nil => exact .inl ⟨rfl, rfl⟩
      | cons first rest =>
          refine .inr ⟨first, rest,
            { transport := rest
              running := true
              queuedCovNotifications := queued
              traffic :=
                (intoBuffer first).toList.map ClientTraffic.received ++
                  traffic },
            rfl, rfl, rfl, ?_⟩
          simp only [poll, BacnetClient.pollIAm, BacnetClient.pollDatagram,
            BacnetClient.receive, scriptedRuntime, scriptedReceive]
          cases intoBuffer first <;> rfl

/-- A server announced the device when it was asked. -/
structure AnnouncedAt
    (network : DiscoveryNetwork)
    (index : Nat)
    (input : PollInput)
    (device : BacnetIAmDevice) : Prop where
  asked : ∃ whoIs, (network.servers index).Asked input whoIs
  endpoint : device.endpoint = endpointOf index
  info : device.info = (network.servers index).announcement

/-- At some moment of a run the device was announced by its server. -/
def WasAnnounced
    (events : List DiscoveryEvent)
    (device : BacnetIAmDevice) : Prop :=
  ∃ earlier index input later,
    events = earlier ++ .server index (.poll input) :: later ∧
      (run (step endpointOf) {} earlier).AnnouncedAt endpointOf index input
        device

variable {endpointOf}

theorem WasAnnounced.concat
    {events : List DiscoveryEvent}
    {device : BacnetIAmDevice}
    (announced : WasAnnounced endpointOf events device)
    (event : DiscoveryEvent) :
    WasAnnounced endpointOf (events ++ [event]) device := by
  obtain ⟨earlier, index, input, later, rfl, announcedAt⟩ := announced
  refine ⟨earlier, index, input, later ++ [event], ?_, announcedAt⟩
  rw [List.append_assoc]
  rfl

/-- What a server sends is no announcement, or one of itself. -/
theorem announcedAt_of_sent
    {network : DiscoveryNetwork}
    {index : Nat}
    {event : ServerEvent}
    {datagram : ReceivedDatagram}
    (sent :
      sentBy (endpointOf index) (network.servers index) event =
        some datagram)
    {device : BacnetIAmDevice}
    (announces : announcement? datagram = some device) :
    ∃ input,
      event = .poll input ∧
        network.AnnouncedAt endpointOf index input device := by
  cases event with
  | poll input =>
      rw [sentBy] at sent
      split at sent
      · obtain ⟨reply, isReply, rfl⟩ := Option.map_eq_some_iff.mp sent
        obtain ⟨info, parsed, rfl⟩ := Option.map_eq_some_iff.mp announces
        obtain ⟨asked, isAnnouncement⟩ :=
          BacnetServer.asked_of_parsed isReply parsed
        exact ⟨input, rfl, asked, rfl, isAnnouncement⟩
      · cases sent
  | setObjects => cases sent
  | start => cases sent
  | stop => cases sent
  | setTransport => cases sent
  | setClock => cases sent
  | setLocalWritePriority => cases sent

/-- Everything on its way to the client, and all it has heard, has an origin. -/
structure Sound
    (endpointOf : Nat → BacnetIpEndpoint)
    (events : List DiscoveryEvent)
    (network : DiscoveryNetwork) : Prop where
  inFlight :
    ∀ datagram ∈ network.inFlight, ∀ device,
      announcement? datagram = some device →
        WasAnnounced endpointOf events device
  inbox :
    ∀ datagram, some datagram ∈ network.client.transport → ∀ device,
      announcement? datagram = some device →
        WasAnnounced endpointOf events device
  heard : ∀ device ∈ network.heard, WasAnnounced endpointOf events device

theorem Sound.concat
    {events : List DiscoveryEvent}
    {network : DiscoveryNetwork}
    (sound : Sound endpointOf events network)
    (event : DiscoveryEvent) :
    Sound endpointOf (events ++ [event]) network where
  inFlight datagram isMember device announces :=
    (sound.inFlight datagram isMember device announces).concat event
  inbox datagram isMember device announces :=
    (sound.inbox datagram isMember device announces).concat event
  heard device isMember := (sound.heard device isMember).concat event

/-- A poll only takes from the inbox what it tells the client. -/
theorem Sound.poll
    {events : List DiscoveryEvent}
    {network : DiscoveryNetwork}
    (sound : Sound endpointOf events network) :
    Sound endpointOf events network.poll := by
  rcases network.poll_cases
    with ⟨-, same⟩ | ⟨-, ⟨-, same⟩ |
      ⟨first, rest, client, inbox, left, -, polled⟩⟩
  · rw [same]
    exact sound
  · rw [same]
    exact sound
  · rw [polled]
    refine ⟨sound.inFlight, ?_, ?_⟩
    · intro datagram isMember
      rw [left] at isMember
      refine sound.inbox datagram ?_
      rw [inbox]
      exact List.mem_cons_of_mem first isMember
    · intro device isMember
      rcases List.mem_append.mp isMember with isNew | isOld
      · obtain ⟨datagram, read, announces⟩ :=
          Option.bind_eq_some_iff.mp (Option.mem_toList.mp isNew)
        refine sound.inbox datagram ?_ device announces
        rw [inbox, arrived_of_intoBuffer read]
        exact List.mem_cons_self
      · exact sound.heard device isOld

/-- Along every run everything has an origin. -/
theorem sound_run (events : List DiscoveryEvent) :
    Sound endpointOf events (run (step endpointOf) {} events) := by
  induction events using List.reverseRecOn with
  | nil =>
      refine ⟨?_, ?_, ?_⟩
      · intro datagram isMember
        cases isMember
      · intro datagram isMember
        cases isMember
      · intro device isMember
        cases isMember
  | append_singleton events event inductionHypothesis =>
      rw [run_concat]
      have sound := inductionHypothesis.concat event
      cases event with
      | server index event =>
          refine ⟨?_, sound.inbox, sound.heard⟩
          intro datagram isMember device announces
          rcases List.mem_append.mp isMember with isOld | isNew
          · exact sound.inFlight datagram isOld device announces
          · obtain ⟨input, rfl, announcedAt⟩ :=
              announcedAt_of_sent (Option.mem_toList.mp isNew) announces
            exact ⟨events, index, input, [], rfl, announcedAt⟩
      | deliver position =>
          cases found :
              (run (step endpointOf) {} events).inFlight[position]? with
          | none =>
              rw [step, found]
              exact sound
          | some datagram =>
              rw [step, found]
              refine ⟨sound.inFlight, ?_, sound.heard⟩
              intro other isMember
              rcases List.mem_append.mp isMember with isOld | isNew
              · exact sound.inbox other isOld
              · obtain rfl : other = datagram :=
                  Option.some.inj (List.mem_singleton.mp isNew)
                exact sound.inFlight other (List.mem_of_getElem? found)
      | pollIAm => exact sound.poll
      | startClient bound =>
          exact ⟨sound.inFlight, sound.inbox, sound.heard⟩
      | stopClient => exact ⟨sound.inFlight, sound.inbox, sound.heard⟩

/-- A session for a device is one with a server, as this is configured. -/
structure SessionWith
    (network : DiscoveryNetwork)
    (endpointOf : Nat → BacnetIpEndpoint)
    (index : Nat)
    (device : BacnetIAmDevice) : Prop where
  endpoint :
    (BacnetDeviceSession.fromIAm device 0).endpoint = endpointOf index
  deviceObject :
    (BacnetDeviceSession.fromIAm device 0).deviceObject =
      (network.servers index).deviceObject

/--
At some moment of a run the device was announced by its server, with which a
session for the device is one.
-/
def HasOrigin
    (endpointOf : Nat → BacnetIpEndpoint)
    (events : List DiscoveryEvent)
    (device : BacnetIAmDevice) : Prop :=
  ∃ earlier index input later,
    events = earlier ++ .server index (.poll input) :: later ∧
      (run (step endpointOf) {} earlier).AnnouncedAt endpointOf index input
        device ∧
      (run (step endpointOf) {} earlier).SessionWith endpointOf index device

/-- The session for an announced device is one with its server. -/
theorem AnnouncedAt.sessionWith
    {network : DiscoveryNetwork}
    {index : Nat}
    {input : PollInput}
    {device : BacnetIAmDevice}
    (announced : network.AnnouncedAt endpointOf index input device) :
    network.SessionWith endpointOf index device := by
  refine ⟨announced.endpoint, ?_⟩
  have sameInstance :
      device.info.deviceInstance =
        (network.servers index).device.deviceInstance :=
    congrArg BacnetIAmDeviceInfo.deviceInstance announced.info
  show (⟨_, device.info.deviceInstance⟩ : BacnetObjectId) = ⟨_, _⟩
  rw [sameInstance]

/--
Whatever the servers and the network do, a device the client heard of was
announced by a running server that was asked for it; a session for the device
is one with this server, as it was configured then.
-/
theorem heard_hasOrigin
    (endpointOf : Nat → BacnetIpEndpoint)
    (events : List DiscoveryEvent) :
    ∀ device ∈ (run (step endpointOf) {} events).heard,
      HasOrigin endpointOf events device := by
  intro device isHeard
  obtain ⟨earlier, index, input, later, isRun, announced⟩ :=
    (sound_run events).heard device isHeard
  exact ⟨earlier, index, input, later, isRun, announced,
    announced.sessionWith⟩

end DiscoveryNetwork

/-- The Who-Is of a client. -/
def whoIsPacket : List UInt8 :=
  [kBvlcTypeBacnetIp, kBvlcOriginalBroadcastNpdu, 0, 8, kNpduVersion, 0,
    kApduUnconfirmedRequest, kServiceWhoIs]

/-- A running client broadcasts it. -/
theorem sendWhoIs_eq
    {τ : Type}
    (runtime : ClientRuntime τ)
    {client : BacnetClient τ}
    (running : client.running = true)
    (destination : BacnetIpEndpoint) :
    client.sendWhoIs runtime destination =
      client.send runtime destination whoIsPacket :=
  if_pos running

namespace BacnetServer

/-- A running server that is asked announces itself to whom asks. -/
theorem poll_whoIs
    {server : BacnetServer}
    (ready : server.Ready)
    (small : server.device.deviceInstance ≤ kObjectInstanceMask)
    {input : PollInput}
    (asks : input.packet = whoIsPacket) :
    (server.poll input).datagram =
      some ⟨input.source, announcedPacket server.announcement⟩ := by
  have noResponse (invokeId : UInt8) :
      classifyConfirmedCovNotificationResponse input.packet invokeId =
        .none := by
    rw [asks]
    rfl
  have parsed : parseWhoIsRequest input.packet = some {} := by
    rw [asks]
    rfl
  have built :
      buildIAmResponse 26 server.announcement =
        some (announcedPacket server.announcement) :=
    buildIAmResponse_eq small
      ((length_announcedPacket_le _).trans (by decide))
  have polled : server.poll input = server.sendIAm input := by
    have short : ¬kMaxDatagramSize < whoIsPacket.length := by decide
    simp only [poll, ready.running, ready.transport,
      server.answeredSlot?_eq_none noResponse, handleRequest, parsed]
    rw [asks, if_neg (by decide), if_neg (by decide), if_neg short]
    exact if_pos rfl
  rw [polled]
  show (sendReply server input (buildIAmResponse 26 server.announcement)
    .iAmSent).datagram = _
  rw [built]
  rfl

end BacnetServer

namespace DiscoveryNetwork

variable {endpointOf : Nat → BacnetIpEndpoint}

/-- What a server does on the network, in order. -/
def ofServer? (index : Nat) : DiscoveryEvent → Option ServerEvent
  | .server other event => if other = index then some event else none
  | .deliver _ | .pollIAm | .startClient _ | .stopClient => none

/-- On the network a server makes a run of its own. -/
theorem servers_run
    (index : Nat)
    (network : DiscoveryNetwork)
    (events : List DiscoveryEvent) :
    (run (step endpointOf) network events).servers index =
      run BacnetServer.step (network.servers index)
        (events.filterMap (ofServer? index)) := by
  induction events generalizing network with
  | nil => rfl
  | cons event rest inductionHypothesis =>
      rw [run_cons, inductionHypothesis, List.filterMap_cons]
      cases event with
      | server other event =>
          by_cases same : other = index
          · subst same
            simp [step, ofServer?]
          · simp [step, ofServer?, same, Function.update_of_ne (Ne.symm same)]
      | deliver position =>
          simp only [step, ofServer?]
          split <;> rfl
      | pollIAm =>
          rcases network.poll_cases
            with ⟨-, polled⟩ | ⟨-, ⟨-, polled⟩ | ⟨_, _, _, _, _, _, polled⟩⟩
          all_goals simp [step, ofServer?, polled]
      | startClient bound => rfl
      | stopClient => rfl

/-- What was sent may be delivered ever after. -/
theorem inFlight_run
    (network : DiscoveryNetwork)
    (events : List DiscoveryEvent) :
    network.inFlight <+: (run (step endpointOf) network events).inFlight := by
  induction events generalizing network with
  | nil => exact List.prefix_rfl
  | cons event rest inductionHypothesis =>
      refine List.IsPrefix.trans ?_ (inductionHypothesis _)
      cases event with
      | server index event => exact List.prefix_append _ _
      | deliver position =>
          rw [step]
          split <;> exact List.prefix_rfl
      | pollIAm =>
          rcases network.poll_cases
            with ⟨-, polled⟩ | ⟨-, ⟨-, polled⟩ | ⟨_, _, _, _, _, _, polled⟩⟩
          all_goals
            rw [step, polled]
      | startClient bound => exact List.prefix_rfl
      | stopClient => exact List.prefix_rfl

/-- A device is heard of as soon as the client has looked at its datagram. -/
def Reaches
    (datagram : ReceivedDatagram)
    (device : BacnetIAmDevice)
    (network : DiscoveryNetwork) : Prop :=
  some datagram ∈ network.client.transport ∨ device ∈ network.heard

theorem reaches_step
    {datagram : ReceivedDatagram}
    {device : BacnetIAmDevice}
    (announces :
      (intoBuffer (some datagram)).bind announcement? = some device)
    (network : DiscoveryNetwork)
    (event : DiscoveryEvent)
    (reaches : Reaches datagram device network) :
    Reaches datagram device (step endpointOf network event) := by
  cases event with
  | server index event => exact reaches
  | deliver position =>
      rw [step]
      split
      · exact reaches
      · exact reaches.imp_left (List.mem_append_left _)
  | pollIAm =>
      rcases network.poll_cases
        with ⟨-, polled⟩ | ⟨-, ⟨-, polled⟩ |
          ⟨first, rest, client, inbox, left, -, polled⟩⟩
      · rw [step, polled]
        exact reaches
      · rw [step, polled]
        exact reaches
      · rw [step, polled]
        rcases reaches with isWaiting | isHeard
        · rw [inbox] at isWaiting
          rcases List.mem_cons.mp isWaiting with rfl | isLater
          · exact .inr (List.mem_append_left _
              (Option.mem_toList.mpr announces))
          · exact .inl (left ▸ isLater)
        · exact .inr (List.mem_append_right _ isHeard)
  | startClient bound => exact reaches
  | stopClient => exact reaches

/--
A server that runs when a Who-Is of the client reaches it is heard of, as it
was configured then, if what it sends in return reaches the client and the
client has looked at all it was sent.
-/
theorem heard_of_delivered
    (endpointOf : Nat → BacnetIpEndpoint)
    (earlier between later : List DiscoveryEvent)
    {index : Nat}
    {input : PollInput}
    (asks : input.packet = whoIsPacket)
    (sends : input.sendSucceeds = true)
    (ready : ((run (step endpointOf) {} earlier).servers index).Ready)
    (drained :
      (run (step endpointOf) {}
        (earlier ++ .server index (.poll input) :: (between ++
          .deliver (run (step endpointOf) {} earlier).inFlight.length ::
            later))).client.transport = []) :
    (⟨endpointOf index,
      ((run (step endpointOf) {} earlier).servers index).announcement⟩ :
        BacnetIAmDevice) ∈
      (run (step endpointOf) {}
        (earlier ++ .server index (.poll input) :: (between ++
          .deliver (run (step endpointOf) {} earlier).inFlight.length ::
            later))).heard := by
  have small :
      ((run (step endpointOf) {} earlier).servers
        index).device.deviceInstance ≤ kObjectInstanceMask := by
    rw [servers_run]
    exact BacnetServer.run_deviceInstance_le _
  rw [run_append, run_cons, run_append, run_cons] at drained ⊢
  generalize run (step endpointOf) {} earlier = network at *
  have sent :
      (step endpointOf network (.server index (.poll input))).inFlight =
        network.inFlight ++
          [⟨endpointOf index,
            announcedPacket (network.servers index).announcement⟩] := by
    show network.inFlight ++ (sentBy _ _ _).toList = _
    rw [sentBy, if_pos sends, BacnetServer.poll_whoIs ready small asks]
    rfl
  have short :
      Receivable (announcedPacket (network.servers index).announcement) :=
    (length_announcedPacket_le _).trans (by decide)
  have announces :
      (intoBuffer (some ⟨endpointOf index,
            announcedPacket (network.servers index).announcement⟩)).bind
          announcement? =
        some ⟨endpointOf index, (network.servers index).announcement⟩ := by
    rw [intoBuffer_eq short, Option.bind_some, announcement?,
      parseIAmResponse_announced small]
    rfl
  obtain ⟨more, still⟩ :=
    @inFlight_run endpointOf
      (step endpointOf network (.server index (.poll input))) between
  generalize
    run (step endpointOf)
      (step endpointOf network (.server index (.poll input))) between =
        middle at *
  have found :
      middle.inFlight[network.inFlight.length]? =
        some ⟨endpointOf index,
          announcedPacket (network.servers index).announcement⟩ := by
    rw [← still, sent, List.append_assoc, List.getElem?_append_right le_rfl,
      Nat.sub_self]
    rfl
  have reaches :
      Reaches
        ⟨endpointOf index,
          announcedPacket (network.servers index).announcement⟩
        ⟨endpointOf index, (network.servers index).announcement⟩
        (step endpointOf middle (.deliver network.inFlight.length)) := by
    rw [step, found]
    exact .inl (List.mem_append_right _ List.mem_cons_self)
  rcases run_invariant (Reaches _ _) (reaches_step announces) reaches later
    with isWaiting | isHeard
  · rw [drained] at isWaiting
    cases isWaiting
  · exact isHeard

/-- The endpoints of the examples. -/
def exampleEndpoint (index : Nat) : BacnetIpEndpoint :=
  { scriptedPeer with d := 20 + UInt8.ofNat index }

/-- Two servers are started, and both receive a Who-Is. -/
def exampleDiscovery : List DiscoveryEvent :=
  [.server 0 .setTransport, .server 1 .setTransport,
    .server 0 (.start { deviceInstance := 7 } 47808 true),
    .server 1 (.start { deviceInstance := 8 } 47808 true),
    .startClient true, .server 0 (.poll { packet := whoIsPacket })]

/-- The first of them is heard of, and its datagram was delivered twice. -/
theorem heard_hasOrigin_twice :
    HasOrigin exampleEndpoint
      (exampleDiscovery ++ [.deliver 0, .deliver 0, .pollIAm, .pollIAm])
      ⟨exampleEndpoint 0,
        BacnetServer.announcement
          { device := { deviceInstance := 7 } }⟩ :=
  heard_hasOrigin exampleEndpoint
    (exampleDiscovery ++ [.deliver 0, .deliver 0, .pollIAm, .pollIAm]) _
    (by decide +kernel)

/-- The second is heard of, although it was asked later. -/
theorem heard_of_delivered_second :
    (⟨exampleEndpoint 1,
      BacnetServer.announcement
        { device := { deviceInstance := 8 } }⟩ : BacnetIAmDevice) ∈
      (run (step exampleEndpoint) {}
        (exampleDiscovery ++ .server 1 (.poll { packet := whoIsPacket }) ::
          ([.pollIAm] ++ .deliver 1 :: [.pollIAm]))).heard :=
  heard_of_delivered exampleEndpoint exampleDiscovery [.pollIAm] [.pollIAm]
    rfl rfl ⟨by decide +kernel, by decide +kernel⟩ (by decide +kernel)

end DiscoveryNetwork

end BacnetStack
