import BacnetStack.ClientRelinquish
import BacnetStack.ClientRuns
import BacnetStack.WrappingClock

namespace BacnetStack

/-!
# A link that loses what it is told to

The fates of the packets are given in advance; those without one are
delivered.  Every look at the clock takes a millisecond.
-/

/-- What happens to a packet and to the reply to it. -/
inductive PacketFate where
  | requestLost
  | replyLost
  | delivered
  deriving Repr, DecidableEq

/-- A server behind a lossy link, and the reply that is under way. -/
structure FatefulLink where
  server : BacnetServer := {}
  reply : Option (List UInt8) := none
  clockMs : UInt32 := 0
  fates : List PacketFate := []

/-- The server polls a packet that is not lost. -/
def FatefulLink.deliver
    (link : FatefulLink)
    (packet : List UInt8)
    (fate : PacketFate) : FatefulLink :=
  let output := link.server.poll { packet := packet }
  match fate with
  | .requestLost => link
  | .replyLost => { link with server := output.server }
  | .delivered =>
      { link with
        server := output.server
        reply := output.datagram.map Datagram.packet }

/-- The runtime of a client that may write with a priority. -/
def fatefulRuntime (peer : BacnetIpEndpoint) : ClientRuntime FatefulLink where
  receive link :=
    (intoBuffer (link.reply.map fun packet => ⟨peer, packet⟩),
      { link with reply := none })
  receivable _ _ read := receivable_of_intoBuffer read
  send link _ packet :=
    (true,
      { link with fates := link.fates.tail }.deliver packet
        (link.fates.headD .delivered))
  nowMs link := (link.clockMs, { link with clockMs := link.clockMs + 1 })
  idle link := link
  writePropertyEnabled := true
  priorityWriteEnabled := true

/-- A running server, and no reply under way. -/
structure FatefulLink.AtRest
    (server : BacnetServer)
    (link : FatefulLink) : Prop where
  same : link.server = server
  ready : server.Ready
  silent : link.reply = none

variable {peer : BacnetIpEndpoint} {timeoutMs : UInt32}
  {server : BacnetServer} {link : FatefulLink}

/-- Without a reply that fits the time of a call runs out. -/
theorem fatefulRuntime_expires
    {ignored : ReceivedDatagram → Prop}
    {atRest : FatefulLink → Prop}
    (startedAt clockMs : UInt32)
    (unread :
      intoBuffer (link.reply.map fun packet => ⟨peer, packet⟩) = none)
    (stays :
      ∀ clockMs, atRest { link with reply := none, clockMs := clockMs }) :
    ∃ rounds,
      ReplyWait.Ends
        { runtime := fatefulRuntime peer
          startedAt := startedAt
          timeoutMs := timeoutMs
          ignored := ignored
          atRest := atRest } none rounds
        { link with clockMs := clockMs } := by
  have nothing :
      ∀ datagram ∈ (none : Option ReceivedDatagram), ignored datagram := by
    intro datagram isOther
    cases isOther
  have receives (clockMs : UInt32) :
      (fatefulRuntime peer).receive { link with clockMs := clockMs } =
        (none, { link with reply := none, clockMs := clockMs }) :=
    congrArg (·, _) unread
  induction clockMs using WrappingClock.timeout_induction
    generalizing link with
  | late now late =>
      exact ⟨1, .expires (receives now) nothing rfl late (stays (now + 1))⟩
  | inTime now inTime inductionHypothesis =>
      obtain ⟨rounds, ends⟩ :=
        @inductionHypothesis { link with reply := none } rfl stays
          fun _ => rfl
      exact ⟨rounds + 1, .later (receives now) nothing rfl inTime ends⟩

/-- The link loses requests and replies, and nothing else happens. -/
theorem fatefulRuntime_lossy
    (peer : BacnetIpEndpoint)
    (timeoutMs : UInt32)
    (object : BacnetObjectId) :
    LossyLink (fatefulRuntime peer) peer timeoutMs object
      FatefulLink.AtRest := by
  refine ⟨?_⟩
  intro server link packet atRest
  obtain ⟨rfl, ready, silent⟩ := atRest
  have stillReady :
      (link.server.poll { packet := packet }).server.Ready := by
    rw [link.server.poll_configuration { packet := packet }]
    exact ⟨ready.running, ready.transport⟩
  have sends :
      (fatefulRuntime peer).send link peer packet =
        (true,
          { link with fates := link.fates.tail }.deliver packet
            (link.fates.headD .delivered)) := rfl
  right
  have lost
      {server : BacnetServer}
      {reply : Option (List UInt8)}
      (ready : server.Ready)
      (unread :
        intoBuffer (reply.map fun packet => ⟨peer, packet⟩) = none) :=
    @fatefulRuntime_expires peer timeoutMs
      { server := server, reply := reply, fates := link.fates.tail }
      NoWriteResponse (FatefulLink.AtRest server) link.clockMs
      (link.clockMs + 1) unread fun _ => ⟨rfl, ready, rfl⟩
  have noReply :
      intoBuffer (link.reply.map fun packet => ⟨peer, packet⟩) = none := by
    rw [silent]
    rfl
  cases fate : link.fates.headD .delivered with
  | requestLost =>
      obtain ⟨rounds, ends⟩ := lost ready noReply
      refine ⟨{ link with fates := link.fates.tail }, none, link.server,
        rounds, ?_, .requestLost rfl, ends⟩
      rw [sends, fate]
      rfl
  | replyLost =>
      obtain ⟨rounds, ends⟩ := lost stillReady noReply
      refine ⟨{ link with
        server := (link.server.poll { packet := packet }).server
        fates := link.fates.tail }, none, _, rounds, ?_,
        @BacnetServer.Exchanged.replyLost object link.server packet
          link.server _ _ ready rfl rfl rfl, ends⟩
      rw [sends, fate]
      rfl
  | delivered =>
      have sent :
          (fatefulRuntime peer).send link peer packet =
            (true, { link with
              server := (link.server.poll { packet := packet }).server
              reply :=
                (link.server.poll { packet := packet }).datagram.map
                  Datagram.packet
              fates := link.fates.tail }) := by
        rw [sends, fate]
        rfl
      rcases intoBuffer_reply_cases peer
          ((link.server.poll { packet := packet }).datagram.map
            Datagram.packet) with unread | ⟨reply, polled, fits⟩
      -- a reply that does not fit is as good as lost
      · obtain ⟨rounds, ends⟩ := lost stillReady unread
        exact ⟨_, none, _, rounds, sent,
          @BacnetServer.Exchanged.replyLost object link.server packet
            link.server _ _ ready rfl rfl rfl, ends⟩
      · rw [polled] at sent
        refine ⟨_, some reply, _, 1, sent,
          @BacnetServer.Exchanged.replied object link.server packet
            link.server _ _ reply ready rfl rfl polled rfl, ?_⟩
        exact .arrives (congrArg (·, _) (intoBuffer_eq fits))
          ⟨rfl, stillReady, rfl⟩

namespace BacnetServer

/-- A running server with a command for its Analog Output. -/
def commandedServer : BacnetServer :=
  (EventRun.run step {}
    (startedServer
      (EventRun.run ServerObjects.register {} analogOutputCalls))).commandStep
    (.operate ⟨BacnetObjectType.analogOutput, 1⟩
      (.applyPriorityValue (.analog ⟨0x40490FDB⟩) 16 false))

end BacnetServer

namespace ClientSystem

/-- The server behind a link that loses the second reply. -/
def lossySystem : ClientSystem FatefulLink where
  client :=
    { running := true
      transport :=
        { server := BacnetServer.commandedServer
          fates := [.delivered, .replyLost] } }
  sessions _ := { endpoint := scriptedPeer }

/-- A reset of the output over that link. -/
theorem relinquishAllPriorities_reports_analogOutput :
    ∃ before,
      BacnetServer.commandedServer.objects.findWriteTarget
          ⟨BacnetObjectType.analogOutput, 1⟩ = some before ∧
        ∃ least result after next target,
          FatefulLink.AtRest next after.client.transport ∧
            next.objects.findWriteTarget
              ⟨BacnetObjectType.analogOutput, 1⟩ = some target ∧
            (ReleasedAll {} before.commands target result ∨
              ∃ failed,
                StoppedAt {} before.commands target result failed) ∧
            ∀ rounds, least ≤ rounds →
              lossySystem.relinquishAllPriorities
                  (fatefulRuntime scriptedPeer) 0
                  ⟨BacnetObjectType.analogOutput, 1⟩ {} 1000 rounds =
                (some result, after) :=
  ⟨_, rfl,
    relinquishAllPriorities_reports
      (fatefulRuntime_lossy scriptedPeer 1000 _) rfl rfl
      ⟨rfl, ⟨rfl, rfl⟩, rfl⟩ {}⟩

end ClientSystem

end BacnetStack
