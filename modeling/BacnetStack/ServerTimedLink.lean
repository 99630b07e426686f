import BacnetStack.ServerDirectLink
import BacnetStack.ServerScanAnswers

namespace BacnetStack

/-!
# A direct link with a clock

A call that is polled waits for a reply that the server does not send, so
time has to pass.  On this link every look at the clock takes a millisecond.
-/

/-- A direct link, and what its clock shows next. -/
structure TimedLink where
  link : DirectLink := {}
  clockMs : UInt32 := 0

/-- The runtime of a client on a direct link with a clock. -/
def timedRuntime (peer : BacnetIpEndpoint) : ClientRuntime TimedLink where
  receive timed :=
    let (datagram, link) := (directRuntime peer).receive timed.link
    (datagram, { timed with link := link })
  receivable timed := (directRuntime peer).receivable timed.link
  send timed destination packet :=
    let (sent, link) :=
      (directRuntime peer).send timed.link destination packet
    (sent, { timed with link := link })
  nowMs timed := (timed.clockMs, { timed with clockMs := timed.clockMs + 1 })
  idle timed := timed

/-- The clock was looked at, and no reply is under way. -/
structure TimedLink.AtRest
    (server : BacnetServer)
    (now : UInt32)
    (timed : TimedLink) : Prop where
  link : timed.link.AtRest server
  clock : timed.clockMs = now + 1

variable {server : BacnetServer} {peer : BacnetIpEndpoint}

/-- Without a reply that fits the time of a wait runs out. -/
theorem timedRuntime_expires
    {link : DirectLink}
    (atRest : DirectLink.AtRest server { link with reply := none })
    (startedAt timeoutMs clockMs : UInt32)
    (unread :
      intoBuffer (link.reply.map fun packet => ⟨peer, packet⟩) = none) :
    ∃ rounds,
      PolledWait.Ends
        { runtime := timedRuntime peer
          startedAt := startedAt
          timeoutMs := timeoutMs
          ignored := NoReadResponse
          atRest := TimedLink.AtRest server } none rounds
        ⟨link, clockMs⟩ := by
  have nothing :
      ∀ datagram ∈ (none : Option ReceivedDatagram),
        NoReadResponse datagram := by
    intro datagram isOther
    cases isOther
  have receives (clockMs : UInt32) :
      (timedRuntime peer).receive ⟨link, clockMs⟩ =
        (none, ⟨{ link with reply := none }, clockMs⟩) :=
    congrArg (·, _) unread
  induction clockMs using WrappingClock.timeout_induction
    generalizing link with
  | late now late =>
      exact ⟨0, .expires rfl (receives (now + 1)) nothing late
        ⟨atRest, rfl⟩⟩
  | inTime now inTime inductionHypothesis =>
      obtain ⟨rounds, ends⟩ :=
        @inductionHypothesis { link with reply := none } atRest rfl
          fun _ => rfl
      exact ⟨rounds + 1, .later rfl (receives (now + 1)) nothing inTime
        ends⟩

/-- A reply that fits is there at the next look; time passes without one. -/
theorem timedRuntime_delivers
    (peer : BacnetIpEndpoint)
    (timeoutMs : UInt32)
    (server : BacnetServer) :
    DeliversReads (timedRuntime peer) peer timeoutMs server.ReadReply
      (TimedLink.AtRest server) := by
  refine ⟨fun atRest => ⟨atRest.link, rfl⟩, ?_⟩
  rintro now ⟨link, clockMs⟩ packet ⟨⟨same, ready, silent⟩, clock⟩
    ⟨request, invokeId, built⟩
  have received :
      link.server.ReceivesRead { packet := packet } _ :=
    ⟨ready, BacnetServer.length_readRequest_le built,
      parseReadPropertyRequest_of_build built⟩
  have unchanged := BacnetServer.poll_read_server received
  refine ⟨⟨⟨link.server,
      (link.server.poll { packet := packet }).datagram.map
        Datagram.packet⟩, clockMs⟩, ?_, ?_⟩
  · show (true, (⟨⟨(link.server.poll { packet := packet }).server, _⟩, _⟩ :
      TimedLink)) = _
    rw [unchanged]
  · intro start isStart
    obtain rfl := isStart.elim id id
    have stays : DirectLink.AtRest server ⟨link.server, none⟩ :=
      ⟨same, ready, rfl⟩
    rcases intoBuffer_reply_cases peer
        ((link.server.poll { packet := packet }).datagram.map
          Datagram.packet) with unread | ⟨reply, polled, fits⟩
    · obtain ⟨rounds, ends⟩ :=
        @timedRuntime_expires server peer
          ⟨link.server,
            (link.server.poll { packet := packet }).datagram.map
              Datagram.packet⟩ stays now timeoutMs clockMs unread
      refine ⟨none, rounds, fun reply isReply fits => ?_, ends⟩
      rw [isReply.polled same ready, Option.map_some, intoBuffer_eq fits]
        at unread
      cases unread
    · rw [polled]
      refine ⟨some reply, 0, ?_, .arrives rfl
        (congrArg (·, _) (intoBuffer_eq fits)) ⟨stays, rfl⟩⟩
      exact ⟨link.server, _, _, same, received, rfl, polled⟩

end BacnetStack
