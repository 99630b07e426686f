import BacnetStack.ServerReadAnswers

namespace BacnetStack

/-!
# A direct link to a server

The plainest link that delivers: what the client sends is polled by the
server at once, and the reply waits for the client to look.
-/

/-- A server, and the reply that the client has not read yet. -/
structure DirectLink where
  server : BacnetServer := {}
  reply : Option (List UInt8) := none

/-- The runtime of a client on a direct link; no time passes there. -/
def directRuntime (peer : BacnetIpEndpoint) : ClientRuntime DirectLink where
  receive link :=
    (intoBuffer (link.reply.map fun packet => ⟨peer, packet⟩),
      { link with reply := none })
  receivable _ _ read := receivable_of_intoBuffer read
  send link _ packet :=
    let output := link.server.poll { packet := packet }
    (true,
      { server := output.server
        reply := output.datagram.map Datagram.packet })
  nowMs link := (0, link)
  idle link := link

/-- A running server of a configuration, and no reply under way. -/
structure DirectLink.AtRest (server : BacnetServer) (link : DirectLink) : Prop
    where
  same : server.SameConfiguration link.server
  ready : link.server.Ready
  silent : link.reply = none

namespace BacnetServer

/-- What is read depends on the configuration only. -/
theorem SameConfiguration.handleReadProperty
    {server running other : BacnetServer}
    (same : server.SameConfiguration running)
    (otherSame : server.SameConfiguration other)
    (input otherInput : PollInput)
    (request : BacnetReadPropertyRequestHeader) :
    (running.handleReadProperty input request).datagram.map
        Datagram.packet =
      (other.handleReadProperty otherInput request).datagram.map
        Datagram.packet := by
  obtain ⟨objects, device⟩ := same
  obtain ⟨otherObjects, otherDevice⟩ := otherSame
  have sameAnswers :
      other.checkRead (other.lookupObject request.request.object)
            request.request =
          running.checkRead (running.lookupObject request.request.object)
            request.request ∧
        ∀ value,
          other.buildReadAck (other.lookupObject request.request.object)
              request value =
            running.buildReadAck
              (running.lookupObject request.request.object) request
              value := by
    cases running
    cases other
    dsimp only at objects device otherObjects otherDevice
    subst objects device otherObjects otherDevice
    exact ⟨rfl, fun _ => rfl⟩
  unfold BacnetServer.handleReadProperty
  dsimp only
  rw [sameAnswers.1]
  split
  · rw [sendReply_datagram, sendReply_datagram, sameAnswers.2,
      Option.map_map, Option.map_map]
    rfl
  · rw [sendReply_datagram, sendReply_datagram, Option.map_map,
      Option.map_map]
    rfl

/-- A poll that answers a read leaves the server as it is. -/
theorem poll_read_server
    {server : BacnetServer}
    {input : PollInput}
    {request : BacnetReadPropertyRequestHeader}
    (received : server.ReceivesRead input request) :
    (server.poll input).server = server := by
  rw [poll_read received]
  unfold BacnetServer.handleReadProperty
  dsimp only
  split <;> exact sendReply_server _ _ _ _

/-- Every running server of the configuration gives the reply. -/
theorem ReadReply.polled
    {server running : BacnetServer}
    {packet reply : List UInt8}
    (isReply : server.ReadReply packet reply)
    (same : server.SameConfiguration running)
    (ready : running.Ready) :
    (running.poll { packet := packet }).datagram.map Datagram.packet =
      some reply := by
  obtain ⟨other, input, request, otherSame, received, rfl, replies⟩ :=
    isReply
  have receivedHere :
      running.ReceivesRead { packet := input.packet } request :=
    ⟨ready, received.fits, received.parsed⟩
  rw [poll_read receivedHere, same.handleReadProperty otherSame _ input,
    ← replies, poll_read received]

end BacnetServer

/-- Every reply that fits is there at the next look. -/
theorem directRuntime_delivers
    (peer : BacnetIpEndpoint)
    (timeoutMs : UInt32)
    (server : BacnetServer) :
    DeliversReplies (directRuntime peer) peer timeoutMs server.ReadReply
      (DirectLink.AtRest server) := by
  refine ⟨id, ?_⟩
  rintro link packet ⟨same, ready, silent⟩ ⟨reply, isReply, fits⟩
  have answered := isReply.polled same ready
  obtain ⟨running, input, request, sameRunning, received, rfl, replies⟩ :=
    isReply
  have receivedHere :
      link.server.ReceivesRead { packet := input.packet } request :=
    ⟨ready, received.fits, received.parsed⟩
  have unchanged := BacnetServer.poll_read_server receivedHere
  refine ⟨_, reply, 1, rfl,
    ⟨running, input, request, sameRunning, received, rfl, replies⟩, ?_⟩
  have received :
      (directRuntime peer).receive
          ((directRuntime peer).nowMs
            ((directRuntime peer).send link peer input.packet).2).2 =
        (some ⟨peer, reply⟩, ⟨link.server, none⟩) := by
    simp [directRuntime, answered, unchanged, intoBuffer_eq fits]
  exact .arrives received ⟨same, ready, rfl⟩

end BacnetStack
