import BacnetStack.ClientResponses

namespace BacnetStack

/-!
# Exchanges over a link

What a blocking call of a client meets after it sent a request: a link lets
it look at the socket until the reply is there, or until the time is over.
Links differ in what they promise about this; the promise is about the
transport only, and this module says what the call makes of it.
-/

/-- How a wait for a reply may go. -/
structure ReplyWait (τ : Type) where
  runtime : ClientRuntime τ
  startedAt : UInt32
  timeoutMs : UInt32
  /-- Datagrams that are no reply. -/
  ignored : ReceivedDatagram → Prop
  /-- The transport between two exchanges. -/
  atRest : τ → Prop

/--
A wait ends with a reply, or without one when its time is over, after at most
so many looks at the socket.
-/
inductive ReplyWait.Ends {τ : Type} (wait : ReplyWait τ) :
    Option ReceivedDatagram → Nat → τ → Prop where
  | arrives
      {datagram : ReceivedDatagram}
      {transport received : τ}
      (receives :
        wait.runtime.receive transport = (some datagram, received))
      (atRest : wait.atRest received) :
      wait.Ends (some datagram) 1 transport
  | expires
      {other : Option ReceivedDatagram}
      {transport received looked : τ}
      {now : UInt32}
      (receives : wait.runtime.receive transport = (other, received))
      (isIgnored : ∀ datagram ∈ other, wait.ignored datagram)
      (looks : wait.runtime.nowMs received = (now, looked))
      (late : wait.timeoutMs ≤ now - wait.startedAt)
      (atRest : wait.atRest looked) :
      wait.Ends none 1 transport
  | later
      {reply other : Option ReceivedDatagram}
      {transport received looked : τ}
      {now : UInt32}
      {rounds : Nat}
      (receives : wait.runtime.receive transport = (other, received))
      (isIgnored : ∀ datagram ∈ other, wait.ignored datagram)
      (looks : wait.runtime.nowMs received = (now, looked))
      (inTime : ¬wait.timeoutMs ≤ now - wait.startedAt)
      (ends : wait.Ends reply rounds (wait.runtime.idle looked)) :
      wait.Ends reply (rounds + 1) transport

namespace BacnetClient

variable {τ Outcome : Type} {runtime : ClientRuntime τ}

/-- The poll of a running client reads one datagram and classifies it. -/
def Listens
    (runtime : ClientRuntime τ)
    (poll : BacnetClient τ → Option Outcome × BacnetClient τ)
    (classify : ReceivedDatagram → Option Outcome) : Prop :=
  ∀ client : BacnetClient τ, client.running = true →
    poll client =
      ((client.receive runtime).1.bind classify, (client.receive runtime).2)

/-- What a wait makes of the reply it ends with. -/
def waitResult
    (classify : ReceivedDatagram → Option Outcome)
    (reply : Option ReceivedDatagram) : Wait Outcome :=
  (reply.bind classify).elim .timedOut .answered

/-- A running client with a transport at rest. -/
structure AtRest (atRest : τ → Prop) (client : BacnetClient τ) : Prop where
  running : client.running = true
  transport : atRest client.transport

theorem receive_eq
    {client : BacnetClient τ}
    {datagram : Option ReceivedDatagram}
    {received : τ}
    (receives : runtime.receive client.transport = (datagram, received)) :
    (client.receive runtime).1 = datagram ∧
      (client.receive runtime).2.transport = received ∧
      (client.receive runtime).2.running = client.running := by
  unfold receive
  rw [receives]
  cases datagram with
  | none => exact ⟨rfl, rfl, rfl⟩
  | some datagram => exact ⟨rfl, rfl, rfl⟩

/-- A call that listens ends as its wait does. -/
theorem await_of_ends
    {poll : BacnetClient τ → Option Outcome × BacnetClient τ}
    {classify : ReceivedDatagram → Option Outcome}
    (listens : Listens runtime poll classify)
    {wait : ReplyWait τ}
    (sameRuntime : wait.runtime = runtime)
    (ignores : ∀ datagram, wait.ignored datagram → classify datagram = none)
    {reply : Option ReceivedDatagram}
    (answers : ∀ datagram ∈ reply, (classify datagram).isSome = true)
    {least : Nat}
    {client : BacnetClient τ}
    (running : client.running = true)
    (ends : wait.Ends reply least client.transport) :
    ∃ after : BacnetClient τ,
      after.AtRest wait.atRest ∧
        ∀ rounds, least ≤ rounds →
          client.await runtime poll wait.startedAt wait.timeoutMs rounds =
            (waitResult classify reply, after) := by
  subst sameRuntime
  generalize shape : client.transport = transport at ends
  induction ends generalizing client with
  | arrives receives atRest =>
      rename_i datagram transport received
      rw [← shape] at receives
      obtain ⟨isRead, isTransport, isRunning⟩ := receive_eq receives
      obtain ⟨outcome, isAnswer⟩ :=
        Option.isSome_iff_exists.mp (answers datagram rfl)
      refine ⟨(client.receive wait.runtime).2,
        ⟨isRunning.trans running, isTransport ▸ atRest⟩, ?_⟩
      intro rounds enough
      obtain ⟨rounds, rfl⟩ := Nat.exists_eq_add_of_le' enough
      simp [await, listens client running, isRead, isAnswer, waitResult]
  | expires receives isIgnored looks late atRest =>
      rename_i other transport received looked now
      rw [← shape] at receives
      obtain ⟨isRead, isTransport, isRunning⟩ := receive_eq receives
      have unanswered : other.bind classify = none := by
        cases other with
        | none => rfl
        | some datagram => exact ignores datagram (isIgnored datagram rfl)
      rw [← isTransport] at looks
      refine ⟨((client.receive wait.runtime).2.nowMs wait.runtime).2,
        ⟨isRunning.trans running, ?_⟩, ?_⟩
      · simpa [nowMs, looks] using atRest
      · intro rounds enough
        obtain ⟨rounds, rfl⟩ := Nat.exists_eq_add_of_le' enough
        simp [await, listens client running, isRead, unanswered, nowMs,
          looks, late, waitResult]
  | later receives isIgnored looks inTime ends inductionHypothesis =>
      rename_i reply other transport received looked now rounds
      rw [← shape] at receives
      obtain ⟨isRead, isTransport, isRunning⟩ := receive_eq receives
      have unanswered : other.bind classify = none := by
        cases other with
        | none => rfl
        | some datagram => exact ignores datagram (isIgnored datagram rfl)
      rw [← isTransport] at looks
      obtain ⟨after, isAfter, goesOn⟩ :=
        @inductionHypothesis answers
          (((client.receive wait.runtime).2.nowMs wait.runtime).2.idle
            wait.runtime)
          (isRunning.trans running) (by simp [nowMs, idle, looks])
      refine ⟨after, isAfter, fun more enough => ?_⟩
      obtain ⟨more, rfl⟩ :=
        Nat.exists_eq_add_of_le' (Nat.le_of_add_left_le enough)
      rw [← goesOn more (by omega)]
      simp [await, listens client running, isRead, unanswered, nowMs, looks,
        inTime]

/-- The response to a read that a datagram carries. -/
def readResponse
    (invokeId : UInt8)
    (request : BacnetPropertyRequest)
    (datagram : ReceivedDatagram) : Option BacnetReadPropertyPoll :=
  let outcome := readPropertyOutcome datagram.packet invokeId request
  if outcome.status = .none then none else some outcome

theorem listens_awaitedRead
    (invokeId : UInt8)
    (request : BacnetPropertyRequest) :
    Listens runtime (awaitedRead runtime invokeId request)
      (readResponse invokeId request) := by
  intro client running
  unfold awaitedRead pollReadPropertyStatus pollDatagram
  simp only [running, if_true]
  rcases client.receive runtime with ⟨received, after⟩
  cases received with
  | none => rfl
  | some datagram => rfl

/-- A running client sends a request that can be built. -/
theorem sendReadProperty_of_sends
    {client : BacnetClient τ}
    (running : client.running = true)
    {peer : BacnetIpEndpoint}
    (reachable : peer.isZero = false)
    {request : BacnetPropertyRequest}
    {invokeId : UInt8}
    {packet : List UInt8}
    (built : buildReadPropertyRequest 25 request invokeId = some packet)
    {transport : τ}
    (sends : runtime.send client.transport peer packet = (true, transport)) :
    ∃ sent,
      client.sendReadProperty runtime peer request invokeId = (true, sent) ∧
        sent.running = true ∧ sent.transport = transport := by
  simp [sendReadProperty, sendRequest, send, reachable, built, running,
    sends]

end BacnetClient

/-- A datagram that no read takes for a response. -/
def NoReadResponse (datagram : ReceivedDatagram) : Prop :=
  ∀ invokeId,
    classifyReadPropertyResponse datagram.packet invokeId = .unrelated

theorem NoReadResponse.readResponse_eq
    {datagram : ReceivedDatagram}
    (unrelated : NoReadResponse datagram)
    (invokeId : UInt8)
    (request : BacnetPropertyRequest) :
    BacnetClient.readResponse invokeId request datagram = none := by
  simp [BacnetClient.readResponse, readPropertyOutcome, unrelated invokeId]

/--
A link to a peer that delivers every request it has a short enough answer
for, and an answer before the time of the call is over.  Between two exchanges
it is at rest, and then it does not mind a look at the clock.
-/
structure DeliversReplies {τ : Type}
    (runtime : ClientRuntime τ)
    (peer : BacnetIpEndpoint)
    (timeoutMs : UInt32)
    (answers : List UInt8 → List UInt8 → Prop)
    (atRest : τ → Prop) : Prop where
  clock :
    ∀ {transport}, atRest transport → atRest (runtime.nowMs transport).2
  exchange :
    ∀ {transport packet},
      atRest transport →
      (∃ reply, answers packet reply ∧ Receivable reply) →
      ∃ sent reply least,
        runtime.send transport peer packet = (true, sent) ∧
          answers packet reply ∧
          ReplyWait.Ends
            { runtime := runtime
              startedAt := (runtime.nowMs sent).1
              timeoutMs := timeoutMs
              ignored := NoReadResponse
              atRest := atRest }
            (some ⟨peer, reply⟩) least (runtime.nowMs sent).2

namespace ClientSystem

variable {τ : Type} {runtime : ClientRuntime τ}

/-- A session of a peer may make a blocking call. -/
structure CanCall
    (system : ClientSystem τ)
    (id : SessionId)
    (peer : BacnetIpEndpoint)
    (atRest : τ → Prop) : Prop where
  client : system.client.AtRest atRest
  idle : (system.sessions id).isBusy = false
  endpoint : (system.sessions id).endpoint = peer
  reachable : peer.isZero = false

namespace CanCall

variable {system : ClientSystem τ} {id : SessionId}
  {peer : BacnetIpEndpoint} {atRest : τ → Prop}

theorem withClient
    (canCall : system.CanCall id peer atRest)
    {client : BacnetClient τ}
    (isAtRest : client.AtRest atRest) :
    ({ system with client := client } : ClientSystem τ).CanCall id peer
      atRest :=
  ⟨isAtRest, canCall.idle, canCall.endpoint, canCall.reachable⟩

theorem setSession
    (canCall : system.CanCall id peer atRest)
    {session : BacnetDeviceSession}
    (isBusy : session.isBusy = (system.sessions id).isBusy)
    (endpoint : session.endpoint = (system.sessions id).endpoint) :
    (system.setSession id session).CanCall id peer atRest := by
  refine ⟨canCall.client, ?_, ?_, canCall.reachable⟩
  · rw [sessions_setSession_self, isBusy]
    exact canCall.idle
  · rw [sessions_setSession_self, endpoint]
    exact canCall.endpoint

theorem allocateInvokeId
    (canCall : system.CanCall id peer atRest) :
    (system.allocateInvokeId id).2.CanCall id peer atRest :=
  canCall.setSession rfl rfl

theorem updatePropertyCache
    (canCall : system.CanCall id peer atRest)
    (request : BacnetPropertyRequest)
    (status : BacnetPropertyReadStatus)
    (value : Option BacnetValue)
    (attemptAtMs errorClass errorCode : UInt32) :
    (system.setSession id
      ((system.sessions id).updatePropertyCache request status value
        attemptAtMs errorClass errorCode)).CanCall id peer atRest :=
  canCall.setSession rfl rfl

end CanCall

/-- The packet of a request, and what it is answered with. -/
structure AnsweredRead
    (answers : List UInt8 → List UInt8 → Prop)
    (request : BacnetPropertyRequest)
    (value : BacnetValue)
    (invokeId : UInt8)
    (packet : List UInt8) : Prop where
  built : buildReadPropertyRequest 25 request invokeId = some packet
  answered : ∃ reply, answers packet reply ∧ Receivable reply
  acknowledged :
    ∀ reply, answers packet reply →
      readPropertyOutcome reply invokeId request =
        { status := .ack, value := value }

/-- A read over a link that delivers is acknowledged. -/
theorem readPropertyDetailed_of_delivers
    {peer : BacnetIpEndpoint}
    {timeoutMs : UInt32}
    {answers : List UInt8 → List UInt8 → Prop}
    {atRest : τ → Prop}
    (delivers : DeliversReplies runtime peer timeoutMs answers atRest)
    {system : ClientSystem τ}
    {id : SessionId}
    (canCall : system.CanCall id peer atRest)
    {request : BacnetPropertyRequest}
    {value : BacnetValue}
    (answered :
      ∀ invokeId, ∃ packet,
        AnsweredRead answers request value invokeId packet) :
    ∃ least after,
      after.CanCall id peer atRest ∧
        ∀ rounds, least ≤ rounds →
          system.readPropertyDetailed runtime id request timeoutMs rounds =
            (some (.ofPoll { status := .ack, value := value }
              request.arrayIndex), after) := by
  obtain ⟨packet, built, isAnswered, acknowledged⟩ :=
    answered (system.allocateInvokeId id).1
  have allocated := canCall.allocateInvokeId
  obtain ⟨sentTransport, reply, least, sends, answers, ends⟩ :=
    delivers.exchange allocated.client.transport isAnswered
  obtain ⟨sent, isSent, running, isTransport⟩ :=
    BacnetClient.sendReadProperty_of_sends allocated.client.running
      allocated.reachable built sends
  rw [← allocated.endpoint] at isSent
  have isResponse :
      BacnetClient.readResponse (system.allocateInvokeId id).1 request
          ⟨peer, reply⟩ =
        some { status := .ack, value := value } := by
    simp [BacnetClient.readResponse, acknowledged reply answers]
  rw [← isTransport] at ends
  have stillRunning : (sent.nowMs runtime).2.running = true := running
  obtain ⟨after, isAtRest, finishes⟩ :=
    BacnetClient.await_of_ends
      (BacnetClient.listens_awaitedRead (system.allocateInvokeId id).1
        request)
      rfl
      (fun _ unrelated =>
        NoReadResponse.readResponse_eq unrelated _ request)
      (by simp [isResponse]) stillRunning ends
  have answered (rounds : Nat) (enough : least ≤ rounds) :
      (sent.nowMs runtime).2.await runtime
          (BacnetClient.awaitedRead runtime (system.allocateInvokeId id).1
            request)
          (sent.nowMs runtime).1 timeoutMs rounds =
        (.answered { status := .ack, value := value }, after) :=
    (finishes rounds enough).trans
      (by simp [BacnetClient.waitResult, isResponse])
  have finallyAtRest : (after.nowMs runtime).2.AtRest atRest :=
    ⟨isAtRest.running, delivers.clock isAtRest.transport⟩
  refine ⟨least, _, (allocated.withClient finallyAtRest).updatePropertyCache
    request
    (classifyDetailedReadStatus { status := .ack, value := value }
      request.arrayIndex)
    (some value) (after.nowMs runtime).1 0 0, fun rounds enough => ?_⟩
  simp [readPropertyDetailed, canCall.idle, onClient, isSent,
    answered rounds enough, PropertyReadResult.ofPoll]

end ClientSystem

end BacnetStack
