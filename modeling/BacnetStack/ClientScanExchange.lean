import BacnetStack.ClientExchange
import BacnetStack.ClientScanCollection

namespace BacnetStack

/-!
# Exchanges of a scan

A scan that is polled looks at the clock before it looks at the socket, and
lets the runtime idle between two looks.  The time of the last look is when
the next request goes out.
-/

/-- How a wait of a polled call may go. -/
structure PolledWait (τ : Type) where
  runtime : ClientRuntime τ
  startedAt : UInt32
  timeoutMs : UInt32
  /-- Datagrams that are no reply. -/
  ignored : ReceivedDatagram → Prop
  /-- The transport between two exchanges, with the time of the last look. -/
  atRest : UInt32 → τ → Prop

/--
A wait ends with a reply, or without one when its time is over, after so many
looks that brought nothing.
-/
inductive PolledWait.Ends {τ : Type} (wait : PolledWait τ) :
    Option ReceivedDatagram → Nat → τ → Prop where
  | arrives
      {datagram : ReceivedDatagram}
      {transport looked received : τ}
      {now : UInt32}
      (looks : wait.runtime.nowMs transport = (now, looked))
      (receives : wait.runtime.receive looked = (some datagram, received))
      (atRest : wait.atRest now received) :
      wait.Ends (some datagram) 0 transport
  | expires
      {other : Option ReceivedDatagram}
      {transport looked received : τ}
      {now : UInt32}
      (looks : wait.runtime.nowMs transport = (now, looked))
      (receives : wait.runtime.receive looked = (other, received))
      (isIgnored : ∀ datagram ∈ other, wait.ignored datagram)
      (late : wait.timeoutMs ≤ now - wait.startedAt)
      (atRest : wait.atRest now received) :
      wait.Ends none 0 transport
  | later
      {reply other : Option ReceivedDatagram}
      {transport looked received : τ}
      {now : UInt32}
      {rounds : Nat}
      (looks : wait.runtime.nowMs transport = (now, looked))
      (receives : wait.runtime.receive looked = (other, received))
      (isIgnored : ∀ datagram ∈ other, wait.ignored datagram)
      (inTime : ¬wait.timeoutMs ≤ now - wait.startedAt)
      (ends : wait.Ends reply rounds (wait.runtime.idle received)) :
      wait.Ends reply (rounds + 1) transport

/-- A packet that asks for a property. -/
def IsReadRequest (packet : List UInt8) : Prop :=
  ∃ request invokeId,
    buildReadPropertyRequest 25 request invokeId = some packet

/-- What reaches a client of the answer of a peer, if anything does. -/
def IsAnswer
    (answers : List UInt8 → List UInt8 → Prop)
    (packet : List UInt8) :
    Option (List UInt8) → Prop
  | some reply => answers packet reply
  | none => ∀ reply, answers packet reply → ¬Receivable reply

/--
A link to a peer that delivers every read, and every answer that fits into the
buffer of the client before the time of the call is over.  The call may let the
runtime idle before it looks.
-/
structure DeliversReads {τ : Type}
    (runtime : ClientRuntime τ)
    (peer : BacnetIpEndpoint)
    (timeoutMs : UInt32)
    (answers : List UInt8 → List UInt8 → Prop)
    (atRest : UInt32 → τ → Prop) : Prop where
  clock :
    ∀ {now transport},
      atRest now transport →
        atRest (runtime.nowMs transport).1 (runtime.nowMs transport).2
  exchange :
    ∀ {now transport packet},
      atRest now transport →
      IsReadRequest packet →
      ∃ sent,
        runtime.send transport peer packet = (true, sent) ∧
          ∀ start, start = sent ∨ start = runtime.idle sent →
            ∃ reply rounds,
              IsAnswer answers packet reply ∧
                PolledWait.Ends
                  { runtime := runtime
                    startedAt := now
                    timeoutMs := timeoutMs
                    ignored := NoReadResponse
                    atRest := atRest }
                  (reply.map fun packet => ⟨peer, packet⟩) rounds start

/-- What a client makes of the answers to a request. -/
def ReadsAs
    (answers : List UInt8 → List UInt8 → Prop)
    (request : BacnetPropertyRequest)
    (expected : Option BacnetReadPropertyPoll → Prop) : Prop :=
  ∀ invokeId, ∃ packet,
    buildReadPropertyRequest 25 request invokeId = some packet ∧
      ∀ reply, IsAnswer answers packet reply →
        (∀ answer ∈ reply,
          (readPropertyOutcome answer invokeId request).status ≠ .none) ∧
        expected
          (reply.map fun answer =>
            readPropertyOutcome answer invokeId request)

/-- A request that is always acknowledged reads as its value. -/
theorem readsAs_of_answeredRead
    {answers : List UInt8 → List UInt8 → Prop}
    {request : BacnetPropertyRequest}
    {value : BacnetValue}
    (answered :
      ∀ invokeId, ∃ packet,
        ClientSystem.AnsweredRead answers request value invokeId packet) :
    ReadsAs answers request
      (fun outcome => outcome = some { status := .ack, value := value }) := by
  intro invokeId
  obtain ⟨packet, built, ⟨first, isFirst, fits⟩, acknowledged⟩ :=
    answered invokeId
  refine ⟨packet, built, fun reply isAnswer => ?_⟩
  cases reply with
  | none => exact (isAnswer first isFirst fits).elim
  | some reply =>
      have isAck := acknowledged reply isAnswer
      refine ⟨?_, congrArg some isAck⟩
      rintro answer ⟨⟩
      rw [isAck]
      exact nofun

/-- A client looks at the clock, and then at the socket. -/
theorem BacnetClient.looks_receives
    {τ : Type}
    {runtime : ClientRuntime τ}
    {client : BacnetClient τ}
    {now : UInt32}
    {datagram : Option ReceivedDatagram}
    {looked received : τ}
    (looks : runtime.nowMs client.transport = (now, looked))
    (receives : runtime.receive looked = (datagram, received)) :
    ∃ middle after,
      client.nowMs runtime = (now, middle) ∧
        middle.receive runtime = (datagram, after) ∧
        after.transport = received ∧
        after.running = client.running := by
  obtain ⟨isRead, isTransport, isRunning⟩ :=
    @receive_eq τ runtime { client with transport := looked } _ _ receives
  refine ⟨{ client with transport := looked }, _, ?_, Prod.ext isRead rfl,
    isTransport, isRunning⟩
  rw [nowMs, looks]

namespace ClientSystem

variable {τ : Type} {runtime : ClientRuntime τ} {system : ClientSystem τ}
  {id : SessionId} {scan : ScanId}

/-- The job of a scan waits for the reply to its request. -/
structure AwaitsScan
    (system : ClientSystem τ)
    (id : SessionId)
    (scan : ScanId) : Prop where
  running : system.client.running = true
  inFlight : (system.sessions id).inFlightObjectListScan = some scan
  session : (system.scans scan).session = some id
  active : (system.scans scan).status = .active
  request : (system.scans scan).requestInFlight = true

/-- The request in flight is over, with an outcome or without. -/
def finishScanWait
    (runtime : ClientRuntime τ)
    (system : ClientSystem τ)
    (id : SessionId)
    (scan : ScanId)
    (outcome : Option BacnetReadPropertyPoll)
    (nowMs : UInt32) : ClientSystem τ :=
  let request := (system.scans scan).inFlightRequest
  match outcome with
  | some poll =>
      let status := classifyDetailedReadStatus poll request.arrayIndex
      (system.setSession id
        ((system.sessions id).updatePropertyCache request status
          (some poll.value) nowMs poll.errorClass poll.errorCode)
        ).finishObjectListScanRead runtime id scan
          (deviceReadStatusFromPropertyStatus status) (some poll.value) nowMs
  | none =>
      (system.setSession id
        ((system.sessions id).updatePropertyCache request .timeout none nowMs)
        ).finishObjectListScanRead runtime id scan .timeout none nowMs

/-- No read is left unsent: the job waits for a reply, or it is over. -/
def ScanSettled (system : ClientSystem τ) (scan : ScanId) : Prop :=
  (system.scans scan).isActive = true →
    (system.scans scan).requestInFlight = true

/-- The runtime idles between two polls. -/
def idle (runtime : ClientRuntime τ) (system : ClientSystem τ) :
    ClientSystem τ :=
  { system with client := system.client.idle runtime }

/-- What a look at the socket brings for the request in flight. -/
def scanOutcome
    (system : ClientSystem τ)
    (scan : ScanId)
    (received : Option ReceivedDatagram) : Option BacnetReadPropertyPoll :=
  received.bind
    (BacnetClient.readResponse (system.scans scan).inFlightInvokeId
      (system.scans scan).inFlightRequest)

/-- The request is over with a response, or when it is late. -/
theorem pollInFlightObjectListScan_eq
    (awaits : system.AwaitsScan id scan)
    {looked client : BacnetClient τ}
    {received : Option ReceivedDatagram}
    (running : looked.running = true)
    (receives : looked.receive runtime = (received, client))
    (nowMs : UInt32) :
    ({ system with client := looked } :
        ClientSystem τ).pollInFlightObjectListScan runtime id nowMs =
      if (system.scanOutcome scan received).isSome = true ∨
          (system.scans scan).options.readTimeoutMs ≤
            nowMs - (system.scans scan).inFlightStartedAtMs then
        ({ system with client := client } : ClientSystem τ).finishScanWait
          runtime id scan (system.scanOutcome scan received) nowMs
      else
        { system with client := client } := by
  have isActive : (system.scans scan).isActive = true :=
    beq_iff_eq.mpr awaits.active
  unfold pollInFlightObjectListScan
  simp only [awaits.inFlight, isActive, awaits.request, Bool.not_true,
    Bool.or_self, Bool.false_eq_true, if_false, onClient,
    BacnetClient.pollReadPropertyStatus, BacnetClient.pollDatagram,
    running, if_true, receives]
  cases received with
  | none => simp [scanOutcome, finishScanWait]
  | some datagram =>
      simp only [scanOutcome, Option.bind_some, BacnetClient.readResponse]
      by_cases unrelated :
          (readPropertyOutcome datagram.packet
            (system.scans scan).inFlightInvokeId
            (system.scans scan).inFlightRequest).status = .none
      · simp [unrelated, finishScanWait]
      · simp [unrelated, finishScanWait]

/-- The poll of a scan whose request is over. -/
theorem pollObjectListScan_of_ended
    (awaits : system.AwaitsScan id scan)
    {now : UInt32}
    {looked client : BacnetClient τ}
    {received : Option ReceivedDatagram}
    (looks : system.client.nowMs runtime = (now, looked))
    (receives : looked.receive runtime = (received, client))
    (ended :
      (system.scanOutcome scan received).isSome = true ∨
        (system.scans scan).options.readTimeoutMs ≤
          now - (system.scans scan).inFlightStartedAtMs)
    (settled :
      (({ system with client := client } : ClientSystem τ).finishScanWait
        runtime id scan (system.scanOutcome scan received)
          now).ScanSettled scan) :
    system.pollObjectListScan runtime id scan kUseClientClock =
      ({ system with client := client } : ClientSystem τ).finishScanWait
        runtime id scan (system.scanOutcome scan received) now := by
  have isActive : (system.scans scan).isActive = true :=
    beq_iff_eq.mpr awaits.active
  have sameRunning : looked.running = system.client.running :=
    (congrArg (fun look => look.2.running) looks).symm
  have polled := pollInFlightObjectListScan_eq awaits
    (sameRunning.trans awaits.running) receives now
  rw [if_pos ended] at polled
  unfold pollObjectListScan resolveNow
  simp only [if_true, onClient, looks]
  rw [if_pos ⟨awaits.session, isActive⟩, polled]
  refine if_neg fun unsettled => ?_
  rw [Bool.and_eq_true, Bool.not_eq_true'] at unsettled
  exact Bool.noConfusion
    ((settled unsettled.1).symm.trans unsettled.2)

/-- The poll of a scan that goes on waiting. -/
theorem pollObjectListScan_of_pending
    (awaits : system.AwaitsScan id scan)
    {now : UInt32}
    {looked client : BacnetClient τ}
    {received : Option ReceivedDatagram}
    (looks : system.client.nowMs runtime = (now, looked))
    (receives : looked.receive runtime = (received, client))
    (unrelated : system.scanOutcome scan received = none)
    (inTime :
      ¬(system.scans scan).options.readTimeoutMs ≤
        now - (system.scans scan).inFlightStartedAtMs) :
    system.pollObjectListScan runtime id scan kUseClientClock =
      { system with client := client } := by
  have isActive : (system.scans scan).isActive = true :=
    beq_iff_eq.mpr awaits.active
  have sameRunning : looked.running = system.client.running :=
    (congrArg (fun look => look.2.running) looks).symm
  have polled := pollInFlightObjectListScan_eq awaits
    (sameRunning.trans awaits.running) receives now
  rw [unrelated, if_neg (by simpa using inTime)] at polled
  unfold pollObjectListScan resolveNow
  simp only [if_true, onClient, looks]
  rw [if_pos ⟨awaits.session, isActive⟩, polled]
  exact if_neg (by simp [awaits.request])

/-- What the polls of a scan end with, if there are enough of them. -/
def ScanFinishes
    (runtime : ClientRuntime τ)
    (id : SessionId)
    (scan : ScanId)
    (finished : BacnetObjectListScanJob → Prop)
    (system : ClientSystem τ) : Prop :=
  ∃ least after,
    finished (after.scans scan) ∧
      ∀ rounds, least ≤ rounds →
        system.scanRounds runtime id scan rounds = after

/-- A scan that is over stays as it is. -/
theorem scanFinishes_of_inactive
    {finished : BacnetObjectListScanJob → Prop}
    (inactive : (system.scans scan).isActive = false)
    (isFinished : finished (system.scans scan)) :
    ScanFinishes runtime id scan finished system := by
  refine ⟨0, system, isFinished, fun rounds _ => ?_⟩
  cases rounds with
  | zero => rfl
  | succ rounds =>
      rw [scanRounds, inactive]
      exact if_neg Bool.false_ne_true

/-- A scan that is polled once more finishes as it would have. -/
theorem scanFinishes_of_poll
    {finished : BacnetObjectListScanJob → Prop}
    (isActive : (system.scans scan).isActive = true)
    (finishes :
      ScanFinishes runtime id scan finished
        ((system.pollObjectListScan runtime id scan kUseClientClock).idle
          runtime)) :
    ScanFinishes runtime id scan finished system := by
  obtain ⟨least, after, isFinished, runs⟩ := finishes
  refine ⟨least + 1, after, isFinished, fun rounds enough => ?_⟩
  obtain ⟨more, rfl⟩ := Nat.exists_eq_add_of_le' enough
  rw [← Nat.add_assoc, scanRounds, if_pos isActive]
  exact runs (more + least) (Nat.le_add_left _ _)

/-- The scan goes on when its wait is over. -/
theorem scanFinishes_of_ends
    {finished : BacnetObjectListScanJob → Prop}
    {wait : PolledWait τ}
    (sameRuntime : wait.runtime = runtime)
    {reply : Option ReceivedDatagram}
    {waited : Nat}
    (awaits : system.AwaitsScan id scan)
    (startedAt :
      wait.startedAt = (system.scans scan).inFlightStartedAtMs)
    (timeout :
      wait.timeoutMs = (system.scans scan).options.readTimeoutMs)
    (ignores :
      ∀ datagram, wait.ignored datagram →
        system.scanOutcome scan (some datagram) = none)
    (answers :
      ∀ datagram ∈ reply,
        (system.scanOutcome scan (some datagram)).isSome = true)
    (ends : wait.Ends reply waited system.client.transport)
    (goesOn :
      ∀ now client,
        client.running = true →
        wait.atRest now client.transport →
        ∃ settled,
          settled =
              ({ system with client := client } :
                ClientSystem τ).finishScanWait runtime id scan
                  (system.scanOutcome scan reply) now ∧
            settled.ScanSettled scan ∧
            ScanFinishes runtime id scan finished
              (settled.idle runtime)) :
    ScanFinishes runtime id scan finished system := by
  subst sameRuntime
  have isActive : (system.scans scan).isActive = true :=
    beq_iff_eq.mpr awaits.active
  generalize shape : system.client.transport = transport at ends
  induction ends generalizing system with
  | arrives looks receives atRest =>
      subst shape
      obtain ⟨middle, client, looksHere, receivesHere, isTransport,
        isRunning⟩ := BacnetClient.looks_receives looks receives
      obtain ⟨settled, rfl, isSettled, finishes⟩ :=
        goesOn _ client (isRunning.trans awaits.running)
          (isTransport ▸ atRest)
      refine scanFinishes_of_poll isActive ?_
      rw [pollObjectListScan_of_ended awaits looksHere receivesHere
        (.inl (answers _ rfl)) isSettled]
      exact finishes
  | expires looks receives isIgnored late atRest =>
      rename_i other transport looked received now
      subst shape
      obtain ⟨middle, client, looksHere, receivesHere, isTransport,
        isRunning⟩ := BacnetClient.looks_receives looks receives
      have unrelated : system.scanOutcome scan other = none := by
        cases other with
        | none => rfl
        | some datagram => exact ignores datagram (isIgnored datagram rfl)
      have isLate :
          (system.scans scan).options.readTimeoutMs ≤
            now - (system.scans scan).inFlightStartedAtMs := by
        rw [← startedAt, ← timeout]
        exact late
      obtain ⟨settled, rfl, isSettled, finishes⟩ :=
        goesOn now client (isRunning.trans awaits.running)
          (isTransport ▸ atRest)
      have sameOutcome :
          system.scanOutcome scan none = system.scanOutcome scan other :=
        unrelated.symm
      rw [sameOutcome] at isSettled finishes
      refine scanFinishes_of_poll isActive ?_
      rw [pollObjectListScan_of_ended awaits looksHere receivesHere
        (.inr isLate) isSettled]
      exact finishes
  | later looks receives isIgnored inTime ends inductionHypothesis =>
      rename_i reply other transport looked received now rounds
      subst shape
      obtain ⟨middle, client, looksHere, receivesHere, isTransport,
        isRunning⟩ := BacnetClient.looks_receives looks receives
      have unrelated : system.scanOutcome scan other = none := by
        cases other with
        | none => rfl
        | some datagram => exact ignores datagram (isIgnored datagram rfl)
      have stillInTime :
          ¬(system.scans scan).options.readTimeoutMs ≤
            now - (system.scans scan).inFlightStartedAtMs := by
        rw [← startedAt, ← timeout]
        exact inTime
      refine scanFinishes_of_poll isActive ?_
      rw [pollObjectListScan_of_pending awaits looksHere receivesHere
        unrelated stillInTime]
      have stillAwaits :
          (({ system with client := client } :
            ClientSystem τ).idle wait.runtime).AwaitsScan id scan :=
        ⟨isRunning.trans awaits.running, awaits.inFlight, awaits.session,
          awaits.active, awaits.request⟩
      exact inductionHypothesis stillAwaits startedAt timeout ignores
        answers goesOn isActive (congrArg wait.runtime.idle isTransport)

end ClientSystem

end BacnetStack
