import BacnetStack.ClientTraffic

namespace BacnetStack

/-!
# Waiting for a response

A client that waits for a response reads datagrams until one of them answers,
or gives up.  This module says so for every poll of a read or a write and for
the loop around it.
-/

/-- A response a session waits for. -/
inductive PendingReply where
  | read (invokeId : UInt8) (request : BacnetPropertyRequest)
  | priorityArray (invokeId : UInt8) (request : BacnetPropertyRequest)
  | write (invokeId : UInt8)
  deriving Repr, DecidableEq

/-- The packet is classified as the response. -/
def PendingReply.answeredBy
    (packet : List UInt8) : PendingReply → Bool
  | .read invokeId request =>
      decide ((readPropertyOutcome packet invokeId request).status ≠ .none)
  | .priorityArray invokeId request =>
      decide
        ((readPriorityArrayOutcome packet invokeId request).1.status ≠ .none)
  | .write invokeId =>
      decide (writePropertyOutcome packet invokeId ≠ .none)

/-- The datagram of a received entry. -/
def ClientTraffic.received? : ClientTraffic → Option ReceivedDatagram
  | .received datagram => some datagram
  | .sent _ _ _ | .notified _ => none

namespace BacnetClient

variable {τ : Type} (runtime : ClientRuntime τ)

/-- What a client has read from its socket, newest first. -/
def receivedDatagrams (client : BacnetClient τ) : List ReceivedDatagram :=
  client.traffic.filterMap ClientTraffic.received?

/-- What was read between two states of a client, newest first. -/
def newlyReceived
    (before after : BacnetClient τ) : List ReceivedDatagram :=
  after.receivedDatagrams.take
    (after.receivedDatagrams.length - before.receivedDatagrams.length)

/--
Between two states a client waited for a response: it read datagrams until
one answered, or gave up.
-/
def Waited
    (answers : ReceivedDatagram → Bool)
    (before after : BacnetClient τ)
    (answered : Prop) : Prop :=
  ∃ new,
    after.receivedDatagrams = new ++ before.receivedDatagrams ∧
      (answered ↔ ∃ datagram ∈ new.head?, answers datagram = true) ∧
      ∀ datagram ∈ new.tail, answers datagram = false

namespace Waited

variable {answers : ReceivedDatagram → Bool}
  {before middle after : BacnetClient τ} {answered : Prop}

/-- Nothing was read. -/
theorem of_silence
    (silence : after.receivedDatagrams = before.receivedDatagrams)
    (unanswered : ¬answered) :
    Waited answers before after answered :=
  ⟨[], silence, by simpa using unanswered, by simp⟩

/-- What is not read before or after a wait does not matter. -/
theorem congr
    {before' after' : BacnetClient τ}
    (waited : Waited answers before after answered)
    (start : before.receivedDatagrams = before'.receivedDatagrams)
    (finish : after'.receivedDatagrams = after.receivedDatagrams) :
    Waited answers before' after' answered := by
  obtain ⟨new, reads, answer, others⟩ := waited
  exact ⟨new, by rw [finish, reads, start], answer, others⟩

/-- The same wait, with its outcome in other words. -/
theorem of_iff
    {other : Prop}
    (waited : Waited answers before after answered)
    (same : other ↔ answered) :
    Waited answers before after other := by
  rwa [propext same]

/-- A wait goes on after a round without an answer. -/
theorem trans
    (early : Waited answers before middle False)
    (late : Waited answers middle after answered) :
    Waited answers before after answered := by
  obtain ⟨earlyNew, earlyReads, earlyAnswer, earlyOthers⟩ := early
  obtain ⟨lateNew, lateReads, lateAnswer, lateOthers⟩ := late
  have unanswered : ∀ datagram ∈ earlyNew, answers datagram = false := by
    cases earlyNew with
    | nil => simp
    | cons head tail =>
        simp only [false_iff, List.head?_cons, Option.mem_some_iff,
          exists_eq_left', Bool.not_eq_true] at earlyAnswer
        simpa [earlyAnswer] using earlyOthers
  refine ⟨lateNew ++ earlyNew, ?_, ?_, ?_⟩
  · rw [lateReads, earlyReads, List.append_assoc]
  · rw [lateAnswer]
    cases lateNew with
    | cons head tail => simp
    | nil =>
        cases earlyNew with
        | nil => simp
        | cons head tail => simp [unanswered head (by simp)]
  · intro datagram isMember
    cases lateNew with
    | nil => exact unanswered datagram (List.mem_of_mem_tail isMember)
    | cons head tail =>
        rcases List.mem_append.mp isMember with isLate | isEarly
        · exact lateOthers datagram isLate
        · exact unanswered datagram isEarly

/--
The answer comes from a place exactly if everything that was read and
answers does.
-/
theorem answer_from_iff
    (waited : Waited answers before after answered)
    (comesFrom : ReceivedDatagram → Prop) :
    (answered →
        ∃ datagram ∈ before.newlyReceived after,
          answers datagram = true ∧ comesFrom datagram) ↔
      ∀ datagram ∈ before.newlyReceived after,
        answers datagram = true → comesFrom datagram := by
  obtain ⟨new, reads, answer, others⟩ := waited
  have isNew : before.newlyReceived after = new := by
    rw [newlyReceived, reads, List.length_append, Nat.add_sub_cancel]
    exact List.take_left
  rw [isNew, answer]
  cases new with
  | nil => simp
  | cons head tail =>
      have onlyHead :
          ∀ datagram ∈ head :: tail, answers datagram = true →
            datagram = head := by
        intro datagram isMember answering
        rcases List.mem_cons.mp isMember with isHead | isTail
        · exact isHead
        · rw [others datagram isTail] at answering
          cases answering
      constructor
      · intro own datagram isMember answering
        obtain rfl := onlyHead datagram isMember answering
        obtain ⟨other, otherMember, otherAnswers, isFrom⟩ :=
          own ⟨datagram, rfl, answering⟩
        rwa [onlyHead other otherMember otherAnswers] at isFrom
      · rintro own ⟨datagram, isHead, answering⟩
        obtain rfl := Option.mem_some_iff.mp isHead
        exact ⟨head, List.mem_cons_self, answering,
          own head List.mem_cons_self answering⟩

end Waited

variable {runtime}

theorem receivedDatagrams_of_traffic
    {before after : BacnetClient τ}
    (traffic : after.traffic = before.traffic) :
    after.receivedDatagrams = before.receivedDatagrams :=
  congrArg (List.filterMap ClientTraffic.received?) traffic

section Polls

variable {answers : ReceivedDatagram → Bool} {Outcome : Type}

/-- One poll waits for one datagram. -/
theorem waited_pollDatagram
    {isAnswer : Outcome → Prop}
    {pending : Outcome}
    {classify : ReceivedDatagram → Outcome}
    (notPending : ¬isAnswer pending)
    (same :
      ∀ datagram,
        isAnswer (classify datagram) ↔ answers datagram = true)
    (client : BacnetClient τ) :
    Waited answers client (client.pollDatagram runtime pending classify).2
      (isAnswer (client.pollDatagram runtime pending classify).1) := by
  unfold pollDatagram
  split
  · split
    · rename_i received receives
      exact .of_silence
        (receivedDatagrams_of_traffic (receive_none receives).1) notPending
    · rename_i datagram received receives
      refine ⟨[datagram], ?_, ?_, by simp⟩
      · rw [receivedDatagrams, (receive_some receives).1]
        rfl
      · simpa using same datagram
  · exact .of_silence rfl notPending

/-- A loop of polls of a running client waits like its polls. -/
theorem waited_await
    {poll : BacnetClient τ → Option Outcome × BacnetClient τ}
    (quiet :
      ∀ client : BacnetClient τ, client.QuietStep (poll client).2)
    (waits :
      ∀ client : BacnetClient τ, client.running = true →
        Waited answers client (poll client).2
          ((poll client).1.isSome = true))
    (startedAt timeoutMs : UInt32)
    (rounds : Nat)
    {client : BacnetClient τ}
    (running : client.running = true) :
    Waited answers client
      (client.await runtime poll startedAt timeoutMs rounds).2
      (∃ outcome,
        (client.await runtime poll startedAt timeoutMs rounds).1 =
          .answered outcome) := by
  induction rounds generalizing client with
  | zero =>
      exact .of_silence rfl (by simp [await])
  | succ rounds inductionHypothesis =>
      have waited := waits client running
      have still := (quiet client).running.trans running
      unfold await
      split
      · rename_i outcome polled shape
        rw [shape] at waited
        simpa using waited
      · rename_i polled shape
        rw [shape] at waited still
        have early : Waited answers client polled False := by
          simpa using waited
        have timed :
            Waited answers client (polled.nowMs runtime).2 False :=
          early.congr rfl rfl
        dsimp only
        split
        · simpa using timed
        · have idle : ((polled.nowMs runtime).2.idle runtime).running = true :=
            still
          exact timed.trans ((inductionHypothesis idle).congr rfl rfl)

/-- What a loop of polls answers is what one of them answers. -/
theorem answered_of_await
    {poll : BacnetClient τ → Option Outcome × BacnetClient τ}
    {isAnswer : Outcome → Prop}
    (quiet :
      ∀ client : BacnetClient τ, client.QuietStep (poll client).2)
    (polled :
      ∀ client : BacnetClient τ, client.running = true →
        ∀ outcome ∈ (poll client).1, isAnswer outcome)
    {startedAt timeoutMs : UInt32}
    {rounds : Nat}
    {client : BacnetClient τ}
    (running : client.running = true)
    {outcome : Outcome}
    (answered :
      (client.await runtime poll startedAt timeoutMs rounds).1 =
        .answered outcome) :
    isAnswer outcome := by
  induction rounds generalizing client with
  | zero => exact nomatch answered
  | succ rounds inductionHypothesis =>
      have isPolled := polled client running
      have still := (quiet client).running.trans running
      unfold await at answered
      split at answered
      · rename_i reported after shape
        obtain rfl := Wait.answered.inj answered
        rw [shape] at isPolled
        exact isPolled reported rfl
      · rename_i after shape
        rw [shape] at still
        dsimp only at answered
        split at answered
        · exact nomatch answered
        · have idle : ((after.nowMs runtime).2.idle runtime).running = true :=
            still
          exact inductionHypothesis idle answered

/--
A call sends its request, looks at the clock and waits.  It reports a reply
exactly if the wait has an answer.
-/
theorem waited_call
    {poll : BacnetClient τ → Option Outcome × BacnetClient τ}
    {isAnswer : Outcome → Prop}
    (quiet :
      ∀ client : BacnetClient τ, client.QuietStep (poll client).2)
    (waits :
      ∀ client : BacnetClient τ, client.running = true →
        Waited answers client (poll client).2
          ((poll client).1.isSome = true))
    (polled :
      ∀ client : BacnetClient τ, client.running = true →
        ∀ outcome ∈ (poll client).1, isAnswer outcome)
    {client sent started finished : BacnetClient τ}
    {startedAt timeoutMs : UInt32}
    {rounds : Nat}
    {wait : Wait Outcome}
    (silence : sent.receivedDatagrams = client.receivedDatagrams)
    (running : sent.running = true)
    (looks : sent.nowMs runtime = (startedAt, started))
    (awaits :
      started.await runtime poll startedAt timeoutMs rounds =
        (wait, finished)) :
    Waited answers client finished
        (∃ outcome, wait = .answered outcome) ∧
      ∀ outcome, wait = .answered outcome → isAnswer outcome := by
  have shape : started = (sent.nowMs runtime).2 := by rw [looks]
  have still : started.running = true := by
    rw [shape]
    exact running
  have waited :=
    @waited_await τ runtime _ _ poll quiet waits startedAt timeoutMs rounds _
      still
  rw [awaits] at waited
  constructor
  · refine waited.congr ?_ rfl
    rw [shape, ← silence]
    rfl
  · rintro outcome rfl
    exact answered_of_await quiet polled still (congrArg Prod.fst awaits)

end Polls

section Responses

variable (client : BacnetClient τ) (invokeId : UInt8)
  (request : BacnetPropertyRequest)

theorem waited_pollReadPropertyStatus :
    Waited
      (fun datagram =>
        (PendingReply.read invokeId request).answeredBy datagram.packet)
      client
      (client.pollReadPropertyStatus runtime invokeId request).2
      ((client.pollReadPropertyStatus runtime invokeId
        request).1.status ≠ .none) :=
  @waited_pollDatagram τ runtime _ BacnetReadPropertyPoll
    (fun poll => poll.status ≠ .none) {} _ (fun isAnswer => isAnswer rfl)
    (fun _ => by simp [PendingReply.answeredBy]) client

theorem waited_awaitedRead :
    Waited
      (fun datagram =>
        (PendingReply.read invokeId request).answeredBy datagram.packet)
      client (awaitedRead runtime invokeId request client).2
      ((awaitedRead runtime invokeId request client).1.isSome = true) := by
  have waited :=
    @waited_pollReadPropertyStatus τ runtime client invokeId request
  unfold awaitedRead
  dsimp only
  split
  · rename_i pending
    simpa [pending] using waited
  · rename_i answered
    simpa [answered] using waited

theorem waited_awaitedPriorityArray :
    Waited
      (fun datagram =>
        (PendingReply.priorityArray invokeId request).answeredBy
          datagram.packet)
      client (awaitedPriorityArray runtime invokeId request client).2
      ((awaitedPriorityArray runtime invokeId request client).1.isSome =
        true) := by
  have waited :
      Waited
        (fun datagram =>
          (PendingReply.priorityArray invokeId request).answeredBy
            datagram.packet)
        client
        (client.pollReadPriorityArrayStatus runtime invokeId request).2
        ((client.pollReadPriorityArrayStatus runtime invokeId
          request).1.1.status ≠ .none) :=
    @waited_pollDatagram τ runtime _
      (BacnetReadPropertyPoll × List BacnetValue)
      (fun poll => poll.1.status ≠ .none) ({}, []) _
      (fun isAnswer => isAnswer rfl)
      (fun _ => by simp [PendingReply.answeredBy]) client
  unfold awaitedPriorityArray
  dsimp only
  split
  · rename_i pending
    simpa [pending] using waited
  · rename_i answered
    simpa [answered] using waited

/-- A round answers only with a response. -/
theorem status_of_awaitedRead
    {invokeId : UInt8}
    {request : BacnetPropertyRequest}
    (client : BacnetClient τ) :
    ∀ poll ∈ (awaitedRead runtime invokeId request client).1,
      poll.status ≠ .none := by
  intro poll isOutcome
  unfold awaitedRead at isOutcome
  dsimp only at isOutcome
  split at isOutcome
  · exact nomatch isOutcome
  · rename_i answered
    rwa [← Option.some.inj isOutcome]

theorem status_of_awaitedPriorityArray
    {invokeId : UInt8}
    {request : BacnetPropertyRequest}
    (client : BacnetClient τ) :
    ∀ outcome ∈ (awaitedPriorityArray runtime invokeId request client).1,
      outcome.1.status ≠ .none := by
  intro outcome isOutcome
  unfold awaitedPriorityArray at isOutcome
  dsimp only at isOutcome
  split at isOutcome
  · exact nomatch isOutcome
  · rename_i answered
    rwa [← Option.some.inj isOutcome]

/-- A write that may end with every response ends with nothing else. -/
theorem waited_awaitedWrite
    (enabled : runtime.writePropertyEnabled = true)
    (running : client.running = true)
    {ends :
      BacnetWritePropertyPollStatus →
        Option BacnetDeviceSessionWriteStatus}
    (isEnd : ends = writeEnd ∨ ends = writeEndWithOptions) :
    Waited
      (fun datagram =>
        (PendingReply.write invokeId).answeredBy datagram.packet)
      client (awaitedWrite runtime ends invokeId client).2
      ((awaitedWrite runtime ends invokeId client).1.isSome = true) := by
  have polls :
      client.pollWriteProperty runtime invokeId =
        client.pollDatagram runtime .none fun datagram =>
          writePropertyOutcome datagram.packet invokeId := by
    simp [pollWriteProperty, enabled, running]
  unfold awaitedWrite
  rw [polls]
  refine @waited_pollDatagram τ runtime _ _
    (fun status => (ends status).isSome = true) .none _ ?_ ?_ client
  · rcases isEnd with rfl | rfl <;> simp [writeEnd, writeEndWithOptions]
  · intro datagram
    simp only [PendingReply.answeredBy, decide_eq_true_eq]
    unfold writePropertyOutcome
    rcases isEnd with rfl | rfl <;> split <;> try split
    all_goals simp [writeEnd, writeEndWithOptions]

end Responses

section Sending

variable (client : BacnetClient τ) (destination : BacnetIpEndpoint)

theorem receivedDatagrams_sendRequest (request : Option (List UInt8)) :
    (client.sendRequest runtime destination request).2.receivedDatagrams =
      client.receivedDatagrams := by
  unfold sendRequest
  split
  · rfl
  · split
    · rfl
    · rfl

theorem receivedDatagrams_sendReadProperty
    (request : BacnetPropertyRequest)
    (invokeId : UInt8) :
    (client.sendReadProperty runtime destination request
        invokeId).2.receivedDatagrams =
      client.receivedDatagrams := by
  unfold sendReadProperty
  split
  · rfl
  · exact client.receivedDatagrams_sendRequest destination _

/-- Only a running client sends a request, and it goes on running. -/
theorem running_of_sendReadProperty
    {request : BacnetPropertyRequest}
    {invokeId : UInt8}
    {sent : BacnetClient τ}
    (sends :
      client.sendReadProperty runtime destination request invokeId =
        (true, sent)) :
    sent.running = true := by
  unfold sendReadProperty sendRequest send at sends
  split at sends
  · exact nomatch sends
  · split at sends
    · exact nomatch sends
    · split at sends
      · rename_i running
        obtain ⟨-, rfl⟩ := Prod.mk.inj sends
        exact running
      · exact nomatch sends

/-- A write was sent, or it says why not. -/
def SendsWrite
    (runtime : ClientRuntime τ)
    (client : BacnetClient τ)
    (sent : BacnetWritePropertyPollStatus × BacnetClient τ) : Prop :=
  sent.2.receivedDatagrams = client.receivedDatagrams ∧
    (sent.1 = .none ∧ runtime.writePropertyEnabled = true ∧
        sent.2.running = true ∨
      sent.1 = .disabled ∨ sent.1 = .sendFailed ∨
        sent.1 = .invalidArgument ∨ sent.1 = .unsupportedValue)

theorem sendsWrite_sendWriteRequest
    (enabled : runtime.writePropertyEnabled = true)
    (running : client.running = true)
    (request : Option (List UInt8)) :
    client.SendsWrite runtime
      (client.sendWriteRequest runtime destination request) := by
  unfold sendWriteRequest send
  split
  · exact ⟨rfl, by simp⟩
  · split
    · rename_i sent accepted
      obtain ⟨-, rfl⟩ := Prod.mk.inj accepted
      exact ⟨rfl, .inl ⟨rfl, enabled, running⟩⟩
    · rename_i sent refused
      obtain ⟨-, rfl⟩ := Prod.mk.inj refused
      exact ⟨rfl, by simp⟩

theorem sendsWrite_sendWriteProperty
    (request : BacnetPropertyRequest)
    (value : BacnetValue)
    (invokeId : UInt8) :
    client.SendsWrite runtime
      (client.sendWriteProperty runtime destination request value
        invokeId) := by
  unfold sendWriteProperty
  split
  · exact ⟨rfl, by simp⟩
  · rename_i isEnabled
    split
    · exact ⟨rfl, by simp⟩
    · rename_i canSend
      split
      · exact ⟨rfl, by simp⟩
      · simp only [Bool.not_eq_true', Bool.not_eq_false, Bool.or_eq_true,
          not_or] at isEnabled canSend
        exact client.sendsWrite_sendWriteRequest destination isEnabled
          canSend.1 _

theorem sendsWrite_sendWritePropertyWithOptions
    (object : BacnetObjectId)
    (property : BacnetPropertyId)
    (value : BacnetValue)
    (options : BacnetWritePropertyOptions)
    (invokeId : UInt8) :
    client.SendsWrite runtime
      (client.sendWritePropertyWithOptions runtime destination object
        property value options invokeId) := by
  unfold sendWritePropertyWithOptions
  split
  · exact ⟨rfl, by simp⟩
  · rename_i isEnabled
    split
    · exact ⟨rfl, by simp⟩
    · rename_i canSend
      split
      · exact ⟨rfl, by simp⟩
      · simp only [writeEnabled, Bool.not_eq_true', Bool.not_eq_false,
          Bool.and_eq_true, Bool.or_eq_true, not_or] at isEnabled canSend
        exact client.sendsWrite_sendWriteRequest destination isEnabled.1
          canSend.1 _

end Sending

end BacnetClient

end BacnetStack
