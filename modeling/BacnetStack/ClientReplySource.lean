import BacnetStack.ClientReplyWaits
import BacnetStack.ClientRuns

namespace BacnetStack

/-!
# Where replies come from

The sessions of a client share its socket.  The polls for a read and for a
write look at the invoke id of a response and not at its source, so a session
takes the response of any device that carries the id it waits for.
-/

/-- A status that a response gave. -/
def BacnetPropertyReadStatus.isReply : BacnetPropertyReadStatus → Bool
  | .timeout | .sendFailed | .busy | .skipped => false
  | .ack | .unsupportedProperty | .error | .reject | .abort | .decodeError
  | .emptyValue | .unsupportedDatatype | .arrayIndexNotSupported => true

def BacnetDeviceSessionWriteStatus.isReply :
    BacnetDeviceSessionWriteStatus → Bool
  | .ack | .error | .notCommandable | .reject | .abort => true
  | .timeout | .sendFailed | .disabled | .invalidArgument
  | .unsupportedValue | .busy => false

/-- What a poll of an enabled client ends a write with is a reply. -/
theorem BacnetClient.isReply_of_awaitedWrite
    {τ : Type}
    {runtime : ClientRuntime τ}
    (enabled : runtime.writePropertyEnabled = true)
    {ends :
      BacnetWritePropertyPollStatus →
        Option BacnetDeviceSessionWriteStatus}
    (isEnd : ends = writeEnd ∨ ends = writeEndWithOptions)
    {invokeId : UInt8}
    (client : BacnetClient τ)
    (running : client.running = true) :
    ∀ status ∈ (awaitedWrite runtime ends invokeId client).1,
      status.isReply = true := by
  have ofOutcome (packet : List UInt8) :
      ∀ status ∈ ends (writePropertyOutcome packet invokeId),
        status.isReply = true := by
    unfold writePropertyOutcome
    rcases isEnd with rfl | rfl <;> split <;> try split
    all_goals
      simp [writeEnd, writeEndWithOptions,
        BacnetDeviceSessionWriteStatus.isReply]
  have ofNone :
      ∀ status ∈ ends .none, status.isReply = true := by
    rcases isEnd with rfl | rfl
    · intro status isStatus
      cases isStatus
    · intro status isStatus
      cases isStatus
  intro status isOutcome
  unfold awaitedWrite pollWriteProperty pollDatagram at isOutcome
  simp only [enabled, running, Bool.not_true, Bool.false_eq_true, if_false,
    if_true] at isOutcome
  split at isOutcome
  · exact ofNone status isOutcome
  · exact ofOutcome _ status isOutcome

/-- What a session does to get a reply. -/
inductive ReplyOperation where
  | readProperty
      (request : BacnetPropertyRequest)
      (timeoutMs : UInt32)
      (rounds : Nat)
  | readPriorityArray
      (object : BacnetObjectId)
      (timeoutMs : UInt32)
      (rounds : Nat)
  | writeProperty
      (request : BacnetPropertyRequest)
      (value : BacnetValue)
      (timeoutMs : UInt32)
      (rounds : Nat)
  | writePropertyWithOptions
      (object : BacnetObjectId)
      (property : BacnetPropertyId)
      (value : BacnetValue)
      (options : BacnetWritePropertyOptions)
      (timeoutMs : UInt32)
      (rounds : Nat)
  | pollScan (nowMs : UInt32)
  | pollRead (nowMs : UInt32)
  deriving Repr, DecidableEq

namespace ClientSystem

variable {τ : Type} (runtime : ClientRuntime τ) (system : ClientSystem τ)
  (id : SessionId)

/-- The scan of a session that waits for a response. -/
def waitingScan? : Option ScanId :=
  (system.sessions id).inFlightObjectListScan.filter fun scan =>
    (system.scans scan).isActive && (system.scans scan).requestInFlight

/-- The read job of a session that waits for a response. -/
def waitingRead? : Option ReadId :=
  (system.sessions id).inFlightPropertyRead.filter fun read =>
    (system.reads read).isActive

/-- The response an operation waits for; a call sends a new request. -/
def pendingReply? : ReplyOperation → Option PendingReply
  | .readProperty request _ _ =>
      some (.read (system.allocateInvokeId id).1 request)
  | .readPriorityArray object _ _ =>
      some (.priorityArray (system.allocateInvokeId id).1
        (priorityArrayRequest object))
  | .writeProperty _ _ _ _ | .writePropertyWithOptions _ _ _ _ _ _ =>
      some (.write (system.allocateInvokeId id).1)
  | .pollScan _ =>
      (system.waitingScan? id).map fun scan =>
        .read (system.scans scan).inFlightInvokeId
          (system.scans scan).inFlightRequest
  | .pollRead _ =>
      (system.waitingRead? id).map fun read =>
        .read (system.reads read).invokeId (system.reads read).request

/-- Whether an operation reports a reply, and the system after it. -/
def perform : ReplyOperation → Bool × ClientSystem τ
  | .readProperty request timeoutMs rounds =>
      let (result, after) :=
        system.readPropertyDetailed runtime id request timeoutMs rounds
      (result.any (·.status.isReply), after)
  | .readPriorityArray object timeoutMs rounds =>
      let (result, after) :=
        system.readPriorityArray runtime id object timeoutMs rounds
      (result.any (·.1.isReply), after)
  | .writeProperty request value timeoutMs rounds =>
      let (result, after) :=
        system.writeProperty runtime id request value timeoutMs rounds
      (result.any (·.isReply), after)
  | .writePropertyWithOptions object property value options timeoutMs
      rounds =>
      let (result, after) :=
        system.writePropertyWithOptions runtime id object property value
          options timeoutMs rounds
      (result.any (·.isReply), after)
  | .pollScan nowMs =>
      -- The read in flight ends with the response its poll returns.
      ((system.waitingScan? id).any fun scan =>
          decide
            ((system.client.pollReadPropertyStatus runtime
              (system.scans scan).inFlightInvokeId
              (system.scans scan).inFlightRequest).1.status ≠ .none),
        system.pollInFlightObjectListScan runtime id nowMs)
  | .pollRead nowMs =>
      let after := system.pollInFlightPropertyRead runtime id nowMs
      ((system.waitingRead? id).any fun read =>
          !(after.reads read).isActive &&
            (after.reads read).readStatus.isReply,
        after)

variable {runtime}

theorem isReply_classifyDetailedReadStatus
    (poll : BacnetReadPropertyPoll)
    (arrayIndex : UInt32) :
    (classifyDetailedReadStatus poll arrayIndex).isReply = true ↔
      poll.status ≠ .none := by
  unfold classifyDetailedReadStatus
  cases poll.status with
  | ack | error =>
      dsimp only
      split
      · simp [BacnetPropertyReadStatus.isReply]
      · split
        · simp [BacnetPropertyReadStatus.isReply]
        · simp [BacnetPropertyReadStatus.isReply]
  | none | decodeError | reject | abort =>
      simp [BacnetPropertyReadStatus.isReply]

/-- A call waits with its client after a request was sent. -/
theorem waited_readPropertyDetailed
    (request : BacnetPropertyRequest)
    (timeoutMs : UInt32)
    (rounds : Nat) :
    BacnetClient.Waited
      (fun datagram =>
        (PendingReply.read (system.allocateInvokeId id).1 request).answeredBy
          datagram.packet)
      system.client
      (system.perform runtime id
        (.readProperty request timeoutMs rounds)).2.client
      ((system.perform runtime id
        (.readProperty request timeoutMs rounds)).1 = true) := by
  dsimp only [perform]
  unfold readPropertyDetailed cacheFailure
  rcases allocates : system.allocateInvokeId id with ⟨invokeId, allocated⟩
  have unchanged : allocated.client = system.client :=
    congrArg (·.2.client) allocates.symm
  dsimp only [onClient]
  split
  · exact .of_silence rfl (by simp [BacnetPropertyReadStatus.isReply])
  · rw [← unchanged]
    have silence :=
      @BacnetClient.receivedDatagrams_sendReadProperty τ runtime
        allocated.client (allocated.sessions id).endpoint request invokeId
    rcases sends :
        allocated.client.sendReadProperty runtime
          (allocated.sessions id).endpoint request invokeId with
      ⟨accepted, sent⟩
    rw [sends] at silence
    cases accepted with
    | false =>
        exact .of_silence silence (by simp [BacnetPropertyReadStatus.isReply])
    | true =>
        rcases looks : sent.nowMs runtime with ⟨startedAt, started⟩
        rcases awaits :
            started.await runtime
              (BacnetClient.awaitedRead runtime invokeId request) startedAt
              timeoutMs rounds with
          ⟨wait, finished⟩
        obtain ⟨waited, isAnswer⟩ := BacnetClient.waited_call
          (BacnetClient.quiet_awaitedRead runtime · invokeId request)
          (fun client _ => client.waited_awaitedRead invokeId request)
          (fun client _ => client.status_of_awaitedRead) silence
          (BacnetClient.running_of_sendReadProperty _ _ sends) looks awaits
        cases wait with
        | waiting => exact waited.of_iff (by simp)
        | timedOut =>
            refine (waited.congr rfl ?_).of_iff
              (by simp [BacnetPropertyReadStatus.isReply])
            rfl
        | answered poll =>
            refine (waited.congr rfl ?_).of_iff ?_
            · rfl
            · simpa [PropertyReadResult.ofPoll,
                isReply_classifyDetailedReadStatus] using isAnswer poll rfl

theorem waited_readPriorityArray
    (object : BacnetObjectId)
    (timeoutMs : UInt32)
    (rounds : Nat) :
    BacnetClient.Waited
      (fun datagram =>
        (PendingReply.priorityArray (system.allocateInvokeId id).1
          (priorityArrayRequest object)).answeredBy datagram.packet)
      system.client
      (system.perform runtime id
        (.readPriorityArray object timeoutMs rounds)).2.client
      ((system.perform runtime id
        (.readPriorityArray object timeoutMs rounds)).1 = true) := by
  dsimp only [perform]
  unfold readPriorityArray
  rcases allocates : system.allocateInvokeId id with ⟨invokeId, allocated⟩
  have unchanged : allocated.client = system.client :=
    congrArg (·.2.client) allocates.symm
  dsimp only [onClient]
  generalize priorityArrayRequest object = request
  split
  · exact .of_silence rfl (by simp [BacnetPropertyReadStatus.isReply])
  · rw [← unchanged]
    have silence :=
      @BacnetClient.receivedDatagrams_sendReadProperty τ runtime
        allocated.client (allocated.sessions id).endpoint request invokeId
    rcases sends :
        allocated.client.sendReadProperty runtime
          (allocated.sessions id).endpoint request invokeId with
      ⟨accepted, sent⟩
    rw [sends] at silence
    cases accepted with
    | false =>
        exact .of_silence silence (by simp [BacnetPropertyReadStatus.isReply])
    | true =>
        rcases looks : sent.nowMs runtime with ⟨startedAt, started⟩
        rcases awaits :
            started.await runtime
              (BacnetClient.awaitedPriorityArray runtime invokeId request)
              startedAt timeoutMs rounds with
          ⟨wait, finished⟩
        obtain ⟨waited, isAnswer⟩ := BacnetClient.waited_call
          (BacnetClient.quiet_awaitedPriorityArray runtime · invokeId request)
          (fun client _ =>
            client.waited_awaitedPriorityArray invokeId request)
          (fun client _ => client.status_of_awaitedPriorityArray) silence
          (BacnetClient.running_of_sendReadProperty _ _ sends) looks awaits
        cases wait with
        | waiting => exact waited.of_iff (by simp)
        | timedOut =>
            exact waited.of_iff (by simp [BacnetPropertyReadStatus.isReply])
        | answered outcome =>
            obtain ⟨poll, slots⟩ := outcome
            have isAnswer : poll.status ≠ .none := isAnswer _ rfl
            by_cases isAck : poll.status = .ack
            · simpa [isAck, BacnetPropertyReadStatus.isReply] using waited
            · simpa [isAck, isReply_classifyDetailedReadStatus,
                isAnswer] using waited

/-- A write waits with its client after its request was sent. -/
theorem waited_awaitWrite
    {ends :
      BacnetWritePropertyPollStatus →
        Option BacnetDeviceSessionWriteStatus}
    (isEnd : ends = writeEnd ∨ ends = writeEndWithOptions)
    (invokeId : UInt8)
    (timeoutMs : UInt32)
    (rounds : Nat)
    {client : BacnetClient τ}
    {sent : ClientSystem τ}
    (silence : sent.client.receivedDatagrams = client.receivedDatagrams)
    (enabled : runtime.writePropertyEnabled = true)
    (running : sent.client.running = true) :
    BacnetClient.Waited
      (fun datagram =>
        (PendingReply.write invokeId).answeredBy datagram.packet)
      client
      (sent.awaitWrite runtime invokeId ends timeoutMs rounds).2.client
      ((sent.awaitWrite runtime invokeId ends timeoutMs rounds).1.any
        (·.isReply) = true) := by
  unfold awaitWrite
  dsimp only [onClient]
  rcases looks : sent.client.nowMs runtime with ⟨startedAt, started⟩
  rcases awaits :
      started.await runtime (BacnetClient.awaitedWrite runtime ends invokeId)
        startedAt timeoutMs rounds with
    ⟨wait, finished⟩
  obtain ⟨waited, isReply⟩ := BacnetClient.waited_call
    (BacnetClient.quiet_awaitedWrite runtime · ends invokeId)
    (fun client running =>
      client.waited_awaitedWrite invokeId enabled running isEnd)
    (BacnetClient.isReply_of_awaitedWrite enabled isEnd) silence running
    looks awaits
  cases wait with
  | waiting => exact waited.of_iff (by simp)
  | timedOut =>
      exact waited.of_iff (by simp [BacnetDeviceSessionWriteStatus.isReply])
  | answered status =>
      exact waited.of_iff (by simpa using isReply status rfl)

theorem waited_writeProperty
    (request : BacnetPropertyRequest)
    (value : BacnetValue)
    (timeoutMs : UInt32)
    (rounds : Nat) :
    BacnetClient.Waited
      (fun datagram =>
        (PendingReply.write (system.allocateInvokeId id).1).answeredBy
          datagram.packet)
      system.client
      (system.perform runtime id
        (.writeProperty request value timeoutMs rounds)).2.client
      ((system.perform runtime id
        (.writeProperty request value timeoutMs rounds)).1 = true) := by
  dsimp only [perform]
  unfold writeProperty
  rcases allocates : system.allocateInvokeId id with ⟨invokeId, allocated⟩
  have unchanged : allocated.client = system.client :=
    congrArg (·.2.client) allocates.symm
  dsimp only
  split
  · exact .of_silence rfl (by simp [BacnetDeviceSessionWriteStatus.isReply])
  · split
    · exact .of_silence rfl
        (by simp [BacnetDeviceSessionWriteStatus.isReply])
    · rw [← unchanged]
      dsimp only [onClient]
      obtain ⟨silence, isSent⟩ :=
        @BacnetClient.sendsWrite_sendWriteProperty τ runtime
          allocated.client (allocated.sessions id).endpoint request value
          invokeId
      rcases isSent with ⟨isSent, enabled, running⟩ | refused
      · rw [isSent]
        exact waited_awaitWrite (.inl rfl) invokeId timeoutMs rounds silence
          enabled running
      · rcases refused with refused | refused | refused | refused
        all_goals
          rw [refused]
          exact .of_silence silence
            (by simp [writeNotSent, BacnetDeviceSessionWriteStatus.isReply])

theorem waited_writePropertyWithOptions
    (object : BacnetObjectId)
    (property : BacnetPropertyId)
    (value : BacnetValue)
    (options : BacnetWritePropertyOptions)
    (timeoutMs : UInt32)
    (rounds : Nat) :
    BacnetClient.Waited
      (fun datagram =>
        (PendingReply.write (system.allocateInvokeId id).1).answeredBy
          datagram.packet)
      system.client
      (system.perform runtime id
        (.writePropertyWithOptions object property value options timeoutMs
          rounds)).2.client
      ((system.perform runtime id
        (.writePropertyWithOptions object property value options timeoutMs
          rounds)).1 = true) := by
  dsimp only [perform]
  unfold writePropertyWithOptions
  rcases allocates : system.allocateInvokeId id with ⟨invokeId, allocated⟩
  have unchanged : allocated.client = system.client :=
    congrArg (·.2.client) allocates.symm
  dsimp only
  split
  · exact .of_silence rfl (by simp [BacnetDeviceSessionWriteStatus.isReply])
  · split
    · exact .of_silence rfl
        (by simp [BacnetDeviceSessionWriteStatus.isReply])
    · rw [← unchanged]
      dsimp only [onClient]
      obtain ⟨silence, isSent⟩ :=
        @BacnetClient.sendsWrite_sendWritePropertyWithOptions τ runtime
          allocated.client (allocated.sessions id).endpoint object property
          value options invokeId
      rcases isSent with ⟨isSent, enabled, running⟩ | refused
      · rw [isSent]
        exact waited_awaitWrite (.inr rfl) invokeId timeoutMs rounds silence
          enabled running
      · rcases refused with refused | refused | refused | refused
        all_goals
          rw [refused]
          exact .of_silence silence
            (by
              simp [writeNotSentWithOptions,
                BacnetDeviceSessionWriteStatus.isReply])

section Scan

variable (scan : ScanId) (nowMs : UInt32)

theorem receivedDatagrams_sendObjectListScanRead
    (request : BacnetPropertyRequest)
    (phase : BacnetObjectListScanPhase) :
    (system.sendObjectListScanRead runtime id scan request phase
        nowMs).2.client.receivedDatagrams =
      system.client.receivedDatagrams := by
  have silence :=
    @BacnetClient.receivedDatagrams_sendReadProperty τ runtime
      (system.allocateInvokeId id).2.client
      ((system.allocateInvokeId id).2.sessions id).endpoint request
      (system.allocateInvokeId id).1
  unfold sendObjectListScanRead
  dsimp only
  split
  · exact silence
  · exact silence

theorem receivedDatagrams_startEntryRead :
    (system.startEntryRead runtime id scan
        nowMs).client.receivedDatagrams =
      system.client.receivedDatagrams := by
  have sends :=
    @receivedDatagrams_sendObjectListScanRead τ runtime system id scan nowMs
      (objectListRequest (system.sessions id)
        (system.scans scan).currentIndex) .readObjectListEntry
  unfold startEntryRead
  dsimp only
  split
  · rfl
  · split
    all_goals
      rename_i shape
      rw [shape] at sends
      exact sends

theorem receivedDatagrams_startFieldReads
    (scanned : BacnetScannedObject)
    (fields : List ScanField) :
    (startFieldReads runtime id scan scanned nowMs fields
        system).client.receivedDatagrams =
      system.client.receivedDatagrams := by
  induction fields generalizing system with
  | nil => exact receivedDatagrams_startEntryRead _ id scan nowMs
  | cons field rest inductionHypothesis =>
      have sends :=
        @receivedDatagrams_sendObjectListScanRead τ runtime system id scan
          nowMs
          { object := scanned.objectId
            property := field.property
            arrayIndex := kBacnetNoArrayIndex } field.phase
      unfold startFieldReads
      split
      · split
        · rename_i shape
          rw [shape] at sends
          exact sends
        · rename_i shape
          rw [shape] at sends
          exact (inductionHypothesis _).trans sends
      · exact inductionHypothesis system

/-- A scan goes on by sending requests only. -/
theorem receivedDatagrams_finishObjectListScanRead
    (status : BacnetDeviceSessionReadStatus)
    (value : Option BacnetValue) :
    (system.finishObjectListScanRead runtime id scan status value
        nowMs).client.receivedDatagrams =
      system.client.receivedDatagrams := by
  unfold finishObjectListScanRead
  split
  · unfold advanceObjectListScan
    dsimp only
    split
    · rfl
    · split
      · exact receivedDatagrams_startFieldReads _ id scan nowMs _ _
      · exact receivedDatagrams_startEntryRead _ id scan nowMs
  · rfl
  · rfl

end Scan

/-- What a session polls for, and whether the poll found it. -/
theorem waited_pollScan
    {scan : ScanId}
    (nowMs : UInt32)
    (waiting : system.waitingScan? id = some scan) :
    BacnetClient.Waited
      (fun datagram =>
        (PendingReply.read (system.scans scan).inFlightInvokeId
          (system.scans scan).inFlightRequest).answeredBy datagram.packet)
      system.client
      (system.perform runtime id (.pollScan nowMs)).2.client
      ((system.perform runtime id (.pollScan nowMs)).1 = true) := by
  obtain ⟨inFlight, isWaiting⟩ := Option.filter_eq_some_iff.mp waiting
  have waited :=
    @BacnetClient.waited_pollReadPropertyStatus τ runtime system.client
      (system.scans scan).inFlightInvokeId
      (system.scans scan).inFlightRequest
  rcases polls :
      system.client.pollReadPropertyStatus runtime
        (system.scans scan).inFlightInvokeId
        (system.scans scan).inFlightRequest with
    ⟨poll, polled⟩
  rw [polls] at waited
  simp only [Bool.and_eq_true] at isWaiting
  dsimp only [perform]
  unfold pollInFlightObjectListScan
  rw [inFlight, waiting]
  simp only [isWaiting, onClient, polls, Bool.not_true, Bool.or_self,
    Bool.false_eq_true, if_false, Option.any_some, decide_eq_true_eq]
  by_cases answered : poll.status = .none
  · rw [if_neg (not_not_intro answered)]
    split
    · refine waited.congr rfl ?_
      exact receivedDatagrams_finishObjectListScanRead _ id scan nowMs _ _
    · exact waited
  · rw [if_pos answered]
    refine waited.congr rfl ?_
    exact receivedDatagrams_finishObjectListScanRead _ id scan nowMs _ _

theorem waited_pollRead
    {read : ReadId}
    (nowMs : UInt32)
    (waiting : system.waitingRead? id = some read) :
    BacnetClient.Waited
      (fun datagram =>
        (PendingReply.read (system.reads read).invokeId
          (system.reads read).request).answeredBy datagram.packet)
      system.client
      (system.perform runtime id (.pollRead nowMs)).2.client
      ((system.perform runtime id (.pollRead nowMs)).1 = true) := by
  obtain ⟨inFlight, isActive⟩ := Option.filter_eq_some_iff.mp waiting
  have waited :=
    @BacnetClient.waited_pollReadPropertyStatus τ runtime system.client
      (system.reads read).invokeId (system.reads read).request
  rcases polls :
      system.client.pollReadPropertyStatus runtime
        (system.reads read).invokeId (system.reads read).request with
    ⟨poll, polled⟩
  rw [polls] at waited
  dsimp only [perform]
  unfold pollInFlightPropertyRead
  rw [inFlight, waiting]
  simp only [onClient, polls, Option.any_some]
  by_cases answered : poll.status = .none
  · rw [if_neg (not_not_intro answered)]
    split
    · refine (waited.congr rfl ?_).of_iff ?_
      · rfl
      · simp [finishPropertyRead, setRead, BacnetPropertyReadStatus.isReply,
          answered]
    · exact waited.of_iff (by simp [answered, isActive])
  · rw [if_pos answered]
    refine (waited.congr rfl ?_).of_iff ?_
    · rfl
    · have isReply :=
        (isReply_classifyDetailedReadStatus poll
          (system.reads read).request.arrayIndex).mpr answered
      have ended :
          ((if classifyDetailedReadStatus poll
                (system.reads read).request.arrayIndex = .ack ∨
              classifyDetailedReadStatus poll
                (system.reads read).request.arrayIndex = .emptyValue then
            BacnetPropertyReadJobStatus.complete
          else
            .failed) == .active) = false := by
        split <;> rfl
      simp [finishPropertyRead, setRead, BacnetPropertyReadJob.isActive,
        isReply, ended, answered]

variable (runtime) (callback : SubscriptionCallback τ)

/-- The datagram is a response that the operation waits for. -/
def Completes
    (operation : ReplyOperation)
    (datagram : ReceivedDatagram) : Prop :=
  ∃ pending ∈ system.pendingReply? id operation,
    pending.answeredBy datagram.packet = true

/-- What a session reports comes from its own device. -/
def ReportsOwnReply (operation : ReplyOperation) : Prop :=
  (system.perform runtime id operation).1 = true →
    ∃ datagram ∈
        system.client.newlyReceived
          (system.perform runtime id operation).2.client,
      system.Completes id operation datagram ∧
        datagram.source = (system.sessions id).endpoint

/-- Only the device of a session sends what the session waits for. -/
def OnlyOwnReplies (operation : ReplyOperation) : Prop :=
  ∀ datagram ∈
      system.client.newlyReceived
        (system.perform runtime id operation).2.client,
    system.Completes id operation datagram →
      datagram.source = (system.sessions id).endpoint

end ClientSystem

/-- A session waits for a reply, or the application does something else. -/
inductive ReplyEvent where
  | perform (id : SessionId) (operation : ReplyOperation)
  | other (step : ClientStep)
  deriving Repr, DecidableEq

namespace ReplyEvent

variable {τ : Type} (runtime : ClientRuntime τ)
  (callback : SubscriptionCallback τ)

def happen (system : ClientSystem τ) : ReplyEvent → ClientSystem τ
  | .perform id operation => (system.perform runtime id operation).2
  | .other step => system.step runtime callback step

/-- A property of every operation of a run. -/
def ofOperation
    (holds : ClientSystem τ → SessionId → ReplyOperation → Prop)
    (system : ClientSystem τ) : ReplyEvent → Prop
  | .perform id operation => holds system id operation
  | .other _ => True

end ReplyEvent

namespace ClientSystem

variable {τ : Type} (runtime : ClientRuntime τ)

/-- One operation reports an answer of the right device or none. -/
theorem reportsOwnReply_iff
    (system : ClientSystem τ)
    (id : SessionId)
    (operation : ReplyOperation) :
    system.ReportsOwnReply runtime id operation ↔
      system.OnlyOwnReplies runtime id operation := by
  have ofWait
      {pending : PendingReply}
      (isPending : system.pendingReply? id operation = some pending)
      (waited :
        BacnetClient.Waited
          (fun datagram => pending.answeredBy datagram.packet) system.client
          (system.perform runtime id operation).2.client
          ((system.perform runtime id operation).1 = true)) :
      system.ReportsOwnReply runtime id operation ↔
        system.OnlyOwnReplies runtime id operation := by
    unfold ReportsOwnReply OnlyOwnReplies Completes
    simpa [isPending] using
      waited.answer_from_iff (·.source = (system.sessions id).endpoint)
  have ofNothing
      (notPending : system.pendingReply? id operation = none)
      (silent : (system.perform runtime id operation).1 = false) :
      system.ReportsOwnReply runtime id operation ↔
        system.OnlyOwnReplies runtime id operation := by
    unfold ReportsOwnReply OnlyOwnReplies Completes
    simp [notPending, silent]
  cases operation with
  | readProperty request timeoutMs rounds =>
      exact ofWait rfl
        (system.waited_readPropertyDetailed id request timeoutMs rounds)
  | readPriorityArray object timeoutMs rounds =>
      exact ofWait rfl
        (system.waited_readPriorityArray id object timeoutMs rounds)
  | writeProperty request value timeoutMs rounds =>
      exact ofWait rfl
        (system.waited_writeProperty id request value timeoutMs rounds)
  | writePropertyWithOptions object property value options timeoutMs
      rounds =>
      exact ofWait rfl
        (system.waited_writePropertyWithOptions id object property value
          options timeoutMs rounds)
  | pollScan nowMs =>
      cases waiting : system.waitingScan? id with
      | none =>
          exact ofNothing (by simp [pendingReply?, waiting])
            (by simp [perform, waiting])
      | some scan =>
          exact ofWait (by simp [pendingReply?, waiting])
            (system.waited_pollScan id nowMs waiting)
  | pollRead nowMs =>
      cases waiting : system.waitingRead? id with
      | none =>
          exact ofNothing (by simp [pendingReply?, waiting])
            (by simp [perform, waiting])
      | some read =>
          exact ofWait (by simp [pendingReply?, waiting])
            (system.waited_pollRead id nowMs waiting)

/--
Over any operations of any sessions that share a client, with anything else
between them, every reported reply comes from the device of the session that
reports it exactly if no other device sends one.
-/
theorem along_reportsOwnReply_iff
    (callback : SubscriptionCallback τ)
    (system : ClientSystem τ)
    (events : List ReplyEvent) :
    EventRun.Along (ReplyEvent.happen runtime callback)
        (ReplyEvent.ofOperation
          (fun system => system.ReportsOwnReply runtime)) system events ↔
      EventRun.Along (ReplyEvent.happen runtime callback)
        (ReplyEvent.ofOperation
          (fun system => system.OnlyOwnReplies runtime)) system events :=
  EventRun.along_congr fun system event => by
    cases event with
    | perform id operation =>
        exact reportsOwnReply_iff runtime system id operation
    | other step => exact Iff.rfl

end ClientSystem

/-- A device that no session talks to. -/
def scriptedStranger : BacnetIpEndpoint :=
  { scriptedPeer with d := 66 }

/-- A Reject of the first request of a session. -/
def scriptedReject (source : BacnetIpEndpoint) : ReceivedDatagram where
  source := source
  packet := [0x81, 0x0A, 0, 9, 1, 0, 0x60, 1, 0]

/-- A Reject of a stranger ends the read of a session. -/
theorem not_along_reportsOwnReply :
    ¬∀ (system : ClientSystem (List (Option ReceivedDatagram)))
      (events : List ReplyEvent),
      system.IsInitial →
      EventRun.Along
        (ReplyEvent.happen scriptedRuntime fun _ _ system => system)
        (ReplyEvent.ofOperation
          (fun system => system.ReportsOwnReply scriptedRuntime))
        system events := by
  intro always
  have reports :=
    (always (scriptedSystem [some (scriptedReject scriptedStranger)])
      [.other (.startClient true), .perform 0 (.readProperty {} 1000 1)]
      (isInitial_scriptedSystem _)).2.1
  have own := (ClientSystem.reportsOwnReply_iff scriptedRuntime _ _ _).mp
    reports (scriptedReject scriptedStranger) (by decide +kernel)
    ⟨_, rfl, by decide +kernel⟩
  exact absurd own (by decide +kernel)

end BacnetStack
