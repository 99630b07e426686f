import BacnetStack.ServerCovLifetime

namespace BacnetStack

open EventRun WrappingClock

/-!
# A notification that could not be sent

A failed send costs the subscription nothing but time: what it knows of the
last notification stays, no other slot is touched, and until the backoff is
over the scan passes the slot.
-/

/-- Milliseconds the slot waits after a failed send. -/
def sendBackoffMs
    (device : BacnetServerDevice)
    (slot : CovSlot) : Nat :=
  let sendRetryCount :=
    if slot.sendRetryCount.toUInt32 < device.numberOfApduRetries then
      slot.sendRetryCount + 1
    else
      slot.sendRetryCount
  let retryDelayMs :=
    if device.apduTimeout ≠ 0 then device.apduTimeout else 1000
  let retryMultiplier :=
    if sendRetryCount ≠ 0 then sendRetryCount.toNat else 1
  min (retryDelayMs.toNat * retryMultiplier) kMaxCovRetryDelayMs

/-- The deadline `failedSend` stores. -/
theorem retryAtMs_failedSend
    (device : BacnetServerDevice)
    (now : UInt32)
    (slot : CovSlot) :
    (failedSend device now slot).retryAtMs =
      if now + UInt32.ofNat (sendBackoffMs device slot) = 0 then 1
      else now + UInt32.ofNat (sendBackoffMs device slot) :=
  rfl

/-- There is always some time to wait. -/
theorem sendBackoffMs_pos
    (device : BacnetServerDevice)
    (slot : CovSlot) :
    0 < sendBackoffMs device slot := by
  have delay (timeout : UInt32) :
      0 < (if timeout ≠ 0 then timeout else 1000).toNat := by
    split
    · exact Nat.pos_of_ne_zero fun zero =>
        absurd (UInt32.toNat_inj.mp zero) ‹_›
    · decide
  have multiplier (retries : UInt8) :
      0 < if retries ≠ 0 then retries.toNat else 1 := by
    split
    · exact Nat.pos_of_ne_zero fun zero =>
        absurd (UInt8.toNat_inj.mp zero) ‹_›
    · decide
  exact Nat.lt_min.mpr
    ⟨Nat.mul_pos (delay _) (multiplier _), by decide⟩

/-- A pending attempt is never mistaken for none. -/
theorem retryAtMs_failedSend_ne_zero
    (device : BacnetServerDevice)
    (now : UInt32)
    (slot : CovSlot) :
    (failedSend device now slot).retryAtMs ≠ 0 := by
  rw [retryAtMs_failedSend]
  split_ifs with wraps
  · decide
  · exact wraps

/-- The next attempt is a backoff away, or a millisecond more. -/
theorem exists_reading_retryAtMs
    (device : BacnetServerDevice)
    (startMs : Nat)
    (slot : CovSlot) :
    ∃ extra, extra ≤ 1 ∧
      (failedSend device (reading startMs) slot).retryAtMs =
        reading (startMs + sendBackoffMs device slot + extra) := by
  have sum :
      reading startMs + UInt32.ofNat (sendBackoffMs device slot) =
        reading (startMs + sendBackoffMs device slot) :=
    reading_add startMs (sendBackoffMs device slot)
  rw [retryAtMs_failedSend, sum]
  by_cases wraps : reading (startMs + sendBackoffMs device slot) = 0
  · refine ⟨1, le_rfl, ?_⟩
    rw [if_pos wraps, ← reading_add, wraps]
    rfl
  · exact ⟨0, Nat.zero_le _, if_neg wraps⟩

/-- Before the backoff is over, its deadline is ahead. -/
theorem not_reached_retryAtMs
    {device : BacnetServerDevice}
    {startMs nowMs : Nat}
    {slot : CovSlot}
    (before : nowMs < startMs + sendBackoffMs device slot)
    (started : startMs ≤ nowMs) :
    reached (reading nowMs)
      (failedSend device (reading startMs) slot).retryAtMs = false := by
  obtain ⟨extra, small, stored⟩ :=
    exists_reading_retryAtMs device startMs slot
  have bounded : sendBackoffMs device slot ≤ 2 ^ 31 - 2 :=
    Nat.min_le_right _ _
  rw [stored]
  exact not_reached_of_near (by omega) (by omega)

/--
What a poll with a failed send leaves behind: the subscription and its
snapshots as they were, a pending attempt, and every other slot as it was,
unless the scan found it expired or out of retries before it came to the
failing slot.
-/
structure FailedSendFrame
    (server : BacnetServer)
    (now : UInt32)
    (index : CovIndex)
    (after : BacnetServer) : Prop where
  subscription :
    (after.covSlots index).subscription =
      (server.covSlots index).subscription
  snapshots :
    (after.covSlots index).snapshots = (server.covSlots index).snapshots
  pending : (after.covSlots index).retryAtMs ≠ 0
  others :
    ∀ other, other ≠ index →
      after.covSlots other = server.covSlots other ∨
        (other < index ∧
          lifetimeOver server.hasClock now
            (server.covSlots other).subscription = true ∧
          after.covSlots other = (server.covSlots other).expire) ∨
        (other < index ∧
          acknowledgementOverdue server.device server.hasClock now
            (server.covSlots other).subscription = true ∧
          retriesExhausted server.device (server.covSlots other) = true ∧
          after.covSlots other = (server.covSlots other).giveUp)

namespace BacnetServer

variable {server : BacnetServer}

/-- The slot of a send that fails, and the rest of the table. -/
theorem failedSend_of_poll
    {input : PollInput}
    {transmission : CovTransmission}
    (built : (server.poll input).transmission = some transmission)
    (failed : transmission.delivered = false) :
    ((server.poll input).server.covSlots transmission.index).retryAtMs =
        (failedSend server.device (server.nowMs input.clockMs)
          (server.covSlots transmission.index)).retryAtMs ∧
        FailedSendFrame server (server.nowMs input.clockMs)
          transmission.index (server.poll input).server := by
  obtain ⟨ready, idle, reached, slot, visited, _, delivered⟩ :=
    server.poll_transmission built
  rw [failed] at delivered
  have output := server.poll_send ready idle reached visited
  have sent :
      (server.poll input).server.covSlots transmission.index =
        failedSend server.device (server.nowMs input.clockMs) slot := by
    rw [output]
    simp [sendCovNotification, server.sentSlot_of_fails delivered.symm]
  have same :
      slot.subscription =
          (server.covSlots transmission.index).subscription ∧
        slot.snapshots =
          (server.covSlots transmission.index).snapshots ∧
        (failedSend server.device (server.nowMs input.clockMs)
            slot).retryAtMs =
          (failedSend server.device (server.nowMs input.clockMs)
            (server.covSlots transmission.index)).retryAtMs := by
    rcases visitSlot_send_cases visited
      with ⟨_, _, ⟨_, _, _, _, _, rfl⟩ | ⟨_, _, _, _, rfl⟩⟩
    · exact ⟨rfl, rfl, rfl⟩
    · exact ⟨rfl, rfl, rfl⟩
  refine ⟨?_, ?_, ?_, ?_, ?_⟩
  · rw [sent]
    exact same.2.2
  · rw [sent]
    exact same.1
  · rw [sent]
    exact same.2.1
  · rw [sent]
    exact retryAtMs_failedSend_ne_zero _ _ _
  · intro other different
    have scanned :
        (server.poll input).server.covSlots other =
          (server.passSlots (server.nowMs input.clockMs)
            (slotsBefore transmission.index)).covSlots other := by
      rw [output]
      simp [sendCovNotification, different]
    rw [scanned]
    by_cases front : other < transmission.index
    · have quiet := server.shadowed_eq_false_iff.mp reached other front
      obtain ⟨after, passes⟩ := SlotVisit.isSend_eq_false_iff.mp quiet
      have left :
          (server.passSlots (server.nowMs input.clockMs)
            (slotsBefore transmission.index)).covSlots other = after := by
        simp [passSlots, front, passes, SlotVisit.passed]
      rw [left]
      rcases visitSlot_next_cases passes
        with rfl | ⟨_, expired, rfl⟩ | ⟨_, _, _, overdue, exhausted, rfl⟩
      · exact .inl rfl
      · exact .inr (.inl ⟨front, expired, rfl⟩)
      · exact .inr (.inr ⟨front, overdue, exhausted, rfl⟩)
    · left
      simp [passSlots, front]

/-- The clock of a server stays unless it is taken away. -/
theorem hasClock_step
    {event : ServerEvent}
    (keepsClock : event ≠ .setClock false)
    (clock : server.hasClock = true) :
    (server.step event).hasClock = true := by
  cases event with
  | poll input =>
      rw [step, server.poll_configuration]
      exact clock
  | setClock hasClock =>
      cases hasClock with
      | true => rfl
      | false => exact absurd rfl keepsClock
  | start device localPort bound =>
      simp only [step, start]
      split
      · exact clock
      · exact clock
  | setTransport =>
      simp only [step, setTransport]
      split
      · exact clock
      · exact clock
  | setLocalWritePriority priority =>
      simp only [step, setLocalWritePriority]
      split
      · exact clock
      · exact clock
  | stop => exact clock
  | setObjects objects => exact clock

/-- A step that does not activate a slot does something else to it. -/
theorem slotStep_of_not_activated
    {event : ServerEvent}
    {index : CovIndex}
    (notActivated :
      ∀ input, event = .poll input →
        (server.poll input).activated ≠ some index)
    (earlier : CovTransmission) :
    ∃ history,
      history ≠ [] ∧
        RecordStep server event index (server.covSlots index) [earlier]
          ((server.step event).covSlots index) history := by
  let tracked : TrackedServer := ⟨server, fun _ => [earlier]⟩
  have change := tracked.recordStep event index
  rw [TrackedServer.step_server] at change
  refine ⟨_, ?_, change⟩
  cases event with
  | poll input =>
      simp only [TrackedServer.step, TrackedServer.observe, tracked,
        if_neg (notActivated input rfl)]
      split
      · split
        · simp
        · simp
      · simp
  | _ => simp [TrackedServer.step, tracked]

end BacnetServer

/--
An event of the backoff: it happens in the given interval, the clock stays,
and no subscribe request takes the slot.
-/
structure WithinBackoff
    (index : CovIndex)
    (startMs endMs : Nat)
    (server : BacnetServer)
    (next : TimedEvent) : Prop where
  started : startMs ≤ next.trueMs
  before : next.trueMs < endMs
  keepsClock : next.observed ≠ .setClock false
  notReplaced :
    ∀ input,
      next.observed = .poll input →
        (server.poll input).activated ≠ some index

/-- While a slot is in use, its attempt is pending. -/
structure AwaitsRetry
    (index : CovIndex)
    (retryAtMs : UInt32)
    (server : BacnetServer) : Prop where
  clock : server.hasClock = true
  pending :
    server.InUse index → (server.covSlots index).retryAtMs = retryAtMs

namespace AwaitsRetry

variable {index : CovIndex} {retryAtMs : UInt32} {server : BacnetServer}
  {startMs endMs : Nat} {next : TimedEvent}

/-- The scan sends nothing for a slot that waits. -/
theorem not_send
    (awaits : AwaitsRetry index retryAtMs server)
    (set : retryAtMs ≠ 0)
    {now : UInt32}
    (ahead : WrappingClock.reached now retryAtMs = false)
    {after : CovSlot}
    {values : List BacnetCovPropertyValue}
    {isRetransmission : Bool} :
    server.visit now index ≠ .send after values isRetransmission := by
  intro visited
  obtain ⟨_, noBackoff, _⟩ := visitSlot_send_cases visited
  have inUse : server.InUse index := by
    intro inactive
    rw [BacnetServer.visit, visitSlot, if_pos inactive] at visited
    cases visited
  rw [backoffPending, awaits.pending inUse, ahead] at noBackoff
  simp [set] at noBackoff

/-- No notification is built for a slot that waits. -/
theorem not_attempted
    (awaits : AwaitsRetry index retryAtMs server)
    (set : retryAtMs ≠ 0)
    (ahead :
      WrappingClock.reached (reading next.trueMs) retryAtMs = false)
    {input : PollInput}
    (polls : next.observed = .poll input)
    {transmission : CovTransmission}
    (built : (server.poll input).transmission = some transmission) :
    transmission.index ≠ index := by
  rintro rfl
  obtain ⟨_, idle, _, slot, visited, _, _⟩ :=
    server.poll_transmission built
  have idlePoll := TimedEvent.isIdlePoll_of_observed polls idle
  obtain ⟨read, reads, _, clockRead⟩ :=
    TimedEvent.observed_of_isIdlePoll idlePoll
  obtain rfl := ServerEvent.poll.inj (polls.symm.trans reads)
  have now : server.nowMs input.clockMs = reading next.trueMs := by
    rw [BacnetServer.nowMs, awaits.clock, clockRead]
    rfl
  rw [now] at visited
  exact awaits.not_send set ahead visited

/-- A slot goes on waiting. -/
theorem step
    (awaits : AwaitsRetry index retryAtMs server)
    (set : retryAtMs ≠ 0)
    (ahead :
      WrappingClock.reached (reading next.trueMs) retryAtMs = false)
    (within : WithinBackoff index startMs endMs server next) :
    AwaitsRetry index retryAtMs (server.step next.observed) := by
  refine ⟨BacnetServer.hasClock_step within.keepsClock awaits.clock, ?_⟩
  obtain ⟨history, grown, change⟩ :=
    BacnetServer.slotStep_of_not_activated within.notReplaced
      { index := index
        values := []
        invokeId := 0
        isRetransmission := false
        delivered := false }
  have pending := awaits.pending
  unfold BacnetServer.InUse at pending ⊢
  revert change pending
  generalize (server.step next.observed).covSlots index = slot'
  generalize current : server.covSlots index = slot
  intro change pending inUse
  cases change with
  | kept =>
      exact pending inUse
  | dropped cause =>
      exact absurd rfl inUse
  | activated =>
      exact absurd rfl grown
  | completed input isPoll awaiting samePeer answers =>
      exact pending (by simp [awaiting])
  | passed input after isPoll idle visited =>
      rcases visitSlot_next_cases visited
        with rfl | ⟨_, _, rfl⟩ | ⟨awaiting, _, _, _, _, rfl⟩
      · exact pending inUse
      · exact absurd rfl inUse
      · exact pending (by simp [awaiting])
  | sent input after transmission isPoll idle visited built place =>
      exact absurd place (awaits.not_attempted set ahead isPoll built)

end AwaitsRetry

/-- A server sees the clock of an event, not its true time. -/
def BacnetServer.stepTimed
    (server : BacnetServer)
    (next : TimedEvent) : BacnetServer :=
  server.step next.observed

/--
A notification that a server with a clock fails to send leaves the
subscription, its snapshots and the other slots as they were.  Its next
attempt is stored as the time after the backoff, never as none, and before
that no notification is built for the slot, unless a subscribe request
takes it.
-/
theorem failedSend_waits
    (events : List ServerEvent)
    (clock : (run BacnetServer.step {} events).hasClock = true)
    {input : PollInput}
    {startMs : Nat}
    (atStart : input.clockMs = reading startMs)
    {transmission : CovTransmission}
    (built :
      ((run BacnetServer.step {} events).poll input).transmission =
        some transmission)
    (failed : transmission.delivered = false)
    {server after : BacnetServer}
    (isServer : server = run BacnetServer.step {} events)
    (isAfter : after = server.step (.poll input))
    {backoffMs : Nat}
    (isBackoff :
      backoffMs =
        sendBackoffMs server.device
          (server.covSlots transmission.index)) :
    FailedSendFrame server (reading startMs) transmission.index after ∧
      0 < backoffMs ∧
      (∃ extra, extra ≤ 1 ∧
        (after.covSlots transmission.index).retryAtMs =
          reading (startMs + backoffMs + extra)) ∧
      ∀ later,
        Along BacnetServer.stepTimed
            (WithinBackoff transmission.index startMs
              (startMs + backoffMs))
            after later →
          ∀ before next rest,
            later = before ++ next :: rest →
              ∀ polled attempt,
                next.observed = .poll polled →
                  ((run BacnetServer.stepTimed after before).poll
                      polled).transmission = some attempt →
                    attempt.index ≠ transmission.index := by
  subst isServer isAfter isBackoff
  have now :
      (run BacnetServer.step {} events).nowMs input.clockMs =
        reading startMs := by
    rw [BacnetServer.nowMs, clock, atStart]
    rfl
  obtain ⟨stored, frame⟩ := BacnetServer.failedSend_of_poll built failed
  rw [now] at stored frame
  obtain ⟨extra, small, atDeadline⟩ :=
    exists_reading_retryAtMs (run BacnetServer.step {} events).device
      startMs
      ((run BacnetServer.step {} events).covSlots transmission.index)
  refine ⟨frame, sendBackoffMs_pos _ _,
    ⟨extra, small, stored.trans atDeadline⟩, ?_⟩
  rintro later within before next rest rfl polled attempt polls attempted
  obtain ⟨withinBefore, withinNext, _⟩ := along_append.mp within
  let slot := (run BacnetServer.step {} events).covSlots transmission.index
  let device := (run BacnetServer.step {} events).device
  let retryAtMs := (failedSend device (reading startMs) slot).retryAtMs
  have set : retryAtMs ≠ 0 := retryAtMs_failedSend_ne_zero _ _ _
  have ahead {server : BacnetServer} {next : TimedEvent}
      (within :
        WithinBackoff transmission.index startMs
          (startMs + sendBackoffMs device slot) server next) :
      reached (reading next.trueMs) retryAtMs = false :=
    not_reached_retryAtMs within.before within.started
  have waits :
      AwaitsRetry transmission.index retryAtMs
        (run BacnetServer.stepTimed
          ((run BacnetServer.step {} events).step (.poll input))
          before) := by
    refine run_invariant_along (AwaitsRetry transmission.index retryAtMs)
      (fun _ _ within waits => waits.step set (ahead within) within)
      ⟨?_, fun _ => stored⟩ withinBefore
    have polls : ServerEvent.poll input ≠ .setClock false := by
      intro same
      cases same
    exact BacnetServer.hasClock_step polls clock
  exact waits.not_attempted set (ahead withinNext) polls attempted

/-- A server with a new subscription that was sent nothing yet. -/
def newSubscriptionRun : List ServerEvent :=
  startedServer (oneAnalogValue .zero) ++ [.poll (subscribeFor 1 60)]

/--
The initial notification of the subscription is lost, and in the three seconds
after it no other is built.
-/
theorem failedSend_waits_initial :
    ∃ transmission,
      ((run BacnetServer.step {} newSubscriptionRun).poll
          { sendSucceeds := false }).transmission = some transmission ∧
        FailedSendFrame (run BacnetServer.step {} newSubscriptionRun)
          (reading 0) transmission.index
          ((run BacnetServer.step {} newSubscriptionRun).step
            (.poll { sendSucceeds := false })) ∧
        ∀ attempt,
          ((run BacnetServer.stepTimed
                ((run BacnetServer.step {} newSubscriptionRun).step
                  (.poll { sendSucceeds := false }))
                [idleAt 1000]).poll
              { clockMs := reading 2999 }).transmission = some attempt →
            attempt.index ≠ transmission.index := by
  have lost :
      ((run BacnetServer.step {} newSubscriptionRun).poll
        { sendSucceeds := false }).transmission.map
          (fun transmission =>
            (transmission.delivered, transmission.index)) =
        some (false, 0) := by
    decide +kernel
  obtain ⟨transmission, built, same⟩ := Option.map_eq_some_iff.mp lost
  obtain ⟨failed, atZero⟩ := Prod.mk.inj same
  have backoff :
      sendBackoffMs (run BacnetServer.step {} newSubscriptionRun).device
          ((run BacnetServer.step {} newSubscriptionRun).covSlots
            transmission.index) =
        3000 := by
    rw [atZero]
    decide +kernel
  obtain ⟨frame, _, _, waits⟩ :=
    @failedSend_waits newSubscriptionRun rfl { sendSucceeds := false } 0
      rfl transmission built failed _ _ rfl rfl _ backoff.symm
  refine ⟨transmission, built, frame, fun attempt attempted => ?_⟩
  have within
      {server : BacnetServer}
      {trueMs : Nat}
      (before : trueMs < 3000)
      (idle :
        (server.poll { clockMs := reading trueMs }).activated = none) :
      WithinBackoff transmission.index 0 (0 + 3000) server
        (idleAt trueMs) := by
    refine ⟨Nat.zero_le _, before, ?_, ?_⟩
    · intro same
      cases same
    · rintro input same
      cases same
      intro isSome
      cases idle.symm.trans isSome
  exact waits [idleAt 1000, idleAt 2999]
    ⟨within (by decide) (by decide +kernel),
      within (by decide) (by decide +kernel), trivial⟩
    [idleAt 1000] (idleAt 2999) [] rfl _ attempt rfl attempted

end BacnetStack
