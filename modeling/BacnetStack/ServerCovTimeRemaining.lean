import BacnetStack.ProtocolCovCodec
import BacnetStack.ServerCovLedger
import BacnetStack.ServerCovLifetime

namespace BacnetStack

open EventRun Reader WrappingClock

/-!
# The time remaining that notifications announce

A notification carries the seconds its subscription has left, computed from
the stored deadline at the time of sending.  The number is right as long as
the notification leaves before the true deadline; it is wrong where a scan
takes an outlived subscription for alive because the deadline is more than
half a turn of the clock behind.
-/

/-- The time remaining in the octets of a notification. -/
def timeRemainingReader : Reader UInt32 := do
  readBvlcHeader 20 true
  readNpduHeader
  let _service ← readCovNotificationService
  let _processId ← readContextValue 0
  let _initiatingDevice ← readContextValue 1
  let _monitoredObject ← readContextValue 2
  readContextValue 3

def announcedSeconds (packet : List UInt8) : Option UInt32 :=
  parse? timeRemainingReader packet

/-- A built notification announces the time it was built with. -/
theorem announcedSeconds_of_build
    {arguments : CovNotificationArguments}
    {bufferSize : Nat}
    {packet : List UInt8}
    (builds : arguments.build bufferSize = some packet)
    (few : arguments.values.length ≤ kCovObjectPropertyCount) :
    announcedSeconds packet = some arguments.timeRemainingSeconds := by
  obtain ⟨_, _, entries, encodes, rfl⟩ :=
    CovNotificationArguments.build_eq_some builds
  obtain ⟨atLeast, atMost⟩ := arguments.length_apdu entries
  change arguments.values.length ≤ 2 at few
  have short := encodes.length_le.2
  have announced :=
    announcedLength
      (show (arguments.apdu entries).length + 6 ≤ 0xFFFF by omega)
  have plain : arguments.control = 0 ∨
      arguments.control = kNpduExpectingReply := by
    unfold CovNotificationArguments.control
    cases arguments.confirmed
    · exact Or.inl rfl
    · exact Or.inr rfl
  rw [announcedSeconds, parse?, timeRemainingReader,
    CovNotificationArguments.packet,
    run_bind_of_ok (run_readBvlcHeader
      (by simp only [List.length_cons]; omega)
      (by simpa only [List.length_cons] using announced)),
    run_bind_of_ok (run_readNpduHeader_plain plain _),
    CovNotificationArguments.apdu,
    run_bind_of_ok (run_readCovNotificationService arguments _),
    run_bind_of_ok (run_readContextValue_contextUnsigned (by decide) _ _),
    run_bind_of_ok (run_readContextValue_contextObjectIdentifier
      (by decide) _ _),
    run_bind_of_ok (run_readContextValue_contextObjectIdentifier
      (by decide) _ _),
    run_readContextValue_contextUnsigned (by decide) _ _]

/-- A notification with few values announces what its server computes. -/
theorem BacnetServer.announcedSeconds_covNotificationPacket
    {server : BacnetServer}
    {subscription : BacnetServerCovSubscription}
    {values : List BacnetCovPropertyValue}
    {now : UInt32}
    {packet : List UInt8}
    (few : values.length ≤ kCovObjectPropertyCount)
    (builds :
      server.covNotificationPacket subscription values now = some packet) :
    announcedSeconds packet =
      some (server.timeRemaining subscription now) := by
  let arguments : CovNotificationArguments :=
    { processId := subscription.processId
      initiatingDevice := server.deviceObject
      monitoredObject := subscription.object
      timeRemainingSeconds := server.timeRemaining subscription now
      values := values
      confirmed := subscription.confirmed
      invokeId := server.drawInvokeId subscription.confirmed }
  exact @announcedSeconds_of_build arguments _ _ builds few

/-- A visit sends at most as many values as a subscription reports. -/
theorem length_le_of_visitSlot
    {objects : ServerObjects}
    {device : BacnetServerDevice}
    {hasClock : Bool}
    {now : UInt32}
    {slot after : CovSlot}
    {values : List BacnetCovPropertyValue}
    {isRetransmission : Bool}
    (visited :
      visitSlot objects device hasClock now slot =
        .send after values isRetransmission) :
    values.length ≤ kCovObjectPropertyCount := by
  have references :
      values.map BacnetCovPropertyValue.reference =
        slot.subscription.reported := by
    rcases visitSlot_send_cases visited
      with ⟨_, _, ⟨_, _, _, _, rfl, _⟩ | ⟨_, _, collected, _, _⟩⟩
    · exact references_retryValues slot
    · exact references_of_collectCovValues collected
  have bound := length_reported_le slot.subscription
  rw [← references, List.length_map] at bound
  exact bound

/--
The event makes the server build a notification for the subscription with a
tuple, and its packet announces a number of seconds.
-/
def Announces
    (tuple : CovTuple)
    (timed : TimedServer)
    (next : TimedEvent)
    (seconds : UInt32) : Prop :=
  ∃ input transmission datagram,
    next.observed = .poll input ∧
      (timed.server.poll input).transmission = some transmission ∧
      timed.server.Holds tuple transmission.index ∧
      (timed.server.poll input).datagram = some datagram ∧
      announcedSeconds datagram.packet = some seconds

/--
A scan that reaches the slot of the subscription after its deadline does so
within half a turn of the clock, counted from the deadline or from a full
turn behind it.
-/
def ReachedInTime
    (tuple : CovTuple)
    (deadlineMs : Nat)
    (timed : TimedServer)
    (next : TimedEvent) : Prop :=
  ∀ place,
    next.isIdlePoll = true →
      deadlineMs ≤ next.trueMs →
        timed.server.Holds tuple place →
          timed.server.shadowed (reading next.trueMs) place = false →
            (next.trueMs - deadlineMs) % 2 ^ 32 < 2 ^ 31

/-- What is announced is computed for an entry the scan takes for alive. -/
theorem Announces.computed
    {tuple : CovTuple}
    {timed : TimedServer}
    {next : TimedEvent}
    {seconds : UInt32}
    (announces : Announces tuple timed next seconds)
    (clock : timed.server.hasClock = true) :
    ∃ place,
      next.isIdlePoll = true ∧
        timed.server.Holds tuple place ∧
        timed.server.shadowed (reading next.trueMs) place = false ∧
        lifetimeOver true (reading next.trueMs)
          (timed.server.covSlots place).subscription = false ∧
        seconds =
          timed.server.timeRemaining
            (timed.server.covSlots place).subscription
            (reading next.trueMs) := by
  obtain ⟨input, transmission, datagram, polls, built, held, sent,
    announced⟩ := announces
  obtain ⟨ready, idle, reached, slot, visited, _, _⟩ :=
    timed.server.poll_transmission built
  have idlePoll := TimedEvent.isIdlePoll_of_observed polls idle
  obtain ⟨read, reads, _, clockRead⟩ :=
    TimedEvent.observed_of_isIdlePoll idlePoll
  obtain rfl := ServerEvent.poll.inj (polls.symm.trans reads)
  have now :
      timed.server.nowMs input.clockMs = reading next.trueMs := by
    rw [BacnetServer.nowMs, clock, clockRead]
    rfl
  rw [timed.server.poll_send ready idle reached visited, now] at sent
  obtain ⟨packet, builds, rfl⟩ := Option.map_eq_some_iff.mp sent
  rw [now] at reached visited
  have few := length_le_of_visitSlot visited
  have computed :=
    BacnetServer.announcedSeconds_covNotificationPacket few builds
  have same :
      slot.subscription =
        (timed.server.covSlots transmission.index).subscription ∧
      lifetimeOver true (reading next.trueMs)
        (timed.server.covSlots transmission.index).subscription =
          false := by
    rw [BacnetServer.visit, clock] at visited
    rcases visitSlot_send_cases visited
      with ⟨alive, _, ⟨_, _, _, _, _, rfl⟩ | ⟨_, _, _, _, rfl⟩⟩
    · exact ⟨rfl, alive⟩
    · exact ⟨rfl, alive⟩
  refine ⟨transmission.index, idlePoll, held, reached, same.2, ?_⟩
  rw [← same.1]
  exact Option.some.inj (announced.symm.trans computed)

/-- Wherever the tuple is held, it is held under the lease it was given. -/
structure LeaseKept
    (tuple : CovTuple)
    (lifetimeSeconds : UInt32)
    (startMs : Nat)
    (timed : TimedServer) : Prop where
  ready : timed.server.Ready
  clock : timed.server.hasClock = true
  started : startMs ≤ timed.lastScanMs
  lease :
    ∀ place,
      timed.server.Holds tuple place →
        (timed.server.covSlots place).subscription.lease =
          { tuple := tuple
            lifetimeSeconds := lifetimeSeconds
            expiresAtMs :=
              reading (deadlineOf lifetimeSeconds startMs) }

/-- An entry that outlasts an event that spares it keeps its lease. -/
theorem BacnetServer.lease_of_held
    {server : BacnetServer}
    (ready : server.Ready)
    {tuple : CovTuple}
    {event : ServerEvent}
    (spares : Spares tuple event)
    {place : CovIndex}
    (before : server.Holds tuple place)
    (after : (server.step event).Holds tuple place) :
    ((server.step event).covSlots place).subscription.lease =
      (server.covSlots place).subscription.lease := by
  by_cases alive :
      ∀ input,
        event = .poll input →
        input.packet = [] →
        lifetimeOver server.hasClock (server.nowMs input.clockMs)
          (server.covSlots place).subscription = false
  · obtain ⟨_, change⟩ := TrackedServer.slotStep server event place
    rw [← before.2] at spares
    exact (change.lease rfl before.1 spares alive).2
  · simp only [not_forall, Bool.not_eq_false] at alive
    obtain ⟨input, rfl, idle, expired⟩ := alive
    cases hidden :
        server.shadowed (server.nowMs input.clockMs) place with
    | true =>
        rw [slot_of_shadowed ready idle hidden]
    | false =>
        exact absurd after.1
          (not_inUse_of_expired ready idle before.1 expired hidden)

/-- A timely event keeps the lease wherever it is still held. -/
theorem LeaseKept.step
    {tuple : CovTuple}
    {lifetimeSeconds : UInt32}
    {startMs : Nat}
    {timed : TimedServer}
    {next : TimedEvent}
    (kept : LeaseKept tuple lifetimeSeconds startMs timed)
    (timely : Timely tuple timed next) :
    LeaseKept tuple lifetimeSeconds startMs (timed.step next) := by
  obtain ⟨ready, clock⟩ :=
    BacnetServer.ready_step timely.spares kept.ready kept.clock
  refine ⟨ready, clock, ?_, ?_⟩
  · cases idle : next.isIdlePoll with
    | false =>
        simpa [TimedServer.step, idle] using kept.started
    | true =>
        have ordered := timely.ordered idle
        simpa [TimedServer.step, idle] using kept.started.trans ordered
  · intro place held
    have before : timed.server.Holds tuple place := by
      rcases BacnetServer.holds_of_step held
        with before | ⟨input, request, polls, parsed, same, _⟩
      · exact before
      · exact absurd same
          (timely.spares.otherTuple input request polls parsed)
    rw [← kept.lease place before]
    exact BacnetServer.lease_of_held kept.ready timely.spares before held

/-- An activated subscription holds its lease. -/
theorem LeaseRun.leaseKept
    {tuple : CovTuple}
    {lifetimeSeconds : UInt32}
    {startMs : Nat}
    {index : CovIndex}
    {timed : TimedServer}
    (leaseRun : LeaseRun tuple lifetimeSeconds startMs index timed)
    (early :
      timed.lastScanMs < deadlineOf lifetimeSeconds startMs) :
    LeaseKept tuple lifetimeSeconds startMs timed := by
  obtain ⟨inUse, lease⟩ := leaseRun.before early
  refine ⟨leaseRun.ready, leaseRun.clock, leaseRun.started, ?_⟩
  intro place held
  have here := leaseRun.distinct tuple place index held
    ⟨inUse, congrArg Lease.tuple lease⟩
  rw [here]
  exact lease

/-- The seconds are the milliseconds, rounded up. -/
def RoundsUp
    (milliseconds : Nat)
    (seconds : UInt32) : Prop :=
  milliseconds ≤ seconds.toNat * 1000 ∧
    seconds.toNat * 1000 < milliseconds + 1000

theorem roundsUp_of_toNat
    {milliseconds : Nat}
    {seconds : UInt32}
    (computed : seconds.toNat = (milliseconds + 999) / 1000) :
    RoundsUp milliseconds seconds := by
  unfold RoundsUp
  omega

/-- A longer time is not rounded up to fewer seconds. -/
theorem RoundsUp.le
    {shorter longer : Nat}
    {few many : UInt32}
    (fewSeconds : RoundsUp shorter few)
    (manySeconds : RoundsUp longer many)
    (less : shorter ≤ longer) :
    few ≤ many := by
  obtain ⟨_, below⟩ := fewSeconds
  obtain ⟨covers, _⟩ := manySeconds
  rw [UInt32.le_iff_toNat_le]
  omega

/--
What a notification of a subscription should announce: at least a second, at
most the lifetime, and the time up to the deadline.
-/
structure AnnouncesRemaining
    (lifetimeSeconds : UInt32)
    (startMs nowMs : Nat)
    (seconds : UInt32) : Prop where
  positive : 1 ≤ seconds
  bounded : seconds ≤ lifetimeSeconds
  early : nowMs < deadlineOf lifetimeSeconds startMs
  rounded : RoundsUp (deadlineOf lifetimeSeconds startMs - nowMs) seconds

/-- Before the deadline the computation on the wrapping clock is exact. -/
theorem announcesRemaining_timeRemaining
    {server : BacnetServer}
    (clock : server.hasClock = true)
    {subscription : BacnetServerCovSubscription}
    {tuple : CovTuple}
    {lifetimeSeconds : UInt32}
    {startMs nowMs : Nat}
    (short : lifetimeSeconds.toNat * 1000 < 2 ^ 31)
    (lease :
      subscription.lease =
        { tuple := tuple
          lifetimeSeconds := lifetimeSeconds
          expiresAtMs := reading (deadlineOf lifetimeSeconds startMs) })
    (started : startMs ≤ nowMs)
    (early : nowMs < deadlineOf lifetimeSeconds startMs) :
    AnnouncesRemaining lifetimeSeconds startMs nowMs
      (server.timeRemaining subscription (reading nowMs)) := by
  have lifetime : subscription.lifetimeSeconds = lifetimeSeconds :=
    congrArg Lease.lifetimeSeconds lease
  have expires :
      subscription.expiresAtMs =
        reading (deadlineOf lifetimeSeconds startMs) :=
    congrArg Lease.expiresAtMs lease
  have bound :
      deadlineOf lifetimeSeconds startMs =
        startMs + lifetimeSeconds.toNat * 1000 :=
    rfl
  have lasts : lifetimeSeconds ≠ 0 := by
    rintro rfl
    rw [bound, UInt32.toNat_zero] at early
    omega
  have difference :=
    toNat_reading_sub early.le
  have seconds :
      (server.timeRemaining subscription (reading nowMs)).toNat =
        (deadlineOf lifetimeSeconds startMs - nowMs + 999) / 1000 := by
    rw [BacnetServer.timeRemaining, lifetime, expires, clock,
      if_neg (by simp [lasts]), UInt32.toNat_div, UInt32.toNat_add,
      difference]
    change
      ((deadlineOf lifetimeSeconds startMs - nowMs) % 2 ^ 32 + 999) %
        2 ^ 32 / 1000 = _
    omega
  refine ⟨?_, ?_, early, roundsUp_of_toNat seconds⟩
  · rw [UInt32.le_iff_toNat_le, seconds, UInt32.toNat_one]
    omega
  · rw [UInt32.le_iff_toNat_le, seconds]
    omega

/-- A notification of a kept lease announces the time remaining. -/
theorem LeaseKept.announcesRemaining
    {tuple : CovTuple}
    {lifetimeSeconds : UInt32}
    {startMs : Nat}
    {timed : TimedServer}
    {next : TimedEvent}
    (kept : LeaseKept tuple lifetimeSeconds startMs timed)
    (lasts : lifetimeSeconds ≠ 0)
    (short : lifetimeSeconds.toNat * 1000 < 2 ^ 31)
    (timely : Timely tuple timed next)
    (reachedInTime :
      ReachedInTime tuple (deadlineOf lifetimeSeconds startMs) timed next)
    {seconds : UInt32}
    (announces : Announces tuple timed next seconds) :
    next.isIdlePoll = true ∧
      AnnouncesRemaining lifetimeSeconds startMs next.trueMs seconds := by
  obtain ⟨place, idle, held, reached, alive, rfl⟩ :=
    announces.computed kept.clock
  have ordered := timely.ordered idle
  have lease := kept.lease place held
  have early : next.trueMs < deadlineOf lifetimeSeconds startMs := by
    by_contra late
    rw [Nat.not_lt] at late
    have half := reachedInTime place idle late held reached
    have passed :
        WrappingClock.reached (reading next.trueMs)
          (reading (deadlineOf lifetimeSeconds startMs)) = true := by
      rw [reached_eq_true_iff, toNat_reading_sub late]
      exact half
    have lifetime :
        (timed.server.covSlots place).subscription.lifetimeSeconds =
          lifetimeSeconds :=
      congrArg Lease.lifetimeSeconds lease
    have expires :
        (timed.server.covSlots place).subscription.expiresAtMs =
          reading (deadlineOf lifetimeSeconds startMs) :=
      congrArg Lease.expiresAtMs lease
    rw [lifetimeOver, lifetime, expires, passed] at alive
    simp [lasts] at alive
  exact ⟨idle, announcesRemaining_timeRemaining kept.clock short lease
    (kept.started.trans ordered) early⟩

/-- The time of the last scan does not go back. -/
theorem le_lastScanMs
    {tuple : CovTuple}
    {timed : TimedServer}
    {later : List TimedEvent}
    (timely : Along TimedServer.step (Timely tuple) timed later) :
    timed.lastScanMs ≤ (run TimedServer.step timed later).lastScanMs := by
  by_contra back
  rw [Nat.not_le, lastScanMs_lt_iff timely] at back
  exact lt_irrefl _ back.1

section Run

variable {tuple : CovTuple} {lifetimeSeconds : UInt32} {startMs : Nat}
  {start : TimedServer}

/-- Every notification of a run announces the time remaining. -/
theorem LeaseKept.announcesRemaining_run
    (kept : LeaseKept tuple lifetimeSeconds startMs start)
    (lasts : lifetimeSeconds ≠ 0)
    (short : lifetimeSeconds.toNat * 1000 < 2 ^ 31)
    {before rest : List TimedEvent}
    {next : TimedEvent}
    (timely :
      Along TimedServer.step (Timely tuple) start (before ++ next :: rest))
    (reachedInTime :
      Along TimedServer.step
        (ReachedInTime tuple (deadlineOf lifetimeSeconds startMs))
        start (before ++ next :: rest))
    {seconds : UInt32}
    (announces :
      Announces tuple (run TimedServer.step start before) next seconds) :
    next.isIdlePoll = true ∧
      AnnouncesRemaining lifetimeSeconds startMs next.trueMs seconds := by
  obtain ⟨timelyBefore, timelyNext, _⟩ := along_append.mp timely
  obtain ⟨_, reachedNext, _⟩ := along_append.mp reachedInTime
  have keptThere :
      LeaseKept tuple lifetimeSeconds startMs
        (run TimedServer.step start before) :=
    run_invariant_along (LeaseKept tuple lifetimeSeconds startMs)
      (fun _ _ timely kept => kept.step timely) kept timelyBefore
  exact keptThere.announcesRemaining lasts short timelyNext reachedNext
    announces

/-- Of two idle polls of a run the second one is not earlier. -/
theorem trueMs_le_of_timely
    {before between rest : List TimedEvent}
    {first second : TimedEvent}
    (timely :
      Along TimedServer.step (Timely tuple) start
        (before ++ first :: (between ++ second :: rest)))
    (firstIdle : first.isIdlePoll = true)
    (secondIdle : second.isIdlePoll = true) :
    first.trueMs ≤ second.trueMs := by
  obtain ⟨_, _, timelyRest⟩ := along_append.mp timely
  obtain ⟨timelyBetween, timelySecond, _⟩ := along_append.mp timelyRest
  have scanned :
      ((run TimedServer.step start before).step first).lastScanMs =
        first.trueMs := by
    simp [TimedServer.step, firstIdle]
  calc first.trueMs
      = ((run TimedServer.step start before).step first).lastScanMs :=
        scanned.symm
    _ ≤ _ := le_lastScanMs timelyBetween
    _ ≤ second.trueMs := timelySecond.ordered secondIdle

end Run

/--
For a lifetime below half a turn of the clock, as long as no scan takes the
outlived entry for alive: every notification of the subscription announces
the time it has left, and of two notifications the later one no more than
the earlier.
-/
theorem timeRemaining_announced
    (events : List ServerEvent)
    (clock : (run BacnetServer.step {} events).hasClock = true)
    {input : PollInput}
    {request : BacnetSubscribeCovRequestHeader}
    (received : (run BacnetServer.step {} events).Receives input request)
    {startMs : Nat}
    (atStart : input.clockMs = reading startMs)
    {index : CovIndex}
    (activated :
      ((run BacnetServer.step {} events).poll input).activated =
        some index)
    (short : request.lifetimeSeconds.toNat * 1000 < 2 ^ 31)
    {start : TimedServer}
    (isStart :
      start =
        { server := (run BacnetServer.step {} events).step (.poll input)
          lastScanMs := startMs })
    {later : List TimedEvent}
    (timely :
      Along TimedServer.step (Timely (request.tuple input.source))
        start later)
    (reachedInTime :
      Along TimedServer.step
        (ReachedInTime (request.tuple input.source)
          (deadlineOf request.lifetimeSeconds startMs))
        start later) :
    (∀ before next rest seconds,
        later = before ++ next :: rest →
          Announces (request.tuple input.source)
            (run TimedServer.step start before) next seconds →
            AnnouncesRemaining request.lifetimeSeconds startMs next.trueMs
              seconds) ∧
      ∀ before first between second rest earlier seconds,
        later = before ++ first :: (between ++ second :: rest) →
          Announces (request.tuple input.source)
            (run TimedServer.step start before) first earlier →
            Announces (request.tuple input.source)
              (run TimedServer.step start (before ++ first :: between))
              second seconds →
              seconds ≤ earlier := by
  subst isStart
  obtain ⟨lasts, leaseRun⟩ :=
    leaseRun_of_activated (BacnetServer.tuplesDistinct_run events) clock
      received atStart activated
  have positive : 0 < request.lifetimeSeconds.toNat := by
    rw [Nat.pos_iff_ne_zero, ← UInt32.toNat_zero, Ne, UInt32.toNat_inj]
    exact lasts
  have kept := leaseRun.leaseKept (by
    change startMs < startMs + request.lifetimeSeconds.toNat * 1000
    omega)
  constructor
  · rintro before next rest seconds rfl announces
    exact (kept.announcesRemaining_run lasts short timely reachedInTime
      announces).2
  · rintro before first between second rest earlier seconds rfl firstAnnounces
      secondAnnounces
    obtain ⟨firstIdle, firstRemaining⟩ :=
      kept.announcesRemaining_run lasts short timely reachedInTime
        firstAnnounces
    have ordered := trueMs_le_of_timely timely firstIdle
    have split :
        before ++ first :: (between ++ second :: rest) =
          (before ++ first :: between) ++ second :: rest := by
      simp
    rw [split] at timely reachedInTime
    obtain ⟨secondIdle, secondRemaining⟩ :=
      kept.announcesRemaining_run lasts short timely reachedInTime
        secondAnnounces
    exact secondRemaining.rounded.le firstRemaining.rounded
      (Nat.sub_le_sub_left (ordered secondIdle) _)

/-- What a poll shows of a notification and its packet. -/
theorem announces_of_poll
    {tuple : CovTuple}
    {timed : TimedServer}
    {next : TimedEvent}
    {input : PollInput}
    (polls : next.observed = .poll input)
    {index : CovIndex}
    (indexed :
      (timed.server.poll input).transmission.map CovTransmission.index =
        some index)
    (held : timed.server.Holds tuple index)
    {seconds : UInt32}
    (announces :
      ((timed.server.poll input).datagram.bind fun datagram =>
        announcedSeconds datagram.packet) = some seconds) :
    Announces tuple timed next seconds := by
  obtain ⟨transmission, built, rfl⟩ := Option.map_eq_some_iff.mp indexed
  obtain ⟨datagram, sent, announced⟩ :=
    Option.bind_eq_some_iff.mp announces
  exact ⟨input, transmission, datagram, polls, built, held, sent, announced⟩

/-- The initial notification of a minute, a millisecond later. -/
theorem timeRemaining_announced_minute :
    AnnouncesRemaining 60 0 1 60 := by
  let request : BacnetSubscribeCovRequestHeader :=
    { processId := 1
      object := ⟨BacnetObjectType.analogValue, 1⟩
      lifetimeSeconds := 60 }
  have received :
      (run BacnetServer.step {}
        (startedServer (oneAnalogValue .zero))).Receives
          (subscribeFor 1 60) request :=
    ⟨⟨rfl, rfl⟩, by decide +kernel, by decide +kernel⟩
  have timely :
      Along TimedServer.step (Timely (subscribedTuple 1))
        (subscribedAt0 (startedServer (oneAnalogValue .zero))
          (subscribeFor 1 60)) [idleAt 1] :=
    ⟨⟨spares_idle _ _, fun _ => by decide, fun _ => by decide⟩, trivial⟩
  have reachedInTime :
      Along TimedServer.step
        (ReachedInTime (subscribedTuple 1)
          (deadlineOf request.lifetimeSeconds 0))
        (subscribedAt0 (startedServer (oneAnalogValue .zero))
          (subscribeFor 1 60)) [idleAt 1] :=
    ⟨fun _ _ late => absurd late (by decide), trivial⟩
  have announces :
      Announces (subscribedTuple 1)
        (subscribedAt0 (startedServer (oneAnalogValue .zero))
          (subscribeFor 1 60)) (idleAt 1) 60 :=
    @announces_of_poll _ _ _ { clockMs := 1 } rfl 0 (by decide +kernel)
      (by decide +kernel) _ (by decide +kernel)
  exact
    (@timeRemaining_announced (startedServer (oneAnalogValue .zero)) rfl
      (subscribeFor 1 60) request received 0 rfl 0 rfl (by decide)
      (subscribedAt0 (startedServer (oneAnalogValue .zero))
        (subscribeFor 1 60)) rfl [idleAt 1] timely reachedInTime).1
      [] (idleAt 1) [] 60 rfl announces

/-- One process holds a subscription for almost half a turn of the clock. -/
def servedLongRun : List ServerEvent :=
  startedServer (oneAnalogValue .zero) ++
    [.poll (subscribeFor 1 2147483), .poll {}]

/--
A subscription of a second is hidden by a notification of another slot at
its deadline, and announces 2147484 seconds at the next idle poll.
-/
theorem second_announces_weeks :
    Along TimedServer.step (Timely (subscribedTuple 2))
        (subscribedAt0 servedLongRun (subscribeFor 2 1))
        [idleAt 0,
          { trueMs := 500, event := .setObjects (oneAnalogValue .one) },
          idleAt 2147482000, idleAt 2147485000] ∧
      Announces (subscribedTuple 2)
        (run TimedServer.step
          (subscribedAt0 servedLongRun (subscribeFor 2 1))
          [idleAt 0,
            { trueMs := 500, event := .setObjects (oneAnalogValue .one) },
            idleAt 2147482000])
        (idleAt 2147485000) 2147484 ∧
      ¬AnnouncesRemaining 1 0 2147485000 2147484 := by
  have sparesObjects :
      BacnetServer.Spares (subscribedTuple 2)
        (.setObjects (oneAnalogValue .one)) :=
    ⟨by simp, by simp, fun _ _ polls => nomatch polls⟩
  refine ⟨⟨⟨spares_idle _ _, fun _ => by decide, fun _ => by decide⟩,
    ⟨sparesObjects, (nomatch ·), (nomatch ·)⟩,
    ⟨spares_idle _ _, fun _ => by decide, fun _ => by decide⟩,
    ⟨spares_idle _ _, fun _ => by decide, fun _ => by decide⟩, trivial⟩,
    ?_, fun remaining => absurd remaining.bounded (by decide)⟩
  exact @announces_of_poll _ _ _ { clockMs := reading 2147485000 } rfl 1
    (by decide +kernel) (by decide +kernel) _ (by decide +kernel)

end BacnetStack
