import BacnetStack.ServerCovTable

namespace BacnetStack

open EventRun WrappingClock

/-!
# Lifetimes

A positive lifetime becomes a deadline on the wrapping clock.  Runs carry the
true time of each event, and the clock shows that time modulo its range.  The
deadline is right while the lifetime is shorter than half the range, and it is
noticed by an idle poll that reaches the slot.
-/

/-- An event with the true time it happens at, in milliseconds. -/
structure TimedEvent where
  trueMs : Nat
  event : ServerEvent

namespace TimedEvent

/-- The event as the server sees it: a poll reads the wrapping clock. -/
def observed (timed : TimedEvent) : ServerEvent :=
  match timed.event with
  | .poll input => .poll { input with clockMs := reading timed.trueMs }
  | other => other

/-- The event is a poll that receives nothing. -/
def isIdlePoll (timed : TimedEvent) : Bool :=
  match timed.event with
  | .poll input => input.packet.isEmpty
  | _ => false

/-- An idle poll reads the clock and scans the table. -/
theorem observed_of_isIdlePoll
    {timed : TimedEvent}
    (idle : timed.isIdlePoll = true) :
    ∃ input,
      timed.observed = .poll input ∧
      input.packet = [] ∧
      input.clockMs = reading timed.trueMs := by
  obtain ⟨trueMs, event⟩ := timed
  cases event
  case poll input =>
      exact ⟨_, rfl, by simpa [isIdlePoll] using idle, rfl⟩
  all_goals cases idle

/-- A poll that receives nothing is an idle poll. -/
theorem isIdlePoll_of_observed
    {timed : TimedEvent}
    {input : PollInput}
    (polls : timed.observed = .poll input)
    (idle : input.packet = []) :
    timed.isIdlePoll = true := by
  obtain ⟨trueMs, event⟩ := timed
  cases event
  case poll received =>
      obtain rfl := ServerEvent.poll.inj polls
      simpa [isIdlePoll] using idle
  all_goals cases polls

end TimedEvent

/-- A server with the true time its table was last scanned at. -/
structure TimedServer where
  server : BacnetServer
  lastScanMs : Nat

namespace TimedServer

def step
    (timed : TimedServer)
    (next : TimedEvent) : TimedServer :=
  { server := timed.server.step next.observed
    lastScanMs :=
      if next.isIdlePoll then next.trueMs else timed.lastScanMs }

end TimedServer

namespace BacnetServer

/-- The tuple is neither cancelled nor replaced, the server not restarted. -/
structure Spares
    (tuple : CovTuple)
    (event : ServerEvent) : Prop where
  keepsRunning :
    event ≠ .stop ∧
      ∀ device localPort bound, event ≠ .start device localPort bound
  keepsClock : event ≠ .setClock false
  otherTuple :
    ∀ (input : PollInput) (request : BacnetSubscribeCovRequestHeader),
      event = .poll input →
      parseSubscribeCovRequest input.packet = .parsed request →
      request.tuple input.source ≠ tuple

end BacnetServer

/-- The part of a subscription that its lifetime depends on. -/
structure Lease where
  tuple : CovTuple
  lifetimeSeconds : UInt32
  expiresAtMs : UInt32

/-- The lease of a subscription. -/
def BacnetServerCovSubscription.lease
    (subscription : BacnetServerCovSubscription) : Lease :=
  { tuple := subscription.tuple
    lifetimeSeconds := subscription.lifetimeSeconds
    expiresAtMs := subscription.expiresAtMs }

/-- A held subscription keeps its lease unless a scan finds it expired. -/
theorem RecordStep.lease
    {server : BacnetServer}
    {event : ServerEvent}
    {index : CovIndex}
    {slot slot' : CovSlot}
    {history history' : List CovTransmission}
    (change :
      RecordStep server event index slot history slot' history')
    (place : server.covSlots index = slot)
    (inUse : slot.subscription.state ≠ .inactive)
    (spares : BacnetServer.Spares slot.subscription.tuple event)
    (alive :
      ∀ input,
        event = .poll input →
        input.packet = [] →
        lifetimeOver server.hasClock (server.nowMs input.clockMs)
          slot.subscription = false) :
    slot'.subscription.state ≠ .inactive ∧
      slot'.subscription.lease = slot.subscription.lease := by
  have holds :
      server.Holds slot.subscription.tuple index := by
    subst place
    exact ⟨inUse, rfl⟩
  cases change with
  | kept =>
      exact ⟨inUse, rfl⟩
  | dropped cause =>
      rcases cause
        with rfl | ⟨_, _, _, rfl⟩ | ⟨input, request, rfl, parsed, matched⟩
      · exact (spares.keepsRunning.1 rfl).elim
      · exact (spares.keepsRunning.2 _ _ _ rfl).elim
      · have found := (server.matchedSlot?_eq_some_iff.mp matched).1
        have same : request.tuple input.source =
            slot.subscription.tuple := by
          rw [← found.2, place]
        exact (spares.otherTuple input request rfl parsed same).elim
  | activated input request isPoll parsed accepted subscribes target =>
      have other := spares.otherTuple input request isPoll parsed
      exfalso
      cases matched : server.matchedSlot? (request.tuple input.source) with
      | some found =>
          rw [matched, Option.some_or] at target
          obtain rfl := Option.some.inj target
          have heldThere := (server.matchedSlot?_eq_some_iff.mp matched).1
          exact other (heldThere.2.symm.trans holds.2)
      | none =>
          rw [matched, Option.none_or] at target
          exact server.not_inUse_of_freeSlot? target holds.1
  | completed input isPoll awaiting samePeer answers =>
      exact ⟨by simp [BacnetServer.completeSlot], rfl⟩
  | passed input after isPoll idle visited =>
      rcases visitSlot_next_cases visited
        with rfl | ⟨_, expired, rfl⟩ | ⟨_, _, _, _, _, rfl⟩
      · exact ⟨inUse, rfl⟩
      · rw [alive input isPoll idle] at expired
        cases expired
      · exact ⟨by simp [CovSlot.giveUp], rfl⟩
  | sent input after transmission isPoll idle visited built place =>
      have sameLease : after.subscription.lease = slot.subscription.lease ∧
          after.subscription.state ≠ .inactive := by
        rcases visitSlot_send_cases visited
          with ⟨_, _, ⟨_, awaiting, _, _, _, rfl⟩ | ⟨_, active, _, _, rfl⟩⟩
        · exact ⟨rfl, by simp [awaiting]⟩
        · exact ⟨rfl, by simp [active]⟩
      rw [← sameLease.1]
      unfold BacnetServer.sentSlot
      split
      · refine ⟨?_, rfl⟩
        simp only [completedSend, storeCovValues]
        split <;> simp
      · exact ⟨sameLease.2, rfl⟩

namespace BacnetServer

variable {server : BacnetServer}

/-- An event that spares the table leaves the server ready, with its clock. -/
theorem ready_step
    {tuple : CovTuple}
    {event : ServerEvent}
    (spares : Spares tuple event)
    (ready : server.Ready)
    (clock : server.hasClock = true) :
    (server.step event).Ready ∧ (server.step event).hasClock = true := by
  cases event with
  | poll input =>
      rw [step, server.poll_configuration]
      exact ⟨⟨ready.running, ready.transport⟩, clock⟩
  | start device localPort bound =>
      exact (spares.keepsRunning.2 _ _ _ rfl).elim
  | stop =>
      exact (spares.keepsRunning.1 rfl).elim
  | setTransport =>
      simp only [step, setTransport, ready.running, ↓reduceIte]
      exact ⟨ready, clock⟩
  | setLocalWritePriority priority =>
      simp only [step, setLocalWritePriority]
      split
      · exact ⟨ready, clock⟩
      · exact ⟨⟨ready.running, ready.transport⟩, clock⟩
  | setObjects objects =>
      exact ⟨⟨ready.running, ready.transport⟩, clock⟩
  | setClock hasClock =>
      cases hasClock with
      | true =>
          exact ⟨⟨ready.running, ready.transport⟩, rfl⟩
      | false =>
          exact (spares.keepsClock rfl).elim

/-- A tuple nobody holds stays absent. -/
theorem not_holds_step
    {tuple : CovTuple}
    {event : ServerEvent}
    (spares : Spares tuple event)
    (absent : ∀ index, ¬server.Holds tuple index)
    (index : CovIndex) :
    ¬(server.step event).Holds tuple index := by
  intro held
  rcases holds_of_step held
    with before | ⟨input, request, isPoll, parsed, same, _⟩
  · exact absent index before
  · exact spares.otherTuple input request isPoll parsed same

/-- A scan that stops earlier leaves a slot as it was. -/
theorem slot_of_shadowed
    (ready : server.Ready)
    {input : PollInput}
    (idle : input.packet = [])
    {index : CovIndex}
    (hidden :
      server.shadowed (server.nowMs input.clockMs) index = true) :
    (server.step (.poll input)).covSlots index =
      server.covSlots index := by
  rw [step, server.poll_idle ready idle,
    covSlots_processCovSubscriptions, hidden]
  rfl

end BacnetServer

/-! Runs after a subscription was accepted. -/

/--
The event happens in order, within half a turn of the clock since the last
scan, and spares the subscription.
-/
structure Timely
    (tuple : CovTuple)
    (timed : TimedServer)
    (next : TimedEvent) : Prop where
  spares : BacnetServer.Spares tuple next.observed
  ordered :
    next.isIdlePoll = true → timed.lastScanMs ≤ next.trueMs
  gap :
    next.isIdlePoll = true →
      next.trueMs - timed.lastScanMs < 2 ^ 31

/-- The first scan at or after the deadline reaches the slot. -/
def Noticed
    (index : CovIndex)
    (deadlineMs : Nat)
    (timed : TimedServer)
    (next : TimedEvent) : Prop :=
  next.isIdlePoll = true →
    timed.lastScanMs < deadlineMs →
    deadlineMs ≤ next.trueMs →
    timed.server.shadowed (reading next.trueMs) index = false

/-- The deadline of a lease, in true time. -/
def deadlineOf
    (lifetimeSeconds : UInt32)
    (startMs : Nat) : Nat :=
  startMs + lifetimeSeconds.toNat * 1000

/-- The stored deadline is the reading of the true one. -/
theorem reading_deadlineOf
    (lifetimeSeconds : UInt32)
    (startMs : Nat) :
    reading startMs + lifetimeSeconds * 1000 =
      reading (deadlineOf lifetimeSeconds startMs) := by
  have product :
      lifetimeSeconds * 1000 = reading (lifetimeSeconds.toNat * 1000) := by
    rw [← UInt32.toNat_inj, reading, UInt32.toNat_ofNat',
      UInt32.toNat_mul]
    rfl
  rw [product, reading_add, deadlineOf]

/-- A subscription and the two phases of its life. -/
structure LeaseRun
    (tuple : CovTuple)
    (lifetimeSeconds : UInt32)
    (startMs : Nat)
    (index : CovIndex)
    (timed : TimedServer) : Prop where
  ready : timed.server.Ready
  clock : timed.server.hasClock = true
  distinct : timed.server.TuplesDistinct
  started : startMs ≤ timed.lastScanMs
  before :
    timed.lastScanMs < deadlineOf lifetimeSeconds startMs →
      timed.server.InUse index ∧
        (timed.server.covSlots index).subscription.lease =
          { tuple := tuple
            lifetimeSeconds := lifetimeSeconds
            expiresAtMs :=
              reading (deadlineOf lifetimeSeconds startMs) }
  after :
    deadlineOf lifetimeSeconds startMs ≤ timed.lastScanMs →
      ∀ place, ¬timed.server.Holds tuple place

section LeaseRun

variable {tuple : CovTuple} {lifetimeSeconds : UInt32} {startMs : Nat}
  {index : CovIndex} {timed : TimedServer} {next : TimedEvent}

/-- A reading before the deadline finds the lease alive, one after it over. -/
theorem lifetimeOver_reading
    {subscription : BacnetServerCovSubscription}
    {nowMs : Nat}
    (short : lifetimeSeconds.toNat * 1000 < 2 ^ 31)
    (lasts : lifetimeSeconds ≠ 0)
    (lease :
      subscription.lease =
        { tuple := tuple
          lifetimeSeconds := lifetimeSeconds
          expiresAtMs := reading (deadlineOf lifetimeSeconds startMs) })
    (started : startMs ≤ nowMs)
    (recent : nowMs < deadlineOf lifetimeSeconds startMs + 2 ^ 31) :
    lifetimeOver true (reading nowMs) subscription =
      decide (deadlineOf lifetimeSeconds startMs ≤ nowMs) := by
  have lifetime : subscription.lifetimeSeconds = lifetimeSeconds :=
    congrArg Lease.lifetimeSeconds lease
  have expires :
      subscription.expiresAtMs =
        reading (deadlineOf lifetimeSeconds startMs) :=
    congrArg Lease.expiresAtMs lease
  have positive : (lifetimeSeconds != 0) = true := by simpa using lasts
  simp only [lifetimeOver, lifetime, expires, positive, Bool.true_and]
  by_cases passed : deadlineOf lifetimeSeconds startMs ≤ nowMs
  · rw [decide_eq_true passed]
    exact reached_of_recent passed (by omega)
  · rw [decide_eq_false passed]
    unfold deadlineOf at passed ⊢
    exact not_reached_of_near (by omega) (by omega)

/-- While the last scan is before the deadline, the tuple is held. -/
theorem LeaseRun.held_iff
    (leaseRun : LeaseRun tuple lifetimeSeconds startMs index timed) :
    (∃ place, timed.server.Holds tuple place) ↔
      timed.lastScanMs < deadlineOf lifetimeSeconds startMs := by
  constructor
  · rintro ⟨place, held⟩
    by_contra passed
    exact leaseRun.after (by omega) place held
  · intro early
    obtain ⟨inUse, lease⟩ := leaseRun.before early
    exact ⟨index, inUse, congrArg Lease.tuple lease⟩

/-- The lease survives an event that does not find it over. -/
private theorem lease_step
    (timely : Timely tuple timed next)
    (inUse : timed.server.InUse index)
    (held :
      (timed.server.covSlots index).subscription.lease.tuple = tuple)
    (alive :
      ∀ input,
        next.observed = .poll input →
        input.packet = [] →
        lifetimeOver timed.server.hasClock
          (timed.server.nowMs input.clockMs)
          (timed.server.covSlots index).subscription = false) :
    (timed.step next).server.InUse index ∧
      ((timed.step next).server.covSlots index).subscription.lease =
        (timed.server.covSlots index).subscription.lease := by
  obtain ⟨_, change⟩ :=
    TrackedServer.slotStep timed.server next.observed index
  have spares := timely.spares
  rw [← held] at spares
  exact change.lease rfl inUse spares alive

/-- A timely step that notices the deadline keeps the phases. -/
theorem LeaseRun.step
    (short : lifetimeSeconds.toNat * 1000 < 2 ^ 31)
    (lasts : lifetimeSeconds ≠ 0)
    (leaseRun : LeaseRun tuple lifetimeSeconds startMs index timed)
    (timely : Timely tuple timed next)
    (noticed :
      Noticed index (deadlineOf lifetimeSeconds startMs) timed next) :
    LeaseRun tuple lifetimeSeconds startMs index (timed.step next) := by
  obtain ⟨ready, clock⟩ :=
    BacnetServer.ready_step timely.spares leaseRun.ready leaseRun.clock
  have distinct :=
    BacnetServer.tuplesDistinct_step leaseRun.distinct next.observed
  have absent
      (gone : ∀ place, ¬timed.server.Holds tuple place) :
      ∀ place, ¬(timed.step next).server.Holds tuple place :=
    BacnetServer.not_holds_step timely.spares gone
  cases idle : next.isIdlePoll with
  | false =>
      have lastScan : (timed.step next).lastScanMs = timed.lastScanMs := by
        simp [TimedServer.step, idle]
      refine ⟨ready, clock, distinct, ?_, ?_, ?_⟩
      · rw [lastScan]
        exact leaseRun.started
      · intro early
        rw [lastScan] at early
        obtain ⟨inUse, lease⟩ := leaseRun.before early
        have kept :=
          lease_step timely inUse (congrArg Lease.tuple lease)
            fun input polls received => by
              rw [TimedEvent.isIdlePoll_of_observed polls received] at idle
              cases idle
        exact ⟨kept.1, kept.2.trans lease⟩
      · intro late
        rw [lastScan] at late
        exact absent (leaseRun.after late)
  | true =>
      have lastScan : (timed.step next).lastScanMs = next.trueMs := by
        simp [TimedServer.step, idle]
      obtain ⟨input, polls, received, clockRead⟩ :=
        TimedEvent.observed_of_isIdlePoll idle
      have ordered := timely.ordered idle
      have gap := timely.gap idle
      have started := leaseRun.started
      have now
          (clockMs : UInt32) :
          timed.server.nowMs clockMs = clockMs := by
        simp [BacnetServer.nowMs, leaseRun.clock]
      refine ⟨ready, clock, distinct, by omega, ?_, ?_⟩
      · intro early
        rw [lastScan] at early
        obtain ⟨inUse, lease⟩ := leaseRun.before (by omega)
        have kept :=
          lease_step timely inUse (congrArg Lease.tuple lease)
            fun scan scans _ => by
              obtain rfl := ServerEvent.poll.inj (polls.symm.trans scans)
              rw [leaseRun.clock, now, clockRead,
                lifetimeOver_reading short lasts lease (by omega)
                  (by omega)]
              exact decide_eq_false (by omega)
        exact ⟨kept.1, kept.2.trans lease⟩
      · intro late place held
        rw [lastScan] at late
        by_cases already :
            deadlineOf lifetimeSeconds startMs ≤ timed.lastScanMs
        · exact absent (leaseRun.after already) place held
        · obtain ⟨inUse, lease⟩ := leaseRun.before (by omega)
          have expired :
              lifetimeOver timed.server.hasClock
                (timed.server.nowMs input.clockMs)
                (timed.server.covSlots index).subscription = true := by
            rw [leaseRun.clock, now, clockRead,
              lifetimeOver_reading short lasts lease (by omega)
                (by omega)]
            exact decide_eq_true late
          have reached :
              timed.server.shadowed
                (timed.server.nowMs input.clockMs) index = false := by
            rw [now, clockRead]
            exact noticed idle (by omega) late
          have freed :
              ¬(timed.step next).server.InUse index := by
            rw [TimedServer.step, polls]
            exact BacnetServer.not_inUse_of_expired leaseRun.ready
              received inUse expired reached
          rcases BacnetServer.holds_of_step held
            with before | ⟨scan, request, scans, parsed, same, _⟩
          · have here :=
              leaseRun.distinct tuple place index before
                ⟨inUse, congrArg Lease.tuple lease⟩
            subst here
            exact freed held.1
          · exact timely.spares.otherTuple scan request scans parsed same

/-- A step that misses the deadline leaves the subscription in the table. -/
theorem LeaseRun.held_of_missed
    (leaseRun : LeaseRun tuple lifetimeSeconds startMs index timed)
    (missed :
      ¬Noticed index (deadlineOf lifetimeSeconds startMs) timed next) :
    next.isIdlePoll = true ∧
      deadlineOf lifetimeSeconds startMs ≤ next.trueMs ∧
      (timed.step next).server.Holds tuple index := by
  simp only [Noticed, not_forall, Bool.not_eq_false] at missed
  obtain ⟨idle, early, late, hidden⟩ := missed
  obtain ⟨input, polls, received, clockRead⟩ :=
    TimedEvent.observed_of_isIdlePoll idle
  obtain ⟨inUse, lease⟩ := leaseRun.before early
  have now
      (clockMs : UInt32) :
      timed.server.nowMs clockMs = clockMs := by
    simp [BacnetServer.nowMs, leaseRun.clock]
  have unchanged :
      (timed.step next).server.covSlots index =
        timed.server.covSlots index := by
    rw [TimedServer.step, polls]
    refine BacnetServer.slot_of_shadowed leaseRun.ready received ?_
    rw [now, clockRead]
    exact hidden
  refine ⟨idle, late, ?_⟩
  unfold BacnetServer.Holds BacnetServer.InUse
  rw [unchanged]
  exact ⟨inUse, congrArg Lease.tuple lease⟩

/-- The last scan is before a time when all idle polls are. -/
theorem lastScanMs_lt_iff
    {later : List TimedEvent}
    (timely : Along TimedServer.step (Timely tuple) timed later)
    (deadlineMs : Nat) :
    (run TimedServer.step timed later).lastScanMs < deadlineMs ↔
      timed.lastScanMs < deadlineMs ∧
        ∀ next ∈ later,
          next.isIdlePoll = true → next.trueMs < deadlineMs := by
  induction later generalizing timed with
  | nil =>
      simp
  | cons next rest inductionHypothesis =>
      obtain ⟨first, others⟩ := timely
      rw [run_cons, inductionHypothesis others, List.forall_mem_cons,
        ← and_assoc]
      refine and_congr_left fun _ => ?_
      cases idle : next.isIdlePoll with
      | false =>
          simp [TimedServer.step, idle]
      | true =>
          have ordered := first.ordered idle
          simp only [TimedServer.step, idle, ↓reduceIte, true_implies]
          omega

/--
Along timely events the tuple is held exactly while the last scan is before
the deadline, in every state, precisely when the deadline is noticed.
-/
theorem held_iff_noticed
    (short : lifetimeSeconds.toNat * 1000 < 2 ^ 31)
    (lasts : lifetimeSeconds ≠ 0)
    (leaseRun : LeaseRun tuple lifetimeSeconds startMs index timed)
    {later : List TimedEvent}
    (timely : Along TimedServer.step (Timely tuple) timed later) :
    (∀ earlier, earlier <+: later →
        ((∃ place,
            (run TimedServer.step timed earlier).server.Holds
              tuple place) ↔
          (run TimedServer.step timed earlier).lastScanMs <
            deadlineOf lifetimeSeconds startMs)) ↔
      Along TimedServer.step
        (Noticed index (deadlineOf lifetimeSeconds startMs))
        timed later := by
  induction later generalizing timed with
  | nil =>
      simp only [List.prefix_nil, forall_eq, run_nil, Along, iff_true]
      exact leaseRun.held_iff
  | cons next rest inductionHypothesis =>
      obtain ⟨first, others⟩ := timely
      constructor
      · intro always
        have noticed :
            Noticed index (deadlineOf lifetimeSeconds startMs)
              timed next := by
          by_contra missed
          obtain ⟨idle, late, held⟩ := leaseRun.held_of_missed missed
          have early := (always [next] (by simp)).mp ⟨index, held⟩
          simp only [run_cons, run_nil, TimedServer.step, idle,
            ↓reduceIte] at early
          omega
        refine ⟨noticed, ?_⟩
        have stepped := leaseRun.step short lasts first noticed
        refine (inductionHypothesis stepped others).mp ?_
        intro earlier isPrefix
        exact always (next :: earlier) (by simpa using isPrefix)
      · rintro ⟨noticed, restNoticed⟩ earlier isPrefix
        have stepped := leaseRun.step short lasts first noticed
        cases earlier with
        | nil =>
            exact leaseRun.held_iff
        | cons head tail =>
            obtain ⟨rfl, tailPrefix⟩ := List.cons_prefix_cons.mp isPrefix
            exact (inductionHypothesis stepped others).mpr restNoticed
              tail tailPrefix

end LeaseRun

/-- An activation starts the lease it was requested with. -/
theorem leaseRun_of_activated
    {server : BacnetServer}
    (distinct : server.TuplesDistinct)
    (clock : server.hasClock = true)
    {input : PollInput}
    {request : BacnetSubscribeCovRequestHeader}
    (received : server.Receives input request)
    {startMs : Nat}
    (atStart : input.clockMs = reading startMs)
    {index : CovIndex}
    (activated : (server.poll input).activated = some index) :
    request.lifetimeSeconds ≠ 0 ∧
      LeaseRun (request.tuple input.source) request.lifetimeSeconds startMs
        index
        { server := server.step (.poll input), lastScanMs := startMs } := by
  have handled :=
    server.poll_subscribe received.ready received.fits received.parsed
  rw [handled] at activated
  rcases server.handleSubscribeCov_cases input request
    with ⟨_, _, none⟩ | ⟨_, _, _, output⟩ |
      ⟨place, _, lasts, _, output⟩
  · rw [none] at activated
    cases activated
  · rw [output] at activated
    simp [BacnetServer.acknowledgeSubscribe] at activated
  · have deadline :
        server.expiryDeadline input request.lifetimeSeconds =
          reading (deadlineOf request.lifetimeSeconds startMs) := by
      rw [BacnetServer.expiryDeadline, clock, atStart]
      exact reading_deadlineOf request.lifetimeSeconds startMs
    rw [output] at activated
    obtain rfl := Option.some.inj activated
    have after :
        server.step (.poll input) =
          server.setSlot place
            (activatedSlot input.source request
              (reading (deadlineOf request.lifetimeSeconds startMs))
              (server.covSlots place)) := by
      rw [BacnetServer.step, handled, output, ← deadline]
      simp [BacnetServer.acknowledgeSubscribe]
    have positive : 0 < request.lifetimeSeconds.toNat := by
      rw [Nat.pos_iff_ne_zero, ← UInt32.toNat_zero, Ne,
        UInt32.toNat_inj]
      exact lasts
    refine ⟨lasts, ?_, ?_, ?_, le_rfl, ?_, ?_⟩
    · rw [after]
      exact ⟨received.ready.running, received.ready.transport⟩
    · rw [after]
      exact clock
    · exact BacnetServer.tuplesDistinct_step distinct _
    · intro _
      rw [after]
      unfold BacnetServer.InUse
      rw [BacnetServer.setSlot_covSlots, Function.update_self]
      exact ⟨by simp [activatedSlot], rfl⟩
    · intro late
      change deadlineOf request.lifetimeSeconds startMs ≤ startMs at late
      unfold deadlineOf at late
      omega

/--
For a lifetime below half a turn of the clock: the subscription is in the
table up to its true deadline and gone from the first idle poll after it, in
every state of a timely run, precisely when that poll reaches its slot.
-/
theorem lifetime_exact_iff
    (events : List ServerEvent)
    (clock : (run BacnetServer.step {} events).hasClock = true)
    {input : PollInput}
    {request : BacnetSubscribeCovRequestHeader}
    (received : (run BacnetServer.step {} events).Receives input request)
    {startMs : Nat}
    (atStart : input.clockMs = reading startMs)
    {index : CovIndex}
    (activated :
      ((run BacnetServer.step {} events).poll input).activated =
        some index)
    (short : request.lifetimeSeconds.toNat * 1000 < 2 ^ 31)
    {start : TimedServer}
    (isStart :
      start =
        { server := (run BacnetServer.step {} events).step (.poll input)
          lastScanMs := startMs })
    {later : List TimedEvent}
    (timely :
      Along TimedServer.step (Timely (request.tuple input.source))
        start later) :
    (∀ earlier, earlier <+: later →
        ((∃ place,
            (run TimedServer.step start earlier).server.Holds
              (request.tuple input.source) place) ↔
          ∀ next ∈ earlier,
            next.isIdlePoll = true →
              next.trueMs <
                startMs + request.lifetimeSeconds.toNat * 1000)) ↔
      Along TimedServer.step
        (Noticed index
          (startMs + request.lifetimeSeconds.toNat * 1000))
        start later := by
  subst isStart
  obtain ⟨lasts, leaseRun⟩ :=
    leaseRun_of_activated (BacnetServer.tuplesDistinct_run events) clock
      received atStart activated
  have exact_iff := held_iff_noticed short lasts leaseRun timely
  unfold deadlineOf at exact_iff
  rw [← exact_iff]
  refine forall₂_congr fun earlier isPrefix => ?_
  obtain ⟨rest, rfl⟩ := isPrefix
  have positive : 0 < request.lifetimeSeconds.toNat := by
    rw [Nat.pos_iff_ne_zero, ← UInt32.toNat_zero, Ne, UInt32.toNat_inj]
    exact lasts
  rw [lastScanMs_lt_iff (along_append.mp timely).1]
  refine iff_congr Iff.rfl ?_
  constructor
  · exact fun early => ⟨Nat.lt_add_of_pos_right (by omega), early⟩
  · exact fun early => early.2

/-- A longer lifetime is taken for over before its true deadline. -/
theorem long_lifetime_over_early
    {tuple : CovTuple}
    {lifetimeSeconds : UInt32}
    (long : 2 ^ 31 ≤ lifetimeSeconds.toNat * 1000)
    (startMs : Nat)
    {subscription : BacnetServerCovSubscription}
    (lease :
      subscription.lease =
        { tuple := tuple
          lifetimeSeconds := lifetimeSeconds
          expiresAtMs :=
            reading (deadlineOf lifetimeSeconds startMs) }) :
    ∃ nowMs,
      startMs ≤ nowMs ∧
      nowMs < deadlineOf lifetimeSeconds startMs ∧
      lifetimeOver true (reading nowMs) subscription = true := by
  have lifetime : subscription.lifetimeSeconds = lifetimeSeconds :=
    congrArg Lease.lifetimeSeconds lease
  have expires :
      subscription.expiresAtMs =
        reading (deadlineOf lifetimeSeconds startMs) :=
    congrArg Lease.expiresAtMs lease
  have positive : (lifetimeSeconds != 0) = true := by
    rw [bne_iff_ne]
    rintro rfl
    simp at long
  have expired
      {nowMs : Nat}
      (before : nowMs < deadlineOf lifetimeSeconds startMs)
      (behind :
        (deadlineOf lifetimeSeconds startMs - nowMs) % 2 ^ 32 = 0 ∨
          2 ^ 31 <
            (deadlineOf lifetimeSeconds startMs - nowMs) % 2 ^ 32) :
      lifetimeOver true (reading nowMs) subscription = true := by
    simp only [lifetimeOver, lifetime, expires, positive, Bool.true_and]
    rw [reached_eq_true_iff, toNat_reading_sub_of_lt before]
    omega
  -- Seen from the start, the stored deadline is ahead or already behind.
  by_cases ahead : lifetimeSeconds.toNat * 1000 % 2 ^ 32 ≤ 2 ^ 31
  · have before :
        startMs + lifetimeSeconds.toNat * 1000 % 2 ^ 32 <
          deadlineOf lifetimeSeconds startMs := by
      unfold deadlineOf
      omega
    refine ⟨_, Nat.le_add_right _ _, before, expired before ?_⟩
    unfold deadlineOf
    omega
  · have before : startMs < deadlineOf lifetimeSeconds startMs := by
      unfold deadlineOf
      omega
    refine ⟨startMs, le_rfl, before, expired before ?_⟩
    rw [deadlineOf, Nat.add_sub_cancel_left]
    omega

/-- Subscribe to the object form for a number of seconds. -/
def subscribeFor
    (processId lifetimeSeconds : UInt32) : PollInput :=
  { packet :=
      (buildSubscribeCovRequest 64 processId
        ⟨BacnetObjectType.analogValue, 1⟩ lifetimeSeconds false).getD [] }

/-- The tuple of such a subscription. -/
def subscribedTuple (processId : UInt32) : CovTuple :=
  { peer := {}
    processId := processId
    object := ⟨BacnetObjectType.analogValue, 1⟩
    isPropertySubscription := false
    property := .presentValue
    arrayIndex := kBacnetNoArrayIndex }

/-- An idle poll at a true time. -/
def idleAt (trueMs : Nat) : TimedEvent :=
  { trueMs := trueMs, event := .poll {} }

/-- The server right after the subscription at time 0. -/
def subscribedAt0
    (events : List ServerEvent)
    (input : PollInput) : TimedServer :=
  { server := (run BacnetServer.step {} events).step (.poll input)
    lastScanMs := 0 }

/-- One process holds a subscription that is served first. -/
def servedFirstRun : List ServerEvent :=
  startedServer (oneAnalogValue .zero) ++
    [.poll (subscribeFor 1 600), .poll {}]

/--
A lifetime of 2147484 seconds ends at the next idle poll, and one of a second
outlasts its deadline while another slot has something to send.
-/
theorem lifetime_ends_early_or_late :
    (¬∃ place,
        (run TimedServer.step
          (subscribedAt0 (startedServer (oneAnalogValue .zero))
            (subscribeFor 1 2147484))
          [idleAt 0]).server.Holds (subscribedTuple 1) place) ∧
      ∃ place,
        (run TimedServer.step
          (subscribedAt0 servedFirstRun (subscribeFor 2 1))
          [idleAt 0, { trueMs := 500
                       event := .setObjects (oneAnalogValue .one) },
            idleAt 1000]).server.Holds (subscribedTuple 2) place := by
  decide +kernel

/-- A poll without a packet spares every subscription. -/
theorem spares_idle
    (tuple : CovTuple)
    (clockMs : UInt32) :
    BacnetServer.Spares tuple (.poll { clockMs := clockMs }) := by
  refine ⟨by simp, by simp, ?_⟩
  intro input request polls parsed
  obtain rfl := ServerEvent.poll.inj polls
  cases parsed

/-- A lifetime of a minute ends at its deadline. -/
theorem minute_ends_at_deadline :
    (∃ place,
        (run TimedServer.step
          (subscribedAt0 (startedServer (oneAnalogValue .zero))
            (subscribeFor 1 60))
          [idleAt 59999]).server.Holds (subscribedTuple 1) place) ∧
      ¬∃ place,
        (run TimedServer.step
          (subscribedAt0 (startedServer (oneAnalogValue .zero))
            (subscribeFor 1 60))
          [idleAt 59999, idleAt 60000]).server.Holds
            (subscribedTuple 1) place := by
  let request : BacnetSubscribeCovRequestHeader :=
    { processId := 1
      object := ⟨BacnetObjectType.analogValue, 1⟩
      lifetimeSeconds := 60 }
  have received :
      (run BacnetServer.step {}
        (startedServer (oneAnalogValue .zero))).Receives
          (subscribeFor 1 60) request :=
    ⟨⟨rfl, rfl⟩, by decide +kernel, by decide +kernel⟩
  have timely :
      Along TimedServer.step (Timely (subscribedTuple 1))
        (subscribedAt0 (startedServer (oneAnalogValue .zero))
          (subscribeFor 1 60))
        [idleAt 59999, idleAt 60000] :=
    ⟨⟨spares_idle _ _, fun _ => by decide, fun _ => by decide⟩,
      ⟨spares_idle _ _, fun _ => by decide, fun _ => by decide⟩, trivial⟩
  have noticed :
      Along TimedServer.step
        (Noticed 0 (0 + request.lifetimeSeconds.toNat * 1000))
        (subscribedAt0 (startedServer (oneAnalogValue .zero))
          (subscribeFor 1 60))
        [idleAt 59999, idleAt 60000] :=
    ⟨fun _ _ _ => rfl, fun _ _ _ => rfl, trivial⟩
  have held :=
    (@lifetime_exact_iff (startedServer (oneAnalogValue .zero)) rfl
      (subscribeFor 1 60) request received 0 rfl 0 rfl (by decide)
      (subscribedAt0 (startedServer (oneAnalogValue .zero))
        (subscribeFor 1 60)) rfl
      [idleAt 59999, idleAt 60000] timely).mpr noticed
  constructor
  · refine (held [idleAt 59999] (by simp)).mpr ?_
    intro next member _
    obtain rfl := List.mem_singleton.mp member
    decide
  · intro stillHeld
    have early :=
      (held [idleAt 59999, idleAt 60000] (by simp)).mp stillHeld
        (idleAt 60000) (by simp) rfl
    revert early
    decide

end BacnetStack
