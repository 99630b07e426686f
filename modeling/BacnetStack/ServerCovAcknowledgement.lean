import BacnetStack.ServerCovRetry

namespace BacnetStack

open EventRun

/-!
# Acknowledgements of notifications

A reply is matched by its source and by the invoke id stored in a slot, and
only the first slot that matches is completed.  The stored id is the one of
the last delivered transmission, so a reply to an earlier transmission of the
same notification finds no slot.
-/

namespace BacnetServer

variable (server : BacnetServer)

/-- A slot awaits a reply from this peer with this invoke id. -/
def awaitsReply
    (peer : BacnetIpEndpoint)
    (invokeId : UInt8)
    (index : CovIndex) : Prop :=
  (server.covSlots index).subscription.state = .awaitingConfirmedAck ∧
    (server.covSlots index).subscription.peer = peer ∧
    (server.covSlots index).subscription.pendingInvokeId = invokeId

/-- A response is looked for in the slots that await its invoke id. -/
theorem slotResponse_ne_none_iff
    {input : PollInput}
    {invokeId : UInt8}
    (answers :
      classifyConfirmedCovNotificationResponse input.packet invokeId ≠
        .none)
    (index : CovIndex) :
    slotResponse input (server.covSlots index) ≠ .none ↔
      server.awaitsReply input.source invokeId index := by
  unfold slotResponse awaitsReply
  dsimp only
  constructor
  · intro answered
    split at answered
    · rename_i waits
      exact ⟨waits.1, waits.2,
        invokeId_of_response_unique answered answers⟩
    · exact (answered rfl).elim
  · rintro ⟨awaiting, peer, pending⟩
    rw [if_pos ⟨awaiting, peer⟩, pending]
    exact answers

/-- The answered slot is the first one that awaits the invoke id. -/
theorem answeredSlot?_eq_some_iff
    {input : PollInput}
    {invokeId : UInt8}
    (answers :
      classifyConfirmedCovNotificationResponse input.packet invokeId ≠
        .none)
    (index : CovIndex) :
    server.answeredSlot? input = some index ↔
      server.awaitsReply input.source invokeId index ∧
        ∀ earlier, earlier < index →
          ¬server.awaitsReply input.source invokeId earlier := by
  have matching (place : CovIndex) :
      (slotResponse input (server.covSlots place) != .none) = true ↔
        server.awaitsReply input.source invokeId place := by
    rw [bne_iff_ne]
    exact server.slotResponse_ne_none_iff answers place
  rw [answeredSlot?, List.find?_finRange_eq_some_iff, matching]
  simp only [← matching, Bool.not_eq_true]

/-- A response completes the first slot that awaits it, or nothing. -/
theorem covSlots_poll_response
    (ready : server.Ready)
    {input : PollInput}
    {invokeId : UInt8}
    (fits : input.packet.length ≤ kMaxDatagramSize)
    (answers :
      classifyConfirmedCovNotificationResponse input.packet invokeId ≠
        .none) :
    (server.poll input).server.covSlots =
      match server.answeredSlot? input with
      | some index =>
          Function.update server.covSlots index
            (server.completeSlot input (server.covSlots index))
      | none => server.covSlots := by
  have received : input.packet.isEmpty = false := by
    obtain ⟨_, _, found, _⟩ := apdu?_of_response answers
    cases shape : input.packet with
    | nil =>
        rw [shape] at found
        cases found
    | cons head tail => rfl
  simp only [poll, ready.running, ready.transport, received,
    Bool.not_true, Bool.or_self, Bool.false_eq_true, ↓reduceIte,
    if_neg (Nat.not_lt.mpr fits)]
  cases server.answeredSlot? input with
  | some index =>
      rfl
  | none =>
      rcases server.handleRequest_cases input
        with ⟨same, _⟩ | ⟨request, parsed, _⟩
      · dsimp only
        rw [same]
      · exact (subscribe_of_response answers request parsed).elim

end BacnetServer

/-- The event builds no notification for a slot. -/
def BacnetServer.Silent
    (server : BacnetServer)
    (index : CovIndex)
    (event : ServerEvent) : Prop :=
  ∀ input transmission,
    event = .poll input →
    (server.poll input).transmission = some transmission →
    transmission.index ≠ index

/-- Only a notification makes a slot await an acknowledgement. -/
theorem RecordStep.not_awaiting
    {server : BacnetServer}
    {event : ServerEvent}
    {index : CovIndex}
    {slot slot' : CovSlot}
    {history history' : List CovTransmission}
    (change :
      RecordStep server event index slot history slot' history')
    (silent : server.Silent index event)
    (notAwaiting : slot.subscription.state ≠ .awaitingConfirmedAck) :
    slot'.subscription.state ≠ .awaitingConfirmedAck := by
  cases change with
  | kept =>
      exact notAwaiting
  | dropped cause =>
      simp [CovSlot.drop]
  | activated input request isPoll parsed accepted subscribes target =>
      simp [activatedSlot]
  | completed input isPoll awaiting samePeer answers =>
      simp [BacnetServer.completeSlot]
  | passed input after isPoll idle visited =>
      rcases visitSlot_next_cases visited
        with rfl | ⟨_, _, rfl⟩ | ⟨_, _, _, _, _, rfl⟩
      · exact notAwaiting
      · simp [CovSlot.expire, CovSlot.drop]
      · simp [CovSlot.giveUp]
  | sent input after transmission isPoll idle visited built place =>
      exact (silent input transmission isPoll built place).elim

namespace TrackedServer

/-- Whatever happens, the next notification of the slot is a new one. -/
def ExchangeEnded
    (tracked : TrackedServer)
    (index : CovIndex) : Prop :=
  ∀ later input transmission,
    Along step (fun tracked event => tracked.server.Silent index event)
      tracked later →
    ((run step tracked later).server.poll input).transmission =
      some transmission →
    transmission.index = index →
    transmission.isRetransmission = false

/-- A slot that awaits nothing repeats nothing. -/
theorem exchangeEnded_of_not_awaiting
    {tracked : TrackedServer}
    {index : CovIndex}
    (notAwaiting :
      (tracked.slot index).subscription.state ≠ .awaitingConfirmedAck) :
    tracked.ExchangeEnded index := by
  intro later input transmission silent built place
  have stillNotAwaiting :
      ((run step tracked later).slot index).subscription.state ≠
        .awaitingConfirmedAck :=
    run_invariant_along
      (fun tracked : TrackedServer =>
        (tracked.slot index).subscription.state ≠ .awaitingConfirmedAck)
      (fun tracked event quiet =>
        (tracked.recordStep event index).not_awaiting quiet)
      notAwaiting silent
  obtain ⟨_, _, _, slot, visited, _⟩ :=
    (run step tracked later).server.poll_transmission built
  rw [place] at visited
  rcases visitSlot_send_cases visited
    with ⟨_, _, ⟨_, awaiting, _⟩ | ⟨fresh, _⟩⟩
  · exact (stillNotAwaiting awaiting).elim
  · exact fresh

end TrackedServer

/--
A ready server receives, from the subscribed peer, an acknowledgement with
the invoke id of a delivered transmission of the outstanding notification.
-/
structure LateAcknowledgement
    (tracked : TrackedServer)
    (index : CovIndex)
    (transmission : CovTransmission)
    (input : PollInput) : Prop where
  ready : tracked.server.Ready
  awaiting :
    (tracked.slot index).subscription.state = .awaitingConfirmedAck
  outstanding : transmission ∈ exchange (tracked.history index)
  delivered : transmission.delivered = true
  fits : input.packet.length ≤ kMaxDatagramSize
  source : input.source = (tracked.slot index).subscription.peer
  acknowledges :
    classifyConfirmedCovNotificationResponse input.packet
      transmission.invokeId = .ack

/--
The acknowledgement ends the exchange precisely when its invoke id is the one
of the last delivered transmission and no earlier slot of the peer awaits
the same id.
-/
theorem lateAcknowledgement_accepted_iff
    {tracked : TrackedServer}
    (reachable : tracked.Reachable)
    {index : CovIndex}
    {transmission : CovTransmission}
    {input : PollInput}
    (late : LateAcknowledgement tracked index transmission input) :
    (((tracked.step (.poll input)).slot index).subscription.state =
          .active ∧
        (tracked.step (.poll input)).ExchangeEnded index) ↔
      ((lastSent (tracked.history index)).map
            CovTransmission.invokeId = some transmission.invokeId ∧
        ∀ earlier, earlier < index →
          ¬tracked.server.awaitsReply input.source
            transmission.invokeId earlier) := by
  obtain ⟨sent, found, pending⟩ :=
    (reachable.covLedger index).pending late.awaiting
  have answers :
      classifyConfirmedCovNotificationResponse input.packet
        transmission.invokeId ≠ .none := by
    simp [late.acknowledges]
  have lastId :
      (lastSent (tracked.history index)).map CovTransmission.invokeId =
          some transmission.invokeId ↔
        tracked.server.awaitsReply input.source
          transmission.invokeId index := by
    simp only [found, Option.map_some, Option.some.injEq, ← pending,
      BacnetServer.awaitsReply]
    constructor
    · exact fun same => ⟨late.awaiting, late.source.symm, same⟩
    · exact fun waits => waits.2.2
  rw [lastId,
    ← tracked.server.answeredSlot?_eq_some_iff answers index]
  have after :
      (tracked.step (.poll input)).server.covSlots =
        (tracked.server.poll input).server.covSlots := by
    rw [TrackedServer.step_server]
    rfl
  rw [tracked.server.covSlots_poll_response late.ready late.fits
    answers] at after
  have waits : (tracked.slot index).subscription.state ≠ .active := by
    simp [late.awaiting]
  constructor
  · rintro ⟨active, _⟩
    rw [TrackedServer.slot, after] at active
    split at active
    · rename_i answered answeredFound
      by_cases same : index = answered
      · rw [same]
        exact answeredFound
      · rw [Function.update_of_ne same] at active
        exact (waits active).elim
    · exact (waits active).elim
  · intro answered
    simp only [answered] at after
    have completed :
        (tracked.step (.poll input)).slot index =
          tracked.server.completeSlot input (tracked.slot index) := by
      rw [TrackedServer.slot, after, Function.update_self]
    refine ⟨by rw [completed]; rfl, ?_⟩
    apply TrackedServer.exchangeEnded_of_not_awaiting
    rw [completed]
    simp [BacnetServer.completeSlot]

/-- A simple acknowledgement of a notification. -/
def notificationAck (invokeId : UInt8) : List UInt8 :=
  [0x81, 0x0A, 0x00, 0x09, 0x01, 0x00, 0x20, invokeId, 0x01]

/-- The present value is sent with invoke id 1 and repeated with 2. -/
def crossingRun : List ServerEvent :=
  unansweredRun .presentValue ++ [.poll { clockMs := 3000 }]

/-- An acknowledgement that arrives just after the repetition. -/
def crossingAck (invokeId : UInt8) : PollInput :=
  { packet := notificationAck invokeId, clockMs := 3001 }

/-- The delayed acknowledgement of the first transmission is ignored. -/
theorem crossingAcknowledgement_ignored :
    let tracked := TrackedServer.after crossingRun
    let answered := tracked.step (.poll (crossingAck 1))
    LateAcknowledgement tracked 0
        ⟨0, presentValueReport .one, 1, false, true⟩ (crossingAck 1) ∧
      (answered.slot 0).subscription.state = .awaitingConfirmedAck ∧
      (answered.server.poll { clockMs := 6000 }).transmission.map
        CovTransmission.isRetransmission = some true := by
  refine ⟨?_, rfl, rfl⟩
  exact ⟨⟨rfl, rfl⟩, rfl, by decide, rfl, by decide, rfl, rfl⟩

/-- The acknowledgement of the repetition ends the exchange. -/
theorem repetition_acknowledged :
    (((TrackedServer.after crossingRun).step
      (.poll (crossingAck 2))).slot 0).subscription.state =
        .active := by
  have late :
      LateAcknowledgement (TrackedServer.after crossingRun) 0
        ⟨0, presentValueReport .one, 2, true, true⟩ (crossingAck 2) :=
    ⟨⟨rfl, rfl⟩, rfl, by decide, rfl, by decide, rfl, rfl⟩
  refine ((lateAcknowledgement_accepted_iff
    (TrackedServer.reachable_after crossingRun) late).mpr
      ⟨rfl, ?_⟩).1
  intro earlier smaller
  exact (Fin.not_lt_zero earlier smaller).elim

end BacnetStack
