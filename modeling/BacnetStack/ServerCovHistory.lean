import BacnetStack.ServerCovStep

namespace BacnetStack

open EventRun

/-!
# Notification histories

A tracked server carries, next to the state of the source, the notifications
built for each slot since its subscription was activated, newest first.  The
history only observes: the server component of a tracked run is the run of
the server itself.
-/

/-- A server with the notifications of its current subscriptions. -/
structure TrackedServer where
  server : BacnetServer := {}
  history : CovIndex → List CovTransmission := fun _ => []

namespace TrackedServer

/-- Record what a poll built and activated. -/
def observe
    (tracked : TrackedServer)
    (output : PollOutput) : TrackedServer :=
  { server := output.server
    history := fun index =>
      if output.activated = some index then
        []
      else
        match output.transmission with
        | some transmission =>
            if transmission.index = index then
              transmission :: tracked.history index
            else
              tracked.history index
        | none => tracked.history index }

def step
    (tracked : TrackedServer)
    (event : ServerEvent) : TrackedServer :=
  match event with
  | .poll input => tracked.observe (tracked.server.poll input)
  | other => { tracked with server := tracked.server.step other }

/-- The state of a tracked server after a run from a new server. -/
def after (events : List ServerEvent) : TrackedServer :=
  run step {} events

/-- Some run of a new server ends in this state. -/
def Reachable (tracked : TrackedServer) : Prop :=
  ∃ events, after events = tracked

/-- Every run ends in a reachable state. -/
theorem reachable_after
    (events : List ServerEvent) :
    (after events).Reachable :=
  ⟨events, rfl⟩

/-- One table slot of the tracked server. -/
abbrev slot
    (tracked : TrackedServer)
    (index : CovIndex) : CovSlot :=
  tracked.server.covSlots index

@[simp] theorem step_server
    (tracked : TrackedServer)
    (event : ServerEvent) :
    (tracked.step event).server = tracked.server.step event := by
  cases event <;> rfl

/-- Tracking does not disturb the server. -/
theorem after_server
    (events : List ServerEvent) :
    (after events).server = run BacnetServer.step {} events :=
  run_map step_server _ events

@[simp] theorem after_concat
    (events : List ServerEvent)
    (event : ServerEvent) :
    after (events ++ [event]) = (after events).step event :=
  run_concat step _ events event

/-- A property every step preserves holds after every run. -/
theorem after_invariant
    (invariant : TrackedServer → Prop)
    (initial : invariant {})
    (preserved :
      ∀ tracked event, invariant tracked →
        invariant (tracked.step event))
    (events : List ServerEvent) :
    invariant (after events) :=
  run_invariant invariant preserved initial events

end TrackedServer

/--
Everything one step can do to a slot and to its history.  Each constructor
carries the conditions under which the source takes that branch.
-/
inductive RecordStep
    (server : BacnetServer)
    (event : ServerEvent)
    (index : CovIndex)
    (slot : CovSlot)
    (history : List CovTransmission) :
    CovSlot → List CovTransmission → Prop where
  | kept : RecordStep server event index slot history slot history
  | dropped
      (cause :
        event = .stop ∨
          (∃ device localPort bound,
            event = .start device localPort bound) ∨
          ∃ (input : PollInput) (request : BacnetSubscribeCovRequestHeader),
            event = .poll input ∧
            parseSubscribeCovRequest input.packet = .parsed request ∧
            server.matchedSlot? (request.tuple input.source) =
              some index) :
      RecordStep server event index slot history slot.drop history
  | activated
      (input : PollInput)
      (request : BacnetSubscribeCovRequestHeader)
      (isPoll : event = .poll input)
      (parsed : parseSubscribeCovRequest input.packet = .parsed request)
      (accepted : request.refusal server.objects = none)
      (subscribes : request.lifetimeSeconds ≠ 0)
      (target :
        (server.matchedSlot? (request.tuple input.source)).or
          server.freeSlot? = some index) :
      RecordStep server event index slot history
        (activatedSlot input.source request
          (server.expiryDeadline input request.lifetimeSeconds) slot)
        []
  | completed
      (input : PollInput)
      (isPoll : event = .poll input)
      (awaiting : slot.subscription.state = .awaitingConfirmedAck)
      (samePeer : slot.subscription.peer = input.source)
      (answers :
        classifyConfirmedCovNotificationResponse input.packet
          slot.subscription.pendingInvokeId ≠ .none) :
      RecordStep server event index slot history
        (server.completeSlot input slot) history
  | passed
      (input : PollInput)
      (after : CovSlot)
      (isPoll : event = .poll input)
      (idle : input.packet = [])
      (visited :
        visitSlot server.objects server.device server.hasClock
          (server.nowMs input.clockMs) slot = .next after) :
      RecordStep server event index slot history after history
  | sent
      (input : PollInput)
      (after : CovSlot)
      (transmission : CovTransmission)
      (isPoll : event = .poll input)
      (idle : input.packet = [])
      (visited :
        visitSlot server.objects server.device server.hasClock
          (server.nowMs input.clockMs) slot =
            .send after transmission.values
              transmission.isRetransmission)
      (built :
        (server.poll input).transmission = some transmission)
      (place : transmission.index = index)
      (invokeId :
        transmission.invokeId =
          server.drawInvokeId after.subscription.confirmed)
      (delivered :
        transmission.delivered =
          server.delivers input.sendSucceeds
            (server.nowMs input.clockMs) after.subscription
            transmission.values) :
      RecordStep server event index slot history
        (server.sentSlot input.sendSucceeds
          (server.nowMs input.clockMs) after transmission.values)
        (transmission :: history)

namespace TrackedServer

open BacnetServer

/-- A slot the scan passed or did not reach. -/
private theorem recordStep_passSlots
    (tracked : TrackedServer)
    (input : PollInput)
    (index : CovIndex)
    (indices : List CovIndex)
    (idle : input.packet = [])
    (quiet :
      index ∈ indices →
        (tracked.server.visit
          (tracked.server.nowMs input.clockMs) index).isSend = false) :
    RecordStep tracked.server (.poll input) index
      (tracked.server.covSlots index) (tracked.history index)
      ((tracked.server.passSlots
        (tracked.server.nowMs input.clockMs) indices).covSlots index)
      (tracked.history index) := by
  by_cases member : index ∈ indices
  · obtain ⟨slot, visited⟩ :=
      SlotVisit.isSend_eq_false_iff.mp (quiet member)
    have passedSlot :
        (tracked.server.passSlots
          (tracked.server.nowMs input.clockMs) indices).covSlots index =
            slot := by
      simp [passSlots, member, visited, SlotVisit.passed]
    rw [passedSlot]
    exact .passed input slot rfl idle visited
  · have sameSlot :
        (tracked.server.passSlots
          (tracked.server.nowMs input.clockMs) indices).covSlots index =
            tracked.server.covSlots index := by
      simp [passSlots, member]
    rw [sameSlot]
    exact .kept

/-- Slots and histories through the scan of an idle poll. -/
private theorem recordStep_scan
    (tracked : TrackedServer)
    (input : PollInput)
    (index : CovIndex)
    (idle : input.packet = [])
    (scans :
      tracked.server.poll input =
        tracked.server.processCovSubscriptions input) :
    let observed :=
      tracked.observe (tracked.server.processCovSubscriptions input)
    RecordStep tracked.server (.poll input) index
      (tracked.server.covSlots index) (tracked.history index)
      (observed.server.covSlots index) (observed.history index) := by
  rcases tracked.server.processCovSubscriptions_cases input
    with ⟨quiet, same⟩ |
      ⟨sending, slot, values, isRetransmission, quiet, sends, same⟩
  · rw [same]
    exact recordStep_passSlots tracked input index _ idle
      (fun _ => quiet index)
  · let transmission : CovTransmission :=
      { index := sending
        values := values
        invokeId :=
          tracked.server.drawInvokeId slot.subscription.confirmed
        isRetransmission := isRetransmission
        delivered :=
          tracked.server.delivers input.sendSucceeds
            (tracked.server.nowMs input.clockMs) slot.subscription
            values }
    have built :
        (tracked.server.poll input).transmission = some transmission := by
      rw [scans, same]
      rfl
    rw [same]
    by_cases isSending : index = sending
    · subst isSending
      have sent :=
        @RecordStep.sent tracked.server (.poll input) index
          (tracked.server.covSlots index) (tracked.history index)
          input slot transmission rfl idle sends built rfl rfl rfl
      simpa [observe, sendCovNotification] using sent
    · have others := Ne.symm isSending
      simpa [observe, sendCovNotification, isSending, others] using
        recordStep_passSlots tracked input index (slotsBefore sending) idle
          (fun early => quiet index (mem_slotsBefore.mp early))

/-- Slots and histories through a poll. -/
private theorem recordStep_poll
    (tracked : TrackedServer)
    (input : PollInput)
    (index : CovIndex) :
    let observed := tracked.observe (tracked.server.poll input)
    RecordStep tracked.server (.poll input) index
      (tracked.server.covSlots index) (tracked.history index)
      (observed.server.covSlots index) (observed.history index) := by
  rcases tracked.server.poll_cases input
    with ⟨server, quiet, none⟩ | ⟨idle, same⟩ |
      ⟨answered, received, found, same⟩ | ⟨request, received, parsed, same⟩
  · have slotSame :
        (tracked.server.poll input).server.covSlots index =
          tracked.server.covSlots index := by
      rw [server]
    simp only [observe, quiet, none, slotSame]
    exact .kept
  · have scan := recordStep_scan tracked input index idle same
    rw [same]
    exact scan
  · rw [same]
    by_cases isAnswered : index = answered
    · subst isAnswered
      have answers := List.find?_some found
      simp only [slotResponse, bne_iff_ne] at answers
      split at answers
      · rename_i awaiting
        have completed :=
          @RecordStep.completed tracked.server (.poll input) index
            (tracked.server.covSlots index) (tracked.history index)
            input rfl awaiting.1 awaiting.2 answers
        simpa [observe, silent] using completed
      · exact (answers rfl).elim
    · simpa [observe, silent, isAnswered] using RecordStep.kept
  · rw [same]
    rcases tracked.server.handleSubscribeCov_cases input request
      with ⟨server, quiet, none⟩ | ⟨target, cancels, matched, output⟩ |
        ⟨target, accepted, subscribes, found, output⟩
    · simp only [observe, quiet, none, server]
      exact .kept
    · rw [output]
      by_cases isTarget : index = target
      · subst isTarget
        have dropped :=
          @RecordStep.dropped tracked.server (.poll input) index
            (tracked.server.covSlots index) (tracked.history index)
            (.inr (.inr ⟨input, request, rfl, parsed, matched⟩))
        simpa [observe, acknowledgeSubscribe] using dropped
      · simpa [observe, acknowledgeSubscribe, isTarget] using
          RecordStep.kept
    · rw [output]
      by_cases isTarget : index = target
      · subst isTarget
        have activated :=
          @RecordStep.activated tracked.server (.poll input) index
            (tracked.server.covSlots index) (tracked.history index)
            input request rfl parsed accepted subscribes found
        simpa [observe, acknowledgeSubscribe] using activated
      · have others := Ne.symm isTarget
        simpa [observe, acknowledgeSubscribe, isTarget, others] using
          RecordStep.kept

/-- Every step is one of the listed ones. -/
theorem recordStep
    (tracked : TrackedServer)
    (event : ServerEvent)
    (index : CovIndex) :
    RecordStep tracked.server event index
      (tracked.server.covSlots index) (tracked.history index)
      ((tracked.step event).server.covSlots index)
      ((tracked.step event).history index) := by
  cases event with
  | poll input =>
      exact recordStep_poll tracked input index
  | start device localPort bound =>
      simp only [step, BacnetServer.step, start]
      split
      · exact .dropped (.inr (.inl ⟨device, localPort, bound, rfl⟩))
      · exact .kept
  | stop =>
      exact .dropped (.inl rfl)
  | setTransport =>
      simp only [step, BacnetServer.step, setTransport]
      split <;> exact .kept
  | setLocalWritePriority priority =>
      simp only [step, BacnetServer.step, setLocalWritePriority]
      split <;> exact .kept
  | setObjects objects =>
      exact .kept
  | setClock hasClock =>
      exact .kept

/-- The list of steps also describes a server without a history. -/
theorem slotStep
    (server : BacnetServer)
    (event : ServerEvent)
    (index : CovIndex) :
    ∃ history,
      RecordStep server event index (server.covSlots index) []
        ((server.step event).covSlots index) history := by
  have change :=
    (⟨server, fun _ => []⟩ : TrackedServer).recordStep event index
  rw [step_server] at change
  exact ⟨_, change⟩

/-- A ready server visits a slot in an idle poll unless an earlier one sends. -/
theorem slot_step_idle
    (tracked : TrackedServer)
    (ready : tracked.server.Ready)
    {input : PollInput}
    (idle : input.packet = [])
    (index : CovIndex) :
    (tracked.step (.poll input)).slot index =
      if tracked.server.shadowed
          (tracked.server.nowMs input.clockMs) index then
        tracked.slot index
      else
        tracked.server.visitedSlot input index := by
  rw [slot, step_server, BacnetServer.step,
    tracked.server.poll_idle ready idle]
  exact tracked.server.covSlots_processCovSubscriptions input index

/-- A visit that is reached adds what it sends to the history. -/
theorem history_step_idle
    (tracked : TrackedServer)
    (ready : tracked.server.Ready)
    {input : PollInput}
    (idle : input.packet = [])
    (index : CovIndex) :
    (tracked.step (.poll input)).history index =
      if tracked.server.shadowed
          (tracked.server.nowMs input.clockMs) index then
        tracked.history index
      else
        (tracked.server.visitTransmission input index).toList ++
          tracked.history index := by
  rw [step, tracked.server.poll_idle ready idle]
  rcases tracked.server.processCovSubscriptions_cases input
    with ⟨quiet, output⟩ |
      ⟨sending, slot, values, isRetransmission, quiet, sends, output⟩
  · obtain ⟨after, visited⟩ := SlotVisit.isSend_eq_false_iff.mp (quiet index)
    simp [output, observe, visitTransmission, visited]
  · rw [output]
    rcases lt_trichotomy index sending with before | rfl | behind
    · obtain ⟨after, visited⟩ :=
        SlotVisit.isSend_eq_false_iff.mp (quiet index before)
      simp [observe, sendCovNotification, before.ne', visitTransmission,
        visited]
    · have reached :
          tracked.server.shadowed
            (tracked.server.nowMs input.clockMs) index = false :=
        tracked.server.shadowed_eq_false_iff.mpr quiet
      simp [observe, sendCovNotification, reached, visitTransmission,
        sends]
    · have hidden :
          tracked.server.shadowed
            (tracked.server.nowMs input.clockMs) index = true := by
        rw [← Bool.not_eq_false, shadowed_eq_false_iff]
        intro allQuiet
        have quietSending := allQuiet sending behind
        simp [sends, SlotVisit.isSend] at quietSending
      simp [observe, sendCovNotification, behind.ne, hidden]

end TrackedServer

end BacnetStack
