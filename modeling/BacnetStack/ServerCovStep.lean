import BacnetStack.EventRun
import BacnetStack.ProtocolDispatch
import BacnetStack.ServerCovScan

namespace BacnetStack

/-!
# What one step can do to a subscription

The source changes the subscription table in several functions.  This module
lists, once, everything a step can do to one slot, together with the record of
the notifications built for it since its subscription was activated.  The
invariants of subscriptions are case analyses over that list.
-/

/-- A visit that sends nothing keeps, expires or reactivates the slot. -/
theorem visitSlot_next_cases
    {objects : ServerObjects}
    {device : BacnetServerDevice}
    {hasClock : Bool}
    {now : UInt32}
    {slot after : CovSlot}
    (visited :
      visitSlot objects device hasClock now slot = .next after) :
    after = slot ∨
      (slot.subscription.state ≠ .inactive ∧
        lifetimeOver hasClock now slot.subscription = true ∧
        after = slot.expire) ∨
      (slot.subscription.state = .awaitingConfirmedAck ∧
        lifetimeOver hasClock now slot.subscription = false ∧
        backoffPending now slot = false ∧
        acknowledgementOverdue device hasClock now slot.subscription =
          true ∧
        retriesExhausted device slot = true ∧
        after = slot.giveUp) := by
  unfold visitSlot at visited
  split at visited
  · left
    exact (SlotVisit.next.inj visited).symm
  · rename_i inUse
    split at visited
    · right; left
      exact ⟨inUse, ‹_›, (SlotVisit.next.inj visited).symm⟩
    · rename_i alive
      split at visited
      · left
        exact (SlotVisit.next.inj visited).symm
      · rename_i noBackoff
        split at visited
        · rename_i awaiting
          split at visited
          · rename_i overdue
            split at visited
            · rename_i exhausted
              right; right
              exact ⟨awaiting, by simpa using alive,
                by simpa using noBackoff, overdue, exhausted,
                (SlotVisit.next.inj visited).symm⟩
            · cases visited
          · left
            exact (SlotVisit.next.inj visited).symm
        · split at visited
          · left
            exact (SlotVisit.next.inj visited).symm
          · split at visited
            · cases visited
            · left
              exact (SlotVisit.next.inj visited).symm

/--
A visit that sends repeats the stored values of an unacknowledged
notification, or sends the changed values of an active subscription.
-/
theorem visitSlot_send_cases
    {objects : ServerObjects}
    {device : BacnetServerDevice}
    {hasClock : Bool}
    {now : UInt32}
    {slot after : CovSlot}
    {values : List BacnetCovPropertyValue}
    {isRetransmission : Bool}
    (visited :
      visitSlot objects device hasClock now slot =
        .send after values isRetransmission) :
    lifetimeOver hasClock now slot.subscription = false ∧
      backoffPending now slot = false ∧
      ((isRetransmission = true ∧
          slot.subscription.state = .awaitingConfirmedAck ∧
          acknowledgementOverdue device hasClock now slot.subscription =
            true ∧
          retriesExhausted device slot = false ∧
          values = retryValues slot ∧
          after =
            { slot with
              confirmedRetryCount := slot.confirmedRetryCount + 1 }) ∨
        (isRetransmission = false ∧
          slot.subscription.state = .active ∧
          collectCovValues objects slot.subscription = some values ∧
          covValuesChanged slot values = true ∧
          after = { slot with confirmedRetryCount := 0 })) := by
  unfold visitSlot at visited
  split at visited
  · cases visited
  · rename_i inUse
    split at visited
    · cases visited
    · rename_i alive
      split at visited
      · cases visited
      · rename_i noBackoff
        refine ⟨by simpa using alive, by simpa using noBackoff, ?_⟩
        split at visited
        · rename_i awaiting
          split at visited
          · rename_i overdue
            split at visited
            · cases visited
            · rename_i retriesLeft
              obtain ⟨afterSame, valuesSame, retransmits⟩ :=
                SlotVisit.send.inj visited
              left
              exact ⟨retransmits.symm, awaiting, overdue,
                by simpa using retriesLeft, valuesSame.symm,
                afterSame.symm⟩
          · cases visited
        · rename_i notAwaiting
          have active : slot.subscription.state = .active := by
            cases state : slot.subscription.state with
            | inactive => exact (inUse state).elim
            | active => rfl
            | awaitingConfirmedAck => exact (notAwaiting state).elim
          split at visited
          · cases visited
          · rename_i current collected
            split at visited
            · rename_i changed
              obtain ⟨afterSame, valuesSame, retransmits⟩ :=
                SlotVisit.send.inj visited
              subst valuesSame
              right
              exact ⟨retransmits.symm, active, collected, changed,
                afterSame.symm⟩
            · cases visited

/-- An active subscription out of backoff sends exactly when it changed. -/
theorem visitSlot_active
    {objects : ServerObjects}
    {device : BacnetServerDevice}
    {hasClock : Bool}
    {now : UInt32}
    {slot : CovSlot}
    {values : List BacnetCovPropertyValue}
    (active : slot.subscription.state = .active)
    (alive : lifetimeOver hasClock now slot.subscription = false)
    (noBackoff : backoffPending now slot = false)
    (collected :
      collectCovValues objects slot.subscription = some values) :
    visitSlot objects device hasClock now slot =
      if covValuesChanged slot values then
        .send { slot with confirmedRetryCount := 0 } values false
      else
        .next slot := by
  simp [visitSlot, active, alive, noBackoff, collected]

namespace BacnetServer

variable (server : BacnetServer)

/-- Handling a read leaves the server as it was. -/
theorem handleReadProperty_output
    (input : PollInput)
    (request : BacnetReadPropertyRequestHeader) :
    (server.handleReadProperty input request).server = server ∧
      (server.handleReadProperty input request).transmission = none ∧
      (server.handleReadProperty input request).activated = none := by
  unfold handleReadProperty
  dsimp only
  split <;> simp

/-- Handling a write changes at most the objects. -/
theorem handleWriteProperty_output
    (input : PollInput)
    (request : BacnetWritePropertyRequestHeader) :
    (server.handleWriteProperty input request).server =
        { server with
          objects :=
            (server.handleWriteProperty input request).server.objects } ∧
      (server.handleWriteProperty input request).transmission = none ∧
      (server.handleWriteProperty input request).activated = none := by
  unfold handleWriteProperty
  split <;> simp

/--
A request other than a subscription changes at most the objects, and no
notification leaves the server.
-/
theorem handleRequest_cases
    (input : PollInput) :
    ((server.handleRequest input).server =
        { server with
          objects := (server.handleRequest input).server.objects } ∧
      (server.handleRequest input).transmission = none ∧
      (server.handleRequest input).activated = none) ∨
    ∃ request,
      parseSubscribeCovRequest input.packet = .parsed request ∧
      server.handleRequest input =
        server.handleSubscribeCov input request := by
  unfold handleRequest
  split
  · left
    split <;> simp [sendIAm, silent]
  · split
    · left; simp [silent]
    · left; simp [silent]
    · unfold handleConfirmedRequest
      split
      · left; simp [silent]
      · rename_i request _
        left
        obtain ⟨same, quiet, none⟩ :=
          server.handleReadProperty_output input request
        rw [same, quiet, none]
        exact ⟨rfl, rfl, rfl⟩
      · split
        · left; simp [silent]
        · rename_i request _
          left
          exact server.handleWriteProperty_output input request
        · split
          · left; simp [silent]
          · rename_i request parsed
            right
            exact ⟨request, parsed, rfl⟩
          · left; simp [sendReject]

/-- The four things a poll can do. -/
theorem poll_cases
    (input : PollInput) :
    ((server.poll input).server =
        { server with objects := (server.poll input).server.objects } ∧
      (server.poll input).transmission = none ∧
      (server.poll input).activated = none) ∨
    (input.packet = [] ∧
      server.poll input = server.processCovSubscriptions input) ∨
    (∃ index,
      input.packet ≠ [] ∧
      server.answeredSlot? input = some index ∧
      server.poll input =
        (server.setSlot index
          (server.completeSlot input (server.covSlots index))).silent
          .ignored) ∨
    ∃ request,
      input.packet ≠ [] ∧
      parseSubscribeCovRequest input.packet = .parsed request ∧
      server.poll input = server.handleSubscribeCov input request := by
  unfold poll
  split
  · left; simp [silent]
  · split
    · rename_i idle
      right; left
      exact ⟨List.isEmpty_iff.mp idle, rfl⟩
    · rename_i received
      have packetNonempty : input.packet ≠ [] := fun idle =>
        received (List.isEmpty_iff.mpr idle)
      split
      · left; simp [silent]
      · split
        · rename_i index answered
          right; right; left
          exact ⟨index, packetNonempty, answered, rfl⟩
        · rcases server.handleRequest_cases input
            with quiet | ⟨request, parsed, same⟩
          · left
            exact quiet
          · right; right; right
            exact ⟨request, packetNonempty, parsed, same⟩

/-- A subscribe request refuses, drops one slot, or activates one slot. -/
theorem handleSubscribeCov_cases
    (input : PollInput)
    (request : BacnetSubscribeCovRequestHeader) :
    ((server.handleSubscribeCov input request).server = server ∧
      (server.handleSubscribeCov input request).transmission = none ∧
      (server.handleSubscribeCov input request).activated = none) ∨
    (∃ index,
      request.lifetimeSeconds = 0 ∧
      server.matchedSlot? (request.tuple input.source) = some index ∧
      server.handleSubscribeCov input request =
        (server.setSlot index
          (server.covSlots index).drop).acknowledgeSubscribe
          input request) ∨
    ∃ index,
      request.refusal server.objects = none ∧
      request.lifetimeSeconds ≠ 0 ∧
      (server.matchedSlot? (request.tuple input.source)).or
        server.freeSlot? = some index ∧
      server.handleSubscribeCov input request =
        { (server.setSlot index
            (activatedSlot input.source request
              (server.expiryDeadline input request.lifetimeSeconds)
              (server.covSlots index))).acknowledgeSubscribe
            input request with
          activated := some index } := by
  unfold handleSubscribeCov
  split
  · left
    simp [refuseSubscribe]
  · rename_i accepted
    dsimp only
    split
    · rename_i cancels
      split
      · rename_i index matched
        right; left
        exact ⟨index, cancels, matched, rfl⟩
      · left
        simp [acknowledgeSubscribe]
    · rename_i subscribes
      split
      · rename_i index target
        right; right
        exact ⟨index, accepted, subscribes, target, rfl⟩
      · left
        simp [refuseSubscribe]

/-- The server polls its transport. -/
structure Ready : Prop where
  running : server.running = true
  transport : server.hasTransport = true

/-- A ready server that receives nothing scans the table. -/
theorem poll_idle
    (ready : server.Ready)
    {input : PollInput}
    (idle : input.packet = []) :
    server.poll input = server.processCovSubscriptions input := by
  simp [poll, ready.running, ready.transport, idle]

/-- A packet that is no response answers no slot. -/
theorem answeredSlot?_eq_none
    {input : PollInput}
    (noResponse :
      ∀ invokeId,
        classifyConfirmedCovNotificationResponse input.packet invokeId =
          .none) :
    server.answeredSlot? input = none := by
  rw [answeredSlot?, List.find?_eq_none]
  intro index _
  unfold slotResponse
  dsimp only
  split
  · simp [noResponse]
  · simp

/-- A ready server handles a confirmed request it receives. -/
theorem poll_confirmed
    (ready : server.Ready)
    {input : PollInput}
    {confirmed : BacnetConfirmedRequestHeader}
    (fits : input.packet.length ≤ kMaxDatagramSize)
    (header :
      parseConfirmedRequestHeader input.packet = .parsed confirmed) :
    server.poll input =
      server.handleConfirmedRequest input confirmed.invokeId := by
  have received : input.packet.isEmpty = false := by
    obtain ⟨_, _, found, _⟩ := apdu?_of_confirmedRequest header
    cases shape : input.packet with
    | nil =>
        rw [shape] at found
        cases found
    | cons head tail => rfl
  have unanswered :=
    server.answeredSlot?_eq_none (response_of_confirmedRequest header)
  simp only [poll, ready.running, ready.transport, received, unanswered,
    Bool.not_true, Bool.or_self, Bool.false_eq_true, ↓reduceIte,
    if_neg (Nat.not_lt.mpr fits), handleRequest,
    whoIs_of_confirmedRequest header, header]

/-- A ready server handles a subscribe request it receives. -/
theorem poll_subscribe
    (ready : server.Ready)
    {input : PollInput}
    {request : BacnetSubscribeCovRequestHeader}
    (fits : input.packet.length ≤ kMaxDatagramSize)
    (parsed : parseSubscribeCovRequest input.packet = .parsed request) :
    server.poll input = server.handleSubscribeCov input request := by
  obtain ⟨confirmed, header, service, _⟩ :=
    parseConfirmedService_parsed parsed
  have notRead : confirmed.serviceChoice ∉ [kServiceReadProperty] := by
    intro read
    rw [List.mem_singleton.mp read] at service
    revert service
    decide
  have notWrite : confirmed.serviceChoice ∉ [kServiceWriteProperty] := by
    intro write
    rw [List.mem_singleton.mp write] at service
    revert service
    decide
  simp only [server.poll_confirmed ready fits header,
    handleConfirmedRequest, parseReadPropertyRequest,
    parseWritePropertyRequest,
    parseConfirmedService_unrelated header notRead,
    parseConfirmedService_unrelated header notWrite, parsed]

/-- An earlier slot has something to send, so the scan stops before this one. -/
def shadowed
    (now : UInt32)
    (index : CovIndex) : Bool :=
  (slotsBefore index).any fun earlier => (server.visit now earlier).isSend

theorem shadowed_eq_false_iff
    {now : UInt32}
    {index : CovIndex} :
    server.shadowed now index = false ↔
      ∀ earlier, earlier < index →
        (server.visit now earlier).isSend = false := by
  simp [shadowed]

/-- The slot after its own visit in an idle poll. -/
def visitedSlot
    (input : PollInput)
    (index : CovIndex) : CovSlot :=
  match server.visit (server.nowMs input.clockMs) index with
  | .next slot => slot
  | .send slot values _ =>
      server.sentSlot input.sendSucceeds (server.nowMs input.clockMs)
        slot values

/-- The transmission a visit makes in an idle poll. -/
def visitTransmission
    (input : PollInput)
    (index : CovIndex) : Option CovTransmission :=
  match server.visit (server.nowMs input.clockMs) index with
  | .next _ => none
  | .send slot values isRetransmission =>
      some {
        index := index
        values := values
        invokeId := server.drawInvokeId slot.subscription.confirmed
        isRetransmission := isRetransmission
        delivered :=
          server.delivers input.sendSucceeds
            (server.nowMs input.clockMs) slot.subscription values }

/-- In an idle poll a slot is visited unless an earlier one sends. -/
theorem covSlots_processCovSubscriptions
    (input : PollInput)
    (index : CovIndex) :
    (server.processCovSubscriptions input).server.covSlots index =
      if server.shadowed (server.nowMs input.clockMs) index then
        server.covSlots index
      else
        server.visitedSlot input index := by
  rcases server.processCovSubscriptions_cases input
    with ⟨quiet, output⟩ |
      ⟨sending, slot, values, isRetransmission, quiet, sends, output⟩
  · have reached :
        server.shadowed (server.nowMs input.clockMs) index = false :=
      server.shadowed_eq_false_iff.mpr fun earlier _ => quiet earlier
    obtain ⟨after, visited⟩ := SlotVisit.isSend_eq_false_iff.mp (quiet index)
    simp [output, reached, passSlots, visitedSlot, visited,
      SlotVisit.passed]
  · rw [output]
    rcases lt_trichotomy index sending with before | rfl | behind
    · have reached :
          server.shadowed (server.nowMs input.clockMs) index = false :=
        server.shadowed_eq_false_iff.mpr fun earlier smaller =>
          quiet earlier (smaller.trans before)
      obtain ⟨after, visited⟩ :=
        SlotVisit.isSend_eq_false_iff.mp (quiet index before)
      simp [sendCovNotification, passSlots, before.ne, before, reached,
        visitedSlot, visited, SlotVisit.passed]
    · have reached :
          server.shadowed (server.nowMs input.clockMs) index = false :=
        server.shadowed_eq_false_iff.mpr quiet
      simp [sendCovNotification, reached, visitedSlot, sends]
    · have hidden :
          server.shadowed (server.nowMs input.clockMs) index = true := by
        rw [← Bool.not_eq_false, shadowed_eq_false_iff]
        intro allQuiet
        have quietSending := allQuiet sending behind
        simp [sends, SlotVisit.isSend] at quietSending
      have notBefore : ¬index < sending := not_lt_of_gt behind
      simp [sendCovNotification, passSlots, behind.ne', notBefore, hidden]

/-- A scan of the table leaves the objects alone. -/
theorem processCovSubscriptions_objects
    (input : PollInput) :
    (server.processCovSubscriptions input).server.objects =
      server.objects := by
  rcases server.processCovSubscriptions_cases input
    with ⟨_, output⟩ | ⟨_, _, _, _, _, _, output⟩
  all_goals
    rw [output]
    rfl

/-- The poll of the first slot that sends. -/
theorem poll_send
    (ready : server.Ready)
    {input : PollInput}
    (idle : input.packet = [])
    {index : CovIndex}
    {slot : CovSlot}
    {values : List BacnetCovPropertyValue}
    {isRetransmission : Bool}
    (reached :
      server.shadowed (server.nowMs input.clockMs) index = false)
    (sends :
      server.visit (server.nowMs input.clockMs) index =
        .send slot values isRetransmission) :
    server.poll input =
      (server.passSlots (server.nowMs input.clockMs)
        (slotsBefore index)).sendCovNotification input.sendSucceeds
          (server.nowMs input.clockMs) index slot values
          isRetransmission := by
  have quiet := server.shadowed_eq_false_iff.mp reached
  rw [server.poll_idle ready idle]
  rcases server.processCovSubscriptions_cases input
    with ⟨silence, _⟩ | ⟨first, _, _, _, firstQuiet, firstSends, output⟩
  · have silent := silence index
    simp [sends, SlotVisit.isSend] at silent
  · have same : first = index := by
      rcases lt_trichotomy first index with before | same | behind
      · have silent := quiet first before
        simp [firstSends, SlotVisit.isSend] at silent
      · exact same
      · have silent := firstQuiet index behind
        simp [sends, SlotVisit.isSend] at silent
    subst same
    obtain ⟨rfl, rfl, rfl⟩ := SlotVisit.send.inj (firstSends.symm.trans sends)
    exact output

/-- A poll builds a notification only for the first slot that sends. -/
theorem poll_transmission
    {input : PollInput}
    {transmission : CovTransmission}
    (built : (server.poll input).transmission = some transmission) :
    server.Ready ∧
      input.packet = [] ∧
      server.shadowed (server.nowMs input.clockMs) transmission.index =
        false ∧
      ∃ slot,
        server.visit (server.nowMs input.clockMs) transmission.index =
          .send slot transmission.values
            transmission.isRetransmission ∧
        transmission.invokeId =
          server.drawInvokeId slot.subscription.confirmed ∧
        transmission.delivered =
          server.delivers input.sendSucceeds
            (server.nowMs input.clockMs) slot.subscription
            transmission.values := by
  have ready : server.Ready := by
    by_contra notReady
    have stopped : (!server.running || !server.hasTransport) = true := by
      by_contra runs
      simp only [Bool.or_eq_true, Bool.not_eq_true', not_or,
        Bool.not_eq_false] at runs
      exact notReady ⟨runs.1, runs.2⟩
    simp [poll, stopped, silent] at built
  refine ⟨ready, ?_⟩
  rcases server.poll_cases input
    with ⟨_, quiet, _⟩ | ⟨idle, same⟩ | ⟨_, _, _, same⟩ |
      ⟨request, _, _, same⟩
  · rw [quiet] at built
    cases built
  · rw [same] at built
    rcases server.processCovSubscriptions_cases input
      with ⟨_, output⟩ |
        ⟨index, slot, values, isRetransmission, quiet, sends, output⟩
    · rw [output] at built
      cases built
    · rw [output] at built
      obtain rfl := Option.some.inj built
      exact ⟨idle, server.shadowed_eq_false_iff.mpr quiet, slot, sends,
        rfl, rfl⟩
  · rw [same] at built
    cases built
  · rw [same] at built
    rcases server.handleSubscribeCov_cases input request
      with ⟨_, quiet, _⟩ | ⟨_, _, _, output⟩ | ⟨_, _, _, _, output⟩
    · rw [quiet] at built
      cases built
    all_goals
      rw [output] at built
      simp [acknowledgeSubscribe] at built

/-- Receiving and scanning leave the configuration of a server alone. -/
theorem poll_configuration
    (input : PollInput) :
    (server.poll input).server =
      { server with
        objects := (server.poll input).server.objects
        covSlots := (server.poll input).server.covSlots
        nextCovInvokeId :=
          (server.poll input).server.nextCovInvokeId } := by
  rcases server.poll_cases input
    with ⟨same, _⟩ | ⟨_, same⟩ | ⟨_, _, _, same⟩ | ⟨request, _, _, same⟩
  · rw [same]
  · rw [same]
    rcases server.processCovSubscriptions_cases input
      with ⟨_, output⟩ | ⟨_, _, _, _, _, _, output⟩
    all_goals
      rw [output]
      rfl
  · rw [same]
    rfl
  · rw [same]
    rcases server.handleSubscribeCov_cases input request
      with ⟨unchanged, _⟩ | ⟨_, _, _, output⟩ | ⟨_, _, _, _, output⟩
    · rw [unchanged]
    all_goals
      rw [output]
      simp [acknowledgeSubscribe, setSlot]

end BacnetServer

end BacnetStack
