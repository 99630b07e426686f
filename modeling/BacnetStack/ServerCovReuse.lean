import BacnetStack.ServerCovLifetime
import BacnetStack.ServerCovLedger
import Mathlib.Tactic.FinCases

namespace BacnetStack

open EventRun WrappingClock

/-!
# What a slot keeps of its previous occupant

An activation leaves the stored values of the snapshots behind and only marks
them as not valid.  Nothing reads such a value before it is overwritten, so
two servers that differ in the history of a slot cannot be told apart once
the slot is activated.
-/

/--
Two slots that behave alike: they agree on everything but values of
snapshots that are not valid and not awaited either.
-/
structure CovSlot.Alike (left right : CovSlot) : Prop where
  subscription : left.subscription = right.subscription
  confirmedRetryCount :
    left.confirmedRetryCount = right.confirmedRetryCount
  sendRetryCount : left.sendRetryCount = right.sendRetryCount
  retryAtMs : left.retryAtMs = right.retryAtMs
  valid :
    ∀ index, (left.snapshots index).valid = (right.snapshots index).valid
  stored :
    ∀ index, (left.snapshots index).valid = true →
      left.snapshots index = right.snapshots index
  awaited :
    left.subscription.state = .awaitingConfirmedAck →
      ∀ index : Fin kCovObjectPropertyCount,
        index.val < left.subscription.reported.length →
          left.snapshots index = right.snapshots index

namespace CovSlot.Alike

variable {left right : CovSlot}

theorem refl (slot : CovSlot) : slot.Alike slot :=
  ⟨rfl, rfl, rfl, rfl, fun _ => rfl, fun _ _ => rfl, fun _ _ _ => rfl⟩

theorem drop (alike : left.Alike right) : left.drop.Alike right.drop :=
  ⟨rfl, rfl, alike.sendRetryCount, alike.retryAtMs, fun _ => rfl,
    fun _ => nofun, nofun⟩

theorem expire (left right : CovSlot) : left.expire.Alike right.expire :=
  ⟨rfl, rfl, rfl, rfl, fun _ => rfl,
    fun _ => nofun, nofun⟩

theorem giveUp (alike : left.Alike right) :
    left.giveUp.Alike right.giveUp :=
  ⟨by simp [CovSlot.giveUp, alike.subscription], rfl,
    alike.sendRetryCount, alike.retryAtMs, alike.valid, alike.stored,
    nofun⟩

/-- An activation makes any two slots alike. -/
theorem activated
    (left right : CovSlot)
    (source : BacnetIpEndpoint)
    (request : BacnetSubscribeCovRequestHeader)
    (expiresAtMs : UInt32) :
    (activatedSlot source request expiresAtMs left).Alike
      (activatedSlot source request expiresAtMs right) :=
  ⟨rfl, rfl, rfl, rfl, fun _ => rfl,
    fun _ => nofun, nofun⟩

theorem withRetryCount
    (alike : left.Alike right)
    {leftCount rightCount : UInt8}
    (same : leftCount = rightCount) :
    Alike { left with confirmedRetryCount := leftCount }
      { right with
        subscription := left.subscription
        confirmedRetryCount := rightCount } :=
  ⟨rfl, same, alike.sendRetryCount, alike.retryAtMs,
    alike.valid, alike.stored, alike.awaited⟩

theorem failedSend
    (alike : left.Alike right)
    (device : BacnetServerDevice)
    (now : UInt32) :
    (failedSend device now left).Alike (failedSend device now right) := by
  refine ⟨alike.subscription, alike.confirmedRetryCount, ?_, ?_,
    alike.valid, alike.stored, alike.awaited⟩
  · simp only [BacnetStack.failedSend, alike.sendRetryCount]
  · simp only [BacnetStack.failedSend, alike.sendRetryCount]

/-- A delivered notification stores everything that is awaited. -/
theorem completedSend
    (alike : left.Alike right)
    (now : UInt32)
    (invokeId : UInt8)
    {values : List BacnetCovPropertyValue}
    (complete : values.length = left.subscription.reported.length) :
    (completedSend now invokeId values left).Alike
      (completedSend now invokeId values right) := by
  refine ⟨?_, alike.confirmedRetryCount, rfl, rfl, ?_, ?_, ?_⟩
  · simp only [BacnetStack.completedSend, storeCovValues,
      alike.subscription]
  · intro index
    simp only [BacnetStack.completedSend, storeCovValues]
    split
    · rfl
    · exact alike.valid index
  · intro index valid
    simp only [BacnetStack.completedSend, storeCovValues] at valid ⊢
    split at valid
    · rfl
    · exact alike.stored index valid
  · intro _ index reported
    have present : values[index.val]? = some (values.get ⟨index.val, by
        rw [complete]; exact reported⟩) :=
      List.getElem?_eq_getElem _
    simp only [BacnetStack.completedSend, storeCovValues, present]

/-- An answered notification is completed in both. -/
theorem completeSlot
    (alike : left.Alike right)
    (server : BacnetServer)
    (input : PollInput) :
    (server.completeSlot input left).Alike
      (server.completeSlot input right) := by
  have responses :
      BacnetServer.slotResponse input left =
        BacnetServer.slotResponse input right := by
    simp only [BacnetServer.slotResponse, alike.subscription]
  refine ⟨?_, rfl, alike.sendRetryCount, alike.retryAtMs, alike.valid,
    alike.stored, fun awaiting => ?_⟩
  · simp only [BacnetServer.completeSlot, alike.subscription, responses]
  · cases awaiting

/-- Values that are not valid are not compared. -/
theorem covValuesChanged_eq
    (alike : left.Alike right)
    (values : List BacnetCovPropertyValue) :
    covValuesChanged left values = covValuesChanged right values := by
  have same
      (index : Fin kCovObjectPropertyCount)
      (value : BacnetValue) :
      covValueChanged left.subscription index (left.snapshots index)
          value =
        covValueChanged right.subscription index (right.snapshots index)
          value := by
    rw [← alike.subscription]
    cases valid : (left.snapshots index).valid with
    | true =>
        rw [alike.stored index valid]
    | false =>
        have alsoRight := (alike.valid index).symm.trans valid
        simp [covValueChanged, valid, alsoRight]
  unfold covValuesChanged
  simp only [same]

/-- Awaited values are retransmitted. -/
theorem retryValues_eq
    (alike : left.Alike right)
    (awaiting : left.subscription.state = .awaitingConfirmedAck) :
    retryValues left = retryValues right := by
  have awaited := alike.awaited awaiting
  unfold retryValues
  rw [← alike.subscription]
  unfold BacnetServerCovSubscription.reported at awaited ⊢
  split
  · rename_i single
    have first := awaited 0 (by simp [single])
    simp [first]
  · rename_i both
    have first := awaited 0 (by simp [both])
    have second := awaited 1 (by simp [both])
    simp [first, second]

end CovSlot.Alike

/-- Two visits that do the same. -/
inductive SlotVisit.Alike : SlotVisit → SlotVisit → Prop where
  | next
      {left right : CovSlot}
      (slots : left.Alike right) :
      Alike (.next left) (.next right)
  | send
      {left right : CovSlot}
      {values : List BacnetCovPropertyValue}
      {isRetransmission : Bool}
      (slots : left.Alike right)
      (complete :
        values.length = left.subscription.reported.length) :
      Alike (.send left values isRetransmission)
        (.send right values isRetransmission)

/-- Slots that behave alike are treated alike by the scan. -/
theorem CovSlot.Alike.visitSlot
    {left right : CovSlot}
    (alike : left.Alike right)
    (objects : ServerObjects)
    (device : BacnetServerDevice)
    (hasClock : Bool)
    (now : UInt32) :
    (visitSlot objects device hasClock now left).Alike
      (visitSlot objects device hasClock now right) := by
  have backoff : backoffPending now right = backoffPending now left := by
    simp only [backoffPending, alike.retryAtMs]
  have exhausted :
      retriesExhausted device right = retriesExhausted device left := by
    simp only [retriesExhausted, alike.confirmedRetryCount]
  unfold BacnetStack.visitSlot
  rw [← alike.subscription, backoff, exhausted]
  split
  · exact .next alike
  · split
    · exact .next (.expire left right)
    · split
      · exact .next alike
      · split
        · rename_i awaiting
          split
          · split
            · exact .next alike.giveUp
            · rw [← alike.retryValues_eq awaiting]
              refine .send
                (alike.withRetryCount
                  (congrArg (· + 1) alike.confirmedRetryCount)) ?_
              have references :=
                congrArg List.length (references_retryValues left)
              simpa using references
          · exact .next alike
        · split
          · exact .next alike
          · rename_i values collected
            rw [← alike.covValuesChanged_eq values]
            split
            · refine .send (alike.withRetryCount rfl) ?_
              have references :=
                congrArg List.length
                  (references_of_collectCovValues collected)
              simpa using references
            · exact .next alike

namespace BacnetServer

/-- The server with another table. -/
def withSlots
    (server : BacnetServer)
    (slots : CovIndex → CovSlot) : BacnetServer :=
  { server with covSlots := slots }

/-- Two servers that behave alike: they differ in the table at most. -/
structure Alike (first second : BacnetServer) : Prop where
  others : second = first.withSlots second.covSlots
  slots : ∀ index, (first.covSlots index).Alike (second.covSlots index)

end BacnetServer

/-- What a poll shows of itself: its reply or notification, and its effect. -/
structure PollOutput.Alike (first second : PollOutput) : Prop where
  server : first.server.Alike second.server
  result : first.result = second.result
  datagram : first.datagram = second.datagram
  transmission : first.transmission = second.transmission
  activated : first.activated = second.activated

namespace BacnetServer

variable {server : BacnetServer} {slots : CovIndex → CovSlot}

/-- Alike slots in the same place keep servers alike. -/
theorem Alike.setSlot
    {first second : BacnetServer}
    (alike : first.Alike second)
    (index : CovIndex)
    {left right : CovSlot}
    (slots : left.Alike right) :
    (first.setSlot index left).Alike (second.setSlot index right) := by
  obtain ⟨others, same⟩ := alike
  constructor
  · rw [others]
    rfl
  · intro place
    rw [setSlot_covSlots, setSlot_covSlots]
    by_cases here : place = index
    · subst here
      simpa using slots
    · simpa [here] using same place

theorem checkRead_withSlots
    (lookup : ObjectLookup)
    (request : BacnetPropertyRequest) :
    (server.withSlots slots).checkRead lookup request =
      server.checkRead lookup request :=
  rfl

theorem buildReadAck_withSlots
    (lookup : ObjectLookup)
    (request : BacnetReadPropertyRequestHeader)
    (value : BacnetValue) :
    (server.withSlots slots).buildReadAck lookup request value =
      server.buildReadAck lookup request value :=
  rfl

/-- A reply is the same from alike servers. -/
theorem Alike.sendReply
    {first second : BacnetServer}
    (alike : first.Alike second)
    (input : PollInput)
    (reply : Option (List UInt8))
    (sent : BacnetServerPollResult) :
    (sendReply first input reply sent).Alike
      (sendReply second input reply sent) := by
  cases reply with
  | none => exact ⟨alike, rfl, rfl, rfl, rfl⟩
  | some packet => exact ⟨alike, rfl, rfl, rfl, rfl⟩

theorem Alike.silent
    {first second : BacnetServer}
    (alike : first.Alike second)
    (result : BacnetServerPollResult) :
    (first.silent result).Alike (second.silent result) :=
  ⟨alike, rfl, rfl, rfl, rfl⟩

section Alike

variable {first second : BacnetServer} (alike : first.Alike second)

include alike

theorem Alike.exists_eq : ∃ slots, second = first.withSlots slots :=
  ⟨second.covSlots, alike.others⟩

theorem Alike.handleReadProperty
    (input : PollInput)
    (request : BacnetReadPropertyRequestHeader) :
    (first.handleReadProperty input request).Alike
      (second.handleReadProperty input request) := by
  obtain ⟨slots, rfl⟩ := alike.exists_eq
  have lookup :
      (first.withSlots slots).lookupObject request.request.object =
        first.lookupObject request.request.object :=
    rfl
  unfold BacnetServer.handleReadProperty
  dsimp only
  rw [lookup, checkRead_withSlots]
  split
  · rw [buildReadAck_withSlots]
    exact alike.sendReply input _ _
  · exact alike.sendReply input _ _

/-- Objects that change in both keep servers alike. -/
theorem Alike.withObjects (objects : ServerObjects) :
    Alike { first with objects := objects }
      { second with objects := objects } := by
  obtain ⟨slots, rfl⟩ := alike.exists_eq
  exact ⟨rfl, alike.slots⟩

theorem Alike.handleWriteProperty
    (input : PollInput)
    (request : BacnetWritePropertyRequestHeader) :
    (first.handleWriteProperty input request).Alike
      (second.handleWriteProperty input request) := by
  have objects : second.objects = first.objects := by
    rw [alike.others]
    rfl
  unfold BacnetServer.handleWriteProperty
  rw [objects]
  split
  · rename_i effect _
    exact (alike.withObjects effect.objects).sendReply input _ _
  · exact alike.sendReply input _ _

/-- Alike servers find a tuple, and a free slot, in the same place. -/
theorem Alike.matchedSlot?_eq (tuple : CovTuple) :
    first.matchedSlot? tuple = second.matchedSlot? tuple := by
  have same (index : CovIndex) :
      (first.covSlots index).subscription =
        (second.covSlots index).subscription :=
    (alike.slots index).subscription
  simp only [matchedSlot?, same]

theorem Alike.freeSlot?_eq : first.freeSlot? = second.freeSlot? := by
  have same (index : CovIndex) :
      (first.covSlots index).subscription =
        (second.covSlots index).subscription :=
    (alike.slots index).subscription
  simp only [freeSlot?, same]

theorem Alike.answeredSlot?_eq (input : PollInput) :
    first.answeredSlot? input = second.answeredSlot? input := by
  have same (index : CovIndex) :
      slotResponse input (first.covSlots index) =
        slotResponse input (second.covSlots index) := by
    simp only [slotResponse, (alike.slots index).subscription]
  simp only [answeredSlot?, same]

theorem Alike.handleSubscribeCov
    (input : PollInput)
    (request : BacnetSubscribeCovRequestHeader) :
    (first.handleSubscribeCov input request).Alike
      (second.handleSubscribeCov input request) := by
  have objects : second.objects = first.objects := by
    rw [alike.others]
    rfl
  have deadline :
      second.expiryDeadline input request.lifetimeSeconds =
        first.expiryDeadline input request.lifetimeSeconds := by
    rw [alike.others]
    rfl
  unfold BacnetServer.handleSubscribeCov
  rw [objects, deadline, ← alike.matchedSlot?_eq, ← alike.freeSlot?_eq]
  dsimp only
  split
  · exact alike.sendReply input _ _
  · split
    · split
      · rename_i index _
        exact (alike.setSlot index
          (alike.slots index).drop).sendReply input _ _
      · exact alike.sendReply input _ _
    · split
      · rename_i index _
        obtain ⟨server, result, datagram, transmission, _⟩ :=
          (alike.setSlot index (.activated _ _ input.source request
            (first.expiryDeadline input request.lifetimeSeconds))).sendReply
              input
              (buildSimpleAckResponse kMaxDatagramSize request.invokeId
                request.serviceChoice) .subscribeCovAckSent
        exact ⟨server, result, datagram, transmission, rfl⟩
      · exact alike.sendReply input _ _

theorem Alike.handleConfirmedRequest
    (input : PollInput)
    (invokeId : UInt8) :
    (first.handleConfirmedRequest input invokeId).Alike
      (second.handleConfirmedRequest input invokeId) := by
  unfold BacnetServer.handleConfirmedRequest
  split
  · exact alike.silent _
  · exact alike.handleReadProperty input _
  · split
    · exact alike.silent _
    · exact alike.handleWriteProperty input _
    · split
      · exact alike.silent _
      · exact alike.handleSubscribeCov input _
      · exact alike.sendReply input _ _

theorem Alike.handleRequest (input : PollInput) :
    (first.handleRequest input).Alike (second.handleRequest input) := by
  have device : second.device = first.device := by
    rw [alike.others]
    rfl
  unfold BacnetServer.handleRequest BacnetServer.sendIAm
  rw [device]
  split
  · split
    · exact alike.sendReply input _ _
    · exact alike.silent _
  · split
    · exact alike.silent _
    · exact alike.silent _
    · exact alike.handleConfirmedRequest input _

/-! The scan and every step, for servers that differ in a slot. -/

/-- A notification that is sent from alike slots. -/
theorem Alike.sendCovNotification
    {left right : CovSlot}
    (slots : left.Alike right)
    {values : List BacnetCovPropertyValue}
    (complete : values.length = left.subscription.reported.length)
    (sendSucceeds : Bool)
    (now : UInt32)
    (index : CovIndex)
    (isRetransmission : Bool) :
    (first.sendCovNotification sendSucceeds now index left values
        isRetransmission).Alike
      (second.sendCovNotification sendSucceeds now index right values
        isRetransmission) := by
  obtain ⟨table, rfl⟩ := alike.exists_eq
  have packet (subscription : BacnetServerCovSubscription) :
      (first.withSlots table).covNotificationPacket subscription values
          now =
        first.covNotificationPacket subscription values now :=
    rfl
  have delivers (subscription : BacnetServerCovSubscription) :
      (first.withSlots table).delivers sendSucceeds now subscription
          values =
        first.delivers sendSucceeds now subscription values :=
    rfl
  have sent :
      (first.sentSlot sendSucceeds now left values).Alike
        ((first.withSlots table).sentSlot sendSucceeds now right
          values) := by
    unfold sentSlot
    rw [delivers, ← slots.subscription]
    split
    · exact slots.completedSend now _ complete
    · exact slots.failedSend first.device now
  have stored := alike.setSlot index sent
  refine ⟨⟨?_, stored.slots⟩, ?_, ?_, ?_, rfl⟩
  · simp only [BacnetServer.sendCovNotification, ← slots.subscription]
    rfl
  · simp only [BacnetServer.sendCovNotification, ← slots.subscription,
      delivers]
  · simp only [BacnetServer.sendCovNotification, ← slots.subscription,
      packet]
  · simp only [BacnetServer.sendCovNotification, ← slots.subscription,
      delivers]
    rfl

end Alike

/-- The scan goes through alike tables in the same way. -/
theorem Alike.scanSlots
    {first second : BacnetServer}
    (alike : first.Alike second)
    (sendSucceeds : Bool)
    (now : UInt32)
    (indices : List CovIndex) :
    (scanSlots sendSucceeds now indices first).Alike
      (scanSlots sendSucceeds now indices second) := by
  induction indices generalizing first second with
  | nil =>
      exact ⟨alike, rfl, rfl, rfl, rfl⟩
  | cons index rest inductionHypothesis =>
      have visits :
          (first.visit now index).Alike (second.visit now index) := by
        have same :=
          (alike.slots index).visitSlot first.objects first.device
            first.hasClock now
        rw [alike.others]
        exact same
      unfold BacnetServer.scanSlots
      revert visits
      generalize first.visit now index = left
      generalize second.visit now index = right
      rintro (⟨slots⟩ | ⟨slots, complete⟩)
      · exact inductionHypothesis (alike.setSlot index slots)
      · exact alike.sendCovNotification slots complete sendSucceeds now
          index _

theorem Alike.processCovSubscriptions
    {first second : BacnetServer}
    (alike : first.Alike second)
    (input : PollInput) :
    (first.processCovSubscriptions input).Alike
      (second.processCovSubscriptions input) := by
  have now : second.nowMs input.clockMs = first.nowMs input.clockMs := by
    rw [alike.others]
    rfl
  unfold BacnetServer.processCovSubscriptions
  rw [now]
  exact alike.scanSlots input.sendSucceeds _ _

/-- A poll shows the same of alike servers. -/
theorem Alike.poll
    {first second : BacnetServer}
    (alike : first.Alike second)
    (input : PollInput) :
    (first.poll input).Alike (second.poll input) := by
  have running : second.running = first.running := by
    rw [alike.others]
    rfl
  have transport : second.hasTransport = first.hasTransport := by
    rw [alike.others]
    rfl
  unfold BacnetServer.poll
  rw [running, transport, ← alike.answeredSlot?_eq input]
  split
  · exact alike.silent _
  · split
    · exact alike.processCovSubscriptions input
    · split
      · exact alike.silent _
      · split
        · rename_i index _
          have complete (slot : CovSlot) :
              second.completeSlot input slot =
                first.completeSlot input slot := by
            rw [alike.others]
            rfl
          rw [complete]
          exact (alike.setSlot index
            ((alike.slots index).completeSlot first input)).silent _
        · exact alike.handleRequest input

/-- Alike servers stay alike. -/
theorem Alike.step
    {first second : BacnetServer}
    (alike : first.Alike second)
    (event : ServerEvent) :
    (first.step event).Alike (second.step event) := by
  obtain ⟨slots, rfl⟩ := alike.exists_eq
  cases event with
  | poll input =>
      exact (alike.poll input).server
  | setObjects objects =>
      exact ⟨rfl, alike.slots⟩
  | start device localPort bound =>
      have accepts :
          (first.withSlots slots).acceptsDevice device =
            first.acceptsDevice device :=
        rfl
      simp only [BacnetServer.step, start, accepts]
      split
      · exact ⟨rfl, fun index => (alike.slots index).drop⟩
      · exact alike
  | stop =>
      exact ⟨rfl, fun index => (alike.slots index).drop⟩
  | setTransport =>
      have running : (first.withSlots slots).running = first.running := rfl
      simp only [BacnetServer.step, setTransport, running]
      split
      · exact alike
      · exact ⟨rfl, alike.slots⟩
  | setClock hasClock =>
      exact ⟨rfl, alike.slots⟩
  | setLocalWritePriority priority =>
      simp only [BacnetServer.step, setLocalWritePriority]
      split
      · exact alike
      · exact ⟨rfl, alike.slots⟩

end BacnetServer

/-- Two servers that agree but for what one slot holds. -/
structure DifferInSlot
    (index : CovIndex)
    (first second : BacnetServer) : Prop where
  others : second = first.withSlots second.covSlots
  slots :
    ∀ other, other ≠ index → second.covSlots other = first.covSlots other

/-- A poll that activates a slot is an accepted subscribe request. -/
theorem BacnetServer.poll_of_activated
    {server : BacnetServer}
    {input : PollInput}
    {index : CovIndex}
    (activated : (server.poll input).activated = some index) :
    ∃ request,
      parseSubscribeCovRequest input.packet = .parsed request ∧
        server.poll input =
          { (server.setSlot index
              (activatedSlot input.source request
                (server.expiryDeadline input request.lifetimeSeconds)
                (server.covSlots index))).acknowledgeSubscribe
              input request with
            activated := some index } := by
  rcases server.poll_cases input
    with ⟨_, _, none⟩ | ⟨_, same⟩ | ⟨_, _, _, same⟩ |
      ⟨request, _, parsed, same⟩
  · rw [none] at activated
    cases activated
  · rw [same] at activated
    rcases server.processCovSubscriptions_cases input
      with ⟨_, output⟩ | ⟨_, _, _, _, _, _, output⟩
    all_goals
      rw [output] at activated
      cases activated
  · rw [same] at activated
    cases activated
  · refine ⟨request, parsed, ?_⟩
    rw [same] at activated ⊢
    rcases server.handleSubscribeCov_cases input request
      with ⟨_, _, none⟩ | ⟨_, _, _, output⟩ | ⟨place, _, _, _, output⟩
    · rw [none] at activated
      cases activated
    · rw [output] at activated
      simp [acknowledgeSubscribe] at activated
    · rw [output] at activated
      obtain rfl := Option.some.inj activated
      exact output

/-- An activation of the slot makes the servers alike. -/
theorem DifferInSlot.alike_of_activated
    {index : CovIndex}
    {first second : BacnetServer}
    (differ : DifferInSlot index first second)
    {input : PollInput}
    (firstActivates : (first.poll input).activated = some index)
    (secondActivates : (second.poll input).activated = some index) :
    (first.poll input).Alike (second.poll input) := by
  obtain ⟨request, parsed, firstOutput⟩ :=
    BacnetServer.poll_of_activated firstActivates
  obtain ⟨other, alsoParsed, secondOutput⟩ :=
    BacnetServer.poll_of_activated secondActivates
  obtain rfl := ParseStatus.parsed.inj (parsed.symm.trans alsoParsed)
  have deadline :
      second.expiryDeadline input request.lifetimeSeconds =
        first.expiryDeadline input request.lifetimeSeconds := by
    rw [differ.others]
    rfl
  have servers :
      (first.setSlot index
        (activatedSlot input.source request
          (first.expiryDeadline input request.lifetimeSeconds)
          (first.covSlots index))).Alike
        (second.setSlot index
          (activatedSlot input.source request
            (first.expiryDeadline input request.lifetimeSeconds)
            (second.covSlots index))) := by
    constructor
    · rw [differ.others]
      rfl
    · intro place
      rw [BacnetServer.setSlot_covSlots, BacnetServer.setSlot_covSlots]
      by_cases here : place = index
      · subst here
        simpa using CovSlot.Alike.activated _ _ _ _ _
      · simpa [here, differ.slots place here] using
          CovSlot.Alike.refl _
  obtain ⟨server, result, datagram, transmission, _⟩ :=
    servers.sendReply input
      (buildSimpleAckResponse kMaxDatagramSize request.invokeId
        request.serviceChoice) .subscribeCovAckSent
  rw [firstOutput, secondOutput, deadline]
  exact ⟨server, result, datagram, transmission, rfl⟩

/--
What an event shows: the poll with its reply or notification, and which
subscriptions are in the table afterwards.
-/
structure CovObservation where
  result : Option BacnetServerPollResult
  datagram : Option Datagram
  transmission : Option CovTransmission
  subscriptions : CovIndex → BacnetServerCovSubscription

/-- What an event of a server shows. -/
def observeCov
    (server : BacnetServer)
    (event : ServerEvent) : CovObservation :=
  let output :=
    match event with
    | .poll input => some (server.poll input)
    | _ => none
  { result := output.map PollOutput.result
    datagram := output.bind PollOutput.datagram
    transmission := output.bind PollOutput.transmission
    subscriptions := fun index =>
      ((server.step event).covSlots index).subscription }

/-- Alike servers show the same. -/
theorem BacnetServer.Alike.observeCov_eq
    {first second : BacnetServer}
    (alike : first.Alike second)
    (event : ServerEvent) :
    observeCov first event = observeCov second event := by
  have subscriptions (index : CovIndex) :
      ((first.step event).covSlots index).subscription =
        ((second.step event).covSlots index).subscription :=
    ((alike.step event).slots index).subscription
  unfold observeCov
  simp only [subscriptions]
  cases event with
  | poll input =>
      have output := alike.poll input
      simp [output.result, output.datagram, output.transmission]
  | _ => rfl

/--
Two servers that differ only in the history of one slot: once the same
subscribe request activates it in both, no run tells them apart.
-/
theorem slotHistory_unobservable
    {index : CovIndex}
    {first second : BacnetServer}
    (differ : DifferInSlot index first second)
    {input : PollInput}
    (firstActivates : (first.poll input).activated = some index)
    (secondActivates : (second.poll input).activated = some index)
    (later : List ServerEvent) :
    trace BacnetServer.step observeCov first (.poll input :: later) =
      trace BacnetServer.step observeCov second
        (.poll input :: later) := by
  have activated := differ.alike_of_activated firstActivates secondActivates
  have shown :
      observeCov first (.poll input) = observeCov second (.poll input) := by
    have subscriptions (place : CovIndex) :
        ((first.step (.poll input)).covSlots place).subscription =
          ((second.step (.poll input)).covSlots place).subscription :=
      (activated.server.slots place).subscription
    simp [observeCov, subscriptions, activated.result, activated.datagram,
      activated.transmission]
  have same :
      trace BacnetServer.step observeCov (first.step (.poll input)) later =
        trace BacnetServer.step observeCov (second.step (.poll input))
          later :=
    trace_eq_of_related (fun _ _ event alike => alike.observeCov_eq event)
      (fun _ _ event alike => alike.step event) activated.server later
  rw [trace, trace, shown, same]

/-- A slot that was subscribed, notified and cancelled. -/
def usedSlotRun : List ServerEvent :=
  startedServer (oneAnalogValue .zero) ++
    [.poll (subscribeFor 1 60), .poll {}, .poll (subscribeFor 1 0)]

/-- A new slot and a used one look the same after the next subscription. -/
theorem slotHistory_unobservable_used :
    trace BacnetServer.step observeCov
        (run BacnetServer.step {} (startedServer (oneAnalogValue .zero)))
        [.poll (subscribeFor 2 60), .poll {}] =
      trace BacnetServer.step observeCov
        (run BacnetServer.step {} usedSlotRun)
        [.poll (subscribeFor 2 60), .poll {}] := by
  have differ :
      DifferInSlot 0
        (run BacnetServer.step {} (startedServer (oneAnalogValue .zero)))
        (run BacnetServer.step {} usedSlotRun) := by
    refine ⟨rfl, ?_⟩
    intro other different
    fin_cases other
    · exact absurd rfl different
    all_goals rfl
  exact slotHistory_unobservable differ (by decide +kernel)
    (by decide +kernel) [.poll {}]

end BacnetStack
