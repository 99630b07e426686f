import BacnetStack.ServerCovCancellation
import BacnetStack.ServerDispatch
import BacnetStack.SlotTable
import BacnetStack.StandingFacts

namespace BacnetStack

open EventRun StandingFacts

/-!
# Who is subscribed

A server may be asked for the subscriptions in its table.  Over any run it
lists what its acknowledgements promised: each tuple with the terms of the
last request it acknowledged, until a cancellation is acknowledged, the
lifetime is over or the server starts or stops.
-/

/-- The terms on which a subscription was accepted. -/
structure CovTerms where
  confirmed : Bool
  lifetimeSeconds : UInt32
  expiresAtMs : UInt32
  hasCovIncrement : Bool
  covIncrement : Binary32
  deriving Repr, DecidableEq

namespace BacnetServerCovSubscription

def terms (subscription : BacnetServerCovSubscription) : CovTerms :=
  { confirmed := subscription.confirmed
    lifetimeSeconds := subscription.lifetimeSeconds
    expiresAtMs := subscription.expiresAtMs
    hasCovIncrement := subscription.hasCovIncrement
    covIncrement := subscription.covIncrement }

end BacnetServerCovSubscription

/-- The terms a request asks for, with the deadline they lead to. -/
def BacnetSubscribeCovRequestHeader.terms
    (request : BacnetSubscribeCovRequestHeader)
    (expiresAtMs : UInt32) : CovTerms :=
  { confirmed := request.issueConfirmedNotifications
    lifetimeSeconds := request.lifetimeSeconds
    expiresAtMs := expiresAtMs
    hasCovIncrement := request.hasCovIncrement
    covIncrement := request.covIncrement }

/-- The lifetime that was agreed on is over. -/
def CovTerms.elapsed
    (terms : CovTerms)
    (hasClock : Bool)
    (now : UInt32) : Bool :=
  terms.lifetimeSeconds != 0 && hasClock &&
    WrappingClock.reached now terms.expiresAtMs

/-- What a slot stands for. -/
def CovSlot.promise? (slot : CovSlot) : Option (CovTuple × CovTerms) :=
  if slot.subscription.state = .inactive then
    none
  else
    some (slot.subscription.tuple, slot.subscription.terms)

namespace BacnetServer

section Listing

variable (server : BacnetServer)

/-- `covSubscriptionCount` -/
def covSubscriptionCount : Nat :=
  (List.finRange kMaxCovSubscriptions).countP fun index =>
    (server.covSlots index).subscription.state != .inactive

/-- The loop of `covSubscriptionAt` over the slots that are left. -/
def covSubscriptionFrom
    (index current : Nat) :
    List CovIndex → Option BacnetServerCovSubscription
  | [] => none
  | candidate :: rest =>
      let subscription := (server.covSlots candidate).subscription
      if subscription.state = .inactive then
        covSubscriptionFrom index current rest
      else if current = index then
        some subscription
      else
        covSubscriptionFrom index (current + 1) rest

/-- `covSubscriptionAt` -/
def covSubscriptionAt
    (index : Nat) : Option BacnetServerCovSubscription :=
  server.covSubscriptionFrom index 0 (List.finRange kMaxCovSubscriptions)

/-- The table as a map from tuples to terms. -/
def covTable : SlotTable.Table kMaxCovSubscriptions CovTuple CovTerms :=
  fun index => (server.covSlots index).promise?

/-- A tuple is subscribed on these terms. -/
def Subscribed
    (tuple : CovTuple)
    (terms : CovTerms) : Prop :=
  SlotTable.Holds server.covTable tuple terms

end Listing

variable {server : BacnetServer} {tuple : CovTuple} {terms : CovTerms}

theorem covTable_eq_some_iff
    {index : CovIndex} :
    server.covTable index = some (tuple, terms) ↔
      server.Holds tuple index ∧
        (server.covSlots index).subscription.terms = terms := by
  unfold covTable CovSlot.promise? Holds InUse
  by_cases free : (server.covSlots index).subscription.state = .inactive
  · simp [free]
  · simp [free]

theorem keysDistinct_covTable
    (distinct : server.TuplesDistinct) :
    SlotTable.KeysDistinct server.covTable := by
  rintro first second ⟨tuple, terms⟩ ⟨_, others⟩ held alsoHeld rfl
  exact distinct tuple first second (covTable_eq_some_iff.mp held).1
    (covTable_eq_some_iff.mp alsoHeld).1

theorem covTable_setSlot
    (index : CovIndex)
    (slot : CovSlot) :
    (server.setSlot index slot).covTable =
      Function.update server.covTable index slot.promise? := by
  funext place
  by_cases same : place = index
  · subst same
    simp [covTable]
  · simp [covTable, same]

/-- The loop finds what stands at a place of the slots in use. -/
theorem covSubscriptionFrom_eq
    {index current : Nat}
    (ahead : current ≤ index)
    (candidates : List CovIndex) :
    server.covSubscriptionFrom index current candidates =
      ((candidates.filter fun candidate =>
        (server.covSlots candidate).subscription.state != .inactive).map
          fun candidate =>
            (server.covSlots candidate).subscription)[index - current]? := by
  induction candidates generalizing current with
  | nil => rfl
  | cons candidate rest inductionHypothesis =>
      rw [covSubscriptionFrom]
      by_cases free :
          (server.covSlots candidate).subscription.state = .inactive
      · rw [if_pos free, inductionHypothesis ahead, List.filter_cons_of_neg]
        simp [free]
      · rw [if_neg free, List.filter_cons_of_pos (by simp [free]),
          List.map_cons]
        rcases Nat.eq_or_lt_of_le ahead with rfl | behind
        · rw [if_pos rfl, Nat.sub_self, List.getElem?_cons_zero]
        · rw [if_neg behind.ne, inductionHypothesis behind,
            show index - current = index - (current + 1) + 1 by omega,
            List.getElem?_cons_succ]

/-- What is listed, with its tuple and its terms, is the table in order. -/
theorem map_covSubscriptionAt
    (index : Nat) :
    ((server.covSubscriptionAt index).map fun subscription =>
        (subscription.tuple, subscription.terms)) =
      (SlotTable.entries server.covTable)[index]? := by
  have listed (candidates : List CovIndex) :
      ((candidates.filter fun candidate =>
        (server.covSlots candidate).subscription.state != .inactive).map
          fun candidate =>
            ((server.covSlots candidate).subscription.tuple,
              (server.covSlots candidate).subscription.terms)) =
        candidates.filterMap server.covTable := by
    induction candidates with
    | nil => rfl
    | cons candidate rest inductionHypothesis =>
        by_cases free :
            (server.covSlots candidate).subscription.state = .inactive
        · have nothing : server.covTable candidate = none := if_pos free
          rw [List.filterMap_cons_none nothing, ← inductionHypothesis,
            List.filter_cons_of_neg]
          simp [free]
        · have entry :
              server.covTable candidate =
                some ((server.covSlots candidate).subscription.tuple,
                  (server.covSlots candidate).subscription.terms) :=
            if_neg free
          rw [List.filterMap_cons_some entry, ← inductionHypothesis,
            List.filter_cons_of_pos (by simp [free]), List.map_cons]
  rw [covSubscriptionAt, covSubscriptionFrom_eq (Nat.zero_le index),
    Nat.sub_zero, ← List.getElem?_map, List.map_map, SlotTable.entries,
    ← listed]
  rfl

theorem covSubscriptionCount_eq :
    server.covSubscriptionCount =
      (SlotTable.entries server.covTable).length := by
  have isSome (index : CovIndex) :
      ((server.covSlots index).subscription.state != .inactive) =
        (server.covTable index).isSome := by
    unfold covTable CovSlot.promise?
    by_cases free : (server.covSlots index).subscription.state = .inactive
    · simp [free]
    · simp [free]
  rw [covSubscriptionCount, SlotTable.entries, List.length_filterMap_eq_countP]
  exact List.countP_congr fun index _ => by rw [isSome]

/-- A subscribe request or a cancellation is acknowledged to its sender. -/
structure AcknowledgesSubscribe
    (server : BacnetServer)
    (input : PollInput)
    (request : BacnetSubscribeCovRequestHeader) : Prop where
  received : server.Receives input request
  answered :
    (server.poll input).datagram =
      some ⟨input.source,
        simpleAckPacket request.invokeId request.serviceChoice⟩

/-- A poll that answers a packet is one of a ready server. -/
theorem ready_of_datagram
    {input : PollInput}
    {datagram : Datagram}
    (received : input.packet ≠ [])
    (sent : (server.poll input).datagram = some datagram) :
    server.Ready ∧ input.packet.length ≤ kMaxDatagramSize := by
  unfold poll at sent
  split at sent
  · cases sent
  · rename_i runs
    simp only [Bool.or_eq_true, Bool.not_eq_true', not_or,
      Bool.not_eq_false] at runs
    rw [if_neg (by simpa using received)] at sent
    split at sent
    · cases sent
    · rename_i fits
      exact ⟨⟨runs.1, runs.2⟩, Nat.le_of_not_lt fits⟩

/-- An error is no acknowledgement. -/
theorem refuseSubscribe_not_acknowledged
    {input : PollInput}
    {request : BacnetSubscribeCovRequestHeader}
    {error : BacnetError}
    (small : error.1 ≤ 0xFF ∧ error.2 ≤ 0xFF) :
    (server.refuseSubscribe input request error).datagram ≠
      some ⟨input.source,
        simpleAckPacket request.invokeId request.serviceChoice⟩ := by
  rw [(refuseSubscribe_output input request small).2]
  simp [serviceErrorPacket, simpleAckPacket]

/-- What an acknowledged request did to the table. -/
inductive Acknowledged
    (server : BacnetServer)
    (input : PollInput)
    (request : BacnetSubscribeCovRequestHeader)
    (after : BacnetServer) : Prop where
  | dropped
      (index : CovIndex)
      (cancels : request.lifetimeSeconds = 0)
      (held : server.Holds (request.tuple input.source) index)
      (left :
        after.covTable =
          (server.setSlot index (server.covSlots index).drop).covTable)
  | absent
      (cancels : request.lifetimeSeconds = 0)
      (unmatched : ∀ index, ¬server.Holds (request.tuple input.source) index)
      (left : after.covTable = server.covTable)
  | activated
      (index : CovIndex)
      (subscribes : request.lifetimeSeconds ≠ 0)
      (target :
        (server.matchedSlot? (request.tuple input.source)).or
          server.freeSlot? = some index)
      (left :
        after.covTable =
          (server.setSlot index
            (activatedSlot input.source request
              (server.expiryDeadline input request.lifetimeSeconds)
              (server.covSlots index))).covTable)

theorem AcknowledgesSubscribe.acknowledged
    {input : PollInput}
    {request : BacnetSubscribeCovRequestHeader}
    (acknowledges : server.AcknowledgesSubscribe input request) :
    server.Acknowledged input request (server.poll input).server := by
  obtain ⟨⟨ready, fits, parsed⟩, answered⟩ := acknowledges
  have output := server.poll_subscribe ready fits parsed
  rw [output] at answered ⊢
  unfold handleSubscribeCov at answered ⊢
  rcases refused : request.refusal server.objects with _ | error
  · rw [refused] at answered
    dsimp only at answered ⊢
    by_cases cancels : request.lifetimeSeconds = 0
    · rw [if_pos cancels] at answered ⊢
      rcases matched : server.matchedSlot? (request.tuple input.source)
        with _ | index
      · exact .absent cancels (server.matchedSlot?_eq_none_iff.mp matched)
          (by simp [acknowledgeSubscribe])
      · exact .dropped index cancels
          (server.matchedSlot?_eq_some_iff.mp matched).1
          (by simp [acknowledgeSubscribe])
    · rw [if_neg cancels] at answered ⊢
      rcases target :
          (server.matchedSlot? (request.tuple input.source)).or
            server.freeSlot? with _ | index
      · rw [target] at answered
        exact (refuseSubscribe_not_acknowledged (by decide) answered).elim
      · exact .activated index cancels target
          (by simp [acknowledgeSubscribe])
  · rw [refused] at answered
    exact (refuseSubscribe_not_acknowledged (refusal_small refused)
      answered).elim

/-! One step, and from it every run. -/

/-- A step subscribes a tuple on these terms. -/
def Grants
    (tuple : CovTuple)
    (terms : CovTerms)
    (server : BacnetServer)
    (event : ServerEvent) : Prop :=
  ∃ input request,
    event = .poll input ∧
      server.AcknowledgesSubscribe input request ∧
      request.lifetimeSeconds ≠ 0 ∧
      request.tuple input.source = tuple ∧
      request.terms (server.expiryDeadline input request.lifetimeSeconds) =
        terms

/--
A step ends the subscription of a tuple on these terms.  A scan that sends
something does not come to the slots behind.
-/
inductive Withdraws
    (tuple : CovTuple)
    (terms : CovTerms)
    (server : BacnetServer) : ServerEvent → Prop where
  | acknowledged
      {input : PollInput}
      {request : BacnetSubscribeCovRequestHeader}
      (acknowledges : server.AcknowledgesSubscribe input request)
      (same : request.tuple input.source = tuple) :
      Withdraws tuple terms server (.poll input)
  | lapsed
      {input : PollInput}
      {index : CovIndex}
      (ready : server.Ready)
      (idle : input.packet = [])
      (elapsed :
        terms.elapsed server.hasClock (server.nowMs input.clockMs) = true)
      (held : server.Holds tuple index)
      (reached :
        server.shadowed (server.nowMs input.clockMs) index = false) :
      Withdraws tuple terms server (.poll input)
  | started
      {device : BacnetServerDevice}
      {localPort : UInt16}
      (accepts : server.acceptsDevice device = true) :
      Withdraws tuple terms server (.start device localPort true)
  | stopped : Withdraws tuple terms server .stop

/-- A step that neither grants nor withdraws and keeps the table. -/
theorem step_iff_of_kept
    {event : ServerEvent}
    (kept : (server.step event).covTable = server.covTable)
    (noGrant : ¬Grants tuple terms server event)
    (noWithdrawal :
      server.Subscribed tuple terms →
        ¬Withdraws tuple terms server event) :
    (server.step event).Subscribed tuple terms ↔
      Grants tuple terms server event ∨
        server.Subscribed tuple terms ∧
          ¬Withdraws tuple terms server event := by
  rw [Subscribed, kept]
  constructor
  · intro held
    exact .inr ⟨held, noWithdrawal held⟩
  · rintro (granted | ⟨held, _⟩)
    · exact (noGrant granted).elim
    · exact held

/-- A packet is parsed as one subscribe request only. -/
theorem Receives.unique
    {input : PollInput}
    {first second : BacnetSubscribeCovRequestHeader}
    (received : server.Receives input first)
    (alsoReceived : server.Receives input second) :
    first = second := by
  have twice := received.parsed
  rw [alsoReceived.parsed] at twice
  cases twice
  rfl

/-- A packet that is a subscribe request is not empty. -/
theorem Receives.packet_ne_nil
    {input : PollInput}
    {request : BacnetSubscribeCovRequestHeader}
    (received : server.Receives input request) :
    input.packet ≠ [] := by
  intro isNil
  have parsed := received.parsed
  rw [isNil] at parsed
  cases parsed

/-- An acknowledged request sets or removes its tuple and no other. -/
theorem subscribed_poll_acknowledged
    (distinct : server.TuplesDistinct)
    {input : PollInput}
    {request : BacnetSubscribeCovRequestHeader}
    (acknowledges : server.AcknowledgesSubscribe input request) :
    (server.step (.poll input)).Subscribed tuple terms ↔
      (request.lifetimeSeconds ≠ 0 ∧
        tuple = request.tuple input.source ∧
        terms =
          request.terms
            (server.expiryDeadline input request.lifetimeSeconds)) ∨
      tuple ≠ request.tuple input.source ∧
        server.Subscribed tuple terms := by
  unfold Subscribed
  rw [step]
  cases acknowledges.acknowledged with
  | dropped index cancels held left =>
      have holds := covTable_eq_some_iff.mpr ⟨held, rfl⟩
      have free : (server.covSlots index).drop.promise? = none := rfl
      rw [left, covTable_setSlot, free,
        SlotTable.holds_update_none_iff (keysDistinct_covTable distinct)
          holds]
      simp [cancels]
  | absent cancels unmatched left =>
      rw [left]
      constructor
      · rintro ⟨index, held⟩
        refine .inr ⟨?_, index, held⟩
        rintro rfl
        exact unmatched index (covTable_eq_some_iff.mp held).1
      · rintro (⟨subscribes, _⟩ | ⟨_, held⟩)
        · exact (subscribes cancels).elim
        · exact held
  | activated index subscribes target left =>
      have entry :
          (activatedSlot input.source request
              (server.expiryDeadline input request.lifetimeSeconds)
              (server.covSlots index)).promise? =
            some (request.tuple input.source,
              request.terms
                (server.expiryDeadline input request.lifetimeSeconds)) :=
        rfl
      rw [left, covTable_setSlot, entry, SlotTable.holds_update_some_iff]
      · simp [subscribes]
      · rintro ⟨other, others⟩ held
        obtain ⟨⟨inUse, same⟩, _⟩ := covTable_eq_some_iff.mp held
        rcases matched : server.matchedSlot? (request.tuple input.source)
          with _ | found
        · rw [matched, Option.none_or] at target
          exact (server.not_inUse_of_freeSlot? target inUse).elim
        · rw [matched, Option.some_or] at target
          obtain rfl := Option.some.inj target
          have isHeld := (server.matchedSlot?_eq_some_iff.mp matched).1
          exact same.symm.trans isHeld.2
      · rintro place ⟨other, others⟩ held isKey
        have holds := (covTable_eq_some_iff.mp held).1
        dsimp only at isKey
        rw [isKey] at holds
        exact Option.some.inj
          ((target_of_held distinct holds).symm.trans target)

/-- A visited slot is freed if its lifetime is over, and kept otherwise. -/
theorem promise?_visitedSlot
    (input : PollInput)
    (index : CovIndex) :
    (server.visitedSlot input index).promise? =
      if lifetimeOver server.hasClock (server.nowMs input.clockMs)
          (server.covSlots index).subscription then
        none
      else
        (server.covSlots index).promise? := by
  unfold visitedSlot
  rcases visited : server.visit (server.nowMs input.clockMs) index
    with after | ⟨after, values, isRetransmission⟩
  · dsimp only
    rcases visitSlot_next_cases visited
      with same | ⟨_, elapsed, rfl⟩ | ⟨awaiting, alive, _, _, _, rfl⟩
    · by_cases elapsed :
          lifetimeOver server.hasClock (server.nowMs input.clockMs)
            (server.covSlots index).subscription = true
      · rw [if_pos elapsed]
        by_cases free :
            (server.covSlots index).subscription.state = .inactive
        · rw [same, CovSlot.promise?, if_pos free]
        · rw [visit, visitSlot, if_neg free, if_pos elapsed] at visited
          rw [← SlotVisit.next.inj visited]
          rfl
      · rw [if_neg elapsed, same]
    · rw [if_pos elapsed]
      rfl
    · rw [if_neg (by simp [alive])]
      simp [CovSlot.promise?, CovSlot.giveUp, awaiting,
        BacnetServerCovSubscription.tuple,
        BacnetServerCovSubscription.terms]
  · obtain ⟨alive, _, sends⟩ := visitSlot_send_cases visited
    have sent :
        after.promise? = (server.covSlots index).promise? ∧
          after.subscription.state ≠ .inactive := by
      rcases sends
        with ⟨_, awaiting, _, _, _, rfl⟩ | ⟨_, active, _, _, rfl⟩
      · exact ⟨rfl, by simp [awaiting]⟩
      · exact ⟨rfl, by simp [active]⟩
    rw [if_neg (by simp [alive]), ← sent.1]
    dsimp only
    unfold sentSlot
    split
    · have inUse (slot : CovSlot) :
          (completedSend (server.nowMs input.clockMs)
              (server.drawInvokeId slot.subscription.confirmed) values
              slot).subscription.state ≠ .inactive := by
        simp only [completedSend, storeCovValues]
        split <;> simp
      rw [CovSlot.promise?, if_neg (inUse after), CovSlot.promise?,
        if_neg sent.2]
      rfl
    · rfl

/-- An idle poll ends what is over and comes to its turn. -/
theorem subscribed_poll_idle
    (distinct : server.TuplesDistinct)
    (ready : server.Ready)
    {input : PollInput}
    (idle : input.packet = []) :
    (server.step (.poll input)).Subscribed tuple terms ↔
      server.Subscribed tuple terms ∧
        ¬Withdraws tuple terms server (.poll input) := by
  have after (index : CovIndex) :
      (server.step (.poll input)).covTable index =
        if server.shadowed (server.nowMs input.clockMs) index then
          server.covTable index
        else if lifetimeOver server.hasClock (server.nowMs input.clockMs)
            (server.covSlots index).subscription then
          none
        else
          server.covTable index := by
    rw [covTable, step, server.poll_idle ready idle,
      covSlots_processCovSubscriptions]
    split
    · rfl
    · exact promise?_visitedSlot input index
  constructor
  · rintro ⟨index, held⟩
    rw [after] at held
    have before : server.covTable index = some (tuple, terms) := by
      split at held
      · exact held
      · split at held
        · cases held
        · exact held
    refine ⟨⟨index, before⟩, ?_⟩
    intro withdraws
    cases withdraws with
    | acknowledged acknowledges same =>
        exact acknowledges.received.packet_ne_nil idle
    | @lapsed _ place _ _ elapsed heldThere reached =>
        obtain ⟨holds, isTerms⟩ := covTable_eq_some_iff.mp before
        obtain rfl := distinct tuple index place holds heldThere
        subst isTerms
        have isOver :
            lifetimeOver server.hasClock (server.nowMs input.clockMs)
              (server.covSlots index).subscription = true := elapsed
        rw [reached, isOver] at held
        cases held
  · rintro ⟨⟨index, held⟩, kept⟩
    refine ⟨index, ?_⟩
    rw [after]
    split
    · exact held
    · rename_i reached
      split
      · rename_i elapsed
        obtain ⟨holds, rfl⟩ := covTable_eq_some_iff.mp held
        exact (kept (.lapsed ready idle elapsed holds
          (by simpa using reached))).elim
      · exact held

/-- A packet that is no acknowledged request keeps every subscription. -/
theorem covTable_poll_unacknowledged
    {input : PollInput}
    (nonempty : input.packet ≠ [])
    (unacknowledged : ∀ request, ¬server.AcknowledgesSubscribe input request) :
    (server.step (.poll input)).covTable = server.covTable := by
  rw [step]
  rcases server.poll_cases input
    with ⟨same, _⟩ | ⟨idle, _⟩ | ⟨index, _, answered, output⟩ |
      ⟨request, _, parsed, output⟩
  · rw [same]
    rfl
  · exact (nonempty idle).elim
  · have awaiting :
        (server.covSlots index).subscription.state =
          .awaitingConfirmedAck := by
      have responds := (List.find?_finRange_eq_some_iff.mp answered).1
      unfold slotResponse at responds
      dsimp only at responds
      split at responds
      · rename_i pending
        exact pending.1
      · simp at responds
    have kept :
        (server.completeSlot input (server.covSlots index)).promise? =
          server.covTable index := by
      simp [covTable, CovSlot.promise?, completeSlot, awaiting,
        BacnetServerCovSubscription.tuple,
        BacnetServerCovSubscription.terms]
    rw [output]
    change (server.setSlot index
      (server.completeSlot input (server.covSlots index))).covTable = _
    rw [covTable_setSlot, kept, Function.update_eq_self]
  · rcases (@handleSubscribeCov_reply server input request).2
      with acknowledged | ⟨same, _⟩
    · have answered := acknowledged
      rw [← output] at answered
      obtain ⟨ready, fits⟩ := ready_of_datagram nonempty answered
      exact (unacknowledged request
        ⟨⟨ready, fits, parsed⟩, answered⟩).elim
    · rw [output, same]

/-- A server that starts or stops has no subscriptions. -/
theorem not_subscribed_clearSubscriptions
    {after : BacnetServer}
    (cleared : after.covSlots = server.clearSubscriptions.covSlots) :
    ¬after.Subscribed tuple terms := by
  rintro ⟨index, held⟩
  rw [covTable, cleared] at held
  cases held

/--
A tuple is subscribed after a step if the step subscribes it, or if it was
and the step does not end its subscription.
-/
theorem subscribed_step_iff
    (distinct : server.TuplesDistinct)
    (event : ServerEvent) :
    (server.step event).Subscribed tuple terms ↔
      Grants tuple terms server event ∨
        server.Subscribed tuple terms ∧
          ¬Withdraws tuple terms server event := by
  have onlyPolls
      (noPoll : ∀ input, event ≠ .poll input) :
      ¬Grants tuple terms server event := by
    rintro ⟨input, _, isPoll, _⟩
    exact noPoll input isPoll
  cases event with
  | poll input =>
      by_cases acknowledged :
          ∃ request, server.AcknowledgesSubscribe input request
      · obtain ⟨request, acknowledges⟩ := acknowledged
        have unique {other : BacnetSubscribeCovRequestHeader}
            (alsoAcknowledges : server.AcknowledgesSubscribe input other) :
            request = other :=
          acknowledges.received.unique alsoAcknowledges.received
        rw [subscribed_poll_acknowledged distinct acknowledges]
        constructor
        · rintro (⟨subscribes, rfl, rfl⟩ | ⟨different, held⟩)
          · exact .inl ⟨input, request, rfl, acknowledges, subscribes, rfl,
              rfl⟩
          · refine .inr ⟨held, ?_⟩
            intro withdraws
            cases withdraws with
            | acknowledged alsoAcknowledges same =>
                obtain rfl := unique alsoAcknowledges
                exact different same.symm
            | lapsed ready idle elapsed heldThere reached =>
                exact acknowledges.received.packet_ne_nil idle
        · rintro (⟨_, other, isPoll, alsoAcknowledges, subscribes, same,
            sameTerms⟩ | ⟨held, kept⟩)
          · cases isPoll
            obtain rfl := unique alsoAcknowledges
            exact .inl ⟨subscribes, same.symm, sameTerms.symm⟩
          · refine .inr ⟨?_, held⟩
            rintro rfl
            exact kept (.acknowledged acknowledges rfl)
      · have unacknowledged
            (request : BacnetSubscribeCovRequestHeader) :
            ¬server.AcknowledgesSubscribe input request :=
          fun acknowledges => acknowledged ⟨request, acknowledges⟩
        have noGrant : ¬Grants tuple terms server (.poll input) := by
          rintro ⟨_, request, isPoll, acknowledges, _⟩
          cases isPoll
          exact unacknowledged request acknowledges
        by_cases idle : input.packet = []
        · by_cases ready : server.Ready
          · rw [subscribed_poll_idle distinct ready idle]
            exact ⟨.inr, fun cases => cases.resolve_left noGrant⟩
          · refine step_iff_of_kept ?_ noGrant fun _ withdraws => ?_
            · have stopped :
                  (!server.running || !server.hasTransport) = true := by
                by_contra runs
                simp only [Bool.or_eq_true, Bool.not_eq_true', not_or,
                  Bool.not_eq_false] at runs
                exact ready ⟨runs.1, runs.2⟩
              rw [step, poll, if_pos stopped]
              rfl
            · cases withdraws with
              | acknowledged acknowledges same =>
                  exact unacknowledged _ acknowledges
              | lapsed isReady => exact ready isReady
        · refine step_iff_of_kept
            (covTable_poll_unacknowledged idle unacknowledged) noGrant
            fun _ withdraws => ?_
          cases withdraws with
          | acknowledged acknowledges same =>
              exact unacknowledged _ acknowledges
          | lapsed _ isIdle => exact idle isIdle
  | start device localPort bound =>
      have noGrant := onlyPolls fun input isPoll => by cases isPoll
      by_cases accepted :
          (server.acceptsDevice device && bound) = true
      · have gone :
            ¬(server.step (.start device localPort bound)).Subscribed tuple
              terms := by
          apply not_subscribed_clearSubscriptions
          rw [step, start, if_pos accepted]
        obtain ⟨accepts, rfl⟩ := Bool.and_eq_true_iff.mp accepted
        refine iff_of_false gone ?_
        rintro (granted | ⟨_, kept⟩)
        · exact noGrant granted
        · exact kept (.started accepts)
      · refine step_iff_of_kept ?_ noGrant fun _ withdraws => ?_
        · rw [step, start, if_neg accepted]
        · cases withdraws with
          | started accepts => simp [accepts] at accepted
  | stop =>
      refine iff_of_false (not_subscribed_clearSubscriptions rfl) ?_
      rintro (granted | ⟨_, kept⟩)
      · exact onlyPolls (fun input isPoll => by cases isPoll) granted
      · exact kept .stopped
  | setObjects objects =>
      exact step_iff_of_kept rfl
        (onlyPolls fun input isPoll => by cases isPoll)
        fun _ withdraws => by cases withdraws
  | setTransport =>
      refine step_iff_of_kept ?_
        (onlyPolls fun input isPoll => by cases isPoll)
        fun _ withdraws => by cases withdraws
      rw [step, setTransport]
      split <;> rfl
  | setClock hasClock =>
      exact step_iff_of_kept rfl
        (onlyPolls fun input isPoll => by cases isPoll)
        fun _ withdraws => by cases withdraws
  | setLocalWritePriority priority =>
      refine step_iff_of_kept ?_
        (onlyPolls fun input isPoll => by cases isPoll)
        fun _ withdraws => by cases withdraws
      rw [step, setLocalWritePriority]
      split <;> rfl

/-- After a run a tuple is subscribed as it was promised last. -/
theorem subscribed_run_iff
    (events : List ServerEvent) :
    (run step {} events).Subscribed tuple terms ↔
      GrantedIn step (Grants tuple terms) (Withdraws tuple terms) {}
        events := by
  refine @standing_run_iff _ _ step _ _
    (fun server => server.Subscribed tuple terms) TuplesDistinct
    (fun server event distinct => tuplesDistinct_step distinct event)
    (fun server event distinct => subscribed_step_iff distinct event)
    {} ?_ ?_ events
  · rintro tuple first second ⟨inUse, _⟩
    exact (inUse rfl).elim
  · exact @not_subscribed_clearSubscriptions {} tuple terms {} rfl

/-- What a server lists of its subscriptions after a run. -/
structure ListsPromised
    (server : BacnetServer)
    (events : List ServerEvent) : Prop where
  /-- Exactly the tuples that were promised and not ended since. -/
  listed_iff :
    ∀ tuple terms,
      (∃ index subscription,
        server.covSubscriptionAt index = some subscription ∧
          subscription.tuple = tuple ∧ subscription.terms = terms) ↔
        GrantedIn step (Grants tuple terms) (Withdraws tuple terms) {}
          events
  /-- No tuple twice. -/
  once :
    ∀ first second subscription other,
      server.covSubscriptionAt first = some subscription →
        server.covSubscriptionAt second = some other →
        subscription.tuple = other.tuple →
        first = second
  /-- The places below the count, of which there are few. -/
  counted :
    ∀ index,
      (server.covSubscriptionAt index).isSome ↔
        index < server.covSubscriptionCount
  bounded : server.covSubscriptionCount ≤ kMaxCovSubscriptions

/--
After every run a server lists each tuple once, with the terms of the last
request for it that was acknowledged, and it lists no tuple whose
cancellation was acknowledged, whose lifetime a scan found to be over or that
was subscribed before the last start or stop.
-/
theorem covSubscriptionAt_promised
    (events : List ServerEvent) :
    (run step {} events).ListsPromised events := by
  have distinct := keysDistinct_covTable (tuplesDistinct_run events)
  have nodup := SlotTable.nodup_keys_entries distinct
  have entry {index : Nat} {subscription : BacnetServerCovSubscription}
      (listed :
        (run step {} events).covSubscriptionAt index =
          some subscription) :
      (SlotTable.entries (run step {} events).covTable)[index]? =
        some (subscription.tuple, subscription.terms) := by
    rw [← map_covSubscriptionAt, listed]
    rfl
  refine ⟨fun tuple terms => ?_, ?_, ?_, ?_⟩
  · rw [← subscribed_run_iff, Subscribed, ← SlotTable.mem_entries_iff,
      List.mem_iff_getElem?]
    constructor
    · rintro ⟨index, subscription, listed, rfl, rfl⟩
      exact ⟨index, entry listed⟩
    · rintro ⟨index, isEntry⟩
      rw [← map_covSubscriptionAt] at isEntry
      obtain ⟨subscription, listed, same⟩ :=
        Option.map_eq_some_iff.mp isEntry
      cases same
      exact ⟨index, subscription, listed, rfl, rfl⟩
  · intro first second subscription other listed alsoListed same
    have firstKey := congrArg (Option.map Prod.fst) (entry listed)
    have secondKey := congrArg (Option.map Prod.fst) (entry alsoListed)
    rw [← List.getElem?_map, Option.map_some] at firstKey secondKey
    rw [← same] at secondKey
    obtain ⟨inRange, _⟩ := List.getElem?_eq_some_iff.mp firstKey
    exact (List.getElem?_inj inRange nodup).mp
      (firstKey.trans secondKey.symm)
  · intro index
    rw [covSubscriptionCount_eq, ← Option.isSome_map,
      map_covSubscriptionAt, isSome_getElem?]
  · rw [covSubscriptionCount_eq]
    exact SlotTable.length_entries_le _

end BacnetServer

end BacnetStack
