import BacnetStack.ServerCovChange

namespace BacnetStack

open EventRun

/-!
# The subscription table

The table is a small map from tuples to subscriptions, kept in a fixed array.
Requests, expiry, cancellation, acknowledgements and restarts all change
single slots; none of them makes two slots hold one tuple.
-/

namespace BacnetServer

variable (server : BacnetServer)

/-- The slot holds a subscription. -/
def InUse (index : CovIndex) : Prop :=
  (server.covSlots index).subscription.state ≠ .inactive

/-- The slot holds the subscription of a tuple. -/
def Holds
    (tuple : CovTuple)
    (index : CovIndex) : Prop :=
  server.InUse index ∧ (server.covSlots index).subscription.tuple = tuple

instance (index : CovIndex) : Decidable (server.InUse index) :=
  inferInstanceAs (Decidable (_ ≠ _))

instance
    (tuple : CovTuple)
    (index : CovIndex) : Decidable (server.Holds tuple index) :=
  inferInstanceAs (Decidable (_ ∧ _))

/-- No tuple is held twice. -/
def TuplesDistinct : Prop :=
  ∀ tuple first second,
    server.Holds tuple first →
    server.Holds tuple second →
    first = second

/-- The match of a request is the first slot that holds its tuple. -/
theorem matchedSlot?_eq_some_iff
    {tuple : CovTuple}
    {index : CovIndex} :
    server.matchedSlot? tuple = some index ↔
      server.Holds tuple index ∧
        ∀ earlier, earlier < index → ¬server.Holds tuple earlier := by
  have matching (place : CovIndex) :
      ((server.covSlots place).subscription.state != .inactive &&
          (server.covSlots place).subscription.tuple == tuple) = true ↔
        server.Holds tuple place := by
    simp [Holds, InUse]
  rw [matchedSlot?, List.find?_finRange_eq_some_iff, matching]
  simp only [← matching, Bool.not_eq_true]

/-- A request without a match finds its tuple nowhere. -/
theorem matchedSlot?_eq_none_iff
    {tuple : CovTuple} :
    server.matchedSlot? tuple = none ↔
      ∀ index, ¬server.Holds tuple index := by
  simp [matchedSlot?, Holds, InUse]

/-- There is no free slot when all are in use. -/
theorem freeSlot?_eq_none_iff :
    server.freeSlot? = none ↔ ∀ index, server.InUse index := by
  simp [freeSlot?, InUse]

/-- A free slot holds nothing. -/
theorem not_inUse_of_freeSlot?
    {index : CovIndex}
    (free : server.freeSlot? = some index) :
    ¬server.InUse index := by
  have found := (List.find?_finRange_eq_some_iff.mp free).1
  simpa [InUse] using found

variable {server}

/-- After a step a slot holds what it held, or what was just activated. -/
theorem holds_of_step
    {event : ServerEvent}
    {tuple : CovTuple}
    {index : CovIndex}
    (held : (server.step event).Holds tuple index) :
    server.Holds tuple index ∨
      ∃ (input : PollInput) (request : BacnetSubscribeCovRequestHeader),
        event = .poll input ∧
        parseSubscribeCovRequest input.packet = .parsed request ∧
        request.tuple input.source = tuple ∧
        (server.matchedSlot? tuple).or server.freeSlot? = some index := by
  obtain ⟨_, change⟩ := TrackedServer.slotStep server event index
  unfold Holds InUse at held ⊢
  revert change held
  generalize (server.step event).covSlots index = slot'
  generalize current : server.covSlots index = slot
  rintro ⟨inUse, tupleSame⟩ change
  cases change with
  | kept =>
      exact .inl ⟨inUse, tupleSame⟩
  | dropped cause =>
      exact (inUse rfl).elim
  | activated input request isPoll parsed accepted subscribes target =>
      have requested : request.tuple input.source = tuple := tupleSame
      rw [requested] at target
      exact .inr ⟨input, request, isPoll, parsed, requested, target⟩
  | completed input isPoll awaiting samePeer answers =>
      exact .inl ⟨by simp [awaiting], tupleSame⟩
  | passed input after isPoll idle visited =>
      rcases visitSlot_next_cases visited
        with rfl | ⟨_, _, rfl⟩ | ⟨awaiting, _, _, _, _, rfl⟩
      · exact .inl ⟨inUse, tupleSame⟩
      · exact (inUse rfl).elim
      · exact .inl ⟨by simp [awaiting], tupleSame⟩
  | sent input after transmission isPoll idle visited built place =>
      left
      have sameTuple :
          (server.sentSlot input.sendSucceeds
            (server.nowMs input.clockMs) after
            transmission.values).subscription.tuple =
              after.subscription.tuple := by
        unfold sentSlot
        split <;> rfl
      rw [sameTuple] at tupleSame
      rcases visitSlot_send_cases visited
        with ⟨_, _, ⟨_, awaiting, _, _, _, rfl⟩ | ⟨_, active, _, _, rfl⟩⟩
      · exact ⟨by simp [awaiting], tupleSame⟩
      · exact ⟨by simp [active], tupleSame⟩

/-- A scan that reaches an expired slot frees it. -/
theorem not_inUse_of_expired
    (ready : server.Ready)
    {input : PollInput}
    (idle : input.packet = [])
    {index : CovIndex}
    (inUse : server.InUse index)
    (expired :
      lifetimeOver server.hasClock (server.nowMs input.clockMs)
        (server.covSlots index).subscription = true)
    (reached :
      server.shadowed (server.nowMs input.clockMs) index = false) :
    ¬(server.step (.poll input)).InUse index := by
  have visited :
      server.visit (server.nowMs input.clockMs) index =
        .next (server.covSlots index).expire := by
    rw [visit, visitSlot, if_neg inUse, if_pos expired]
  rw [InUse, step, server.poll_idle ready idle,
    covSlots_processCovSubscriptions, reached]
  simp [visitedSlot, visited, CovSlot.expire, CovSlot.drop]

/-- A request for a held tuple goes to the slot that holds it. -/
theorem target_of_held
    (distinct : server.TuplesDistinct)
    {tuple : CovTuple}
    {index : CovIndex}
    (held : server.Holds tuple index) :
    (server.matchedSlot? tuple).or server.freeSlot? = some index := by
  cases matched : server.matchedSlot? tuple with
  | none =>
      exact (server.matchedSlot?_eq_none_iff.mp matched index held).elim
  | some found =>
      have alsoHeld := (server.matchedSlot?_eq_some_iff.mp matched).1
      rw [Option.some_or, distinct tuple found index alsoHeld held]

/-- No step makes two slots hold one tuple. -/
theorem tuplesDistinct_step
    (distinct : server.TuplesDistinct)
    (event : ServerEvent) :
    (server.step event).TuplesDistinct := by
  intro tuple first second firstHolds secondHolds
  rcases holds_of_step firstHolds
    with firstHeld | ⟨_, _, _, _, _, firstTarget⟩ <;>
    rcases holds_of_step secondHolds
      with secondHeld | ⟨_, _, _, _, _, secondTarget⟩
  · exact distinct tuple first second firstHeld secondHeld
  · have target := target_of_held distinct firstHeld
    exact Option.some.inj (target.symm.trans secondTarget)
  · have target := target_of_held distinct secondHeld
    exact Option.some.inj (firstTarget.symm.trans target)
  · exact Option.some.inj (firstTarget.symm.trans secondTarget)

/-- The tuples are distinct in every reachable state. -/
theorem tuplesDistinct_run
    (events : List ServerEvent) :
    (run step {} events).TuplesDistinct := by
  refine run_invariant TuplesDistinct
    (fun server event distinct => tuplesDistinct_step distinct event)
    ?_ events
  rintro tuple first second ⟨inUse, _⟩
  exact (inUse rfl).elim

/-- A ready server receives a subscribe request. -/
structure Receives
    (server : BacnetServer)
    (input : PollInput)
    (request : BacnetSubscribeCovRequestHeader) : Prop where
  ready : server.Ready
  fits : input.packet.length ≤ kMaxDatagramSize
  parsed : parseSubscribeCovRequest input.packet = .parsed request

/-- The errors a subscribe request is refused with are small numbers. -/
theorem refusal_small
    {request : BacnetSubscribeCovRequestHeader}
    {objects : ServerObjects}
    {error : BacnetError}
    (refused : request.refusal objects = some error) :
    error.1 ≤ 0xFF ∧ error.2 ≤ 0xFF := by
  unfold BacnetSubscribeCovRequestHeader.refusal at refused
  split at refused
  · cases refused
    decide
  · dsimp only at refused
    split at refused
    · cases refused
      decide
    · split at refused
      · cases refused
        decide
      · cases refused

/-- A refusal is answered with its error and changes nothing. -/
theorem refuseSubscribe_output
    (input : PollInput)
    (request : BacnetSubscribeCovRequestHeader)
    {error : BacnetError}
    (small : error.1 ≤ 0xFF ∧ error.2 ≤ 0xFF) :
    (server.refuseSubscribe input request error).server = server ∧
      (server.refuseSubscribe input request error).datagram =
        some ⟨input.source,
          serviceErrorPacket request.invokeId request.serviceChoice
            error.1 error.2⟩ := by
  rw [refuseSubscribe, buildServiceErrorResponse_eq small.1 small.2]
  exact ⟨rfl, rfl⟩

/-- An accepted request for a held tuple replaces the slot in place. -/
theorem poll_replaces
    (distinct : server.TuplesDistinct)
    {input : PollInput}
    {request : BacnetSubscribeCovRequestHeader}
    (received : server.Receives input request)
    (accepted : request.refusal server.objects = none)
    (subscribes : request.lifetimeSeconds ≠ 0)
    {index : CovIndex}
    (held : server.Holds (request.tuple input.source) index) :
    (server.poll input).server =
      server.setSlot index
        (activatedSlot input.source request
          (server.expiryDeadline input request.lifetimeSeconds)
          (server.covSlots index)) := by
  have target := target_of_held distinct held
  rw [server.poll_subscribe received.ready received.fits received.parsed]
  simp [handleSubscribeCov, accepted, subscribes, target,
    acknowledgeSubscribe]

/-- A request that finds no slot is answered with an error. -/
theorem poll_refuses
    {input : PollInput}
    {request : BacnetSubscribeCovRequestHeader}
    (received : server.Receives input request)
    (subscribes : request.lifetimeSeconds ≠ 0)
    (unmatched :
      ∀ index, ¬server.Holds (request.tuple input.source) index)
    (full : ∀ index, server.InUse index) :
    ∃ error : BacnetError,
      (request.refusal server.objects).getD noSpaceError = error ∧
      (server.poll input).server = server ∧
      (server.poll input).datagram =
        some ⟨input.source,
          serviceErrorPacket request.invokeId request.serviceChoice
            error.1 error.2⟩ := by
  rw [server.poll_subscribe received.ready received.fits received.parsed]
  unfold handleSubscribeCov
  cases refused : request.refusal server.objects with
  | some error =>
      exact ⟨error, rfl,
        refuseSubscribe_output input request (refusal_small refused)⟩
  | none =>
      have noMatch := server.matchedSlot?_eq_none_iff.mpr unmatched
      have noFree := server.freeSlot?_eq_none_iff.mpr full
      refine ⟨noSpaceError, rfl, ?_⟩
      simp only [noMatch, noFree, if_neg subscribes, Option.or_none]
      exact refuseSubscribe_output input request (by decide)

/--
In every reachable state the table is a map: no tuple is held twice, an
accepted request for a held tuple replaces that slot and no other, and a
request that finds the table full is answered with an error and changes
nothing.
-/
theorem covTable_invariant
    (events : List ServerEvent) :
    let server := run step {} events
    server.TuplesDistinct ∧
      ∀ (input : PollInput) (request : BacnetSubscribeCovRequestHeader),
        server.Receives input request →
        request.lifetimeSeconds ≠ 0 →
        (∀ index,
          request.refusal server.objects = none →
          server.Holds (request.tuple input.source) index →
          (server.poll input).server =
            server.setSlot index
              (activatedSlot input.source request
                (server.expiryDeadline input request.lifetimeSeconds)
                (server.covSlots index))) ∧
        ((∀ index,
            ¬server.Holds (request.tuple input.source) index) →
          (∀ index, server.InUse index) →
          ∃ error : BacnetError,
            (request.refusal server.objects).getD noSpaceError = error ∧
            (server.poll input).server = server ∧
            (server.poll input).datagram =
              some ⟨input.source,
                serviceErrorPacket request.invokeId
                  request.serviceChoice error.1 error.2⟩) := by
  intro server
  have distinct := tuplesDistinct_run events
  refine ⟨distinct, fun input request received subscribes =>
    ⟨fun index accepted held => ?_, fun unmatched full => ?_⟩⟩
  · exact poll_replaces distinct received accepted subscribes held
  · exact poll_refuses received subscribes unmatched full

/-- Subscribe to the object form for a process. -/
def subscribeProcess (processId : UInt32) : List UInt8 :=
  (buildSubscribeCovRequest 64 processId ⟨BacnetObjectType.analogValue, 1⟩
    60 false).getD []

/-- Eight processes of one peer fill the table. -/
def fullTableRun : List ServerEvent :=
  startedServer (oneAnalogValue .zero) ++
    [1, 2, 3, 4, 5, 6, 7, 8].map fun processId =>
      .poll { packet := subscribeProcess processId }

/-- The ninth process is refused for lack of space. -/
theorem fullTable_refuses :
    ((run step {} fullTableRun).poll {
        packet := subscribeProcess 9 }).datagram =
      some ⟨{}, serviceErrorPacket 0 kServiceSubscribeCov 2 18⟩ := by
  have received :
      (run step {} fullTableRun).Receives
        { packet := subscribeProcess 9 }
        { processId := 9
          object := ⟨BacnetObjectType.analogValue, 1⟩
          lifetimeSeconds := 60 } :=
    ⟨⟨rfl, rfl⟩, by decide, by decide⟩
  obtain ⟨error, code, _, answer⟩ :=
    ((covTable_invariant fullTableRun).2 _ _ received (by decide)).2
      (by decide) (by decide)
  have noSpace : error = noSpaceError := code.symm
  rw [noSpace] at answer
  exact answer

end BacnetServer

end BacnetStack
