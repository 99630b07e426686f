import BacnetStack.ProtocolRequestDecode

namespace BacnetStack

/-!
# Which decoder a packet belongs to

Every decoder checks the link and network headers on its own.  All of them
leave the same application octets behind, and the first of these tells the
kinds of packet apart.
-/

namespace Reader

variable {α β : Type}

/-- A sequence succeeds when both of its parts do. -/
theorem run_bind_eq_ok_iff
    {reader : Reader α}
    {continuation : α → Reader β}
    {packet rest : List UInt8}
    {result : β} :
    (reader >>= continuation).run packet = .ok (result, rest) ↔
      ∃ value middle,
        reader.run packet = .ok (value, middle) ∧
        (continuation value).run middle = .ok (result, rest) := by
  rw [StateT.run_bind]
  cases ran : reader.run packet with
  | error fault =>
      constructor
      · intro failed
        cases failed
      · rintro ⟨_, _, found, _⟩
        cases found
  | ok outcome =>
      obtain ⟨value, middle⟩ := outcome
      constructor
      · intro continued
        exact ⟨value, middle, rfl, continued⟩
      · rintro ⟨_, _, found, continued⟩
        cases found
        exact continued

/-- A check that passed reads nothing. -/
theorem run_require_eq_ok_iff
    {holds : Bool}
    {outcome : Unit}
    {packet rest : List UInt8} :
    (require holds).run packet = .ok (outcome, rest) ↔
      holds = true ∧ rest = packet := by
  cases holds
  · constructor
    · intro passed
      cases passed
    · rintro ⟨impossible, _⟩
      cases impossible
  · constructor
    · intro passed
      cases passed
      exact ⟨rfl, rfl⟩
    · rintro ⟨_, rfl⟩
      rfl

/-- A successful read takes the first octet. -/
theorem run_next_eq_ok_iff
    {octet : UInt8}
    {packet rest : List UInt8} :
    next.run packet = .ok (octet, rest) ↔ packet = octet :: rest := by
  cases packet with
  | nil =>
      constructor
      · intro read
        cases read
      · intro shape
        cases shape
  | cons head tail =>
      constructor
      · intro read
        cases read
        rfl
      · intro shape
        cases shape
        rfl

/-- Looking at the length reads nothing. -/
@[simp] theorem run_remaining
    (packet : List UInt8) :
    remaining.run packet = .ok (packet.length, packet) :=
  rfl

@[simp] theorem run_hasMore
    (packet : List UInt8) :
    hasMore.run packet = .ok (!packet.isEmpty, packet) :=
  rfl

/-- A parsed packet is a successful run from its first octet. -/
theorem parse?_eq_some_iff
    {reader : Reader α}
    {packet : List UInt8}
    {value : α} :
    parse? reader packet = some value ↔
      ∃ rest, reader.run packet = .ok (value, rest) := by
  unfold parse?
  cases reader.run packet with
  | error fault =>
      simp
  | ok outcome =>
      obtain ⟨found, rest⟩ := outcome
      simp

end Reader

open Reader

/-- The application octets of a unicast or broadcast packet. -/
def apdu? (packet : List UInt8) : Option (List UInt8) :=
  match (do readBvlcHeader 4 true; readNpduHeader : Reader Unit).run packet with
  | .ok ((), octets) => some octets
  | .error _ => none

/-- A header check with other limits consumes the same octets. -/
theorem readBvlcHeader_weaken
    {minimumLength : Nat}
    {acceptBroadcast : Bool}
    (atLeastHeader : 4 ≤ minimumLength)
    {packet rest : List UInt8}
    (accepted :
      (readBvlcHeader minimumLength acceptBroadcast).run packet =
        .ok ((), rest)) :
    (readBvlcHeader 4 true).run packet = .ok ((), rest) := by
  simp only [readBvlcHeader, run_bind_eq_ok_iff, run_require_eq_ok_iff,
    run_next_eq_ok_iff, run_remaining, Except.ok.injEq, Prod.mk.injEq,
    decide_eq_true_eq, Bool.and_eq_true, Bool.or_eq_true] at accepted ⊢
  obtain ⟨_, _, ⟨rfl, rfl⟩, _, _, ⟨longEnough, rfl⟩, headers⟩ := accepted
  refine ⟨_, _, ⟨rfl, rfl⟩, (), _, ⟨by omega, rfl⟩, ?_⟩
  obtain ⟨bvlcType, _, first, bvlcFunction, _, second, lengthHigh, _,
    third, lengthLow, _, fourth, ⟨⟨isIp, unicast | broadcast⟩, length⟩,
    last⟩ := headers
  · exact ⟨bvlcType, _, first, bvlcFunction, _, second, lengthHigh, _,
      third, lengthLow, _, fourth, ⟨⟨isIp, .inl unicast⟩, length⟩, last⟩
  · exact ⟨bvlcType, _, first, bvlcFunction, _, second, lengthHigh, _,
      third, lengthLow, _, fourth,
      ⟨⟨isIp, .inr ⟨trivial, broadcast.2⟩⟩, length⟩, last⟩

/-- Any decoder that passed both headers works on the same octets. -/
theorem apdu?_of_headers
    {α : Type}
    {minimumLength : Nat}
    {acceptBroadcast : Bool}
    (atLeastHeader : 4 ≤ minimumLength)
    {continuation : Reader α}
    {packet rest : List UInt8}
    {result : α}
    (accepted :
      (do
        readBvlcHeader minimumLength acceptBroadcast
        readNpduHeader
        continuation : Reader α).run packet = .ok (result, rest)) :
    ∃ octets,
      apdu? packet = some octets ∧
      continuation.run octets = .ok (result, rest) := by
  simp only [run_bind_eq_ok_iff] at accepted
  obtain ⟨⟨⟩, afterLink, link, ⟨⟩, octets, network, continued⟩ := accepted
  refine ⟨octets, ?_, continued⟩
  have both :
      (do readBvlcHeader 4 true; readNpduHeader : Reader Unit).run packet =
        .ok ((), octets) :=
    run_bind_eq_ok_iff.mpr
      ⟨(), afterLink, readBvlcHeader_weaken atLeastHeader link, network⟩
  rw [apdu?, both]

/-- A packet that answers a notification is an acknowledgement or an error. -/
theorem apdu?_of_response
    {packet : List UInt8}
    {invokeId : UInt8}
    (answers :
      classifyConfirmedCovNotificationResponse packet invokeId ≠ .none) :
    ∃ tag rest,
      apdu? packet = some (tag :: invokeId :: rest) ∧
      (tag &&& 0xF0 = kApduSimpleAck ∨ tag &&& 0xF0 = kApduError ∨
        tag &&& 0xF0 = kApduReject ∨ tag &&& 0xF0 = kApduAbort) := by
  unfold classifyConfirmedCovNotificationResponse at answers
  cases parsed :
      parse? (confirmedCovNotificationResponseReader invokeId) packet with
  | none =>
      simp [parsed] at answers
  | some kind =>
      simp only [parsed, Option.getD_some] at answers
      obtain ⟨rest, accepted⟩ := parse?_eq_some_iff.mp parsed
      obtain ⟨octets, found, continued⟩ :=
        apdu?_of_headers (by decide) accepted
      simp only [run_bind_eq_ok_iff, run_require_eq_ok_iff,
        run_next_eq_ok_iff, run_remaining, Except.ok.injEq,
        Prod.mk.injEq] at continued
      obtain ⟨_, _, ⟨rfl, rfl⟩, _, _, ⟨_, rfl⟩, tag, _, rfl, answered, _,
        rfl, _, _, ⟨sameId, rfl⟩, _, _, _, decided⟩ := continued
      obtain rfl : answered = invokeId := by simpa using sameId
      refine ⟨tag, _, found, ?_⟩
      by_contra other
      simp only [not_or] at other
      obtain ⟨notAck, notError, notReject, notAbort⟩ := other
      simp only [notAck, notError, notReject, notAbort, false_and,
        ↓reduceIte] at decided
      split at decided
      · obtain ⟨_, _, _, decided⟩ := run_bind_eq_ok_iff.mp decided
        obtain ⟨_, _, _, decided⟩ := run_bind_eq_ok_iff.mp decided
        cases decided
        exact answers rfl
      · obtain ⟨_, _, _, decided⟩ := run_bind_eq_ok_iff.mp decided
        cases decided
        exact answers rfl

/-- A confirmed request starts with its own packet type. -/
theorem apdu?_of_confirmedRequest
    {packet : List UInt8}
    {confirmed : BacnetConfirmedRequestHeader}
    (parsed : parseConfirmedRequestHeader packet = .parsed confirmed) :
    ∃ tag rest,
      apdu? packet = some (tag :: rest) ∧
      tag &&& 0xF0 = kApduConfirmedRequest := by
  unfold parseConfirmedRequestHeader parseStatus at parsed
  split at parsed
  · rename_i request rest accepted
    obtain ⟨octets, found, continued⟩ :=
      apdu?_of_headers (by decide) accepted
    cases octets with
    | nil => cases continued
    | cons tag rest =>
        refine ⟨tag, rest, found, ?_⟩
        by_contra other
        simp only [run_bind_eq_ok_iff, run_require_eq_ok_iff,
          run_hasMore, Except.ok.injEq, Prod.mk.injEq] at continued
        obtain ⟨_, _, ⟨rfl, rfl⟩, _, _, ⟨_, rfl⟩, first, _, peeked,
          continued⟩ := continued
        cases peeked
        simp [other] at continued
        cases continued
  · cases parsed
  · cases parsed

/-- A Who-Is starts with the unconfirmed request type. -/
theorem apdu?_of_whoIs
    {packet : List UInt8}
    {request : BacnetWhoIsRequest}
    (parsed : parseWhoIsRequest packet = some request) :
    ∃ rest, apdu? packet = some (kApduUnconfirmedRequest :: rest) := by
  obtain ⟨rest, accepted⟩ := parse?_eq_some_iff.mp parsed
  obtain ⟨octets, found, continued⟩ :=
    apdu?_of_headers (by decide) accepted
  simp only [expect, checkedNext, run_bind_eq_ok_iff,
    run_require_eq_ok_iff, run_next_eq_ok_iff, run_hasMore, run_remaining,
    Except.ok.injEq, Prod.mk.injEq] at continued
  obtain ⟨_, _, ⟨rfl, rfl⟩, _, _, ⟨_, rfl⟩, _, _,
    ⟨tag, _, ⟨_, _, ⟨rfl, rfl⟩, _, _, ⟨_, rfl⟩, shape⟩, same, rfl⟩, _⟩ :=
    continued
  obtain rfl : tag = kApduUnconfirmedRequest := by simpa using same
  exact ⟨_, by rw [found, shape]⟩

/-- A packet answers notifications with one invoke id only. -/
theorem invokeId_of_response_unique
    {packet : List UInt8}
    {first second : UInt8}
    (answersFirst :
      classifyConfirmedCovNotificationResponse packet first ≠ .none)
    (answersSecond :
      classifyConfirmedCovNotificationResponse packet second ≠ .none) :
    first = second := by
  obtain ⟨_, _, firstApdu, _⟩ := apdu?_of_response answersFirst
  obtain ⟨_, _, secondApdu, _⟩ := apdu?_of_response answersSecond
  have same := Option.some.inj (firstApdu.symm.trans secondApdu)
  simp only [List.cons.injEq] at same
  exact same.2.1

/-- A confirmed request answers no notification. -/
theorem response_of_confirmedRequest
    {packet : List UInt8}
    {confirmed : BacnetConfirmedRequestHeader}
    (parsed : parseConfirmedRequestHeader packet = .parsed confirmed)
    (invokeId : UInt8) :
    classifyConfirmedCovNotificationResponse packet invokeId = .none := by
  by_contra answers
  obtain ⟨_, _, responseApdu, kinds⟩ := apdu?_of_response answers
  obtain ⟨_, _, requestApdu, request⟩ := apdu?_of_confirmedRequest parsed
  have same := Option.some.inj (responseApdu.symm.trans requestApdu)
  simp only [List.cons.injEq] at same
  rw [same.1, request] at kinds
  revert kinds
  decide

/-- A confirmed request is no Who-Is. -/
theorem whoIs_of_confirmedRequest
    {packet : List UInt8}
    {confirmed : BacnetConfirmedRequestHeader}
    (parsed : parseConfirmedRequestHeader packet = .parsed confirmed) :
    parseWhoIsRequest packet = none := by
  by_contra isWhoIs
  obtain ⟨request, found⟩ := Option.ne_none_iff_exists'.mp isWhoIs
  obtain ⟨_, whoIsApdu⟩ := apdu?_of_whoIs found
  obtain ⟨_, _, requestApdu, kind⟩ := apdu?_of_confirmedRequest parsed
  have same := Option.some.inj (whoIsApdu.symm.trans requestApdu)
  simp only [List.cons.injEq] at same
  rw [← same.1] at kind
  revert kind
  decide

/-- A decoded service is a confirmed request for an accepted choice. -/
theorem parseConfirmedService_parsed
    {α : Type}
    {services : List UInt8}
    {body : BacnetConfirmedRequestHeader → Reader α}
    {packet : List UInt8}
    {request : α}
    (parsed :
      parseConfirmedService services body packet = .parsed request) :
    ∃ confirmed,
      parseConfirmedRequestHeader packet = .parsed confirmed ∧
      confirmed.serviceChoice ∈ services ∧
      parse? (body confirmed) confirmed.body = some request := by
  unfold parseConfirmedService at parsed
  split at parsed
  · cases parsed
  · cases parsed
  · rename_i confirmed header
    split at parsed
    · rename_i service
      split at parsed
      · rename_i found body
        cases parsed
        exact ⟨confirmed, header, service, body⟩
      · cases parsed
    · cases parsed

/-- A confirmed request for another choice is left to the next decoder. -/
theorem parseConfirmedService_unrelated
    {α : Type}
    {services : List UInt8}
    {packet : List UInt8}
    {confirmed : BacnetConfirmedRequestHeader}
    (header : parseConfirmedRequestHeader packet = .parsed confirmed)
    (other : confirmed.serviceChoice ∉ services)
    (body : BacnetConfirmedRequestHeader → Reader α) :
    parseConfirmedService services body packet = .unrelated := by
  simp [parseConfirmedService, header, other]

/-- A response to a notification is no subscribe request. -/
theorem subscribe_of_response
    {packet : List UInt8}
    {invokeId : UInt8}
    (answers :
      classifyConfirmedCovNotificationResponse packet invokeId ≠ .none)
    (request : BacnetSubscribeCovRequestHeader) :
    parseSubscribeCovRequest packet ≠ .parsed request := by
  intro parsed
  obtain ⟨_, header, _⟩ := parseConfirmedService_parsed parsed
  exact answers (response_of_confirmedRequest header invokeId)

end BacnetStack
