import BacnetStack.ServerCovTable

namespace BacnetStack

open EventRun

/-!
# Cancellation

A request with lifetime 0 runs through the checks of an activation before the
table is looked at.  A cancellation therefore succeeds only while the
monitored object could be subscribed to again.
-/

/--
The checks of an activation pass: the monitored property can be read, for the
object form Status_Flags as well, and an increment is given for a Real
Present_Value only.
-/
structure Subscribable
    (objects : ServerObjects)
    (request : BacnetSubscribeCovRequestHeader) : Prop where
  readable :
    (objects.readCovValue request.object request.monitoredProperty
      request.arrayIndex).isSome = true
  statusFlags :
    request.isPropertySubscription = false →
      (objects.readCovValue request.object .statusFlags
        kBacnetNoArrayIndex).isSome = true
  increment :
    request.hasCovIncrement = true →
      request.isPropertySubscription = true ∧
        request.monitoredProperty = .presentValue ∧
        ∃ value,
          objects.readCovValue request.object request.monitoredProperty
            request.arrayIndex = some value ∧
          value.type = .real

namespace BacnetSubscribeCovRequestHeader

variable
  {request : BacnetSubscribeCovRequestHeader}
  {objects : ServerObjects}

/-- The property form is refused for its value alone. -/
private theorem refusal_property
    (isProperty : request.isPropertySubscription = true) :
    request.refusal objects = none ↔ Subscribable objects request := by
  unfold refusal
  cases read : objects.readCovValue request.object
      request.monitoredProperty request.arrayIndex with
  | none =>
      constructor
      · intro passes
        cases passes
      · intro subscribable
        have readable := subscribable.readable
        rw [read] at readable
        cases readable
  | some value =>
      simp only [isProperty, ↓reduceIte, ite_eq_right_iff, reduceCtorEq,
        imp_false, not_and_or, not_or, Bool.not_true,
        Bool.false_eq_true, not_false_eq_true, true_and, not_not]
      constructor
      · rintro (plain | ⟨present, real⟩)
        · refine ⟨by simp [read], by simp [isProperty], ?_⟩
          intro increment
          exact (plain increment).elim
        · exact ⟨by simp [read], by simp [isProperty],
            fun _ => ⟨isProperty, present, value, read, real⟩⟩
      · intro subscribable
        by_cases increment : request.hasCovIncrement = true
        · obtain ⟨_, present, found, foundRead, real⟩ :=
            subscribable.increment increment
          obtain rfl := Option.some.inj (read.symm.trans foundRead)
          exact .inr ⟨present, real⟩
        · exact .inl increment

/-- The object form is refused for its two values. -/
private theorem refusal_object
    (isObject : request.isPropertySubscription = false) :
    request.refusal objects = none ↔ Subscribable objects request := by
  unfold refusal
  cases read : objects.readCovValue request.object
      request.monitoredProperty request.arrayIndex with
  | none =>
      constructor
      · intro passes
        cases passes
      · intro subscribable
        have readable := subscribable.readable
        rw [read] at readable
        cases readable
  | some value =>
      cases flags : objects.readCovValue request.object .statusFlags
          kBacnetNoArrayIndex with
      | none =>
          constructor
          · intro passes
            simp [isObject] at passes
          · intro subscribable
            have readable := subscribable.statusFlags isObject
            rw [flags] at readable
            cases readable
      | some statusFlags =>
          constructor
          · intro passes
            simp only [isObject, Bool.false_eq_true, ↓reduceIte,
              Bool.not_false, true_or, and_true, ite_eq_right_iff,
              reduceCtorEq, imp_false] at passes
            refine ⟨by simp [read], fun _ => by simp [flags], ?_⟩
            intro increment
            exact (passes increment).elim
          · intro subscribable
            have plain : ¬request.hasCovIncrement = true := by
              intro increment
              have isProperty := (subscribable.increment increment).1
              rw [isObject] at isProperty
              cases isProperty
            simp [isObject, plain]

/-- A request passes the checks exactly when it could be accepted. -/
theorem refusal_eq_none_iff :
    request.refusal objects = none ↔ Subscribable objects request := by
  cases form : request.isPropertySubscription with
  | true => exact refusal_property form
  | false => exact refusal_object form

end BacnetSubscribeCovRequestHeader

namespace BacnetServer

/--
The poll ends the subscription of one slot, touches no other and answers with
an acknowledgement.
-/
structure Cancels
    (server : BacnetServer)
    (input : PollInput)
    (request : BacnetSubscribeCovRequestHeader)
    (index : CovIndex) : Prop where
  removed : ¬(server.step (.poll input)).InUse index
  others :
    ∀ other,
      other ≠ index →
      (server.step (.poll input)).covSlots other = server.covSlots other
  acknowledged :
    (server.poll input).datagram =
      some ⟨input.source,
        simpleAckPacket request.invokeId request.serviceChoice⟩

variable {server : BacnetServer}

/-- An accepted cancellation drops the slot that holds its tuple. -/
theorem cancels_of_accepted
    (distinct : server.TuplesDistinct)
    {input : PollInput}
    {request : BacnetSubscribeCovRequestHeader}
    (received : server.Receives input request)
    (cancellation : request.lifetimeSeconds = 0)
    {index : CovIndex}
    (held : server.Holds (request.tuple input.source) index)
    (accepted : request.refusal server.objects = none) :
    server.Cancels input request index := by
  have matched :
      server.matchedSlot? (request.tuple input.source) = some index := by
    refine server.matchedSlot?_eq_some_iff.mpr ⟨held, ?_⟩
    intro earlier smaller alsoHeld
    exact smaller.ne (distinct _ earlier index alsoHeld held)
  have output :
      server.poll input =
        (server.setSlot index
          (server.covSlots index).drop).acknowledgeSubscribe
          input request := by
    rw [server.poll_subscribe received.ready received.fits received.parsed,
      handleSubscribeCov, accepted]
    simp [cancellation, matched]
  rw [acknowledgeSubscribe, buildSimpleAckResponse_eq] at output
  constructor
  · rw [step, output, InUse, sendReply_server, setSlot_covSlots,
      Function.update_self]
    exact fun inUse => inUse rfl
  · intro other different
    rw [step, output, sendReply_server, setSlot_covSlots,
      Function.update_of_ne different]
  · rw [output]
    rfl

/--
A cancellation of a held subscription does what it should precisely when the
monitored object could be subscribed to at that moment.
-/
theorem cancellation_iff
    (events : List ServerEvent)
    {input : PollInput}
    {request : BacnetSubscribeCovRequestHeader}
    (received : (run step {} events).Receives input request)
    (cancellation : request.lifetimeSeconds = 0)
    {index : CovIndex}
    (held :
      (run step {} events).Holds (request.tuple input.source) index) :
    (run step {} events).Cancels input request index ↔
      Subscribable (run step {} events).objects request := by
  rw [← BacnetSubscribeCovRequestHeader.refusal_eq_none_iff]
  constructor
  · intro cancels
    cases refused :
        request.refusal (run step {} events).objects with
    | none => rfl
    | some error =>
        obtain ⟨unchanged, _⟩ :=
          @refuseSubscribe_output (run step {} events) input request
            error (refusal_small refused)
        have removed := cancels.removed
        rw [step,
          poll_subscribe _ received.ready received.fits received.parsed,
          handleSubscribeCov, refused] at removed
        dsimp only at removed
        rw [unchanged] at removed
        exact (removed held.1).elim
  · exact cancels_of_accepted (tuplesDistinct_run events) received
      cancellation held

/-- One subscription, after which its object is no longer registered. -/
def unregisteredRun : List ServerEvent :=
  startedServer (oneAnalogValue .zero) ++
    [.poll { packet := subscribeProcess 1 }, .setObjects {}]

/-- The cancellation of that subscription. -/
def cancelProcess : List UInt8 :=
  (buildSubscribeCovRequest 64 1 ⟨BacnetObjectType.analogValue, 1⟩
    0 false).getD []

/-- What the cancellation is parsed as. -/
def cancelRequest : BacnetSubscribeCovRequestHeader :=
  { processId := 1, object := ⟨BacnetObjectType.analogValue, 1⟩ }

/-- The cancellation is refused and the subscription stays. -/
theorem unregistered_not_cancelled :
    (run step {} unregisteredRun).Receives
        { packet := cancelProcess } cancelRequest ∧
      (run step {} unregisteredRun).Holds (cancelRequest.tuple {}) 0 ∧
      ((run step {} unregisteredRun).poll {
          packet := cancelProcess }).datagram =
        some ⟨{}, serviceErrorPacket 0 kServiceSubscribeCov 2 32⟩ ∧
      ((run step {} unregisteredRun).step (.poll {
          packet := cancelProcess })).InUse 0 := by
  refine ⟨⟨⟨rfl, rfl⟩, by decide, by decide⟩, by decide, rfl, ?_⟩
  decide

/-- While the object is registered the cancellation succeeds. -/
theorem registered_cancelled :
    (run step {} (startedServer (oneAnalogValue .zero) ++
        [.poll { packet := subscribeProcess 1 }])).Cancels
      { packet := cancelProcess } cancelRequest 0 := by
  refine (cancellation_iff _ ⟨⟨rfl, rfl⟩, by decide, by decide⟩ rfl
    (by decide)).mpr ⟨rfl, fun _ => rfl, ?_⟩
  intro increment
  cases increment

end BacnetServer

end BacnetStack
