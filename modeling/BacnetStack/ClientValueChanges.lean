import BacnetStack.Binary32Rounding
import BacnetStack.ClientCallSteps

namespace BacnetStack

/-!
# Which values a handle reports as changes

A handle keeps the last value it was given and reports a result as a change
by comparing with it.  The comparison is the one of C: not-a-number differs
from itself, the two zeros are equal, and a text ends at its first NUL.
-/

/-- Two values of one type with the same bits and bytes. -/
def SameContent (left right : BacnetValue) : Prop :=
  left.type = right.type ∧
    match left.type with
    | .boolean => left.booleanValue = right.booleanValue
    | .unsigned | .enumerated => left.unsignedValue = right.unsignedValue
    | .signed => left.signedValue = right.signedValue
    | .real => left.realValue = right.realValue
    | .bitString =>
        left.bitStringValue = right.bitStringValue ∧
          left.bitStringBitCount = right.bitStringBitCount
    | .objectIdentifier => left.objectValue = right.objectValue
    | .characterString | .objectIdentifierList | .propertyIdentifierList
    | .error | .unsupported => left.text = right.text
    | .null | .empty | .notCommandable => True

/-- The types whose content is a text. -/
def BacnetValueType.IsText (type : BacnetValueType) : Prop :=
  type = .characterString ∨ type = .objectIdentifierList ∨
    type = .propertyIdentifierList ∨ type = .error ∨ type = .unsupported

/--
The two values are none of the pairs C compares in its own way: one
not-a-number twice, zeros of different sign, or different texts that are the
same up to their first NUL.
-/
def ComparedByContent (previous received : BacnetValue) : Prop :=
  previous.type = received.type →
    (previous.type = .real →
      (previous.realValue = received.realValue →
        received.realValue.isNaN = false) ∧
      (previous.realValue.magnitudeBits = 0 →
        received.realValue.magnitudeBits = 0 →
          previous.realValue.negative = received.realValue.negative)) ∧
    (previous.type.IsText →
      cStringText previous.text = cStringText received.text →
        previous.text = received.text)

namespace SameContent

variable {first second third : BacnetValue}

theorem refl (value : BacnetValue) : SameContent value value := by
  refine ⟨rfl, ?_⟩
  cases value.type <;> simp

theorem symm (same : SameContent first second) :
    SameContent second first := by
  obtain ⟨types, contents⟩ := same
  refine ⟨types.symm, ?_⟩
  rw [← types]
  cases kind : first.type <;> rw [kind] at contents <;>
    simp_all

theorem trans
    (left : SameContent first second)
    (right : SameContent second third) :
    SameContent first third := by
  obtain ⟨leftTypes, leftContents⟩ := left
  obtain ⟨rightTypes, rightContents⟩ := right
  refine ⟨leftTypes.trans rightTypes, ?_⟩
  rw [← leftTypes] at rightContents
  cases kind : first.type <;> rw [kind] at leftContents rightContents <;>
    simp_all

/-- Values with the same content compare alike. -/
theorem bacnetValueEquals_congr
    (same : SameContent first second)
    (value : BacnetValue) :
    bacnetValueEquals first value = bacnetValueEquals second value := by
  obtain ⟨types, contents⟩ := same
  unfold bacnetValueEquals
  rw [← types]
  cases kind : first.type <;> rw [kind] at contents <;>
    simp_all

end SameContent

/-- Where equality up to the first NUL is equality of the texts. -/
theorem cStringText_eq_iff_eq_iff (left right : List UInt8) :
    (cStringText left = cStringText right ↔ left = right) ↔
      (cStringText left = cStringText right → left = right) :=
  ⟨Iff.mp, fun sound => ⟨sound, congrArg cStringText⟩⟩

/-- For these pairs, and no others, the comparison tells equal contents. -/
theorem bacnetValueEquals_iff_sameContent_iff
    (previous received : BacnetValue) :
    (bacnetValueEquals previous received = true ↔
        SameContent previous received) ↔
      ComparedByContent previous received := by
  unfold bacnetValueEquals SameContent ComparedByContent
    BacnetValueType.IsText
  by_cases types : previous.type = received.type
  · rw [beq_iff_eq.2 types, Bool.true_and]
    cases kind : previous.type <;> rw [kind] at types <;> simp [← types]
    case real => exact Binary32.feq_iff_eq_iff _ _
    all_goals exact cStringText_eq_iff_eq_iff _ _
  · have differ : (previous.type == received.type) = false :=
      beq_eq_false_iff_ne.2 types
    simp [differ, types]

/-- The value a handle receives with a result, if it is an Ack. -/
def SubscriptionResult.received
    (result : SubscriptionResult) : Option BacnetValue :=
  if result.status = .ack then result.value else none

/--
What happens to a handle: a result is recorded, or something else that
leaves its last value alone.
-/
inductive HandleEvent where
  | finished (result : SubscriptionResult) (nowMs : UInt32)
  | changed (other : BacnetPropertySubscription)

/-- The value an event brings to a handle. -/
def HandleEvent.received : HandleEvent → Option BacnetValue
  | finished result _ => result.received
  | changed _ => none

namespace BacnetPropertySubscription

variable (subscription : BacnetPropertySubscription)

/-- Another handle that holds the value of this one. -/
def withValueOf
    (other : BacnetPropertySubscription) : BacnetPropertySubscription :=
  { subscription with
    lastValue := other.lastValue
    hasValue := other.hasValue }

/-- The handle after an event. -/
def afterEvent : HandleEvent → BacnetPropertySubscription
  | .finished result nowMs => subscription.recordResult result nowMs
  | .changed other => other.withValueOf subscription

/--
A result is reported for what it is, given the value received before it:
an Ack leaves its value behind, it is the first value if there was none
before, and a change if there was none or its content differs.
-/
def ReportsFaithfully
    (previous : Option BacnetValue)
    (result : SubscriptionResult)
    (nowMs : UInt32) : Prop :=
  let recorded := subscription.recordResult result nowMs
  match result.received with
  | none =>
      recorded.lastNotificationReason.firstValue = false ∧
        recorded.lastNotificationReason.valueChanged = false
  | some value =>
      recorded.hasValue = true ∧ SameContent recorded.lastValue value ∧
        (recorded.lastNotificationReason.firstValue = true ↔
          previous = none) ∧
        (recorded.lastNotificationReason.valueChanged = true ↔
          ∀ last ∈ previous, ¬SameContent last value)

/-- Every result of a run is reported for what it is. -/
def AlwaysReportsFaithfully
    (subscription : BacnetPropertySubscription)
    (previous : Option BacnetValue) : List HandleEvent → Prop
  | [] => True
  | event :: rest =>
      (∀ result nowMs, event = .finished result nowMs →
        subscription.ReportsFaithfully previous result nowMs) ∧
      AlwaysReportsFaithfully (subscription.afterEvent event)
        (event.received.or previous) rest

end BacnetPropertySubscription

/-- The values a handle receives in a run, in order. -/
def receivedValues (events : List HandleEvent) : List BacnetValue :=
  events.filterMap HandleEvent.received

/-- What a handle knows about the value received last. -/
structure BacnetPropertySubscription.Holds
    (subscription : BacnetPropertySubscription)
    (previous : Option BacnetValue) : Prop where
  hasValue : subscription.hasValue = previous.isSome
  lastValue : ∀ last ∈ previous, SameContent subscription.lastValue last

namespace BacnetPropertySubscription

variable {subscription : BacnetPropertySubscription}
  {previous : Option BacnetValue}
  {result : SubscriptionResult}

/-- A result without a value says nothing about values. -/
theorem recordResult_of_not_received
    (subscription : BacnetPropertySubscription)
    (missing : result.received = none)
    (nowMs : UInt32) :
    (subscription.recordResult result nowMs).hasValue =
        subscription.hasValue ∧
      (subscription.recordResult result nowMs).lastValue =
        subscription.lastValue ∧
      (subscription.notificationReason result).firstValue = false ∧
      (subscription.notificationReason result).valueChanged = false := by
  have silent :
      (result.status == .ack) = false ∨ result.value = none := by
    simpa [SubscriptionResult.received, or_iff_not_imp_left] using missing
  rcases silent with silent | silent <;>
    simp [recordResult, notificationReason, isFirstValue, isValueChange,
      silent]

/-- A value that is not reported as a change is not stored either. -/
theorem recordResult_of_received
    (subscription : BacnetPropertySubscription)
    {value : BacnetValue}
    (received : result.received = some value)
    (nowMs : UInt32) :
    (subscription.recordResult result nowMs).hasValue = true ∧
      (subscription.recordResult result nowMs).lastValue =
        if (subscription.notificationReason result).valueChanged then value
        else subscription.lastValue := by
  obtain ⟨ack, carried⟩ :
      result.status = .ack ∧ result.value = some value := by
    simpa [SubscriptionResult.received] using received
  constructor
  · simp [recordResult, ack, carried]
  · simp only [recordResult, notificationReason, carried,
      Option.getD_some]
    rfl

namespace Holds

/-- The reason of a result that brings a value. -/
theorem notificationReason_of_received
    (holds : subscription.Holds previous)
    {value : BacnetValue}
    (received : result.received = some value) :
    (subscription.notificationReason result).firstValue = previous.isNone ∧
      (subscription.notificationReason result).valueChanged =
        previous.all fun last => !bacnetValueEquals last value := by
  obtain ⟨ack, carried⟩ :
      result.status = .ack ∧ result.value = some value := by
    simpa [SubscriptionResult.received] using received
  have known := holds.hasValue
  have equal := holds.lastValue
  cases previous with
  | none =>
      simp_all [notificationReason, isFirstValue, isValueChange]
  | some last =>
      have compares := (equal last rfl).bacnetValueEquals_congr value
      simp_all [notificationReason, isFirstValue, isValueChange]

/-- One result is reported for what it is if the comparison is. -/
theorem reportsFaithfully_iff
    (holds : subscription.Holds previous)
    (result : SubscriptionResult)
    (nowMs : UInt32) :
    subscription.ReportsFaithfully previous result nowMs ↔
      ∀ last ∈ previous, ∀ value ∈ result.received,
        ComparedByContent last value := by
  unfold ReportsFaithfully
  cases received : result.received with
  | none =>
      obtain ⟨_, _, first, changed⟩ :=
        recordResult_of_not_received subscription received nowMs
      simp [recordResult, first, changed]
  | some value =>
      obtain ⟨first, changed⟩ := holds.notificationReason_of_received received
      obtain ⟨present, stored⟩ :=
        recordResult_of_received subscription received nowMs
      rw [changed] at stored
      have reason :
          (subscription.recordResult result nowMs).lastNotificationReason =
            subscription.notificationReason result :=
        rfl
      dsimp only
      rw [present, stored, reason, first, changed]
      cases previous with
      | none =>
          simp [SameContent.refl]
      | some last =>
          have same := holds.lastValue last rfl
          simp only [Option.mem_some_iff, forall_eq',
            ← bacnetValueEquals_iff_sameContent_iff]
          cases equal : bacnetValueEquals last value with
          | false =>
              simp [equal, SameContent.refl]
          | true =>
              have contents :
                  SameContent subscription.lastValue value ↔
                    SameContent last value :=
                ⟨same.symm.trans, same.trans⟩
              simp [equal, contents]

/-- The handle knows the value of the last event, reported for what it is. -/
theorem afterEvent
    (holds : subscription.Holds previous)
    (event : HandleEvent)
    (faithful : ∀ result nowMs, event = .finished result nowMs →
      subscription.ReportsFaithfully previous result nowMs) :
    (subscription.afterEvent event).Holds
      (event.received.or previous) := by
  cases event with
  | changed other =>
      exact ⟨holds.hasValue, holds.lastValue⟩
  | finished result nowMs =>
      have reported := faithful result nowMs rfl
      unfold ReportsFaithfully at reported
      change (subscription.recordResult result nowMs).Holds
        (result.received.or previous)
      cases received : result.received with
      | none =>
          obtain ⟨hasValue, lastValue, _, _⟩ :=
            recordResult_of_not_received subscription received nowMs
          rw [Option.none_or]
          exact ⟨hasValue ▸ holds.hasValue, lastValue ▸ holds.lastValue⟩
      | some value =>
          rw [received] at reported
          constructor
          · exact reported.1
          · rintro last ⟨⟩
            exact reported.2.1

end Holds

end BacnetPropertySubscription

/--
The end of a poll is the event of its result and a change of something else,
as long as the callback leaves the value of the handle alone.
-/
theorem ClientSystem.finishSubscriptionPoll_eq_afterEvents
    {τ : Type}
    (callback : SubscriptionCallback τ)
    (system : ClientSystem τ)
    (id : SessionId)
    (handle : SubscriptionId)
    (result : SubscriptionResult)
    (nowMs : UInt32)
    (keeps : ∀ notification (before : ClientSystem τ),
      ((callback handle notification before).subscriptions
          handle).withValueOf (before.subscriptions handle) =
        (callback handle notification before).subscriptions handle) :
    ∃ other,
      (system.finishSubscriptionPoll callback id handle result
          nowMs).subscriptions handle =
        EventRun.run BacnetPropertySubscription.afterEvent
          (system.subscriptions handle)
          [.finished result nowMs, .changed other] := by
  let subscription := system.subscriptions handle
  let recorded := system.recordResult id handle result nowMs
  let notified := recorded.notifyResult callback handle subscription result
  have stored :
      recorded.subscriptions handle =
        subscription.recordResult result nowMs :=
    subscriptions_recordResult system id handle result nowMs
  have kept :
      (notified.subscriptions handle).withValueOf
          (recorded.subscriptions handle) =
        notified.subscriptions handle := by
    unfold notified notifyResult
    split_ifs
    · exact keeps _ _
    · rfl
  refine ⟨(notified.subscriptions handle).completeResult nowMs, ?_⟩
  change
    (notified.completeSubscriptionPoll id handle nowMs).subscriptions
        handle = _
  rw [completeSubscriptionPoll, subscriptions_releaseSlot,
    subscriptions_setSubscription_self]
  simp only [EventRun.run_cons, EventRun.run_nil,
    BacnetPropertySubscription.afterEvent]
  rw [← stored]
  nth_rewrite 1 [← kept]
  rfl

/-- The values of a run, with the one that came before it. -/
theorem isChain_receivedValues_cons
    {compared : BacnetValue → BacnetValue → Prop}
    (previous : Option BacnetValue)
    (event : HandleEvent)
    (rest : List HandleEvent) :
    List.IsChain compared
        (previous.toList ++ receivedValues (event :: rest)) ↔
      (∀ last ∈ previous, ∀ value ∈ event.received, compared last value) ∧
        List.IsChain compared
          ((event.received.or previous).toList ++ receivedValues rest) := by
  unfold receivedValues
  cases received : event.received with
  | none =>
      rw [List.filterMap_cons_none received]
      simp
  | some value =>
      rw [List.filterMap_cons_some received]
      cases previous <;> simp

/-- From any state of the run on. -/
theorem BacnetPropertySubscription.Holds.alwaysReportsFaithfully_iff_isChain
    {subscription : BacnetPropertySubscription}
    {previous : Option BacnetValue}
    (holds : subscription.Holds previous)
    (events : List HandleEvent) :
    subscription.AlwaysReportsFaithfully previous events ↔
      List.IsChain ComparedByContent
        (previous.toList ++ receivedValues events) := by
  induction events generalizing subscription previous with
  | nil =>
      cases previous <;>
        simp [AlwaysReportsFaithfully, receivedValues]
  | cons event rest inductionHypothesis =>
      have head :
          (∀ result nowMs, event = .finished result nowMs →
              subscription.ReportsFaithfully previous result nowMs) ↔
            ∀ last ∈ previous, ∀ value ∈ event.received,
              ComparedByContent last value := by
        cases event with
        | changed other =>
            simp [HandleEvent.received]
        | finished result nowMs =>
            refine Iff.trans ?_ (holds.reportsFaithfully_iff result nowMs)
            constructor
            · intro faithful
              exact faithful result nowMs rfl
            · rintro faithful _ _ ⟨⟩
              exact faithful
      rw [isChain_receivedValues_cons, ← head]
      exact and_congr_right fun faithful =>
        inductionHypothesis (holds.afterEvent event faithful)

/--
A handle without a value reports every result of a run for what it is
exactly if C compares every two values it receives one after the other by
their content.
-/
theorem alwaysReportsFaithfully_iff
    (subscription : BacnetPropertySubscription)
    (fresh : subscription.hasValue = false)
    (events : List HandleEvent) :
    subscription.AlwaysReportsFaithfully none events ↔
      List.IsChain ComparedByContent (receivedValues events) := by
  have holds : subscription.Holds none :=
    ⟨fresh, fun _ none => nomatch none⟩
  exact holds.alwaysReportsFaithfully_iff_isChain events

/-- An Ack with a Real of the given bits. -/
def realAck (bits : UInt32) : HandleEvent :=
  .finished
    (.ofPoll
      { status := .ack
        value := { type := .real, realValue := ⟨bits⟩ } }
      kBacnetNoArrayIndex)
    0

/-- 1.0 twice and 2.0. -/
theorem alwaysReportsFaithfully_reals :
    BacnetPropertySubscription.AlwaysReportsFaithfully {} none
      [realAck 0x3F800000, realAck 0x3F800000, realAck 0x40000000] :=
  (alwaysReportsFaithfully_iff {} rfl _).2 (by
    have values :
        receivedValues
            [realAck 0x3F800000, realAck 0x3F800000, realAck 0x40000000] =
          [{ type := .real, realValue := ⟨0x3F800000⟩ },
            { type := .real, realValue := ⟨0x3F800000⟩ },
            { type := .real, realValue := ⟨0x40000000⟩ }] := by
      decide
    rw [values]
    simp [ComparedByContent, BacnetValueType.IsText, Binary32.isNaN,
      Binary32.magnitudeBits])

/-- The same not-a-number twice is reported as a change. -/
theorem not_alwaysReportsFaithfully_nan :
    ¬ ∀ subscription : BacnetPropertySubscription,
      subscription.hasValue = false →
        ∀ events, subscription.AlwaysReportsFaithfully none events := by
  intro faithful
  have reported :=
    (faithful {} rfl [realAck 0x7FC00000, realAck 0x7FC00000]).2.1 _ _ rfl
  have changed := reported.2.2.2.1 (by decide)
  exact changed { type := .real, realValue := ⟨0x7FC00000⟩ } (by decide)
    (.refl _)

/-- A zero of the other sign, and what follows a NUL, go unnoticed. -/
example :
    bacnetValueEquals
        { type := .real, realValue := ⟨0⟩ }
        { type := .real, realValue := ⟨0x80000000⟩ } = true ∧
      bacnetValueEquals
        { type := .characterString, text := [65, 0, 66] }
        { type := .characterString, text := [65, 0, 67] } = true := by
  decide

end BacnetStack
