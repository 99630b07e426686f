import Mathlib.Data.Nat.Bitwise
import BacnetStack.ProtocolRequestBuild
import BacnetStack.ServerCovLedger

namespace BacnetStack

/-!
# Change detection

When an active subscription has something to report, stated on the contents
of values instead of snapshot fields.  The comparison of the source knows
five kinds of value; of every other kind it reports a change at each look.
-/

/-- Which kind of value a content belongs to. -/
def ValueContent.type : ValueContent → BacnetValueType
  | .null => .null
  | .boolean _ => .boolean
  | .unsigned _ => .unsigned
  | .signed _ => .signed
  | .real _ => .real
  | .bitString _ => .bitString
  | .enumerated _ => .enumerated
  | .text _ => .characterString
  | .objectIdentifier _ => .objectIdentifier

/-- A content shows the type of the value it was taken from. -/
theorem type_of_content
    {value : BacnetValue}
    {content : ValueContent}
    (carried : value.content = some content) :
    value.type = content.type := by
  unfold BacnetValue.content at carried
  split at carried <;> simp_all
  all_goals
    subst carried
    rfl

/-- Values of different kinds carry different contents. -/
theorem content_ne_of_type_ne
    {left right : BacnetValue}
    (different : left.type ≠ right.type)
    (carries : right.content ≠ none) :
    left.content ≠ right.content := by
  intro same
  obtain ⟨content, carried⟩ := Option.ne_none_iff_exists'.mp carries
  have leftType := type_of_content (same.trans carried)
  have rightType := type_of_content carried
  exact different (leftType.trans rightType.symm)

/-- An accepted increment decides about the first reported value. -/
def incrementApplies
    (subscription : BacnetServerCovSubscription)
    (position : Nat) : Bool :=
  subscription.hasCovIncrement && position == 0

/--
Two Reals differ as numbers, and by at least the increment where one was
accepted.  A not-a-number does not differ from itself.
-/
def RealDiffers
    (subscription : BacnetServerCovSubscription)
    (position : Nat)
    (sent current : Binary32) : Prop :=
  sent ≠ current ∧
    Binary32.feq sent current = false ∧
    (incrementApplies subscription position = true →
      Binary32.fle subscription.covIncrement
        (Binary32.abs (current.sub sent)) = true)

/-- A reported value differs from the one sent in its place. -/
def ValueDiffers
    (subscription : BacnetServerCovSubscription)
    (position : Nat)
    (sent current : BacnetValue) : Prop :=
  if sent.type = .real ∧ current.type = .real then
    RealDiffers subscription position sent.realValue current.realValue
  else
    sent.content ≠ current.content

/-- At some position the current value differs from the one sent. -/
def ReportDiffers
    (subscription : BacnetServerCovSubscription)
    (sent current : List BacnetCovPropertyValue) : Prop :=
  ∃ (position : Nat) (old new : BacnetCovPropertyValue),
    sent[position]? = some old ∧
    current[position]? = some new ∧
    ValueDiffers subscription position old.value new.value

/-- Bits of a bit string beyond its declared length. -/
def unusedBits (value : BacnetValue) : Nat :=
  value.bitStringValue.toNat / 2 ^ value.bitStringBitCount.toNat

/--
An unchanged value of this kind is recognised as such.  Bit strings are
compared with their unused bits.
-/
def Recognised
    (subscription : BacnetServerCovSubscription)
    (position : Nat)
    (sent current : BacnetValue) : Prop :=
  match current.type with
  | .boolean => True
  | .unsigned => True
  | .enumerated => True
  | .real =>
      incrementApplies subscription position = true ∨
        current.realValue.isNaN = false
  | .bitString => unusedBits sent = unusedBits current
  | _ => False

/-- Every reported value is of a recognised kind. -/
def ReportRecognised
    (subscription : BacnetServerCovSubscription)
    (sent current : List BacnetCovPropertyValue) : Prop :=
  ∀ (position : Nat) (old new : BacnetCovPropertyValue),
    sent[position]? = some old →
    current[position]? = some new →
    Recognised subscription position old.value new.value

/-- Equal bits and equal unused bits are equal bit strings. -/
private theorem bitString_eq_iff
    (left right : BacnetValue)
    (unused : unusedBits left = unusedBits right) :
    bitsOf left.bitStringValue left.bitStringBitCount =
        bitsOf right.bitStringValue right.bitStringBitCount ↔
      left.bitStringValue = right.bitStringValue ∧
        left.bitStringBitCount = right.bitStringBitCount := by
  constructor
  · intro same
    have counts : left.bitStringBitCount = right.bitStringBitCount := by
      have lengths := congrArg List.length same
      simpa [bitsOf, UInt8.toNat_inj] using lengths
    refine ⟨?_, counts⟩
    unfold unusedBits at unused
    rw [counts] at unused same
    have low :
        left.bitStringValue.toNat % 2 ^ right.bitStringBitCount.toNat =
          right.bitStringValue.toNat %
            2 ^ right.bitStringBitCount.toNat := by
      apply Nat.eq_of_testBit_eq
      intro bit
      rw [Nat.testBit_mod_two_pow, Nat.testBit_mod_two_pow]
      by_cases inside : bit < right.bitStringBitCount.toNat
      · have bits := congrArg (fun bits => bits[bit]?) same
        simp only [bitsOf, List.getElem?_map,
          List.getElem?_range inside, Option.map_some,
          Option.some.injEq] at bits
        simp [inside, bits]
      · simp [inside]
    rw [← UInt32.toNat_inj]
    calc left.bitStringValue.toNat
        = 2 ^ right.bitStringBitCount.toNat *
              (left.bitStringValue.toNat /
                2 ^ right.bitStringBitCount.toNat) +
            left.bitStringValue.toNat %
              2 ^ right.bitStringBitCount.toNat :=
          (Nat.div_add_mod _ _).symm
      _ = 2 ^ right.bitStringBitCount.toNat *
              (right.bitStringValue.toNat /
                2 ^ right.bitStringBitCount.toNat) +
            right.bitStringValue.toNat %
              2 ^ right.bitStringBitCount.toNat := by rw [unused, low]
      _ = right.bitStringValue.toNat := Nat.div_add_mod _ _
  · rintro ⟨value, count⟩
    rw [value, count]

/-- The comparison of Reals, read as a difference. -/
private theorem covRealChanged_iff
    (subscription : BacnetServerCovSubscription)
    (position : Nat)
    (sent current : Binary32) :
    covRealChanged subscription position sent current = true ↔
      RealDiffers subscription position sent current ∨
        ¬(incrementApplies subscription position = true ∨
          current.isNaN = false) := by
  unfold covRealChanged RealDiffers incrementApplies
  cases equal : Binary32.feq sent current with
  | true =>
      have number : current.isNaN = false := by
        simp only [Binary32.feq, Bool.and_eq_true,
          Bool.not_eq_eq_eq_not, Bool.not_true] at equal
        exact equal.1.2
      simp [number]
  | false =>
      have different
          (number : current.isNaN = false) : sent ≠ current := by
        rintro rfl
        simp [Binary32.feq_self number] at equal
      by_cases increment :
          (subscription.hasCovIncrement && position == 0) = true
      · have applies :
            (!subscription.hasCovIncrement || position != 0) = false := by
          simpa using increment
        simp only [applies, Bool.false_eq_true, ↓reduceIte,
          Binary32.fle_negated_if_negative, increment, true_implies,
          true_or, not_true_eq_false, or_false, true_and]
        constructor
        · intro reaches
          refine ⟨?_, reaches⟩
          rintro rfl
          cases number : sent.isNaN with
          | false => exact different number rfl
          | true =>
              simp [Binary32.sub, Binary32.add, number, Binary32.fle,
                Binary32.abs, show Binary32.quietNaN.isNaN = true by
                  decide] at reaches
        · exact And.right
      · have ignored :
            (!subscription.hasCovIncrement || position != 0) = true := by
          simp only [Bool.and_eq_true, not_and, beq_iff_eq] at increment
          cases has : subscription.hasCovIncrement <;> simp_all
        simp only [ignored, ↓reduceIte, Bool.false_eq_true, increment,
          false_implies, and_true, false_or, true_iff]
        cases number : current.isNaN with
        | false => exact .inl (different number)
        | true => exact .inr (by simp)

/--
Against the snapshot of a sent value, a value counts as changed when it
differs or when its kind is not recognised.
-/
theorem covValueChanged_iff
    (subscription : BacnetServerCovSubscription)
    (position : Nat)
    (sent current : BacnetValue) :
    covValueChanged subscription position (snapshotOf sent) current =
        true ↔
      ValueDiffers subscription position sent current ∨
        ¬Recognised subscription position sent current := by
  by_cases sameType : sent.type = current.type
  · have guard :
        (!(snapshotOf sent).valid ||
          (snapshotOf sent).type != current.type) = false := by
      simp [snapshotOf, sameType]
    simp only [covValueChanged, guard, Bool.false_eq_true, ↓reduceIte]
    cases kind : current.type
    case real =>
        simp only [ValueDiffers, Recognised, sameType, kind, and_self,
          ↓reduceIte]
        exact covRealChanged_iff subscription position _ _
    case bitString =>
        simp only [ValueDiffers, Recognised, BacnetValue.content, sameType,
          kind, snapshotOf]
        by_cases unused : unusedBits sent = unusedBits current
        · have agree := bitString_eq_iff sent current unused
          simp [unused, agree, Decidable.imp_iff_not_or]
        · have raw :
              ¬(sent.bitStringValue = current.bitStringValue ∧
                sent.bitStringBitCount = current.bitStringBitCount) := by
            rintro ⟨value, count⟩
            exact unused (by rw [unusedBits, unusedBits, value, count])
          simp [unused, Decidable.imp_iff_not_or] at raw ⊢
          exact raw
    all_goals
      simp [ValueDiffers, Recognised, BacnetValue.content, sameType, kind,
        snapshotOf]
  · have changed :
        covValueChanged subscription position (snapshotOf sent) current =
          true := by
      simp [covValueChanged, snapshotOf, sameType]
    simp only [changed, true_iff]
    have differs
        (carries : current.content ≠ none) :
        ValueDiffers subscription position sent current := by
      have notReals : ¬(sent.type = .real ∧ current.type = .real) :=
        fun reals => sameType (reals.1.trans reals.2.symm)
      rw [ValueDiffers, if_neg notReals]
      exact content_ne_of_type_ne sameType carries
    by_cases carries : current.content = none
    · right
      cases kind : current.type <;>
        simp_all [BacnetValue.content, Recognised]
    · exact .inl (differs carries)

/-- Two lists with the same references have the same length. -/
private theorem length_eq_of_references
    {left right : List BacnetCovPropertyValue}
    (references :
      left.map BacnetCovPropertyValue.reference =
        right.map BacnetCovPropertyValue.reference) :
    left.length = right.length := by
  simpa using congrArg List.length references

/--
For a slot that stores what was sent, the comparison of the source says that
some value differs or is not recognised.
-/
theorem covValuesChanged_iff
    {slot : CovSlot}
    {sent current : List BacnetCovPropertyValue}
    (stores : Stores slot sent)
    (references :
      current.map BacnetCovPropertyValue.reference =
        slot.subscription.reported) :
    covValuesChanged slot current = true ↔
      ReportDiffers slot.subscription sent current ∨
        ¬ReportRecognised slot.subscription sent current := by
  have sameLength : sent.length = current.length :=
    length_eq_of_references (stores.references.trans references.symm)
  have bound : current.length ≤ kCovObjectPropertyCount := by
    have reportedBound := length_reported_le slot.subscription
    rw [← references] at reportedBound
    simpa using reportedBound
  have reportsSomething : current ≠ [] := by
    rintro rfl
    unfold BacnetServerCovSubscription.reported at references
    split at references <;> simp at references
  have positions :
      covValuesChanged slot current = true ↔
        ∃ (position : Nat) (old new : BacnetCovPropertyValue),
          sent[position]? = some old ∧
          current[position]? = some new ∧
          (ValueDiffers slot.subscription position old.value new.value ∨
            ¬Recognised slot.subscription position
              old.value new.value) := by
    have inBounds :
        (current.isEmpty ||
          decide (kCovObjectPropertyCount < current.length)) = false := by
      simpa [reportsSomething] using bound
    rw [covValuesChanged, inBounds, Bool.false_or, List.any_eq_true]
    constructor
    · rintro ⟨index, _, changed⟩
      split at changed
      · rename_i new found
        obtain ⟨inside, _⟩ := List.getElem?_eq_some_iff.mp found
        have present : sent[index.val]? = some sent[index.val] :=
          List.getElem?_eq_getElem (by omega)
        rw [stores.snapshots index _ present,
          covValueChanged_iff] at changed
        exact ⟨index.val, sent[index.val], new, present, found, changed⟩
      · cases changed
    · rintro ⟨position, old, new, present, found, changed⟩
      obtain ⟨inside, _⟩ := List.getElem?_eq_some_iff.mp found
      refine ⟨⟨position, by omega⟩, List.mem_finRange _, ?_⟩
      simp only [found]
      rw [stores.snapshots ⟨position, by omega⟩ old present,
        covValueChanged_iff]
      exact changed
  rw [positions]
  constructor
  · rintro ⟨position, old, new, present, found, differs | unknown⟩
    · exact .inl ⟨position, old, new, present, found, differs⟩
    · exact .inr fun recognised =>
        unknown (recognised position old new present found)
  · rintro (⟨position, old, new, present, found, differs⟩ | unknown)
    · exact ⟨position, old, new, present, found, .inl differs⟩
    · simp only [ReportRecognised, not_forall] at unknown
      obtain ⟨position, old, new, present, found, notRecognised⟩ := unknown
      exact ⟨position, old, new, present, found, .inr notRecognised⟩

/--
An idle poll meets an active subscription that is neither expired nor in send
backoff, whose last notification carried `sent` and whose properties now read
as `current`.
-/
structure ChangeCheck
    (tracked : TrackedServer)
    (now : UInt32)
    (index : CovIndex)
    (sent current : List BacnetCovPropertyValue) : Prop where
  active : (tracked.slot index).subscription.state = .active
  alive :
    lifetimeOver tracked.server.hasClock now
      (tracked.slot index).subscription = false
  noBackoff : backoffPending now (tracked.slot index) = false
  sentBefore :
    (lastSent (tracked.history index)).map CovTransmission.values =
      some sent
  readable :
    collectCovValues tracked.server.objects
      (tracked.slot index).subscription = some current

/-- A report does not differ from itself. -/
theorem not_reportDiffers_self
    (subscription : BacnetServerCovSubscription)
    (values : List BacnetCovPropertyValue) :
    ¬ReportDiffers subscription values values := by
  rintro ⟨position, old, new, oldFound, newFound, differs⟩
  obtain rfl := Option.some.inj (oldFound.symm.trans newFound)
  unfold ValueDiffers at differs
  split at differs
  · exact differs.1 rfl
  · exact differs rfl

/-- What the scan decides about an active subscription after any run. -/
theorem visit_isSend_iff
    {tracked : TrackedServer}
    (reachable : tracked.Reachable)
    {now : UInt32}
    {index : CovIndex}
    {sent current : List BacnetCovPropertyValue}
    (check : ChangeCheck tracked now index sent current) :
    (tracked.server.visit now index).isSend = true ↔
      ReportDiffers (tracked.slot index).subscription sent current ∨
        ¬ReportRecognised (tracked.slot index).subscription
          sent current := by
  obtain ⟨transmission, found, carried⟩ :=
    Option.map_eq_some_iff.mp check.sentBefore
  have stores : Stores (tracked.slot index) sent := by
    rw [← carried]
    exact (reachable.covLedger index).stored
      (by simp [check.active]) transmission found
  have visited :=
    @visitSlot_active _ tracked.server.device _ _ _ _ check.active
      check.alive check.noBackoff check.readable
  rw [BacnetServer.visit, visited,
    ← covValuesChanged_iff stores
      (references_of_collectCovValues check.readable)]
  cases covValuesChanged (tracked.slot index) current <;>
    simp [SlotVisit.isSend]

/--
Change detection is exact precisely where something really differs or every
reported value is of a kind the comparison recognises.
-/
theorem changeDetection_exact_iff
    {tracked : TrackedServer}
    (reachable : tracked.Reachable)
    {now : UInt32}
    {index : CovIndex}
    {sent current : List BacnetCovPropertyValue}
    (check : ChangeCheck tracked now index sent current) :
    ((tracked.server.visit now index).isSend = true ↔
        ReportDiffers (tracked.slot index).subscription sent current) ↔
      (ReportDiffers (tracked.slot index).subscription sent current ∨
        ReportRecognised (tracked.slot index).subscription
          sent current) := by
  rw [visit_isSend_iff reachable check]
  by_cases differs :
      ReportDiffers (tracked.slot index).subscription sent current
  · simp [differs]
  · simp [differs]

/-- Start a server with these objects, a clock and default settings. -/
def startedServer (objects : ServerObjects) : List ServerEvent :=
  [.setTransport, .setClock true, .setObjects objects,
    .start {} 47808 true]

/-- One analog value with instance 1. -/
def oneAnalogValue (presentValue : Binary32) : ServerObjects :=
  { analogValues :=
      [{ instance_ := 1, objectName := [65], presentValue := presentValue }] }

/-- Subscribe to one property of the analog value for a minute. -/
def subscribeToProperty
    (property : BacnetPropertyId)
    (confirmed : Bool) : List UInt8 :=
  (buildSubscribeCovPropertyRequest 64 1 ⟨BacnetObjectType.analogValue, 1⟩
    property 60 confirmed kBacnetNoArrayIndex false .zero).getD []

/-- A text property is subscribed to and its initial notification sent. -/
def unchangedNameRun : List ServerEvent :=
  startedServer (oneAnalogValue .zero) ++
    [.poll { packet := subscribeToProperty .objectName false }, .poll {}]

/-- What the initial notification of that run carries. -/
def objectNameReport : List BacnetCovPropertyValue :=
  [{ property := .objectName, value := characterStringValue [65] }]

/-- The unchanged object name is notified again. -/
theorem unchangedName_sent_again :
    ChangeCheck (TrackedServer.after unchangedNameRun) 0 0
        objectNameReport objectNameReport ∧
      ¬ReportDiffers
        ((TrackedServer.after unchangedNameRun).slot 0).subscription
        objectNameReport objectNameReport ∧
      ((TrackedServer.after unchangedNameRun).server.visit 0 0).isSend =
        true ∧
      ((TrackedServer.after unchangedNameRun).server.poll {}).result =
        .covNotificationSent := by
  refine ⟨?_, not_reportDiffers_self _ _, rfl, rfl⟩
  constructor <;> rfl

/-- A Real property is notified and then changes. -/
def changedValueRun : List ServerEvent :=
  startedServer (oneAnalogValue .zero) ++
    [.poll { packet := subscribeToProperty .presentValue false },
      .poll {}, .setObjects (oneAnalogValue .one)]

/-- A report of the present value. -/
def presentValueReport (value : Binary32) : List BacnetCovPropertyValue :=
  [{ property := .presentValue, value := realValue value }]

/-- Detection is exact for that change. -/
theorem changedValue_detected :
    ((TrackedServer.after changedValueRun).server.visit 0 0).isSend =
        true ↔
      ReportDiffers
        ((TrackedServer.after changedValueRun).slot 0).subscription
        (presentValueReport .zero) (presentValueReport .one) := by
  have check :
      ChangeCheck (TrackedServer.after changedValueRun) 0 0
        (presentValueReport .zero) (presentValueReport .one) := by
    constructor <;> rfl
  refine (changeDetection_exact_iff
    (TrackedServer.reachable_after changedValueRun) check).mpr (.inr ?_)
  intro position old new oldFound newFound
  match position with
  | 0 =>
      obtain rfl := Option.some.inj newFound
      exact .inr rfl
  | _ + 1 => cases newFound

end BacnetStack
