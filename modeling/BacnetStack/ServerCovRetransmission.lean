import BacnetStack.ServerCovChange

namespace BacnetStack

/-!
# Retransmissions

A retransmission is rebuilt from the snapshots of its slot.  The snapshots
belong to the notification that started the exchange, so the references and
types are always those of the original.  A value itself comes back exactly
when the snapshot has a field for it.
-/

/-- The snapshot fields hold everything a value says. -/
def SnapshotKeeps (value : BacnetValue) : Prop :=
  match value.type with
  | .signed => value.signedValue = 0
  | .characterString => value.text = []
  | .objectIdentifier => value.objectValue = {}
  | _ => True

/-- What one entry of a notification tells the peer. -/
structure ReportEntry where
  property : BacnetPropertyId
  arrayIndex : UInt32
  type : BacnetValueType
  content : Option ValueContent

/-- The entry a reported value becomes. -/
def BacnetCovPropertyValue.entry
    (reported : BacnetCovPropertyValue) : ReportEntry :=
  { property := reported.property
    arrayIndex := reported.arrayIndex
    type := reported.value.type
    content := reported.value.content }

/-- A rebuilt value keeps its type. -/
@[simp] theorem type_snapshotValue_snapshotOf
    (value : BacnetValue) :
    (snapshotValue (snapshotOf value)).type = value.type :=
  rfl

/-- A value survives its snapshot exactly when the snapshot keeps it. -/
theorem content_snapshotValue_snapshotOf
    (value : BacnetValue) :
    (snapshotValue (snapshotOf value)).content = value.content ↔
      SnapshotKeeps value := by
  unfold SnapshotKeeps BacnetValue.content
  cases kind : value.type <;>
    simp [snapshotValue, snapshotOf, kind, eq_comm]

/-- The retransmission of a slot, entry by entry. -/
theorem retryValues_of_stores
    {slot : CovSlot}
    {original : List BacnetCovPropertyValue}
    (stores : Stores slot original) :
    retryValues slot =
      original.map fun reported =>
        { reported with
          value := snapshotValue (snapshotOf reported.value) } := by
  have references :
      (retryValues slot).map BacnetCovPropertyValue.reference =
        original.map BacnetCovPropertyValue.reference :=
    (references_retryValues slot).trans stores.references.symm
  have sameLength : (retryValues slot).length = original.length := by
    simpa using congrArg List.length references
  have bound : original.length ≤ kCovObjectPropertyCount := by
    have reportedBound := length_reported_le slot.subscription
    rw [← stores.references] at reportedBound
    simpa using reportedBound
  apply List.ext_getElem (by simpa using sameLength)
  intro position inRetry inOriginal
  have inside : position < original.length := by simpa using inOriginal
  let index : Fin kCovObjectPropertyCount := ⟨position, by omega⟩
  have present :
      original[index.val]? = some original[position] :=
    List.getElem?_eq_getElem inside
  have retried :
      (retryValues slot)[index.val]? =
        some (retryValues slot)[position] :=
    List.getElem?_eq_getElem inRetry
  have value := getElem?_retryValues slot retried
  rw [stores.snapshots index _ present] at value
  have reference :
      (retryValues slot)[position].reference =
        original[position].reference := by
    have both := congrArg (fun entries => entries[position]?) references
    simpa [inRetry, inside] using both
  obtain ⟨property, arrayIndex⟩ := Prod.mk.inj reference
  rw [List.getElem_map]
  generalize (retryValues slot)[position] = retry at *
  cases retry
  simp_all

/-- The exchange a retransmission belongs to. -/
structure Repeats
    (tracked : TrackedServer)
    (input : PollInput)
    (transmission original : CovTransmission) : Prop where
  built :
    (tracked.server.poll input).transmission = some transmission
  retransmits : transmission.isRetransmission = true
  started :
    lastOriginal (tracked.history transmission.index) = some original

/-- What a retransmission carries, in terms of its original. -/
theorem Repeats.values
    {tracked : TrackedServer}
    (reachable : tracked.Reachable)
    {input : PollInput}
    {transmission original : CovTransmission}
    (repeats : Repeats tracked input transmission original) :
    original.delivered = true ∧
      transmission.values =
        original.values.map fun reported =>
          { reported with
            value := snapshotValue (snapshotOf reported.value) } := by
  obtain ⟨_, _, _, slot, visited, _⟩ :=
    tracked.server.poll_transmission repeats.built
  obtain ⟨_, _, resent | ⟨fresh, _⟩⟩ := visitSlot_send_cases visited
  · obtain ⟨_, awaiting, _, _, values, _⟩ := resent
    obtain ⟨started, found, delivered, stores⟩ :=
      (reachable.covLedger transmission.index).original awaiting
    obtain rfl := Option.some.inj (found.symm.trans repeats.started)
    refine ⟨delivered, ?_⟩
    rw [values]
    exact retryValues_of_stores stores
  · rw [repeats.retransmits] at fresh
    cases fresh

/--
A retransmission says what its original said precisely when the snapshots
keep every value of the original.
-/
theorem retransmission_faithful_iff
    {tracked : TrackedServer}
    (reachable : tracked.Reachable)
    {input : PollInput}
    {transmission original : CovTransmission}
    (repeats : Repeats tracked input transmission original) :
    transmission.values.map BacnetCovPropertyValue.entry =
        original.values.map BacnetCovPropertyValue.entry ↔
      ∀ reported ∈ original.values, SnapshotKeeps reported.value := by
  rw [(repeats.values reachable).2, List.map_map, List.map_inj_left]
  have entries
      (reported : BacnetCovPropertyValue) :
      (BacnetCovPropertyValue.entry ∘ fun reported =>
          { reported with
            value := snapshotValue (snapshotOf reported.value) })
          reported = reported.entry ↔
        SnapshotKeeps reported.value := by
    rw [← content_snapshotValue_snapshotOf]
    simp [BacnetCovPropertyValue.entry]
  simp only [entries]

/-- A confirmed subscription whose first notification stays unanswered. -/
def unansweredRun (property : BacnetPropertyId) : List ServerEvent :=
  startedServer (oneAnalogValue .one) ++
    [.poll { packet := subscribeToProperty property true }, .poll {}]

/-- What the retransmission of an object name carries. -/
def emptyNameReport : List BacnetCovPropertyValue :=
  [{ property := .objectName, value := characterStringValue [] }]

/-- The object name is repeated as an empty text. -/
theorem objectName_repeated_empty :
    Repeats (TrackedServer.after (unansweredRun .objectName))
        { clockMs := 3000 }
        ⟨0, emptyNameReport, 2, true, true⟩
        ⟨0, objectNameReport, 1, false, true⟩ ∧
      emptyNameReport.map BacnetCovPropertyValue.entry ≠
        objectNameReport.map BacnetCovPropertyValue.entry := by
  refine ⟨?_, by simp [emptyNameReport, objectNameReport,
    BacnetCovPropertyValue.entry, characterStringValue,
    BacnetValue.content]⟩
  constructor <;> rfl

/-- The present value is repeated as it was sent. -/
theorem presentValue_repeated :
    ∃ transmission,
      Repeats (TrackedServer.after (unansweredRun .presentValue))
        { clockMs := 3000 } transmission
        ⟨0, presentValueReport .one, 1, false, true⟩ ∧
      transmission.values.map BacnetCovPropertyValue.entry =
        (presentValueReport .one).map BacnetCovPropertyValue.entry := by
  have repeats :
      Repeats (TrackedServer.after (unansweredRun .presentValue))
        { clockMs := 3000 }
        ⟨0, presentValueReport .one, 2, true, true⟩
        ⟨0, presentValueReport .one, 1, false, true⟩ := by
    constructor <;> rfl
  refine ⟨_, repeats, ?_⟩
  refine (retransmission_faithful_iff
    (TrackedServer.reachable_after _) repeats).mpr ?_
  intro reported member
  obtain rfl := List.mem_singleton.mp member
  trivial

end BacnetStack
