import BacnetStack.ClientScanCoverage

namespace BacnetStack

/-!
# What a scan collects

A scan whose entries are all answered walks through a list of identifiers.
What it has stored after so many entries is a function of the list: the
accepted identifiers among them, as far as the buffer goes.
-/

/-- What a scan is asked to collect, and the list it reads. -/
structure ScanPlan where
  options : BacnetObjectScanOptions
  hasResults : Bool
  resultCapacity : Nat
  listed : List BacnetObjectId
  indexable : listed.length < kBacnetNoArrayIndex.toNat

namespace ScanPlan

variable (plan : ScanPlan)

/-- The number of entries the scan looks at. -/
def limit : Nat :=
  min plan.listed.length plan.options.maxObjectListEntries.toNat

/-- The number of objects that can be stored. -/
def room : Nat :=
  if plan.hasResults then plan.resultCapacity else 0

/-- The identifiers among the first entries that pass the filter. -/
def accepted (seen : Nat) : List BacnetObjectId :=
  (plan.listed.take seen).filter plan.options.acceptsObjectType

variable {plan}

theorem accepted_succ
    {seen : Nat}
    {object : BacnetObjectId}
    (found : plan.listed[seen]? = some object) :
    plan.accepted (seen + 1) =
      if plan.options.acceptsObjectType object then
        plan.accepted seen ++ [object]
      else
        plan.accepted seen := by
  rw [accepted, List.take_add_one, found, Option.toList_some,
    List.filter_append, List.filter_singleton]
  split <;> simp [accepted, *]

theorem accepted_subset
    {seen : Nat}
    {object : BacnetObjectId}
    (isAccepted : object ∈ plan.accepted seen) :
    object ∈ plan.listed :=
  List.mem_of_mem_take (List.mem_filter.mp isAccepted).1

/-- Below the limit there is an entry. -/
theorem entry_of_lt_limit
    {seen : Nat}
    (below : seen < plan.limit) :
    ∃ object, plan.listed[seen]? = some object :=
  ⟨_, List.getElem?_eq_getElem
    (Nat.lt_of_lt_of_le below (Nat.min_le_left _ _))⟩

end ScanPlan

namespace BacnetObjectListScanJob

variable (job : BacnetObjectListScanJob) (plan : ScanPlan)

/-- The job has collected what the first entries name. -/
structure Collects (seen : Nat) : Prop where
  options : job.options = plan.options
  hasResults : job.hasResults = plan.hasResults
  resultCapacity : job.resultCapacity = plan.resultCapacity
  count : job.result.objectListCount.toNat = plan.listed.length
  last : job.maxIndex.toNat = plan.limit
  stored : job.storedObjects = (plan.accepted seen).take plan.room
  filled : job.result.stored = job.results.length
  truncated :
    job.result.truncated = true ↔
      plan.options.maxObjectListEntries.toNat < plan.listed.length ∨
        plan.room < (plan.accepted seen).length

/-- The job goes on with the next entry, if there is one. -/
structure AtEntry (seen : Nat) : Prop extends job.Collects plan seen where
  next : job.currentIndex.toNat = seen + 1
  within : seen ≤ plan.limit
  noObject : job.hasCurrentStoreIndex = false

/-- The job goes on with the object that the last entry named. -/
structure AtObject (seen : Nat) : Prop extends job.Collects plan seen where
  current : job.currentIndex.toNat = seen
  within : seen ≤ plan.limit
  object : job.HasObject

/-- How many properties of the current object are still to be read. -/
def fieldsLeft : Nat :=
  job.currentScanned?.elim 0 fun scanned =>
    (ScanField.all.filter fun field =>
      job.needsField field scanned).length

/-- The job can go on, and the reads that are left are at most so many. -/
inductive CanAdvance : Nat → Prop where
  | entry
      {seen : Nat}
      (atEntry : job.AtEntry plan seen) :
      CanAdvance (4 * (plan.limit - seen))
  | object
      {seen : Nat}
      (atObject : job.AtObject plan seen) :
      CanAdvance (4 * (plan.limit - seen) + job.fieldsLeft)

/-- The job waits for an entry, or for a property of the current object. -/
inductive WaitsFor : Nat → Prop where
  | entry
      {seen : Nat}
      (phase : job.phase = .readObjectListEntry)
      (atEntry : job.AtEntry plan seen)
      (below : seen < plan.limit) :
      WaitsFor (4 * (plan.limit - seen))
  | field
      {seen : Nat}
      {field : ScanField}
      {scanned : BacnetScannedObject}
      (phase : job.phase = field.phase)
      (atObject : job.AtObject plan seen)
      (isCurrent : job.currentScanned? = some scanned)
      (needed : job.needsField field scanned = true) :
      WaitsFor (4 * (plan.limit - seen) + job.fieldsLeft)

variable {job plan}

/-- What was collected does not depend on the rest of the job. -/
theorem Collects.of_same
    {seen : Nat}
    (collects : job.Collects plan seen)
    {other : BacnetObjectListScanJob}
    (options : other.options = job.options)
    (hasResults : other.hasResults = job.hasResults)
    (resultCapacity : other.resultCapacity = job.resultCapacity)
    (result : other.result.objectListCount = job.result.objectListCount ∧
      other.result.stored = job.result.stored ∧
        other.result.truncated = job.result.truncated)
    (last : other.maxIndex = job.maxIndex)
    (results : other.storedObjects = job.storedObjects) :
    other.Collects plan seen := by
  have sameLength : other.results.length = job.results.length := by
    have lengths := congrArg List.length results
    rwa [storedObjects, List.length_map, storedObjects,
      List.length_map] at lengths
  obtain ⟨count, stored, truncated⟩ := result
  refine ⟨options.trans collects.options,
    hasResults.trans collects.hasResults,
    resultCapacity.trans collects.resultCapacity, ?_, ?_,
    results.trans collects.stored, ?_, ?_⟩
  · rw [count, collects.count]
  · rw [last, collects.last]
  · rw [stored, sameLength, collects.filled]
  · rw [truncated, collects.truncated]

/-- The length of the list was read. -/
theorem absorbCount_of_counting
    (counting : job.Counting)
    (options : job.options = plan.options)
    (hasResults : job.hasResults = plan.hasResults)
    (resultCapacity : job.resultCapacity = plan.resultCapacity)
    {value : BacnetValue}
    (isUnsigned : value.type = .unsigned)
    (isLength : value.unsignedValue.toNat = plan.listed.length) :
    ∃ job',
      job.absorbCount .ack (some value) = (.advance, job') ∧
        job'.AtEntry plan 0 ∧
        job'.status = job.status ∧
        job'.requestInFlight = job.requestInFlight := by
  have absorbed :
      ∃ job', job.absorbCount .ack (some value) = (.advance, job') := by
    simp [BacnetObjectListScanJob.absorbCount, isUnsigned]
  obtain ⟨job', shape⟩ := absorbed
  have kept := state_absorbCount job .ack (some value)
  rw [shape] at kept
  refine ⟨job', shape, ?_, kept⟩
  simp only [BacnetObjectListScanJob.absorbCount, isUnsigned, ne_eq,
    not_true_eq_false, if_false, Prod.mk.injEq, true_and] at shape
  have below :
      job.options.maxObjectListEntries < value.unsignedValue ↔
        plan.options.maxObjectListEntries.toNat < plan.listed.length := by
    rw [UInt32.lt_iff_toNat_lt, isLength, options]
  subst shape
  refine ⟨⟨options, hasResults, resultCapacity, isLength, ?_, ?_, ?_, ?_⟩,
    rfl, Nat.zero_le _, counting.noObject⟩
  · show (if _ then _ else _ : UInt32).toNat = _
    rw [ScanPlan.limit]
    split
    · rename_i fits
      rw [UInt32.lt_iff_toNat_lt, isLength, options] at fits
      omega
    · rename_i exceeds
      rw [UInt32.lt_iff_toNat_lt, isLength, options] at exceeds
      rw [options]
      omega
  · simp [storedObjects, counting.empty, ScanPlan.accepted]
  · show job.result.stored = job.results.length
    rw [counting.untouched, counting.empty]
    rfl
  · show (job.result.truncated || decide _) = true ↔ _
    rw [counting.untouched, Bool.false_or, decide_eq_true_iff, below]
    simp [ScanPlan.accepted]

/-- The counter does not wrap at an entry of the list. -/
theorem toNat_next
    {seen : Nat}
    {index : UInt32}
    (isIndex : index.toNat = seen)
    (within : seen ≤ plan.limit) :
    (index + 1).toNat = seen + 1 := by
  have indexable := plan.indexable
  have atMost : plan.limit ≤ plan.listed.length := Nat.min_le_left _ _
  have last : kBacnetNoArrayIndex.toNat = 4294967295 := rfl
  have sum : (index + 1).toNat = (index.toNat + 1) % 4294967296 :=
    UInt32.toNat_add _ _
  rw [sum, isIndex]
  exact Nat.mod_eq_of_lt (by omega)

/-- An entry that is not stored: the next one is looked at. -/
theorem Collects.atEntry_skipEntry
    {seen : Nat}
    (collects : job.Collects plan seen)
    (current : job.currentIndex.toNat = seen)
    (within : seen ≤ plan.limit) :
    AtEntry { job.skipEntry with hasCurrentStoreIndex := false } plan seen :=
  ⟨collects.of_same rfl rfl rfl ⟨rfl, rfl, rfl⟩ rfl rfl,
    toNat_next current within, within, rfl⟩

/-- An accepted object is stored as long as there is room. -/
theorem take_accepted_append
    (accepted : List BacnetObjectId)
    (object : BacnetObjectId)
    (room : Nat) :
    (accepted ++ [object]).take room =
      if accepted.length < room then accepted.take room ++ [object]
      else accepted.take room := by
  split
  · rename_i fits
    rw [List.take_of_length_le (by simp; omega),
      List.take_of_length_le (by omega)]
  · rename_i full
    exact List.take_append_of_le_length (by omega)

/-- The number of stored objects tells whether there is room for another. -/
theorem Collects.full_iff
    {seen : Nat}
    (collects : job.Collects plan seen) :
    (!job.hasResults || decide (job.resultCapacity ≤ job.result.stored)) =
        true ↔
      plan.room ≤ (plan.accepted seen).length := by
  have stored : job.result.stored =
      min plan.room (plan.accepted seen).length := by
    have lengths := congrArg List.length collects.stored
    rw [storedObjects, List.length_map, List.length_take] at lengths
    rw [collects.filled, lengths]
  rw [Bool.or_eq_true, Bool.not_eq_true', decide_eq_true_iff, stored,
    collects.hasResults, collects.resultCapacity]
  rw [ScanPlan.room]
  cases plan.hasResults with
  | true =>
      simp only [Bool.true_eq_false, false_or, if_true]
      omega
  | false => simp

/-- An entry of the list was read. -/
theorem absorbEntry_of_atEntry
    {seen : Nat}
    (atEntry : job.AtEntry plan seen)
    (below : seen < plan.limit)
    {object : BacnetObjectId}
    (found : plan.listed[seen]? = some object)
    {value : BacnetValue}
    (isObject : value.type = .objectIdentifier)
    (names : value.objectValue = object) :
    ∃ job',
      job.absorbEntry .ack (some value) = (.advance, job') ∧
        (job'.AtEntry plan (seen + 1) ∨ job'.AtObject plan (seen + 1)) := by
  have skipped := @toNat_next plan _ _ atEntry.next below
  have collected := ScanPlan.accepted_succ found
  have whenAccepted :
      job.options.acceptsObjectType value.objectValue =
        plan.options.acceptsObjectType object := by
    rw [atEntry.options, names]
  unfold BacnetObjectListScanJob.absorbEntry
  rw [if_neg (fun differs => differs rfl)]
  dsimp only
  rw [isObject, whenAccepted]
  by_cases accepted : plan.options.acceptsObjectType object = true
  · rw [if_pos ⟨rfl, accepted⟩]
    refine ⟨_, rfl, ?_⟩
    rw [if_pos accepted] at collected
    unfold absorbObject
    dsimp only
    split
    · rename_i full
      have noRoom := atEntry.full_iff.mp full
      left
      refine ⟨⟨atEntry.options, atEntry.hasResults,
        atEntry.resultCapacity, atEntry.count, atEntry.last, ?_,
        atEntry.filled, ?_⟩, skipped, below, rfl⟩
      · rw [collected, take_accepted_append, if_neg (by omega)]
        exact atEntry.stored
      · rw [collected, List.length_append]
        exact iff_of_true rfl (.inr (by simp; omega))
    · rename_i notFull
      have room : (plan.accepted seen).length < plan.room :=
        Nat.not_le.mp (fun noRoom => notFull (atEntry.full_iff.mpr noRoom))
      right
      refine ⟨⟨atEntry.options, atEntry.hasResults,
        atEntry.resultCapacity, atEntry.count, atEntry.last, ?_, ?_, ?_⟩,
        atEntry.next, below, ⟨rfl, ?_, ?_, ?_⟩⟩
      · rw [collected, take_accepted_append, if_pos room, ← atEntry.stored,
          storedObjects, List.map_append]
        simp [storedObjects, noteEntryRead, names]
      · simp [atEntry.filled, noteEntryRead]
      · rw [collected, List.length_append]
        have truncated := atEntry.truncated
        refine truncated.trans (or_congr_right ?_)
        simp only [List.length_singleton]
        omega
      · have notFull := Bool.not_eq_true _ ▸ notFull
        simp only [Bool.or_eq_false_iff, Bool.not_eq_false'] at notFull
        exact notFull.1
      · simp [atEntry.filled, noteEntryRead]
      · intro isZero
        have next := atEntry.next
        rw [show job.currentIndex = 0 from isZero] at next
        exact absurd next (by simp)
  · rw [if_neg (fun both => accepted both.2)]
    rw [if_neg accepted] at collected
    refine ⟨_, rfl, .inl ⟨⟨atEntry.options, atEntry.hasResults,
      atEntry.resultCapacity, atEntry.count, atEntry.last, ?_,
      atEntry.filled, ?_⟩, skipped, below, atEntry.noObject⟩⟩
    · rw [collected]
      exact atEntry.stored
    · rw [collected]
      exact atEntry.truncated

/-- The current object is one that was listed. -/
theorem AtObject.mem_listed
    {seen : Nat}
    (atObject : job.AtObject plan seen)
    {scanned : BacnetScannedObject}
    (isCurrent : job.currentScanned? = some scanned) :
    scanned.objectId ∈ plan.listed := by
  have found : job.results[job.currentStoreIndex]? = some scanned := by
    rw [currentScanned?, atObject.object.isCurrent,
      atObject.object.hasResults] at isCurrent
    exact isCurrent
  have isStored : scanned.objectId ∈ job.storedObjects :=
    List.mem_map_of_mem (List.mem_of_getElem? found)
  rw [atObject.stored] at isStored
  exact ScanPlan.accepted_subset (List.mem_of_mem_take isStored)

theorem AtObject.currentScanned
    {seen : Nat}
    (atObject : job.AtObject plan seen) :
    ∃ scanned, job.currentScanned? = some scanned := by
  rw [currentScanned?, atObject.object.isCurrent,
    atObject.object.hasResults]
  exact ⟨_, List.getElem?_eq_getElem atObject.object.inBuffer⟩

/-- An object whose property was read needs fewer. -/
theorem length_needed_store
    {field : ScanField}
    {scanned : BacnetScannedObject}
    (needed : job.needsField field scanned = true)
    {status : BacnetDeviceSessionReadStatus}
    (isDone : status ≠ .skipped)
    (value : Option BacnetValue) :
    (ScanField.all.filter fun other =>
        job.needsField other (field.store status value scanned)).length <
      (ScanField.all.filter fun other =>
        job.needsField other scanned).length := by
  have isField : field ∈ ScanField.all := by
    cases field <;> decide
  simp only [needsField_store isDone]
  simp only [Bool.and_comm, ← List.filter_filter]
  refine List.length_filter_lt_length_iff_exists.mpr ⟨field, ?_, ?_⟩
  · exact List.mem_filter.mpr ⟨isField, needed⟩
  · simp

/-- The read of a property of the current object has ended. -/
theorem absorbField_of_atObject
    {seen : Nat}
    (atObject : job.AtObject plan seen)
    {field : ScanField}
    {scanned : BacnetScannedObject}
    (isCurrent : job.currentScanned? = some scanned)
    (needed : job.needsField field scanned = true)
    {status : BacnetDeviceSessionReadStatus}
    (isDone : status ≠ .skipped)
    (value : Option BacnetValue) :
    (job.absorbField (some field) status value).AtObject plan seen ∧
      (job.absorbField (some field) status value).fieldsLeft <
        job.fieldsLeft := by
  have object := atObject.object.absorbField field status value
  have shape := atObject.object.absorbField_eq field status value
  have found : job.results[job.currentStoreIndex]? = some scanned := by
    rw [currentScanned?, atObject.object.isCurrent,
      atObject.object.hasResults] at isCurrent
    exact isCurrent
  rw [shape] at object ⊢
  refine ⟨⟨atObject.toCollects.of_same rfl rfl rfl ⟨rfl, rfl, rfl⟩ rfl
    (storedObjects_modify ..), atObject.current, atObject.within, object⟩,
    ?_⟩
  have stored :
      currentScanned?
          { job with
            results := job.results.modify job.currentStoreIndex
              (field.store status value) } =
        some (field.store status value scanned) := by
    rw [currentScanned?, atObject.object.isCurrent,
      atObject.object.hasResults]
    simp [found]
  rw [fieldsLeft, stored, fieldsLeft, isCurrent]
  exact length_needed_store needed isDone value

theorem fieldsLeft_le (job : BacnetObjectListScanJob) :
    job.fieldsLeft ≤ 3 := by
  rw [fieldsLeft]
  cases job.currentScanned? with
  | none => exact Nat.zero_le 3
  | some scanned => exact List.length_filter_le _ ScanField.all

/--
What a scan may be told: an entry is answered with its identifier, and every
read is answered or gone.
-/
structure Expects
    (plan : ScanPlan)
    (job : BacnetObjectListScanJob)
    (status : BacnetDeviceSessionReadStatus)
    (value : Option BacnetValue) : Prop where
  isDone : status ≠ .skipped
  entry :
    job.phase = .readObjectListEntry →
      status = .ack ∧
        ∃ object received,
          plan.listed[job.currentIndex.toNat - 1]? = some object ∧
            value = some received ∧
            received.type = .objectIdentifier ∧
            received.objectValue = object

/-- The reads in flight are no part of what was collected. -/
theorem Collects.withRequest
    {seen : Nat}
    (collects : job.Collects plan seen)
    (phase : BacnetObjectListScanPhase)
    (request : BacnetPropertyRequest)
    (invokeId : UInt8)
    (startedAtMs : UInt32)
    (inFlight : Bool) :
    Collects
      { job with
        phase := phase
        inFlightRequest := request
        inFlightInvokeId := invokeId
        inFlightStartedAtMs := startedAtMs
        requestInFlight := inFlight } plan seen :=
  collects.of_same rfl rfl rfl ⟨rfl, rfl, rfl⟩ rfl rfl

theorem AtEntry.withRequest
    {seen : Nat}
    (atEntry : job.AtEntry plan seen)
    (phase : BacnetObjectListScanPhase)
    (request : BacnetPropertyRequest)
    (invokeId : UInt8)
    (startedAtMs : UInt32)
    (inFlight : Bool) :
    AtEntry
      { job with
        phase := phase
        inFlightRequest := request
        inFlightInvokeId := invokeId
        inFlightStartedAtMs := startedAtMs
        requestInFlight := inFlight } plan seen :=
  ⟨atEntry.toCollects.withRequest _ _ _ _ _, atEntry.next, atEntry.within,
    atEntry.noObject⟩

theorem AtObject.withRequest
    {seen : Nat}
    (atObject : job.AtObject plan seen)
    (phase : BacnetObjectListScanPhase)
    (request : BacnetPropertyRequest)
    (invokeId : UInt8)
    (startedAtMs : UInt32)
    (inFlight : Bool) :
    AtObject
      { job with
        phase := phase
        inFlightRequest := request
        inFlightInvokeId := invokeId
        inFlightStartedAtMs := startedAtMs
        requestInFlight := inFlight } plan seen :=
  ⟨atObject.toCollects.withRequest _ _ _ _ _, atObject.current,
    atObject.within, atObject.object.withRequest _ _ _ _ _⟩

/-- Every read that ends leaves fewer reads. -/
theorem WaitsFor.absorbRead
    {left : Nat}
    (waits : job.WaitsFor plan left)
    (active : job.status = .active)
    {status : BacnetDeviceSessionReadStatus}
    {value : Option BacnetValue}
    (expected : Expects plan job status value) :
    ∃ job' fewer,
      job.absorbRead status value = (.advance, job') ∧
        job'.CanAdvance plan fewer ∧
        fewer < left ∧
        job'.status = .active ∧
        job'.requestInFlight = false := by
  cases waits with
  | entry phase atEntry below =>
      rename_i seen
      obtain ⟨rfl, object, received, found, rfl, isObject, names⟩ :=
        expected.entry phase
      rw [atEntry.next, Nat.add_sub_cancel] at found
      have cleared :=
        atEntry.withRequest job.phase job.inFlightRequest 0 0 false
      obtain ⟨job', shape, goesOn⟩ :=
        absorbEntry_of_atEntry cleared below found isObject names
      have kept :=
        state_absorbEntry job.clearInFlightState .ack (some received)
      change job.clearInFlightState.absorbEntry .ack (some received) = _
        at shape
      rw [shape] at kept
      have absorbs : job.absorbRead .ack (some received) =
          (.advance, job') :=
        (absorbRead_entry phase _ _).trans shape
      rcases goesOn with atNext | atObject
      · exact ⟨job', _, absorbs, .entry atNext, by omega,
          kept.1.trans active, kept.2⟩
      · have few := job'.fieldsLeft_le
        exact ⟨job', _, absorbs, .object atObject, by omega,
          kept.1.trans active, kept.2⟩
  | field phase atObject isCurrent needed =>
      rename_i seen field scanned
      have cleared :=
        atObject.withRequest job.phase job.inFlightRequest 0 0 false
      obtain ⟨after, fewer⟩ :=
        absorbField_of_atObject cleared isCurrent needed expected.isDone
          value
      have absorbs := absorbRead_field phase status value
      have shape := cleared.object.absorbField_eq field status value
      refine ⟨_, _, absorbs, .object after, Nat.add_lt_add_left fewer _,
        ?_, ?_⟩
      · exact (congrArg BacnetObjectListScanJob.status shape).trans active
      · exact congrArg BacnetObjectListScanJob.requestInFlight shape

/-- No read moves a job to another session. -/
theorem session_absorbRead
    (job : BacnetObjectListScanJob)
    (status : BacnetDeviceSessionReadStatus)
    (value : Option BacnetValue) :
    (job.absorbRead status value).2.session = job.session := by
  unfold BacnetObjectListScanJob.absorbRead
  dsimp only
  split
  · unfold BacnetObjectListScanJob.absorbCount
    dsimp only
    split
    · rfl
    · split
      · rfl
      · split <;> rfl
  · split
    · unfold BacnetObjectListScanJob.absorbEntry
      dsimp only
      split
      · rfl
      · split
        · rfl
        · split
          · unfold absorbObject
            split <;> rfl
          · rfl
    · unfold BacnetObjectListScanJob.absorbField
      split
      · rfl
      · split <;> rfl

end BacnetObjectListScanJob

end BacnetStack
