import BacnetStack.ClientScan

namespace BacnetStack

/-!
# What a scan has covered

A scan walks through the entries of an Object_List in order.  The invariant
relates the counter, the reads that have ended and the stored objects: every
entry below the counter was read, and every accepted object among them is
stored unless the result says that it is truncated.
-/

namespace BacnetObjectListScanJob

variable (job : BacnetObjectListScanJob)

/-- The object an entry names, if the scan is interested in it. -/
def acceptedObject?
    (options : BacnetObjectScanOptions)
    (value : Option BacnetValue) : Option BacnetObjectId :=
  value.bind fun value =>
    if value.type = .objectIdentifier ∧
        options.acceptsObjectType value.objectValue = true then
      some value.objectValue
    else
      none

/-- The objects the caller's buffer holds. -/
def storedObjects : List BacnetObjectId :=
  job.results.map (·.objectId)

/-- The entry the scan looks at next; the counter wraps behind the last one. -/
def nextEntry : Nat :=
  if job.currentIndex = 0 then 2 ^ 32 else job.currentIndex.toNat

/-- The read of an entry was answered. -/
def WasRead (entry : Nat) : Prop :=
  ∃ read ∈ job.entryReads, read.index.toNat = entry ∧ read.status = .ack

/-- No entry that the scan asked for was left unanswered. -/
def AllReadsAnswered : Prop :=
  ∀ read ∈ job.entryReads, read.status = .ack

/-- Every accepted object the answers named is in the buffer. -/
def AllStored : Prop :=
  ∀ read ∈ job.entryReads, read.status = .ack →
    ∀ object ∈ acceptedObject? job.options read.value,
      object ∈ job.storedObjects

/-- The result says so when the buffer or the limit was too small. -/
structure Truthful : Prop where
  limit :
    job.result.truncated = true ∨
      job.maxIndex = job.result.objectListCount
  withinCount : job.maxIndex ≤ job.result.objectListCount
  stored : job.result.truncated = true ∨ job.AllStored

/-- The entries below a bound were read, and no others were asked for. -/
structure Listing (bound : Nat) : Prop extends job.Truthful where
  covered : ∀ entry, 1 ≤ entry → entry < bound → job.WasRead entry
  answered : job.AllReadsAnswered
  below : ∀ read ∈ job.entryReads, read.index.toNat < bound
  filled : job.result.stored = job.results.length

/-- The properties of a stored object are being read. -/
structure HasObject : Prop where
  isCurrent : job.hasCurrentStoreIndex = true
  hasResults : job.hasResults = true
  inBuffer : job.currentStoreIndex < job.results.length
  nonzero : job.currentIndex ≠ 0

/-- The scan can go on: with the next entry or with a stored object. -/
inductive Ready : Prop where
  | entry
      (listing : job.Listing job.nextEntry)
      (noObject : job.hasCurrentStoreIndex = false)
  | object
      (listing : job.Listing (job.currentIndex.toNat + 1))
      (object : job.HasObject)

/-- The scan waits for the length of the list. -/
structure Counting : Prop where
  untouched : job.result = {}
  noReads : job.entryReads = []
  noObject : job.hasCurrentStoreIndex = false
  empty : job.results = []

/-- An active job waits for the answer to one of its reads. -/
inductive Waiting : Prop where
  | count
      (phase : job.phase = .readObjectListCount)
      (counting : job.Counting)
  | entry
      (phase : job.phase = .readObjectListEntry)
      (listing : job.Listing job.nextEntry)
      (noObject : job.hasCurrentStoreIndex = false)
      (remaining : job.isExhausted = false)
  | field
      (field : ScanField)
      (phase : job.phase = field.phase)
      (listing : job.Listing (job.currentIndex.toNat + 1))
      (object : job.HasObject)

/--
A complete scan went through all entries, or broke off at one that was not
answered.
-/
structure Finished : Prop extends job.Truthful where
  outcome :
    (job.AllReadsAnswered ∧
      ∀ entry, 1 ≤ entry → entry ≤ job.maxIndex.toNat →
        job.WasRead entry) ∨
    (¬job.AllReadsAnswered ∧
      ∃ entry, 1 ≤ entry ∧ entry ≤ job.maxIndex.toNat ∧
        ¬job.WasRead entry)

/-- The invariant of a job between two calls. -/
structure Sound : Prop where
  active :
    job.status = .active → job.requestInFlight = true ∧ job.Waiting
  complete : job.status = .complete → job.Finished

variable {job}

/-- The counter stays below its wrap until the last possible entry. -/
theorem nextEntry_of_nonzero
    (nonzero : job.currentIndex ≠ 0) :
    job.nextEntry = job.currentIndex.toNat :=
  if_neg nonzero

theorem nextEntry_skipEntry :
    job.skipEntry.nextEntry = job.currentIndex.toNat + 1 := by
  have bound := job.currentIndex.toNat_lt
  have sum : (job.currentIndex + 1).toNat =
      (job.currentIndex.toNat + 1) % 2 ^ 32 :=
    UInt32.toNat_add _ _
  show (if job.currentIndex + 1 = 0 then 2 ^ 32
    else (job.currentIndex + 1).toNat) = _
  split
  · rename_i wrapped
    rw [wrapped, UInt32.toNat_zero] at sum
    omega
  · rename_i unwrapped
    have positive : (job.currentIndex + 1).toNat ≠ 0 :=
      fun isZero => unwrapped (UInt32.toNat_inj.mp isZero)
    omega

/-- A scan that is not exhausted has an entry to read. -/
theorem entry_of_remaining
    (remaining : job.isExhausted = false) :
    job.currentIndex ≠ 0 ∧
      job.currentIndex.toNat ≤ job.maxIndex.toNat := by
  obtain ⟨nonzero, notAbove⟩ := Bool.or_eq_false_iff.mp remaining
  exact ⟨beq_eq_false_iff_ne.mp nonzero,
    UInt32.le_iff_toNat_le.mp
      (UInt32.not_lt.mp (of_decide_eq_false notAbove))⟩

/-- A job that went through all entries has covered the list. -/
theorem covered_of_exhausted
    (exhausted : job.isExhausted = true) :
    job.maxIndex.toNat < job.nextEntry := by
  have bound := job.maxIndex.toNat_lt
  unfold nextEntry
  split
  · exact bound
  · rename_i nonzero
    rcases Bool.or_eq_true_iff.mp exhausted with isZero | isAbove
    · exact absurd (eq_of_beq isZero) nonzero
    · exact UInt32.lt_iff_toNat_lt.mp (of_decide_eq_true isAbove)

/-- The state of a request is no part of what was covered. -/
theorem Listing.withRequest
    {bound : Nat}
    (listing : job.Listing bound)
    (phase : BacnetObjectListScanPhase)
    (request : BacnetPropertyRequest)
    (invokeId : UInt8)
    (startedAtMs : UInt32)
    (inFlight : Bool) :
    Listing
      { job with
        phase := phase
        inFlightRequest := request
        inFlightInvokeId := invokeId
        inFlightStartedAtMs := startedAtMs
        requestInFlight := inFlight } bound :=
  ⟨⟨listing.limit, listing.withinCount, listing.stored⟩, listing.covered,
    listing.answered, listing.below, listing.filled⟩

theorem HasObject.withRequest
    (object : job.HasObject)
    (phase : BacnetObjectListScanPhase)
    (request : BacnetPropertyRequest)
    (invokeId : UInt8)
    (startedAtMs : UInt32)
    (inFlight : Bool) :
    HasObject
      { job with
        phase := phase
        inFlightRequest := request
        inFlightInvokeId := invokeId
        inFlightStartedAtMs := startedAtMs
        requestInFlight := inFlight } :=
  ⟨object.isCurrent, object.hasResults, object.inBuffer, object.nonzero⟩

/-- Going on to the next entry keeps what was covered. -/
theorem Listing.skipEntry
    (listing : job.Listing (job.currentIndex.toNat + 1))
    (isCurrent : Bool) :
    Listing { job.skipEntry with hasCurrentStoreIndex := isCurrent }
      job.skipEntry.nextEntry := by
  rw [nextEntry_skipEntry]
  exact ⟨⟨listing.limit, listing.withinCount, listing.stored⟩,
    listing.covered, listing.answered, listing.below, listing.filled⟩

theorem Listing.ready_skipEntry
    (listing : job.Listing (job.currentIndex.toNat + 1))
    (noObject : job.hasCurrentStoreIndex = false) :
    job.skipEntry.Ready :=
  .entry (listing.skipEntry job.hasCurrentStoreIndex) noObject

/-- The length of the list was read. -/
theorem Counting.absorbCount
    (counting : job.Counting)
    {status : BacnetDeviceSessionReadStatus}
    {value : Option BacnetValue}
    {job' : BacnetObjectListScanJob}
    (absorbed : job.absorbCount status value = (.advance, job')) :
    job'.Ready := by
  unfold BacnetObjectListScanJob.absorbCount at absorbed
  dsimp only at absorbed
  split at absorbed
  · exact nomatch (Prod.mk.inj absorbed).1
  · split at absorbed
    · exact nomatch (Prod.mk.inj absorbed).1
    · split at absorbed
      · exact nomatch (Prod.mk.inj absorbed).1
      · obtain ⟨-, rfl⟩ := Prod.mk.inj absorbed
        have noRead (read : ScanEntryRead) : read ∉ job.entryReads := by
          rw [counting.noReads]
          exact List.not_mem_nil
        refine .entry ⟨⟨?_, ?_, .inr ?_⟩, ?_, ?_, ?_, ?_⟩ counting.noObject
        · dsimp only
          split
          · exact .inr rfl
          · rename_i notBelow
            have atMost := UInt32.le_iff_toNat_le.mp
              (UInt32.not_lt.mp notBelow)
            rcases Nat.lt_or_eq_of_le atMost with above | same
            · left
              rw [decide_eq_true (UInt32.lt_iff_toNat_lt.mpr above),
                Bool.or_true]
            · exact .inr (UInt32.toNat_inj.mp same)
        · dsimp only
          split
          · exact UInt32.le_refl _
          · rename_i notBelow
            exact UInt32.not_lt.mp notBelow
        · intro read isMember
          exact absurd isMember (noRead read)
        · intro entry isPositive isBelow
          exact absurd isBelow (Nat.not_lt.mpr isPositive)
        · intro read isMember
          exact absurd isMember (noRead read)
        · intro read isMember
          exact absurd isMember (noRead read)
        · rw [counting.untouched, counting.empty]
          rfl

/-- An answered read of the current entry extends what is covered. -/
theorem Listing.noteEntryRead
    (listing : job.Listing job.nextEntry)
    (nonzero : job.currentIndex ≠ 0)
    {value : Option BacnetValue}
    {job' : BacnetObjectListScanJob}
    (reads :
      job'.entryReads = (job.noteEntryRead .ack value).entryReads)
    (truthful : job'.Truthful)
    (filled : job'.result.stored = job'.results.length) :
    job'.Listing (job.currentIndex.toNat + 1) := by
  rw [nextEntry_of_nonzero nonzero] at listing
  refine ⟨truthful, ?_, ?_, ?_, filled⟩
  · intro entry isPositive isBelow
    unfold WasRead
    rw [reads]
    rcases Nat.lt_or_eq_of_le (Nat.le_of_lt_succ isBelow) with
      isEarlier | rfl
    · obtain ⟨read, isMember, answered⟩ :=
        listing.covered entry isPositive isEarlier
      exact ⟨read, List.mem_cons_of_mem _ isMember, answered⟩
    · exact ⟨_, List.mem_cons_self, rfl, rfl⟩
  · unfold AllReadsAnswered
    rw [reads]
    intro read isMember
    rcases List.mem_cons.mp isMember with rfl | isEarlier
    · rfl
    · exact listing.answered read isEarlier
  · rw [reads]
    intro read isMember
    rcases List.mem_cons.mp isMember with rfl | isEarlier
    · exact Nat.lt_succ_self _
    · exact Nat.lt_succ_of_lt (listing.below read isEarlier)

/-- An answer is accounted for by the buffer or by the truncation. -/
theorem stored_noteEntryRead
    (stored : job.result.truncated = true ∨ job.AllStored)
    {status : BacnetDeviceSessionReadStatus}
    {value : Option BacnetValue}
    {job' : BacnetObjectListScanJob}
    (options : job'.options = job.options)
    (reads :
      job'.entryReads = (job.noteEntryRead status value).entryReads)
    (truncated :
      job.result.truncated = true → job'.result.truncated = true)
    (kept : job.storedObjects ⊆ job'.storedObjects)
    (accounted :
      job'.result.truncated = true ∨
        (status = .ack →
          ∀ object ∈ acceptedObject? job.options value,
            object ∈ job'.storedObjects)) :
    job'.result.truncated = true ∨ job'.AllStored := by
  rcases stored with isTruncated | allStored
  · exact .inl (truncated isTruncated)
  · rcases accounted with isTruncated | isStored
    · exact .inl isTruncated
    · right
      unfold AllStored
      rw [reads, options]
      intro read isMember answered object accepted
      rcases List.mem_cons.mp isMember with rfl | isEarlier
      · exact isStored answered object accepted
      · exact kept (allStored read isEarlier answered object accepted)

/-- The end of the read of an entry that was answered. -/
theorem Listing.absorbEntry
    (listing : job.Listing job.nextEntry)
    (noObject : job.hasCurrentStoreIndex = false)
    (nonzero : job.currentIndex ≠ 0)
    {value : Option BacnetValue}
    {job' : BacnetObjectListScanJob}
    (absorbed : job.absorbEntry .ack value = (.advance, job')) :
    job'.Ready := by
  -- An entry that names no object the scan asks for is only counted.
  have passed
      (unwanted : acceptedObject? job.options value = none)
      {inspected : BacnetObjectListScanJob}
      (shape :
        inspected = {
          job.noteEntryRead .ack value with
          result := {
            job.result with inspected := job.result.inspected + 1
          }
        }) :
      inspected.skipEntry.Ready := by
    subst shape
    refine Listing.ready_skipEntry
      (listing.noteEntryRead nonzero rfl ?_ listing.filled) noObject
    refine ⟨listing.limit, listing.withinCount,
      stored_noteEntryRead listing.stored rfl rfl (fun known => known)
        (List.Subset.refl _) (.inr ?_)⟩
    intro _ object accepted
    rw [unwanted] at accepted
    exact absurd accepted (Option.not_mem_none object)
  unfold BacnetObjectListScanJob.absorbEntry at absorbed
  rw [if_neg (fun differs => differs rfl)] at absorbed
  split at absorbed
  · obtain ⟨-, rfl⟩ := Prod.mk.inj absorbed
    exact passed rfl rfl
  · rename_i value
    split at absorbed
    · rename_i accepted
      obtain ⟨-, rfl⟩ := Prod.mk.inj absorbed
      have named :
          acceptedObject? job.options (some value) =
            some value.objectValue :=
        if_pos accepted
      unfold BacnetObjectListScanJob.absorbObject
      split
      · -- There is no room, and the result says so.
        refine Listing.ready_skipEntry
          (listing.noteEntryRead nonzero rfl ?_ listing.filled) rfl
        exact ⟨.inl rfl, listing.withinCount, .inl rfl⟩
      · rename_i room
        have hasResults : job.hasResults = true := by
          have both := Bool.or_eq_false_iff.mp
            (Bool.eq_false_iff.mpr room)
          exact Bool.not_eq_eq_eq_not.mp both.1
        refine .object
          (listing.noteEntryRead nonzero rfl ?_ ?_)
          ⟨rfl, hasResults, ?_, nonzero⟩
        · refine ⟨listing.limit, listing.withinCount,
            stored_noteEntryRead listing.stored rfl rfl
              (fun known => known) ?_ (.inr ?_)⟩
          · intro object isMember
            show object ∈ List.map _ (job.results ++ [_])
            rw [List.map_append]
            exact List.mem_append_left _ isMember
          · intro _ object isAccepted
            rw [named] at isAccepted
            obtain rfl := Option.mem_some_iff.mp isAccepted
            show value.objectValue ∈ List.map _ (job.results ++ [_])
            rw [List.map_append]
            exact List.mem_append_right _ List.mem_cons_self
        · show job.result.stored + 1 = (job.results ++ [_]).length
          rw [List.length_append, listing.filled]
          rfl
        · show job.result.stored < (job.results ++ [_]).length
          rw [List.length_append, listing.filled]
          exact Nat.lt_succ_self _
    · rename_i rejected
      obtain ⟨-, rfl⟩ := Prod.mk.inj absorbed
      exact passed (if_neg rejected) rfl

/-- A read of an entry that was not answered breaks the scan off. -/
theorem Listing.finished_of_unanswered
    (listing : job.Listing job.nextEntry)
    (remaining : job.isExhausted = false)
    {status : BacnetDeviceSessionReadStatus}
    (unanswered : status ≠ .ack)
    (value : Option BacnetValue) :
    (job.noteEntryRead status value).Finished := by
  obtain ⟨nonzero, within⟩ := entry_of_remaining remaining
  rw [nextEntry_of_nonzero nonzero] at listing
  refine ⟨⟨listing.limit, listing.withinCount,
    stored_noteEntryRead listing.stored rfl rfl (fun known => known)
      (List.Subset.refl _)
      (.inr fun answered => absurd answered unanswered)⟩, .inr ⟨?_, ?_⟩⟩
  · intro allAnswered
    exact unanswered (allAnswered _ List.mem_cons_self)
  · refine ⟨job.currentIndex.toNat, ?_, within, ?_⟩
    · exact Nat.pos_of_ne_zero fun isZero =>
        nonzero (UInt32.toNat_inj.mp isZero)
    · rintro ⟨read, isMember, isEntry, answered⟩
      rcases List.mem_cons.mp isMember with rfl | isEarlier
      · exact unanswered answered
      · exact absurd isEntry (Nat.ne_of_lt (listing.below read isEarlier))

/-- A scan that went through all entries has covered them. -/
theorem Listing.finished_of_exhausted
    (listing : job.Listing job.nextEntry)
    (exhausted : job.isExhausted = true) :
    job.Finished :=
  ⟨listing.toTruthful, .inl ⟨listing.answered, fun entry isPositive atMost =>
    listing.covered entry isPositive
      (Nat.lt_of_le_of_lt atMost (covered_of_exhausted exhausted))⟩⟩

/-- The final status of a job is no part of what was covered. -/
theorem Finished.ended
    (finished : job.Finished)
    (status : BacnetObjectListScanJobStatus)
    (phase : BacnetObjectListScanPhase) :
    Finished
      { job.clearInFlightState with status := status, phase := phase } :=
  ⟨⟨finished.limit, finished.withinCount, finished.stored⟩,
    finished.outcome⟩

/-- The property that was read of a stored object is no part of it either. -/
theorem storedObjects_modify
    (results : List BacnetScannedObject)
    (index : Nat)
    (field : ScanField)
    (status : BacnetDeviceSessionReadStatus)
    (value : Option BacnetValue) :
    (results.modify index (field.store status value)).map
        (fun scanned => scanned.objectId) =
      results.map (fun scanned => scanned.objectId) := by
  have kept (scanned : BacnetScannedObject) :
      (field.store status value scanned).objectId = scanned.objectId := by
    cases field <;> rfl
  induction results generalizing index with
  | nil => simp
  | cons first rest inductionHypothesis =>
      cases index with
      | zero => simp [kept]
      | succ index => simp [inductionHypothesis]

/-- The end of the read of a property of a stored object. -/
theorem HasObject.absorbField_eq
    (object : job.HasObject)
    (field : ScanField)
    (status : BacnetDeviceSessionReadStatus)
    (value : Option BacnetValue) :
    job.absorbField (some field) status value = {
      job with
      results :=
        job.results.modify job.currentStoreIndex (field.store status value)
    } := by
  unfold BacnetObjectListScanJob.absorbField
  rw [object.isCurrent, object.hasResults]
  rfl

theorem HasObject.absorbField
    (object : job.HasObject)
    (field : ScanField)
    (status : BacnetDeviceSessionReadStatus)
    (value : Option BacnetValue) :
    (job.absorbField (some field) status value).HasObject := by
  rw [object.absorbField_eq]
  refine ⟨object.isCurrent, object.hasResults, ?_, object.nonzero⟩
  show job.currentStoreIndex < (job.results.modify _ _).length
  rw [List.length_modify]
  exact object.inBuffer

theorem Listing.absorbField
    (listing : job.Listing (job.currentIndex.toNat + 1))
    (object : job.HasObject)
    (field : ScanField)
    (status : BacnetDeviceSessionReadStatus)
    (value : Option BacnetValue) :
    (job.absorbField (some field) status value).Listing
      (job.currentIndex.toNat + 1) := by
  rw [object.absorbField_eq]
  refine ⟨⟨listing.limit, listing.withinCount, ?_⟩, listing.covered,
    listing.answered, listing.below,
    listing.filled.trans (List.length_modify ..).symm⟩
  rcases listing.stored with isTruncated | allStored
  · exact .inl isTruncated
  · right
    intro read isMember answered found accepted
    have isStored := allStored read isMember answered found accepted
    show found ∈ (job.results.modify _ _).map _
    rw [storedObjects_modify]
    exact isStored

/-- An active job whose stored object is being read. -/
structure ReadsObject (job : BacnetObjectListScanJob) : Prop where
  listing : job.Listing (job.currentIndex.toNat + 1)
  object : job.HasObject
  active : job.status = .active

theorem ReadsObject.withRequest
    (reads : job.ReadsObject)
    (phase : BacnetObjectListScanPhase)
    (request : BacnetPropertyRequest)
    (invokeId : UInt8)
    (startedAtMs : UInt32)
    (inFlight : Bool) :
    ReadsObject
      { job with
        phase := phase
        inFlightRequest := request
        inFlightInvokeId := invokeId
        inFlightStartedAtMs := startedAtMs
        requestInFlight := inFlight } :=
  ⟨reads.listing.withRequest phase request invokeId startedAtMs inFlight,
    reads.object.withRequest phase request invokeId startedAtMs inFlight,
    reads.active⟩

theorem ReadsObject.absorbField
    (reads : job.ReadsObject)
    (field : ScanField)
    (status : BacnetDeviceSessionReadStatus)
    (value : Option BacnetValue) :
    (job.clearInFlightState.absorbField (some field) status
      value).ReadsObject := by
  have cleared : job.clearInFlightState.ReadsObject :=
    reads.withRequest job.phase job.inFlightRequest 0 0 false
  have listing :=
    cleared.listing.absorbField cleared.object field status value
  have object := cleared.object.absorbField field status value
  rw [cleared.object.absorbField_eq] at listing object ⊢
  exact ⟨listing, object, reads.active⟩

/-- The phase of a property tells which property it is. -/
theorem ofPhase?_phase (field : ScanField) :
    ScanField.ofPhase? field.phase = some field := by
  cases field <;> rfl

/-- A property is read once, whatever comes of it. -/
theorem needsField_store
    {field other : ScanField}
    {status : BacnetDeviceSessionReadStatus}
    (isDone : status ≠ .skipped)
    (value : Option BacnetValue)
    (scanned : BacnetScannedObject) :
    job.needsField other (field.store status value scanned) =
      (job.needsField other scanned && !(field == other)) := by
  have notSkipped : (status == .skipped) = false :=
    beq_eq_false_iff_ne.mpr isDone
  cases field <;> cases other <;>
    simp [needsField, ScanField.store, ScanField.status, notSkipped]

/-- The end of a read in the phase of a property. -/
theorem absorbRead_field
    {field : ScanField}
    (phase : job.phase = field.phase)
    (status : BacnetDeviceSessionReadStatus)
    (value : Option BacnetValue) :
    job.absorbRead status value =
      (.advance,
        job.clearInFlightState.absorbField (some field) status value) := by
  unfold BacnetObjectListScanJob.absorbRead
  rw [phase, ofPhase?_phase]
  cases field <;> rfl

/-- The end of a read of the length of the list. -/
theorem absorbRead_count
    (phase : job.phase = .readObjectListCount)
    (status : BacnetDeviceSessionReadStatus)
    (value : Option BacnetValue) :
    job.absorbRead status value =
      job.clearInFlightState.absorbCount status value := by
  unfold BacnetObjectListScanJob.absorbRead
  rw [phase]
  rfl

/-- The end of a read of an entry of the list. -/
theorem absorbRead_entry
    (phase : job.phase = .readObjectListEntry)
    (status : BacnetDeviceSessionReadStatus)
    (value : Option BacnetValue) :
    job.absorbRead status value =
      job.clearInFlightState.absorbEntry status value := by
  unfold BacnetObjectListScanJob.absorbRead
  rw [phase]
  rfl

/-- What the end of a read makes of a waiting job. -/
inductive Absorbed : ScanStep × BacnetObjectListScanJob → Prop where
  | advance
      {job' : BacnetObjectListScanJob}
      (ready : job'.Ready)
      (active : job'.status = .active)
      (idle : job'.requestInFlight = false) :
      Absorbed (.advance, job')
  | complete
      {job' : BacnetObjectListScanJob}
      (finished : job'.Finished) :
      Absorbed (.complete, job')
  | fail {job' : BacnetObjectListScanJob} : Absorbed (.fail, job')

/-- No end of a read ends a job by itself, or starts another read. -/
theorem state_absorbCount
    (job : BacnetObjectListScanJob)
    (status : BacnetDeviceSessionReadStatus)
    (value : Option BacnetValue) :
    (job.absorbCount status value).2.status = job.status ∧
      (job.absorbCount status value).2.requestInFlight =
        job.requestInFlight := by
  unfold BacnetObjectListScanJob.absorbCount
  dsimp only
  split
  · exact ⟨rfl, rfl⟩
  · split
    · exact ⟨rfl, rfl⟩
    · split
      · exact ⟨rfl, rfl⟩
      · exact ⟨rfl, rfl⟩

theorem state_absorbEntry
    (job : BacnetObjectListScanJob)
    (status : BacnetDeviceSessionReadStatus)
    (value : Option BacnetValue) :
    (job.absorbEntry status value).2.status = job.status ∧
      (job.absorbEntry status value).2.requestInFlight =
        job.requestInFlight := by
  unfold BacnetObjectListScanJob.absorbEntry
  dsimp only
  split
  · exact ⟨rfl, rfl⟩
  · split
    · exact ⟨rfl, rfl⟩
    · split
      · unfold absorbObject
        split
        · exact ⟨rfl, rfl⟩
        · exact ⟨rfl, rfl⟩
      · exact ⟨rfl, rfl⟩

/-- An answered entry never ends the scan. -/
theorem step_absorbEntry_ack
    (job : BacnetObjectListScanJob)
    (value : Option BacnetValue) :
    (job.absorbEntry .ack value).1 = .advance := by
  unfold BacnetObjectListScanJob.absorbEntry
  rw [if_neg (fun differs => differs rfl)]
  split
  · rfl
  · split
    · rfl
    · rfl

/-- The length of a list never completes the scan. -/
theorem step_absorbCount
    (job : BacnetObjectListScanJob)
    (status : BacnetDeviceSessionReadStatus)
    (value : Option BacnetValue) :
    (job.absorbCount status value).1 ≠ .complete := by
  unfold BacnetObjectListScanJob.absorbCount
  dsimp only
  split
  · exact ScanStep.noConfusion
  · split
    · exact ScanStep.noConfusion
    · split
      · exact ScanStep.noConfusion
      · exact ScanStep.noConfusion

theorem Waiting.absorbRead
    (waiting : job.Waiting)
    (active : job.status = .active)
    (status : BacnetDeviceSessionReadStatus)
    (value : Option BacnetValue) :
    Absorbed (job.absorbRead status value) := by
  cases waiting with
  | count phase counting =>
      rw [absorbRead_count phase]
      have cleared : job.clearInFlightState.Counting :=
        ⟨counting.untouched, counting.noReads, counting.noObject,
          counting.empty⟩
      obtain ⟨keptStatus, keptIdle⟩ :=
        state_absorbCount job.clearInFlightState status value
      have incomplete :=
        step_absorbCount job.clearInFlightState status value
      cases shape :
          job.clearInFlightState.absorbCount status value with
      | mk step job' =>
          rw [shape] at keptStatus keptIdle incomplete
          cases step with
          | advance =>
              exact .advance (cleared.absorbCount shape)
                (keptStatus.trans active) keptIdle
          | complete => exact absurd rfl incomplete
          | fail => exact .fail
  | entry phase listing noObject remaining =>
      rw [absorbRead_entry phase]
      have cleared :
          job.clearInFlightState.Listing
            job.clearInFlightState.nextEntry :=
        listing.withRequest job.phase job.inFlightRequest 0 0 false
      by_cases answered : status = .ack
      · subst answered
        obtain ⟨keptStatus, keptIdle⟩ :=
          state_absorbEntry job.clearInFlightState .ack value
        have advances :=
          step_absorbEntry_ack job.clearInFlightState value
        cases shape :
            job.clearInFlightState.absorbEntry .ack value with
        | mk step job' =>
            rw [shape] at keptStatus keptIdle advances
            cases advances
            have ready := cleared.absorbEntry noObject
              (entry_of_remaining remaining).1 shape
            exact .advance ready (keptStatus.trans active) keptIdle
      · have finished :=
          cleared.finished_of_unanswered remaining answered value
        unfold BacnetObjectListScanJob.absorbEntry
        rw [if_pos answered]
        exact .complete finished
  | field field phase listing object =>
      rw [absorbRead_field phase]
      have reads : job.ReadsObject := ⟨listing, object, active⟩
      have after := reads.absorbField field status value
      have kept : job.clearInFlightState.HasObject :=
        object.withRequest job.phase job.inFlightRequest 0 0 false
      refine .advance (.object after.listing after.object) after.active ?_
      rw [kept.absorbField_eq]
      rfl

end BacnetObjectListScanJob

/-! The functions of a session that change a scan. -/

namespace ClientSystem

variable {τ : Type} (runtime : ClientRuntime τ)

open BacnetObjectListScanJob

/-- Every job is sound. -/
def SoundScans (system : ClientSystem τ) : Prop :=
  ∀ scan, (system.scans scan).Sound

/-- Every other job is sound. -/
def SoundBeside (system : ClientSystem τ) (scan : ScanId) : Prop :=
  ∀ other, other ≠ scan → (system.scans other).Sound

theorem scans_setScan_self
    (system : ClientSystem τ)
    (scan : ScanId)
    (job : BacnetObjectListScanJob) :
    (system.setScan scan job).scans scan = job :=
  Function.update_self ..

/-- An operation that sets one job is judged by that job. -/
theorem soundScans_of_update
    {system after : ClientSystem τ}
    {scan : ScanId}
    (beside : system.SoundBeside scan)
    {job : BacnetObjectListScanJob}
    (scans : after.scans = Function.update system.scans scan job)
    (sound : job.Sound) :
    after.SoundScans := by
  intro other
  rw [scans]
  by_cases same : other = scan
  · rw [same, Function.update_self]
    exact sound
  · rw [Function.update_of_ne same]
    exact beside other same

theorem soundBeside_of_update
    {system after : ClientSystem τ}
    {scan : ScanId}
    (beside : system.SoundBeside scan)
    {job : BacnetObjectListScanJob}
    (scans : after.scans = Function.update system.scans scan job) :
    after.SoundBeside scan := by
  intro other differs
  rw [scans, Function.update_of_ne differs]
  exact beside other differs

/-- What a request of a scan does to its job. -/
theorem scans_sendObjectListScanRead
    {system after : ClientSystem τ}
    {id : SessionId}
    {scan : ScanId}
    {request : BacnetPropertyRequest}
    {phase : BacnetObjectListScanPhase}
    {nowMs : UInt32}
    {sent : Bool}
    (sends :
      system.sendObjectListScanRead runtime id scan request phase nowMs =
        (sent, after)) :
    ∃ invokeId startedAtMs inFlight,
      after.scans =
          Function.update system.scans scan
            { system.scans scan with
              phase := phase
              inFlightRequest := request
              inFlightInvokeId := invokeId
              inFlightStartedAtMs := startedAtMs
              requestInFlight := inFlight } ∧
        (sent = true → inFlight = true) := by
  unfold sendObjectListScanRead at sends
  dsimp only at sends
  split at sends
  · rename_i accepted
    obtain ⟨-, rfl⟩ := Prod.mk.inj sends
    refine ⟨(system.allocateInvokeId id).1, nowMs, true, ?_, fun _ => rfl⟩
    exact Function.update_idem _ _ _
  · obtain ⟨rfl, rfl⟩ := Prod.mk.inj sends
    exact ⟨(system.scans scan).inFlightInvokeId,
      (system.scans scan).inFlightStartedAtMs,
      (system.scans scan).requestInFlight, rfl, nofun⟩

/-- A scan that ends is sound, if it went as far as it says. -/
theorem soundScans_endObjectListScan
    {system : ClientSystem τ}
    {id : SessionId}
    {scan : ScanId}
    (beside : system.SoundBeside scan)
    {status : BacnetObjectListScanJobStatus}
    (phase : BacnetObjectListScanPhase)
    (inactive : status ≠ .active)
    (finished : status = .complete → (system.scans scan).Finished) :
    (system.endObjectListScan id scan status phase).SoundScans :=
  soundScans_of_update beside rfl
    ⟨fun active => absurd active inactive,
      fun complete => (finished complete).ended status phase⟩

theorem soundScans_completeObjectListScan
    {system : ClientSystem τ}
    {id : SessionId}
    {scan : ScanId}
    (beside : system.SoundBeside scan)
    (finished : (system.scans scan).Finished) :
    (system.completeObjectListScan id scan).SoundScans :=
  soundScans_endObjectListScan beside .complete nofun fun _ => finished

/-- The next entry is asked for, or the scan is over. -/
theorem soundScans_startEntryRead
    {system : ClientSystem τ}
    {id : SessionId}
    {scan : ScanId}
    (beside : system.SoundBeside scan)
    (listing :
      (system.scans scan).Listing (system.scans scan).nextEntry)
    (noObject : (system.scans scan).hasCurrentStoreIndex = false)
    (active : (system.scans scan).status = .active)
    (nowMs : UInt32) :
    (system.startEntryRead runtime id scan nowMs).SoundScans := by
  unfold startEntryRead
  dsimp only
  split
  · rename_i exhausted
    exact soundScans_completeObjectListScan beside
      (listing.finished_of_exhausted exhausted)
  · rename_i notExhausted
    have remaining := Bool.eq_false_iff.mpr notExhausted
    split
    · rename_i after sends
      obtain ⟨invokeId, startedAtMs, inFlight, scans, whenSent⟩ :=
        scans_sendObjectListScanRead runtime sends
      exact soundScans_of_update beside scans
        ⟨fun _ => ⟨whenSent rfl,
          .entry rfl (listing.withRequest _ _ _ _ _) noObject remaining⟩,
          fun complete => by rw [active] at complete; exact nomatch complete⟩
    · rename_i after sends
      obtain ⟨invokeId, startedAtMs, inFlight, scans, -⟩ :=
        scans_sendObjectListScanRead runtime sends
      have besideAfter := soundBeside_of_update beside scans
      have job := congrFun scans scan
      rw [Function.update_self] at job
      have unanswered :
          (BacnetDeviceSessionReadStatus.sendFailed : _) ≠ .ack := nofun
      refine soundScans_completeObjectListScan
        (soundBeside_of_update besideAfter rfl) ?_
      show (Function.update after.scans scan _ scan).Finished
      rw [Function.update_self, job]
      unfold BacnetObjectListScanJob.absorbEntry
      rw [if_pos unanswered]
      exact Listing.finished_of_unanswered
        (listing.withRequest _ _ 0 0 false) remaining unanswered none

/-- The next property of a stored object is asked for, or the next entry. -/
theorem soundScans_startFieldReads
    {id : SessionId}
    {scan : ScanId}
    (scanned : BacnetScannedObject)
    (nowMs : UInt32)
    (fields : List ScanField)
    {system : ClientSystem τ}
    (beside : system.SoundBeside scan)
    (reads : (system.scans scan).ReadsObject) :
    (startFieldReads runtime id scan scanned nowMs fields
      system).SoundScans := by
  induction fields generalizing system with
  | nil =>
      have job := scans_setScan_self system scan
        { (system.scans scan).skipEntry with hasCurrentStoreIndex := false }
      refine soundScans_startEntryRead runtime
        (soundBeside_of_update beside rfl) ?_ ?_ ?_ nowMs
      · rw [job]
        exact reads.listing.skipEntry false
      · rw [job]
      · rw [job]
        exact reads.active
  | cons field rest inductionHypothesis =>
      unfold startFieldReads
      split
      · split
        · rename_i after sends
          obtain ⟨invokeId, startedAtMs, inFlight, scans, whenSent⟩ :=
            scans_sendObjectListScanRead runtime sends
          have sent := reads.withRequest field.phase
            { object := scanned.objectId
              property := field.property
              arrayIndex := kBacnetNoArrayIndex }
            invokeId startedAtMs inFlight
          exact soundScans_of_update beside scans
            ⟨fun _ => ⟨whenSent rfl,
              .field field rfl sent.listing sent.object⟩,
              fun complete => nomatch sent.active.symm.trans complete⟩
        · rename_i after sends
          obtain ⟨invokeId, startedAtMs, inFlight, scans, -⟩ :=
            scans_sendObjectListScanRead runtime sends
          have job := congrFun scans scan
          rw [Function.update_self] at job
          have unsent : (after.scans scan).ReadsObject := by
            rw [job]
            exact reads.withRequest _ _ _ _ _
          apply inductionHypothesis
            (soundBeside_of_update
              (soundBeside_of_update beside scans) rfl)
          rw [scans_setScan_self]
          exact unsent.absorbField field .sendFailed none
      · exact inductionHypothesis beside reads

theorem soundScans_advanceObjectListScan
    {system : ClientSystem τ}
    {id : SessionId}
    {scan : ScanId}
    (beside : system.SoundBeside scan)
    (ready : (system.scans scan).Ready)
    (active : (system.scans scan).status = .active)
    (idle : (system.scans scan).requestInFlight = false)
    (nowMs : UInt32) :
    (system.advanceObjectListScan runtime id scan nowMs).SoundScans := by
  have isActive : (system.scans scan).isActive = true := by
    unfold isActive
    rw [active]
    rfl
  unfold advanceObjectListScan
  dsimp only
  rw [isActive, idle, if_neg (by decide)]
  cases ready with
  | entry listing noObject =>
      have noScanned : (system.scans scan).currentScanned? = none := by
        unfold currentScanned?
        rw [noObject]
        rfl
      rw [noScanned]
      exact soundScans_startEntryRead runtime beside listing noObject active
        nowMs
  | object listing object =>
      have isScanned :
          (system.scans scan).currentScanned? =
            some ((system.scans scan).results.get
              ⟨_, object.inBuffer⟩) := by
        unfold currentScanned?
        rw [object.isCurrent, object.hasResults]
        exact List.getElem?_eq_getElem object.inBuffer
      rw [isScanned]
      exact soundScans_startFieldReads runtime _ nowMs _ beside
        ⟨listing, object, active⟩

theorem soundScans_finishObjectListScanRead
    {system : ClientSystem τ}
    {id : SessionId}
    {scan : ScanId}
    (beside : system.SoundBeside scan)
    (waiting : (system.scans scan).Waiting)
    (active : (system.scans scan).status = .active)
    (status : BacnetDeviceSessionReadStatus)
    (value : Option BacnetValue)
    (nowMs : UInt32) :
    (system.finishObjectListScanRead runtime id scan status value
      nowMs).SoundScans := by
  have absorbed := waiting.absorbRead active status value
  unfold finishObjectListScanRead
  cases shape : (system.scans scan).absorbRead status value with
  | mk step job =>
      rw [shape] at absorbed
      have kept : (system.setScan scan job).SoundBeside scan :=
        soundBeside_of_update beside rfl
      have set := scans_setScan_self system scan job
      cases absorbed with
      | advance ready isActive idle =>
          refine soundScans_advanceObjectListScan runtime kept ?_ ?_ ?_ nowMs
          · rw [set]
            exact ready
          · rw [set]
            exact isActive
          · rw [set]
            exact idle
      | complete finished =>
          refine soundScans_completeObjectListScan kept ?_
          rw [set]
          exact finished
      | fail =>
          exact soundScans_endObjectListScan kept .failed nofun nofun

theorem SoundScans.beside
    {system after : ClientSystem τ}
    (sound : system.SoundScans)
    (same : after.scans = system.scans)
    (scan : ScanId) :
    after.SoundBeside scan :=
  fun other _ => same ▸ sound other

theorem SoundScans.of_same
    {system after : ClientSystem τ}
    (sound : system.SoundScans)
    (same : after.scans = system.scans) :
    after.SoundScans :=
  fun scan => same ▸ sound scan

@[simp] theorem scans_onClient
    {Result : Type}
    (system : ClientSystem τ)
    (operation : BacnetClient τ → Result × BacnetClient τ) :
    (system.onClient operation).2.scans = system.scans :=
  rfl

@[simp] theorem scans_setSession
    (system : ClientSystem τ)
    (id : SessionId)
    (session : BacnetDeviceSession) :
    (system.setSession id session).scans = system.scans :=
  rfl

theorem scans_resolveNow
    (system : ClientSystem τ)
    (nowMs : UInt32) :
    (system.resolveNow runtime nowMs).2.scans = system.scans := by
  unfold resolveNow
  split
  · rfl
  · rfl

/-- The end of a read of an active job, wherever else the system has moved. -/
theorem SoundScans.finishObjectListScanRead
    {system after : ClientSystem τ}
    (sound : system.SoundScans)
    (same : after.scans = system.scans)
    {scan : ScanId}
    (active : (system.scans scan).status = .active)
    (id : SessionId)
    (status : BacnetDeviceSessionReadStatus)
    (value : Option BacnetValue)
    (nowMs : UInt32) :
    (after.finishObjectListScanRead runtime id scan status value
      nowMs).SoundScans := by
  have waiting := ((sound scan).active active).2
  rw [← same] at waiting active
  exact soundScans_finishObjectListScanRead runtime (sound.beside same scan)
    waiting active status value nowMs

theorem SoundScans.pollInFlightObjectListScan
    {system : ClientSystem τ}
    (sound : system.SoundScans)
    (id : SessionId)
    (nowMs : UInt32) :
    (system.pollInFlightObjectListScan runtime id nowMs).SoundScans := by
  unfold ClientSystem.pollInFlightObjectListScan
  split
  · exact sound
  · rename_i scan waits
    dsimp only
    split
    · exact sound
    · rename_i inFlight
      have isActive : (system.scans scan).status = .active := by
        have both := Bool.or_eq_false_iff.mp (Bool.eq_false_iff.mpr inFlight)
        exact eq_of_beq (Bool.not_eq_eq_eq_not.mp both.1)
      split
      · apply sound.finishObjectListScanRead runtime _ isActive
        rw [scans_setSession, scans_onClient]
      · split
        · apply sound.finishObjectListScanRead runtime _ isActive
          rw [scans_setSession, scans_onClient]
        · apply sound.of_same
          rw [scans_onClient]

/-- A new job waits for the length of the list. -/
theorem waiting_newScanJob
    (id : SessionId)
    (options : BacnetObjectScanOptions)
    (hasResults : Bool)
    (resultCapacity : Nat)
    (request : BacnetPropertyRequest)
    (invokeId : UInt8)
    (startedAtMs : UInt32)
    (inFlight : Bool) :
    Waiting
      { newScanJob id options hasResults resultCapacity with
        phase := .readObjectListCount
        inFlightRequest := request
        inFlightInvokeId := invokeId
        inFlightStartedAtMs := startedAtMs
        requestInFlight := inFlight } :=
  .count rfl ⟨rfl, rfl, rfl, rfl⟩

theorem SoundScans.beginObjectListScan
    {system : ClientSystem τ}
    (sound : system.SoundScans)
    (id : SessionId)
    (scan : ScanId)
    (options : BacnetObjectScanOptions)
    (hasResults : Bool)
    (resultCapacity : Nat)
    (nowMs : UInt32) :
    (system.beginObjectListScan runtime id scan options hasResults
      resultCapacity nowMs).2.SoundScans := by
  have resolved := scans_resolveNow runtime system nowMs
  unfold ClientSystem.beginObjectListScan
  generalize system.resolveNow runtime nowMs = now at resolved ⊢
  obtain ⟨now, current⟩ := now
  dsimp only at resolved ⊢
  split
  · exact sound.of_same resolved
  · generalize begins :
      (current.setScan scan (newScanJob id options hasResults
        resultCapacity)).setSession id _ = begun
    have job : begun.scans scan =
        newScanJob id options hasResults resultCapacity := by
      rw [← begins, scans_setSession, scans_setScan_self]
    have started :
        begun.scans = Function.update current.scans scan
          (newScanJob id options hasResults resultCapacity) := by
      rw [← begins]
      rfl
    have beside : begun.SoundBeside scan :=
      soundBeside_of_update (sound.beside resolved scan) started
    split
    · rename_i after sends
      obtain ⟨invokeId, startedAtMs, inFlight, scans, whenSent⟩ :=
        scans_sendObjectListScanRead runtime sends
      rw [job] at scans
      refine soundScans_of_update beside scans
        ⟨fun _ => ⟨whenSent rfl, waiting_newScanJob _ _ _ _ _ _ _ _⟩, nofun⟩
    · rename_i after sends
      obtain ⟨invokeId, startedAtMs, inFlight, scans, -⟩ :=
        scans_sendObjectListScanRead runtime sends
      have refused := congrFun scans scan
      rw [Function.update_self, job] at refused
      refine soundScans_finishObjectListScanRead runtime
        (soundBeside_of_update beside scans) ?_ ?_ _ _ now
      · rw [refused]
        exact waiting_newScanJob _ _ _ _ _ _ _ _
      · rw [refused]
        rfl

theorem SoundScans.pollObjectListScan
    {system : ClientSystem τ}
    (sound : system.SoundScans)
    (id : SessionId)
    (scan : ScanId)
    (nowMs : UInt32) :
    (system.pollObjectListScan runtime id scan nowMs).SoundScans := by
  have resolved := scans_resolveNow runtime system nowMs
  unfold ClientSystem.pollObjectListScan
  generalize system.resolveNow runtime nowMs = now at resolved ⊢
  obtain ⟨now, current⟩ := now
  dsimp only at resolved ⊢
  have currently : current.SoundScans := sound.of_same resolved
  split
  · have polled :=
      currently.pollInFlightObjectListScan runtime id now
    split
    · -- An active job always waits for an answer, so it is not advanced here.
      rename_i idle
      obtain ⟨isActive, isIdle⟩ := Bool.and_eq_true_iff.mp idle
      have waits := ((polled scan).active (eq_of_beq isActive)).1
      rw [waits] at isIdle
      exact nomatch isIdle
    · exact polled
  · exact currently

theorem SoundScans.cancelObjectListScan
    {system : ClientSystem τ}
    (sound : system.SoundScans)
    (id : SessionId)
    (scan : ScanId) :
    (system.cancelObjectListScan id scan).SoundScans := by
  unfold ClientSystem.cancelObjectListScan
  split
  · exact soundScans_endObjectListScan (sound.beside rfl scan) .cancelled
      nofun nofun
  · exact sound

theorem SoundScans.scanRounds
    (id : SessionId)
    (scan : ScanId)
    (rounds : Nat)
    {system : ClientSystem τ}
    (sound : system.SoundScans) :
    (ClientSystem.scanRounds runtime id scan rounds system).SoundScans := by
  induction rounds generalizing system with
  | zero => exact sound
  | succ rounds inductionHypothesis =>
      unfold ClientSystem.scanRounds
      split
      · apply inductionHypothesis
        exact (sound.pollObjectListScan runtime id scan
          kUseClientClock).of_same rfl
      · exact sound

theorem SoundScans.scanObjectList
    {system : ClientSystem τ}
    (sound : system.SoundScans)
    (id : SessionId)
    (scan : ScanId)
    (options : BacnetObjectScanOptions)
    (hasResults : Bool)
    (resultCapacity rounds : Nat) :
    (system.scanObjectList runtime id scan options hasResults
      resultCapacity rounds).SoundScans := by
  have begun :=
    sound.beginObjectListScan runtime id scan options hasResults
      resultCapacity kUseClientClock
  unfold ClientSystem.scanObjectList
  split
  · rename_i shape
    rw [shape] at begun
    exact scanRounds runtime id scan rounds begun
  · rename_i shape
    rw [shape] at begun
    exact begun

variable (system : ClientSystem τ)

theorem scans_beginPropertyRead
    (id : SessionId)
    (read : ReadId)
    (request : BacnetPropertyRequest)
    (timeoutMs nowMs : UInt32) :
    (system.beginPropertyRead runtime id read request timeoutMs
      nowMs).2.scans = system.scans := by
  have resolved := scans_resolveNow runtime system nowMs
  unfold beginPropertyRead
  dsimp only
  split
  · exact resolved
  · split
    · exact resolved
    · exact resolved

theorem scans_pollInFlightPropertyRead
    (id : SessionId)
    (nowMs : UInt32) :
    (system.pollInFlightPropertyRead runtime id nowMs).scans =
      system.scans := by
  unfold pollInFlightPropertyRead
  split
  · rfl
  · dsimp only
    split
    · rfl
    · split
      · rfl
      · rfl

theorem scans_pollPropertyRead
    (id : SessionId)
    (read : ReadId)
    (nowMs : UInt32) :
    (system.pollPropertyRead runtime id read nowMs).scans =
      system.scans := by
  have resolved := scans_resolveNow runtime system nowMs
  unfold pollPropertyRead
  dsimp only
  split
  · exact (scans_pollInFlightPropertyRead runtime _ _ _).trans resolved
  · exact resolved

theorem scans_cancelPropertyRead
    (id : SessionId)
    (read : ReadId) :
    (system.cancelPropertyRead id read).scans = system.scans := by
  unfold cancelPropertyRead
  split
  · rfl
  · rfl

end ClientSystem

end BacnetStack
