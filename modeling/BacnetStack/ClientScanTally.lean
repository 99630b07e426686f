import BacnetStack.ClientScanChain

namespace BacnetStack

/-!
# What a scan has counted and may still ask

The counters of a scan are those of the entries it has read, in the order of
the list.  Every entry is asked for once, and every stored object costs at
most three requests more; so the requests made so far are bounded by the
entries that were read, with the needed properties of the current object
taken off.
-/

namespace BacnetObjectListScanJob

variable (job : BacnetObjectListScanJob)

/-- The claimed length of the list, cut to the maximum of the options. -/
def entryLimit : Nat :=
  min job.result.objectListCount.toNat
    job.options.maxObjectListEntries.toNat

/-- Room in the caller's buffer. -/
def room : Nat :=
  if job.hasResults then job.resultCapacity else 0

/-- The index and the object of an entry that is accepted. -/
def acceptedRead?
    (options : BacnetObjectScanOptions)
    (read : ScanEntryRead) : Option (Nat × BacnetObjectId) :=
  if read.status = .ack then
    (acceptedObject? options read.value).map (read.index.toNat, ·)
  else
    none

/-- The accepted entries in the order they were read. -/
def acceptedEntries : List (Nat × BacnetObjectId) :=
  job.entryReads.reverse.filterMap (acceptedRead? job.options)

/-- The reads of entries that were answered. -/
def answeredReads : Nat :=
  job.entryReads.countP fun read => read.status == .ack

/-- The counters are those of the reads. -/
structure Tally : Prop where
  inOrder :
    job.entryReads.reverse.map (fun read => read.index.toNat) =
      List.range' 1 job.entryReads.length
  limit : job.maxIndex.toNat = job.entryLimit
  within : job.entryReads.length ≤ job.entryLimit
  inspected : job.result.inspected.toNat = job.answeredReads
  found : job.result.found = job.acceptedEntries.length
  objects :
    job.storedObjects = (job.acceptedEntries.take job.room).map Prod.snd
  filled : job.result.stored = job.results.length

/-- The needed properties of an object. -/
def missingFields (scanned : BacnetScannedObject) : Nat :=
  ScanField.all.countP fun field => job.needsField field scanned

/-- The requests a scan may make for the entries it has read. -/
abbrev budget : Nat :=
  1 + 4 * job.entryReads.length

/-- A job with nothing in flight, after a number of attempts. -/
inductive Going (attempts : Nat) : Prop where
  | entry
      (tally : job.Tally)
      (noObject : job.hasCurrentStoreIndex = false)
      (next : job.entryReads.length + 1 = job.nextEntry)
      (within : attempts ≤ job.budget)
  | object
      (scanned : BacnetScannedObject)
      (tally : job.Tally)
      (current : job.currentScanned? = some scanned)
      (next : job.entryReads.length = job.currentIndex.toNat)
      (within : attempts + job.missingFields scanned ≤ job.budget)

/-- A job that waits for a read, the last of a number of attempts. -/
inductive Asking (attempts : Nat) : Prop where
  | count
      (phase : job.phase = .readObjectListCount)
      (counting : job.Counting)
      (noLimit : job.maxIndex = 0)
      (first : attempts = 1)
  | entry
      (phase : job.phase = .readObjectListEntry)
      (tally : job.Tally)
      (noObject : job.hasCurrentStoreIndex = false)
      (next : job.entryReads.length + 1 = job.currentIndex.toNat)
      (remaining : job.currentIndex.toNat ≤ job.maxIndex.toNat)
      (within : attempts ≤ job.budget + 1)
  | field
      (field : ScanField)
      (scanned : BacnetScannedObject)
      (phase : job.phase = field.phase)
      (tally : job.Tally)
      (current : job.currentScanned? = some scanned)
      (needed : job.needsField field scanned = true)
      (next : job.entryReads.length = job.currentIndex.toNat)
      (within : attempts + job.missingFields scanned ≤ job.budget + 1)

/-- What holds of a job at all times. -/
structure Counted (attempts : Nat) : Prop where
  tally : job.Tally
  within : attempts ≤ 1 + 4 * job.entryLimit

variable {job} {attempts : Nat}

theorem answeredReads_le : job.answeredReads ≤ job.entryReads.length :=
  List.countP_le_length

/-- An accepted entry was answered. -/
theorem length_acceptedEntries_le :
    job.acceptedEntries.length ≤ job.answeredReads := by
  have each (read : ScanEntryRead)
      (isAccepted : (acceptedRead? job.options read).isSome = true) :
      (read.status == .ack) = true := by
    unfold acceptedRead? at isAccepted
    split at isAccepted
    · rename_i answered
      exact beq_iff_eq.mpr answered
    · cases isAccepted
  unfold acceptedEntries answeredReads
  rw [List.length_filterMap_eq_countP, List.countP_reverse]
  exact List.countP_mono_left fun read _ => each read

theorem Tally.stored_eq (tally : job.Tally) :
    job.result.stored = min job.room job.acceptedEntries.length := by
  have objects := congrArg List.length tally.objects
  rw [storedObjects, List.length_map, List.length_map,
    List.length_take] at objects
  exact tally.filled.trans objects

theorem Tally.stored_le_found (tally : job.Tally) :
    job.result.stored ≤ job.result.found := by
  rw [tally.stored_eq, tally.found]
  exact Nat.min_le_right ..

theorem Tally.stored_le_room (tally : job.Tally) :
    job.result.stored ≤ job.room := by
  rw [tally.stored_eq]
  exact Nat.min_le_left ..

theorem Tally.found_le_inspected (tally : job.Tally) :
    job.result.found ≤ job.result.inspected.toNat := by
  rw [tally.found, tally.inspected]
  exact length_acceptedEntries_le

theorem Tally.inspected_le (tally : job.Tally) :
    job.result.inspected.toNat ≤ job.entryLimit := by
  rw [tally.inspected]
  exact answeredReads_le.trans tally.within

/-- The accepted entries lie in the order of the list, each at most once. -/
theorem Tally.increasing (tally : job.Tally) :
    (job.acceptedEntries.map Prod.fst).Pairwise (· < ·) := by
  have sublist :
      (job.acceptedEntries.map Prod.fst).Sublist
        (job.entryReads.reverse.map fun read => read.index.toNat) := by
    unfold acceptedEntries
    generalize job.entryReads.reverse = reads
    induction reads with
    | nil => exact List.Sublist.refl _
    | cons read rest inductionHypothesis =>
        rw [List.map_cons]
        cases accepted : acceptedRead? job.options read with
        | none =>
            rw [List.filterMap_cons_none accepted]
            exact inductionHypothesis.cons _
        | some entry =>
            rw [List.filterMap_cons_some accepted, List.map_cons]
            have sameIndex : entry.1 = read.index.toNat := by
              unfold acceptedRead? at accepted
              split at accepted
              · obtain ⟨object, -, rfl⟩ :=
                  Option.map_eq_some_iff.mp accepted
                rfl
              · cases accepted
            rw [sameIndex]
            exact inductionHypothesis.cons_cons _
  rw [tally.inOrder] at sublist
  exact List.Pairwise.sublist sublist List.pairwise_lt_range'

section Request

variable (phase : BacnetObjectListScanPhase)
  (request : BacnetPropertyRequest)
  (invokeId : UInt8)
  (startedAtMs : UInt32)
  (inFlight : Bool)

/-- A job with another request. -/
def withRequest (job : BacnetObjectListScanJob) : BacnetObjectListScanJob :=
  { job with
    phase := phase
    inFlightRequest := request
    inFlightInvokeId := invokeId
    inFlightStartedAtMs := startedAtMs
    requestInFlight := inFlight }

theorem Tally.withRequest (tally : job.Tally) :
    (job.withRequest phase request invokeId startedAtMs inFlight).Tally :=
  ⟨tally.inOrder, tally.limit, tally.within, tally.inspected, tally.found,
    tally.objects, tally.filled⟩

theorem Asking.withRequest
    (asking : job.Asking attempts)
    (samePhase : phase = job.phase) :
    (job.withRequest phase request invokeId startedAtMs inFlight).Asking
      attempts := by
  subst samePhase
  cases asking with
  | count isPhase counting noLimit first =>
      exact .count isPhase
        ⟨counting.untouched, counting.noReads, counting.noObject,
          counting.empty⟩ noLimit first
  | entry isPhase tally noObject next remaining within =>
      exact .entry isPhase (tally.withRequest ..) noObject next remaining
        within
  | field field scanned isPhase tally current needed next within =>
      exact .field field scanned isPhase (tally.withRequest ..) current
        needed next within

end Request

theorem Counting.tally
    (counting : job.Counting)
    (noLimit : job.maxIndex = 0) :
    job.Tally where
  inOrder := by rw [counting.noReads]; rfl
  limit := by
    rw [noLimit, entryLimit, counting.untouched]
    exact (Nat.zero_min _).symm
  within := by
    rw [counting.noReads]
    exact Nat.zero_le _
  inspected := by
    rw [counting.untouched, answeredReads, counting.noReads]
    rfl
  found := by
    rw [counting.untouched, acceptedEntries, counting.noReads]
    rfl
  objects := by
    rw [storedObjects, counting.empty, acceptedEntries, counting.noReads]
    exact congrArg (List.map Prod.snd) List.take_nil.symm
  filled := by
    rw [counting.untouched, counting.empty]
    rfl

theorem Tally.budget_le (tally : job.Tally) :
    job.budget ≤ 1 + 4 * job.entryLimit := by
  have within := tally.within
  unfold budget
  omega

theorem missingFields_pos
    {scanned : BacnetScannedObject}
    {field : ScanField}
    (needed : job.needsField field scanned = true) :
    0 < job.missingFields scanned :=
  List.countP_pos_iff.mpr ⟨field, by cases field <;> decide, needed⟩

theorem Asking.counted (asking : job.Asking attempts) :
    job.Counted attempts := by
  cases asking with
  | count phase counting noLimit first =>
      exact ⟨counting.tally noLimit, by omega⟩
  | entry phase tally noObject next remaining within =>
      refine ⟨tally, ?_⟩
      rw [tally.limit] at remaining
      unfold budget at within
      omega
  | field field scanned phase tally current needed next within =>
      have isMissing := missingFields_pos needed
      have atMost := tally.budget_le
      exact ⟨tally, by omega⟩

/-- The final status of a job is not counted either. -/
theorem Counted.ended
    (counted : job.Counted attempts)
    (status : BacnetObjectListScanJobStatus)
    (phase : BacnetObjectListScanPhase) :
    Counted
      { job.clearInFlightState with status := status, phase := phase }
      attempts :=
  ⟨⟨counted.tally.inOrder, counted.tally.limit, counted.tally.within,
    counted.tally.inspected, counted.tally.found, counted.tally.objects,
    counted.tally.filled⟩, counted.within⟩

/-- What a job does next: it asks, or it has counted everything. -/
inductive Proceeds (attempts : Nat) :
    BacnetObjectListScanJob ×
      Option (BacnetPropertyRequest × BacnetObjectListScanPhase) → Prop where
  | asks
      {job : BacnetObjectListScanJob}
      {request : BacnetPropertyRequest}
      {phase : BacnetObjectListScanPhase}
      (asking :
        ({ job with phase := phase } : BacnetObjectListScanJob).Asking
          (attempts + 1)) :
      Proceeds attempts (job, some (request, phase))
  | ends
      {job : BacnetObjectListScanJob}
      (counted : job.Counted attempts) :
      Proceeds attempts (job, none)

/-- The next entry is asked for once. -/
theorem proceeds_nextEntryRead
    (tally : job.Tally)
    (noObject : job.hasCurrentStoreIndex = false)
    (next : job.entryReads.length + 1 = job.nextEntry)
    (within : attempts ≤ job.budget)
    (session : BacnetDeviceSession) :
    Proceeds attempts (job.nextEntryRead session) := by
  unfold nextEntryRead
  split
  · exact .ends ⟨tally, within.trans tally.budget_le⟩
  · rename_i notExhausted
    obtain ⟨nonzero, remaining⟩ :=
      entry_of_remaining (Bool.eq_false_iff.mpr notExhausted)
    rw [nextEntry_of_nonzero nonzero] at next
    exact .asks (.entry rfl
      (tally.withRequest .readObjectListEntry job.inFlightRequest
        job.inFlightInvokeId job.inFlightStartedAtMs job.requestInFlight)
      noObject next remaining (Nat.succ_le_succ within))

theorem Going.proceeds
    (going : job.Going attempts)
    (session : BacnetDeviceSession) :
    Proceeds attempts (job.nextRead session) := by
  unfold nextRead
  cases going with
  | entry tally noObject next within =>
      have noCurrent : job.currentScanned? = none := by
        unfold currentScanned?
        rw [noObject]
        rfl
      rw [noCurrent]
      exact proceeds_nextEntryRead tally noObject next within session
  | object scanned tally current next within =>
      rw [current]
      dsimp only
      cases first :
          ScanField.all.find? fun field => job.needsField field scanned with
      | some field =>
          have needed := (List.find?_eq_some_iff_append.mp first).1
          exact .asks (.field field scanned rfl
            (tally.withRequest field.phase job.inFlightRequest
              job.inFlightInvokeId job.inFlightStartedAtMs
              job.requestInFlight)
            current needed next (by
              show attempts + 1 + job.missingFields scanned ≤ job.budget + 1
              omega))
      | none =>
          have left : job.leaveObject.Tally :=
            ⟨tally.inOrder, tally.limit, tally.within, tally.inspected,
              tally.found, tally.objects, tally.filled⟩
          refine proceeds_nextEntryRead left rfl ?_
            (Nat.le_of_add_right_le within) session
          show job.entryReads.length + 1 = job.skipEntry.nextEntry
          rw [nextEntry_skipEntry, next]

/-! What the end of a read does to the bounds. -/

theorem acceptedEntries_noteEntryRead
    (status : BacnetDeviceSessionReadStatus)
    (value : Option BacnetValue) :
    (job.noteEntryRead status value).acceptedEntries =
      job.acceptedEntries ++
        (acceptedRead? job.options
          { index := job.currentIndex
            status := status
            value := value }).toList := by
  show (_ :: job.entryReads).reverse.filterMap _ = _
  rw [List.reverse_cons, List.filterMap_append]
  rfl

/-- Another entry was read; its answer, if any, is accounted for. -/
theorem Tally.noteEntryRead
    (tally : job.Tally)
    (next : job.entryReads.length + 1 = job.currentIndex.toNat)
    (remaining : job.currentIndex.toNat ≤ job.maxIndex.toNat)
    {status : BacnetDeviceSessionReadStatus}
    {value : Option BacnetValue}
    {job' : BacnetObjectListScanJob}
    (reads :
      job'.entryReads = (job.noteEntryRead status value).entryReads)
    (options : job'.options = job.options)
    (limits :
      job'.maxIndex = job.maxIndex ∧
        job'.result.objectListCount = job.result.objectListCount)
    (inspected :
      job'.result.inspected =
        job.result.inspected + if status = .ack then 1 else 0)
    (found :
      job'.result.found =
        (job.noteEntryRead status value).acceptedEntries.length)
    (objects :
      job'.storedObjects =
        ((job.noteEntryRead status value).acceptedEntries.take
          job'.room).map Prod.snd)
    (filled : job'.result.stored = job'.results.length) :
    job'.Tally := by
  have accepted :
      job'.acceptedEntries =
        (job.noteEntryRead status value).acceptedEntries := by
    unfold acceptedEntries
    rw [reads, options]
    rfl
  have sameLimit : job'.entryLimit = job.entryLimit := by
    unfold entryLimit
    rw [options, limits.2]
  have length :
      job'.entryReads.length = job.entryReads.length + 1 := by
    rw [reads]
    rfl
  refine ⟨?_, ?_, ?_, ?_, ?_, ?_, filled⟩
  · rw [length, List.range'_concat, ← tally.inOrder, reads]
    show ((_ :: job.entryReads).reverse.map _) = _
    rw [List.reverse_cons, List.map_append, Nat.one_mul, Nat.add_comm 1,
      next]
    rfl
  · rw [limits.1, sameLimit]
    exact tally.limit
  · rw [length, sameLimit, next, ← tally.limit]
    exact remaining
  · have bound := job.maxIndex.toNat_lt
    have atMost := @answeredReads_le job
    have counts :
        job'.answeredReads =
          job.answeredReads + if status = .ack then 1 else 0 := by
      unfold answeredReads
      rw [reads]
      show List.countP _ (_ :: job.entryReads) = _
      rw [List.countP_cons]
      simp only [beq_iff_eq]
    rw [inspected, counts, UInt32.toNat_add, tally.inspected]
    split
    · rw [UInt32.toNat_one, Nat.mod_eq_of_lt (by omega)]
    · rw [UInt32.toNat_zero, Nat.mod_eq_of_lt (by omega)]
  · rw [found, accepted]
  · rw [objects, accepted]

/-- A job goes on behind an entry that costs nothing more. -/
theorem going_skipEntry
    (tally : job.Tally)
    (noObject : job.hasCurrentStoreIndex = false)
    (next : job.entryReads.length = job.currentIndex.toNat)
    (within : attempts ≤ job.budget) :
    job.skipEntry.Going attempts := by
  refine .entry ⟨tally.inOrder, tally.limit, tally.within, tally.inspected,
    tally.found, tally.objects, tally.filled⟩ noObject ?_ within
  rw [nextEntry_skipEntry, ← next]
  rfl

/-- The entry the current read is for. -/
theorem acceptedRead?_of_ack
    (value : Option BacnetValue) :
    acceptedRead? job.options
        { index := job.currentIndex, status := .ack, value := value } =
      (acceptedObject? job.options value).map (job.currentIndex.toNat, ·) :=
  if_pos rfl

/-- A full buffer holds what it has room for. -/
theorem Tally.room_le_of_full
    (tally : job.Tally)
    (full :
      (!job.hasResults ||
        decide (job.resultCapacity ≤ job.result.stored)) = true) :
    job.room ≤ job.acceptedEntries.length := by
  have storedCount := tally.stored_eq
  unfold room at storedCount ⊢
  cases hasResults : job.hasResults with
  | false => exact Nat.zero_le _
  | true =>
      rw [hasResults] at full
      have capacity := of_decide_eq_true full
      rw [if_pos rfl]
      rw [if_pos hasResults] at storedCount
      exact capacity.trans (storedCount ▸ Nat.min_le_right ..)

/-- A buffer that is not full holds everything that was accepted. -/
theorem Tally.room_of_notFull
    (tally : job.Tally)
    (notFull :
      ¬(!job.hasResults ||
        decide (job.resultCapacity ≤ job.result.stored)) = true) :
    job.hasResults = true ∧ job.acceptedEntries.length < job.room := by
  have storedCount := tally.stored_eq
  obtain ⟨noResults, below⟩ :=
    Bool.or_eq_false_iff.mp (Bool.eq_false_iff.mpr notFull)
  have hasResults : job.hasResults = true :=
    Bool.not_eq_eq_eq_not.mp noResults
  have isRoom : job.room = job.resultCapacity := if_pos hasResults
  have capacity : ¬job.resultCapacity ≤ job.result.stored :=
    of_decide_eq_false below
  refine ⟨hasResults, ?_⟩
  rw [isRoom] at storedCount ⊢
  omega

/-- An accepted object is stored, or there is no room for it. -/
theorem going_absorbObject
    (tally : job.Tally)
    (next : job.entryReads.length + 1 = job.currentIndex.toNat)
    (remaining : job.currentIndex.toNat ≤ job.maxIndex.toNat)
    (within : attempts ≤ job.budget + 1)
    {value : BacnetValue}
    (accepted :
      acceptedObject? job.options (some value) = some value.objectValue)
    {inspected : BacnetObjectListScanJob}
    (shape :
      inspected = {
        job.noteEntryRead .ack (some value) with
        result := {
          job.result with inspected := job.result.inspected + 1
        }
      }) :
    (inspected.absorbObject value.objectValue).Going attempts := by
  have entries :
      (job.noteEntryRead .ack (some value)).acceptedEntries =
        job.acceptedEntries ++
          [(job.currentIndex.toNat, value.objectValue)] := by
    rw [acceptedEntries_noteEntryRead, acceptedRead?_of_ack, accepted]
    rfl
  have found :
      job.result.found + 1 =
        (job.noteEntryRead .ack (some value)).acceptedEntries.length := by
    rw [entries, List.length_append, tally.found]
    rfl
  have asNoted {job' : BacnetObjectListScanJob} :=
    @Tally.noteEntryRead job tally next remaining .ack (some value) job'
  subst shape
  unfold absorbObject
  dsimp only
  split
  · rename_i full
    have noRoom := tally.room_le_of_full full
    refine going_skipEntry (asNoted rfl rfl ⟨rfl, rfl⟩ rfl found ?_
      tally.filled) rfl next ?_
    · show job.storedObjects =
        ((job.noteEntryRead .ack (some value)).acceptedEntries.take
          job.room).map Prod.snd
      rw [entries, List.take_append_of_le_length noRoom]
      exact tally.objects
    · exact within.trans
        (Nat.add_le_add_left (show 1 ≤ 4 by decide) job.budget)
  · rename_i hasRoom
    obtain ⟨hasResults, short⟩ := tally.room_of_notFull hasRoom
    refine .object { objectId := value.objectValue }
      (asNoted rfl rfl ⟨rfl, rfl⟩ rfl found ?_ ?_) ?_ next ?_
    · have fits :
          (job.acceptedEntries ++
            [(job.currentIndex.toNat, value.objectValue)]).length ≤
              job.room := by
        rw [List.length_append]
        exact short
      have objects := tally.objects
      rw [List.take_of_length_le short.le] at objects
      show (job.results ++ [_]).map _ =
        ((job.noteEntryRead .ack (some value)).acceptedEntries.take
          job.room).map Prod.snd
      rw [entries, List.take_of_length_le fits, List.map_append,
        List.map_append]
      exact congrArg (· ++ [value.objectValue]) objects
    · show job.result.stored + 1 = (job.results ++ [_]).length
      rw [List.length_append, tally.filled]
      rfl
    · refine currentScanned?_eq_some_iff.mpr ⟨⟨rfl, hasResults⟩, ?_⟩
      show (job.results ++ [_])[job.result.stored]? = _
      rw [tally.filled, List.getElem?_concat_length]
    · refine (Nat.add_le_add within List.countP_le_length).trans ?_
      show job.budget + 1 + 3 ≤ 1 + 4 * (job.entryReads.length + 1)
      unfold budget
      omega

/-- An answered entry. -/
theorem going_absorbEntry
    (tally : job.Tally)
    (noObject : job.hasCurrentStoreIndex = false)
    (next : job.entryReads.length + 1 = job.currentIndex.toNat)
    (remaining : job.currentIndex.toNat ≤ job.maxIndex.toNat)
    (within : attempts ≤ job.budget + 1)
    (value : Option BacnetValue) :
    (job.absorbEntry .ack value).2.Going attempts := by
  -- An entry that names no accepted object is only counted.
  have passed
      (unwanted : acceptedObject? job.options value = none)
      {inspected : BacnetObjectListScanJob}
      (shape :
        inspected = {
          job.noteEntryRead .ack value with
          result := {
            job.result with inspected := job.result.inspected + 1
          }
        }) :
      inspected.skipEntry.Going attempts := by
    have entries :
        (job.noteEntryRead .ack value).acceptedEntries =
          job.acceptedEntries := by
      rw [acceptedEntries_noteEntryRead, acceptedRead?_of_ack, unwanted]
      exact List.append_nil _
    subst shape
    refine going_skipEntry (tally.noteEntryRead next remaining rfl rfl
      ⟨rfl, rfl⟩ rfl ?_ ?_ tally.filled) noObject next ?_
    · rw [entries]
      exact tally.found
    · rw [entries]
      exact tally.objects
    · exact within.trans
        (Nat.add_le_add_left (show 1 ≤ 4 by decide) job.budget)
  unfold absorbEntry
  rw [if_neg (fun differs => differs rfl)]
  split
  · exact passed rfl rfl
  · rename_i value
    split
    · rename_i accepted
      exact going_absorbObject tally next remaining within (if_pos accepted)
        rfl
    · rename_i rejected
      exact passed (if_neg rejected) rfl

/-- An entry that was not answered. -/
theorem counted_absorbEntry
    (tally : job.Tally)
    (next : job.entryReads.length + 1 = job.currentIndex.toNat)
    (remaining : job.currentIndex.toNat ≤ job.maxIndex.toNat)
    (within : attempts ≤ job.budget + 1)
    {status : BacnetDeviceSessionReadStatus}
    (unanswered : status ≠ .ack)
    (value : Option BacnetValue) :
    (job.absorbEntry status value).2.Counted attempts := by
  have entries :
      (job.noteEntryRead status value).acceptedEntries =
        job.acceptedEntries := by
    rw [acceptedEntries_noteEntryRead, acceptedRead?, if_neg unanswered]
    exact List.append_nil _
  have noted : (job.noteEntryRead status value).Tally := by
    refine tally.noteEntryRead next remaining rfl rfl ⟨rfl, rfl⟩ ?_ ?_ ?_
      tally.filled
    · rw [if_neg unanswered]
      exact (UInt32.add_zero _).symm
    · rw [entries]
      exact tally.found
    · rw [entries]
      exact tally.objects
  unfold absorbEntry
  rw [if_pos unanswered]
  refine ⟨noted, ?_⟩
  have atMost := noted.budget_le
  have more : job.budget + 4 = (job.noteEntryRead status value).budget := rfl
  show attempts ≤ 1 + 4 * (job.noteEntryRead status value).entryLimit
  omega

/-- What the end of a read makes of the attempts. -/
inductive Absorbs (attempts : Nat) :
    ScanStep × BacnetObjectListScanJob → Prop where
  | advance
      {job : BacnetObjectListScanJob}
      (going : job.Going attempts) :
      Absorbs attempts (.advance, job)
  | ends
      {step : ScanStep}
      {job : BacnetObjectListScanJob}
      (final : step ≠ .advance)
      (counted : job.Counted attempts) :
      Absorbs attempts (step, job)

/-- The length of the list was read, or could not be. -/
theorem Counting.absorbs
    (counting : job.Counting)
    (noLimit : job.maxIndex = 0)
    (first : attempts = 1)
    (status : BacnetDeviceSessionReadStatus)
    (value : Option BacnetValue) :
    Absorbs attempts (job.absorbCount status value) := by
  have tally := counting.tally noLimit
  have counted :
      ({ job with
        result := { job.result with objectListCountStatus := status }
        } : BacnetObjectListScanJob).Counted attempts :=
    ⟨⟨tally.inOrder, tally.limit, tally.within, tally.inspected,
      tally.found, tally.objects, tally.filled⟩, by omega⟩
  unfold BacnetObjectListScanJob.absorbCount
  dsimp only
  split
  · exact .ends (by decide) counted
  split
  · exact .ends (by decide) counted
  split
  · exact .ends (by decide) counted
  · rename_i value isUnsigned
    have empty : job.entryReads.length = 0 := by
      rw [counting.noReads]
      rfl
    refine .advance (.entry ⟨tally.inOrder, ?_, ?_, tally.inspected,
      tally.found, tally.objects, tally.filled⟩ counting.noObject ?_ ?_)
    · unfold entryLimit
      dsimp only
      split
      · rename_i below
        exact (Nat.min_eq_left (UInt32.lt_iff_toNat_lt.mp below).le).symm
      · rename_i above
        exact (Nat.min_eq_right
          (UInt32.le_iff_toNat_le.mp (UInt32.not_lt.mp above))).symm
    · show job.entryReads.length ≤ _
      rw [empty]
      exact Nat.zero_le _
    · show job.entryReads.length + 1 = _
      rw [empty]
      rfl
    · show attempts ≤ 1 + 4 * job.entryReads.length
      omega

/-- A property that was read is no longer missing. -/
theorem missingFields_store
    {scanned : BacnetScannedObject}
    {field : ScanField}
    (needed : job.needsField field scanned = true)
    {status : BacnetDeviceSessionReadStatus}
    (ended : status ≠ .skipped)
    (value : Option BacnetValue) :
    job.missingFields (field.store status value scanned) + 1 =
      job.missingFields scanned := by
  have others (other : ScanField) (differs : field ≠ other) :
      job.needsField other (field.store status value scanned) =
        job.needsField other scanned := by
    rw [needsField_store ended, beq_false_of_ne differs, Bool.not_false,
      Bool.and_true]
  have satisfied :
      job.needsField field (field.store status value scanned) = false := by
    rw [needsField_store ended, beq_self_eq_true, Bool.not_true,
      Bool.and_false]
  unfold missingFields ScanField.all
  simp only [List.countP_cons, List.countP_nil]
  cases field <;>
    simp only [others, satisfied, needed, ne_eq, reduceCtorEq,
      not_false_eq_true, Bool.false_eq_true, if_true, if_false] <;>
    omega

/-- A property of the current object was read, or could not be. -/
theorem going_absorbField
    {field : ScanField}
    {scanned : BacnetScannedObject}
    (tally : job.Tally)
    (current : job.currentScanned? = some scanned)
    (needed : job.needsField field scanned = true)
    (next : job.entryReads.length = job.currentIndex.toNat)
    (within : attempts + job.missingFields scanned ≤ job.budget + 1)
    {status : BacnetDeviceSessionReadStatus}
    (ended : status ≠ .skipped)
    (value : Option BacnetValue) :
    (job.absorbField (some field) status value).Going attempts := by
  have stillCurrent := currentScanned?_absorbField current field status value
  have fewer := missingFields_store needed ended value
  rw [absorbField_of_current current] at stillCurrent ⊢
  refine .object (field.store status value scanned)
    ⟨tally.inOrder, tally.limit, tally.within, tally.inspected, tally.found,
      ?_, ?_⟩ stillCurrent next ?_
  · exact (storedObjects_modify ..).trans tally.objects
  · exact tally.filled.trans (List.length_modify ..).symm
  · show attempts + job.missingFields (field.store status value scanned) ≤
      job.budget
    omega

/-- No attempt is lost or made twice at the end of a read. -/
theorem Asking.absorbs
    (asking : job.Asking attempts)
    {status : BacnetDeviceSessionReadStatus}
    (ended : status ≠ .skipped)
    (value : Option BacnetValue) :
    Absorbs attempts (job.absorbRead status value) := by
  have cleared : job.clearInFlightState.Asking attempts :=
    asking.withRequest job.phase job.inFlightRequest 0 0 false rfl
  cases cleared with
  | count phase counting noLimit first =>
      rw [@absorbRead_count job phase]
      exact counting.absorbs noLimit first status value
  | entry phase tally noObject next remaining within =>
      rw [@absorbRead_entry job phase]
      by_cases answered : status = .ack
      · subst answered
        have going := going_absorbEntry tally noObject next remaining within
          value
        have advances := step_absorbEntry_ack job.clearInFlightState value
        rcases shape : job.clearInFlightState.absorbEntry .ack value with
          ⟨step, after⟩
        rw [shape] at going advances
        obtain rfl := advances
        exact .advance going
      · have counted :=
          counted_absorbEntry tally next remaining within answered value
        have completes :
            (job.clearInFlightState.absorbEntry status value).1 =
              .complete := by
          unfold absorbEntry
          rw [if_pos answered]
        rcases shape : job.clearInFlightState.absorbEntry status value with
          ⟨step, after⟩
        rw [shape] at counted completes
        obtain rfl := completes
        exact .ends (by decide) counted
  | field field scanned phase tally current needed next within =>
      rw [@absorbRead_field job field phase]
      exact .advance (going_absorbField tally current needed next within
        ended value)

/-- What a scan was begun with. -/
structure ScanSetup where
  session : Option SessionId
  options : BacnetObjectScanOptions
  hasResults : Bool
  resultCapacity : Nat

def setup (job : BacnetObjectListScanJob) : ScanSetup where
  session := job.session
  options := job.options
  hasResults := job.hasResults
  resultCapacity := job.resultCapacity

/-- Both jobs belong to the same scan, and are in the same state. -/
structure SameScan (before after : BacnetObjectListScanJob) : Prop where
  setup : after.setup = before.setup
  status : after.status = before.status

/-- The end of a read keeps the scan, and nothing is in flight. -/
theorem sameScan_absorbRead
    (job : BacnetObjectListScanJob)
    (status : BacnetDeviceSessionReadStatus)
    (value : Option BacnetValue) :
    SameScan job (job.absorbRead status value).2 ∧
      (job.absorbRead status value).2.requestInFlight = false := by
  unfold absorbRead
  dsimp only
  split
  · unfold BacnetObjectListScanJob.absorbCount
    dsimp only
    split
    · exact ⟨⟨rfl, rfl⟩, rfl⟩
    split
    · exact ⟨⟨rfl, rfl⟩, rfl⟩
    split <;> exact ⟨⟨rfl, rfl⟩, rfl⟩
  split
  · unfold BacnetObjectListScanJob.absorbEntry
    dsimp only
    split
    · exact ⟨⟨rfl, rfl⟩, rfl⟩
    split
    · exact ⟨⟨rfl, rfl⟩, rfl⟩
    split
    · unfold absorbObject
      split <;> exact ⟨⟨rfl, rfl⟩, rfl⟩
    · exact ⟨⟨rfl, rfl⟩, rfl⟩
  · unfold BacnetObjectListScanJob.absorbField
    split
    · exact ⟨⟨rfl, rfl⟩, rfl⟩
    split <;> exact ⟨⟨rfl, rfl⟩, rfl⟩

theorem sameScan_nextRead
    (job : BacnetObjectListScanJob)
    (session : BacnetDeviceSession) :
    SameScan job (job.nextRead session).1 ∧
      (job.nextRead session).1.requestInFlight = job.requestInFlight := by
  unfold nextRead nextEntryRead
  split
  · split <;> exact ⟨⟨rfl, rfl⟩, rfl⟩
  split
  · exact ⟨⟨rfl, rfl⟩, rfl⟩
  split <;> exact ⟨⟨rfl, rfl⟩, rfl⟩

end BacnetObjectListScanJob

end BacnetStack
