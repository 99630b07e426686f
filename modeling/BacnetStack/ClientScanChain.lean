import BacnetStack.ClientScanCoverage

namespace BacnetStack

/-!
# How the functions of a scan call each other

The source starts a read, finishes it and advances to the next one in three
functions that call each other: a read that cannot be sent is finished at
once, and that may start the next.  They are followed here call by call, with
a bound on the number of calls and a record of the requests that are
attempted.  Every chain ends within the bound, and where it ends is what the
functions of the model return.
-/

/-- The functions that call each other, with their arguments. -/
inductive ScanCall where
  | tryStart
      (request : BacnetPropertyRequest)
      (phase : BacnetObjectListScanPhase)
  | finish
      (status : BacnetDeviceSessionReadStatus)
      (value : Option BacnetValue)
  | advance
  deriving Repr, DecidableEq

/-- A system with the requests a scan has attempted, newest first. -/
structure ScanTrace (τ : Type) where
  system : ClientSystem τ
  attempts : List BacnetPropertyRequest

/-- The read of a property of a stored object. -/
def fieldRequest
    (scanned : BacnetScannedObject)
    (field : ScanField) : BacnetPropertyRequest where
  object := scanned.objectId
  property := field.property
  arrayIndex := kBacnetNoArrayIndex

namespace BacnetObjectListScanJob

variable (job : BacnetObjectListScanJob)

/-- The read of the next entry, where there is one. -/
def nextEntryRead
    (session : BacnetDeviceSession) :
    BacnetObjectListScanJob ×
      Option (BacnetPropertyRequest × BacnetObjectListScanPhase) :=
  if job.isExhausted then
    (job, none)
  else
    (job, some (ClientSystem.objectListRequest session job.currentIndex,
      .readObjectListEntry))

/-- Leave a stored object whose properties were read. -/
def leaveObject : BacnetObjectListScanJob :=
  { job.skipEntry with hasCurrentStoreIndex := false }

/-- What `advanceObjectListScan` reads next, and the job by then. -/
def nextRead
    (session : BacnetDeviceSession) :
    BacnetObjectListScanJob ×
      Option (BacnetPropertyRequest × BacnetObjectListScanPhase) :=
  match job.currentScanned? with
  | none => job.nextEntryRead session
  | some scanned =>
      match ScanField.all.find? fun field =>
          job.needsField field scanned with
      | some field => (job, some (fieldRequest scanned field, field.phase))
      | none => job.leaveObject.nextEntryRead session

end BacnetObjectListScanJob

/-- A stored status is the one of its property only. -/
theorem ScanField.status_store
    (field other : ScanField)
    (status : BacnetDeviceSessionReadStatus)
    (value : Option BacnetValue)
    (scanned : BacnetScannedObject) :
    other.status (field.store status value scanned) =
      if other = field then status else other.status scanned := by
  cases field <;> cases other <;> rfl

theorem ScanField.objectId_store
    (field : ScanField)
    (status : BacnetDeviceSessionReadStatus)
    (value : Option BacnetValue)
    (scanned : BacnetScannedObject) :
    (field.store status value scanned).objectId = scanned.objectId := by
  cases field <;> rfl

namespace BacnetObjectListScanJob

variable {job : BacnetObjectListScanJob}

/-- A current object is one of the buffer. -/
theorem currentScanned?_eq_some_iff
    {current : BacnetScannedObject} :
    job.currentScanned? = some current ↔
      (job.hasCurrentStoreIndex = true ∧ job.hasResults = true) ∧
        job.results[job.currentStoreIndex]? = some current := by
  rw [currentScanned?, ← Bool.and_eq_true_iff]
  by_cases both : (job.hasCurrentStoreIndex && job.hasResults) = true
  · rw [if_pos both, and_iff_right both]
  · rw [if_neg both]
    refine iff_of_false ?_ fun holds => both holds.1
    intro isCurrent
    cases isCurrent

/-- The end of a read of the current object. -/
theorem absorbField_of_current
    {current : BacnetScannedObject}
    (isCurrent : job.currentScanned? = some current)
    (field : ScanField)
    (status : BacnetDeviceSessionReadStatus)
    (value : Option BacnetValue) :
    job.absorbField (some field) status value = {
      job with
      results :=
        job.results.modify job.currentStoreIndex (field.store status value)
    } := by
  obtain ⟨⟨hasCurrent, hasResults⟩, -⟩ :=
    currentScanned?_eq_some_iff.mp isCurrent
  unfold absorbField
  rw [hasCurrent, hasResults]
  rfl

theorem currentScanned?_absorbField
    {current : BacnetScannedObject}
    (isCurrent : job.currentScanned? = some current)
    (field : ScanField)
    (status : BacnetDeviceSessionReadStatus)
    (value : Option BacnetValue) :
    (job.absorbField (some field) status value).currentScanned? =
      some (field.store status value current) := by
  rw [absorbField_of_current isCurrent]
  obtain ⟨both, held⟩ := currentScanned?_eq_some_iff.mp isCurrent
  refine currentScanned?_eq_some_iff.mpr ⟨both, ?_⟩
  dsimp only
  rw [List.getElem?_modify_eq, held]
  rfl

end BacnetObjectListScanJob

namespace ClientSystem

variable {τ : Type}
  (runtime : ClientRuntime τ)
  (id : SessionId)
  (scan : ScanId)
  (nowMs : UInt32)

/--
`tryStartObjectListScanRead`, `finishObjectListScanRead` and
`advanceObjectListScan`.  No result means that the calls did not come to an
end within the bound.
-/
def scanChain :
    Nat → ScanCall → ScanTrace τ → Option (ScanTrace τ)
  | 0, _, _ => none
  | calls + 1, .tryStart request phase, ⟨system, attempts⟩ =>
      match
        system.sendObjectListScanRead runtime id scan request phase
          nowMs with
      | (true, system) => some ⟨system, request :: attempts⟩
      | (false, system) =>
          scanChain calls (.finish .sendFailed none)
            ⟨system, request :: attempts⟩
  | calls + 1, .finish status value, ⟨system, attempts⟩ =>
      match (system.scans scan).absorbRead status value with
      | (.advance, job) =>
          scanChain calls .advance ⟨system.setScan scan job, attempts⟩
      | (.complete, job) =>
          some ⟨(system.setScan scan job).completeObjectListScan id scan,
            attempts⟩
      | (.fail, job) =>
          some ⟨(system.setScan scan job).failObjectListScan id scan,
            attempts⟩
  | calls + 1, .advance, ⟨system, attempts⟩ =>
      if !(system.scans scan).isActive ||
          (system.scans scan).requestInFlight then
        some ⟨system, attempts⟩
      else
        match (system.scans scan).nextRead (system.sessions id) with
        | (job, some (request, phase)) =>
            scanChain calls (.tryStart request phase)
              ⟨system.setScan scan job, attempts⟩
        | (job, none) =>
            some ⟨(system.setScan scan job).completeObjectListScan id scan,
              attempts⟩

/-- No chain is longer. -/
abbrev kLongestScanChain : Nat := 14

variable {runtime id scan nowMs}

/-- A chain that has ended is not changed by a larger bound. -/
theorem scanChain_mono
    {calls more : Nat}
    (within : calls ≤ more)
    {call : ScanCall}
    {trace after : ScanTrace τ}
    (ends : scanChain runtime id scan nowMs calls call trace = some after) :
    scanChain runtime id scan nowMs more call trace = some after := by
  induction calls generalizing more call trace with
  | zero => cases ends
  | succ calls inductionHypothesis =>
      obtain ⟨more, rfl⟩ := Nat.exists_eq_add_one_of_ne_zero
        (Nat.ne_of_gt (Nat.lt_of_lt_of_le (Nat.succ_pos calls) within))
      have further {call : ScanCall} {trace : ScanTrace τ} :=
        @inductionHypothesis more (Nat.le_of_succ_le_succ within) call trace
      obtain ⟨system, attempts⟩ := trace
      cases call with
      | tryStart request phase =>
          unfold scanChain at ends ⊢
          split at ends
          · exact ends
          · exact further ends
      | finish status value =>
          unfold scanChain at ends ⊢
          split at ends
          · exact further ends
          · exact ends
          · exact ends
      | advance =>
          unfold scanChain at ends ⊢
          split at ends
          · rename_i resting
            rw [if_pos resting]
            exact ends
          · rename_i moving
            rw [if_neg moving]
            split at ends
            · exact further ends
            · exact ends

/-- Within a bound a chain ends in a given system. -/
def ChainsTo
    (runtime : ClientRuntime τ)
    (id : SessionId)
    (scan : ScanId)
    (nowMs : UInt32)
    (calls : Nat)
    (call : ScanCall)
    (system after : ClientSystem τ) : Prop :=
  ∀ attempts, ∃ attempted,
    scanChain runtime id scan nowMs calls call ⟨system, attempts⟩ =
      some ⟨after, attempted⟩

theorem ChainsTo.mono
    {calls more : Nat}
    {call : ScanCall}
    {system after : ClientSystem τ}
    (ends : ChainsTo runtime id scan nowMs calls call system after)
    (within : calls ≤ more) :
    ChainsTo runtime id scan nowMs more call system after := by
  intro attempts
  obtain ⟨attempted, isEnd⟩ := ends attempts
  exact ⟨attempted, scanChain_mono within isEnd⟩

/-- A read that is sent is the end of a chain. -/
theorem chainsTo_of_sent
    {calls : Nat}
    {request : BacnetPropertyRequest}
    {phase : BacnetObjectListScanPhase}
    {system after : ClientSystem τ}
    (sends :
      system.sendObjectListScanRead runtime id scan request phase nowMs =
        (true, after)) :
    ChainsTo runtime id scan nowMs (calls + 1) (.tryStart request phase)
      system after := by
  intro attempts
  unfold scanChain
  rw [sends]
  exact ⟨_, rfl⟩

/-- A read that is not sent is finished. -/
theorem chainsTo_of_unsent
    {calls : Nat}
    {request : BacnetPropertyRequest}
    {phase : BacnetObjectListScanPhase}
    {system after last : ClientSystem τ}
    (sends :
      system.sendObjectListScanRead runtime id scan request phase nowMs =
        (false, after))
    (finishes :
      ChainsTo runtime id scan nowMs calls (.finish .sendFailed none) after
        last) :
    ChainsTo runtime id scan nowMs (calls + 1) (.tryStart request phase)
      system last := by
  intro attempts
  unfold scanChain
  rw [sends]
  exact finishes _

/-- Setting a job to what it is changes nothing. -/
theorem setScan_self
    (system : ClientSystem τ)
    (scan : ScanId) :
    system.setScan scan (system.scans scan) = system := by
  unfold setScan
  rw [Function.update_eq_self]

/-- An idle job goes on with its next read. -/
theorem chainsTo_advance
    {calls : Nat}
    {request : BacnetPropertyRequest}
    {phase : BacnetObjectListScanPhase}
    {system last : ClientSystem τ}
    (active : (system.scans scan).isActive = true)
    (idle : (system.scans scan).requestInFlight = false)
    (next :
      (system.scans scan).nextRead (system.sessions id) =
        (system.scans scan, some (request, phase)))
    (ends :
      ChainsTo runtime id scan nowMs calls (.tryStart request phase) system
        last) :
    ChainsTo runtime id scan nowMs (calls + 1) .advance system last := by
  intro attempts
  unfold scanChain
  rw [active, idle, if_neg (by decide), next]
  dsimp only
  rw [setScan_self]
  exact ends attempts

/-- A finished read of a property is followed by the next. -/
theorem chainsTo_finish_field
    {calls : Nat}
    {field : ScanField}
    {system last : ClientSystem τ}
    (phase : (system.scans scan).phase = field.phase)
    {status : BacnetDeviceSessionReadStatus}
    {value : Option BacnetValue}
    (ends :
      ChainsTo runtime id scan nowMs calls .advance
        (system.setScan scan
          ((system.scans scan).clearInFlightState.absorbField (some field)
            status value)) last) :
    ChainsTo runtime id scan nowMs (calls + 1) (.finish status value) system
      last := by
  intro attempts
  unfold scanChain
  rw [BacnetObjectListScanJob.absorbRead_field phase]
  exact ends attempts

/-- A job that moves on and has nothing to read of its object. -/
structure MovesOn
    (system : ClientSystem τ)
    (id : SessionId)
    (scan : ScanId)
    (job : BacnetObjectListScanJob) : Prop where
  active : (system.scans scan).isActive = true
  idle : (system.scans scan).requestInFlight = false
  next :
    (system.scans scan).nextRead (system.sessions id) =
      job.nextEntryRead (system.sessions id)

/-- The read of the next entry, and the end of the scan where it fails. -/
theorem MovesOn.chainsTo
    {system : ClientSystem τ}
    {job : BacnetObjectListScanJob}
    (moves : system.MovesOn id scan job) :
    ChainsTo runtime id scan nowMs 3 .advance system
      ((system.setScan scan job).startEntryRead runtime id scan nowMs) := by
  obtain ⟨active, idle, next⟩ := moves
  intro attempts
  unfold scanChain startEntryRead
  rw [active, idle, if_neg (by decide), next, scans_setScan_self]
  unfold BacnetObjectListScanJob.nextEntryRead
  dsimp only
  by_cases exhausted : job.isExhausted = true
  · rw [if_pos exhausted, if_pos exhausted]
    exact ⟨attempts, rfl⟩
  · rw [if_neg exhausted, if_neg exhausted]
    rcases sends :
        (system.setScan scan job).sendObjectListScanRead runtime id scan
          (objectListRequest (system.sessions id) job.currentIndex)
          .readObjectListEntry nowMs with ⟨sent, after⟩
    have sendsSame :
        (system.setScan scan job).sendObjectListScanRead runtime id scan
          (objectListRequest ((system.setScan scan job).sessions id)
            job.currentIndex) .readObjectListEntry nowMs = (sent, after) :=
      sends
    rw [sendsSame]
    cases sent with
    | true => exact chainsTo_of_sent sends attempts
    | false =>
        obtain ⟨invokeId, startedAtMs, inFlight, scans, -⟩ :=
          scans_sendObjectListScanRead runtime sends
        have isEntry : (after.scans scan).phase = .readObjectListEntry := by
          rw [scans, Function.update_self]
        have absorbed :
            (after.scans scan).absorbRead .sendFailed none =
              (.complete,
                ((after.scans scan).clearInFlightState.absorbEntry
                  .sendFailed none).2) := by
          unfold BacnetObjectListScanJob.absorbRead
          rw [isEntry, if_neg (by decide), if_pos rfl]
          rfl
        refine chainsTo_of_unsent sends (fun attempts => ?_) attempts
        unfold scanChain
        rw [absorbed]
        exact ⟨attempts, rfl⟩

/--
What is known of a stored object in a chain that has dealt with some of its
properties.
-/
structure ReadsFields
    (system : ClientSystem τ)
    (scan : ScanId)
    (scanned : BacnetScannedObject)
    (dealtWith left : List ScanField) : Prop where
  fields : dealtWith ++ left = ScanField.all
  active : (system.scans scan).isActive = true
  idle : (system.scans scan).requestInFlight = false
  current :
    ∃ current, (system.scans scan).currentScanned? = some current ∧
      current.objectId = scanned.objectId ∧
      (∀ field ∈ dealtWith,
        (system.scans scan).needsField field current = false) ∧
      ∀ field ∈ left, field.status current = field.status scanned

/-- A property that is not needed is dealt with. -/
theorem ReadsFields.skip
    {system : ClientSystem τ}
    {scanned : BacnetScannedObject}
    {dealtWith left : List ScanField}
    {field : ScanField}
    (reads : system.ReadsFields scan scanned dealtWith (field :: left))
    (needless : (system.scans scan).needsField field scanned = false) :
    system.ReadsFields scan scanned (dealtWith ++ [field]) left := by
  obtain ⟨fields, active, idle, current, isCurrent, sameObject, done,
    same⟩ := reads
  refine ⟨by rw [List.append_assoc]; exact fields, active, idle, current,
    isCurrent, sameObject, fun other isMember => ?_,
    fun other isMember => same other (List.mem_cons_of_mem _ isMember)⟩
  rcases List.mem_append.mp isMember with isEarlier | isField
  · exact done other isEarlier
  · obtain rfl := List.mem_singleton.mp isField
    unfold BacnetObjectListScanJob.needsField at needless ⊢
    rw [same other List.mem_cons_self]
    exact needless

/-- So is one that could not be asked for. -/
theorem ReadsFields.fail
    {system after : ClientSystem τ}
    {scanned : BacnetScannedObject}
    {dealtWith left : List ScanField}
    {field : ScanField}
    (reads : system.ReadsFields scan scanned dealtWith (field :: left))
    {request : BacnetPropertyRequest}
    (sends :
      system.sendObjectListScanRead runtime id scan request field.phase
        nowMs = (false, after)) :
    (after.setScan scan
      ((after.scans scan).clearInFlightState.absorbField (some field)
        .sendFailed none)).ReadsFields scan scanned (dealtWith ++ [field])
          left := by
  obtain ⟨fields, active, idle, current, isCurrent, sameObject, done,
    same⟩ := reads
  obtain ⟨invokeId, startedAtMs, inFlight, scans, -⟩ :=
    scans_sendObjectListScanRead runtime sends
  have job := congrFun scans scan
  rw [Function.update_self] at job
  have kept :
      (after.scans scan).clearInFlightState.currentScanned? =
        some current := by
    rw [job]
    exact isCurrent
  refine ⟨by rw [List.append_assoc]; exact fields, ?_, ?_,
    field.store .sendFailed none current, ?_, ?_, ?_, ?_⟩
  · rw [scans_setScan_self,
      BacnetObjectListScanJob.absorbField_of_current kept, job]
    exact active
  · rw [scans_setScan_self,
      BacnetObjectListScanJob.absorbField_of_current kept]
    rfl
  · rw [scans_setScan_self]
    exact BacnetObjectListScanJob.currentScanned?_absorbField kept field _ _
  · rw [ScanField.objectId_store]
    exact sameObject
  · intro other isMember
    rw [scans_setScan_self,
      BacnetObjectListScanJob.absorbField_of_current kept, job]
    refine (BacnetObjectListScanJob.needsField_store (by decide) none
      current).trans ?_
    rcases List.mem_append.mp isMember with isEarlier | isLast
    · exact Bool.and_eq_false_imp.mpr fun needed =>
        absurd needed (Bool.eq_false_iff.mp (done other isEarlier))
    · rw [List.mem_singleton.mp isLast, beq_self_eq_true, Bool.not_true,
        Bool.and_false]
  · intro other isMember
    have differs : other ≠ field := by
      rintro rfl
      have distinct : (dealtWith ++ other :: left).Nodup := by
        rw [fields]
        decide
      exact (List.nodup_cons.mp (List.nodup_append.mp distinct).2.1).1
        isMember
    rw [ScanField.status_store, if_neg differs]
    exact same other (List.mem_cons_of_mem _ isMember)

/-- The reads of the properties of an object end where the model says. -/
theorem ReadsFields.chainsTo
    {scanned : BacnetScannedObject}
    {left : List ScanField}
    {system : ClientSystem τ}
    {dealtWith : List ScanField}
    (reads : system.ReadsFields scan scanned dealtWith left) :
    ChainsTo runtime id scan nowMs (3 * left.length + 3) .advance system
      (startFieldReads runtime id scan scanned nowMs left system) := by
  induction left generalizing system dealtWith with
  | nil =>
      obtain ⟨fields, active, idle, current, isCurrent, -, done, -⟩ := reads
      rw [List.append_nil] at fields
      have noField :
          (ScanField.all.find? fun field =>
            (system.scans scan).needsField field current) = none := by
        refine List.find?_eq_none.mpr fun field isMember needed => ?_
        rw [done field (fields ▸ isMember)] at needed
        cases needed
      refine MovesOn.chainsTo ⟨active, idle, ?_⟩
      unfold BacnetObjectListScanJob.nextRead
      rw [isCurrent]
      dsimp only
      rw [noField]
      rfl
  | cons field left inductionHypothesis =>
      unfold startFieldReads
      by_cases needed :
          (system.scans scan).needsField field scanned = true
      · rw [if_pos needed]
        obtain ⟨current, isCurrent, sameObject, done, same⟩ := reads.current
        have neededNow :
            (system.scans scan).needsField field current = true := by
          unfold BacnetObjectListScanJob.needsField
          rw [same field List.mem_cons_self]
          exact needed
        have first :
            (ScanField.all.find? fun field =>
              (system.scans scan).needsField field current) =
                some field := by
          have noEarlier :
              (dealtWith.find? fun field =>
                (system.scans scan).needsField field current) = none :=
            List.find?_eq_none.mpr fun other isEarlier =>
              Bool.eq_false_iff.mp (done other isEarlier)
          rw [← reads.fields, List.find?_append, noEarlier, Option.none_or,
            List.find?_cons, neededNow]
        have next :
            (system.scans scan).nextRead (system.sessions id) =
              (system.scans scan,
                some (fieldRequest scanned field, field.phase)) := by
          unfold BacnetObjectListScanJob.nextRead fieldRequest
          rw [isCurrent]
          dsimp only
          rw [first, sameObject]
        refine chainsTo_advance reads.active reads.idle next ?_
        rcases sends :
            system.sendObjectListScanRead runtime id scan
              (fieldRequest scanned field) field.phase nowMs with
          ⟨sent, after⟩
        have sendsSame :
            system.sendObjectListScanRead runtime id scan
              { object := scanned.objectId
                property := field.property
                arrayIndex := kBacnetNoArrayIndex }
              field.phase nowMs = (sent, after) :=
          sends
        rw [sendsSame]
        cases sent with
        | true => exact chainsTo_of_sent sends
        | false =>
            obtain ⟨invokeId, startedAtMs, inFlight, scans, -⟩ :=
              scans_sendObjectListScanRead runtime sends
            have phase : (after.scans scan).phase = field.phase := by
              rw [scans, Function.update_self]
            exact chainsTo_of_unsent sends
              (chainsTo_finish_field phase
                (inductionHypothesis (reads.fail sends)))
      · rw [if_neg needed]
        exact (inductionHypothesis
          (reads.skip (Bool.eq_false_iff.mpr needed))).mono
            (by rw [List.length_cons]; omega)

variable (runtime id scan nowMs)

theorem chainsTo_advanceObjectListScan (system : ClientSystem τ) :
    ChainsTo runtime id scan nowMs 12 .advance system
      (system.advanceObjectListScan runtime id scan nowMs) := by
  unfold advanceObjectListScan
  dsimp only
  by_cases resting :
      (!(system.scans scan).isActive ||
        (system.scans scan).requestInFlight) = true
  · rw [if_pos resting]
    intro attempts
    unfold scanChain
    rw [if_pos resting]
    exact ⟨attempts, rfl⟩
  · rw [if_neg resting]
    obtain ⟨active, idle⟩ :=
      Bool.or_eq_false_iff.mp (Bool.eq_false_iff.mpr resting)
    have isActive : (system.scans scan).isActive = true :=
      Bool.not_eq_eq_eq_not.mp active
    cases current : (system.scans scan).currentScanned? with
    | none =>
        have moves : system.MovesOn id scan (system.scans scan) := by
          refine ⟨isActive, idle, ?_⟩
          unfold BacnetObjectListScanJob.nextRead
          rw [current]
        have ends := @MovesOn.chainsTo _ runtime id scan nowMs _ _ moves
        rw [setScan_self] at ends
        exact ends.mono (by decide)
    | some scanned =>
        have reads :
            system.ReadsFields scan scanned [] ScanField.all :=
          ⟨rfl, isActive, idle, scanned, current, rfl,
            fun _ isMember => absurd isMember List.not_mem_nil,
            fun _ _ => rfl⟩
        exact reads.chainsTo

theorem chainsTo_finishObjectListScanRead
    (system : ClientSystem τ)
    (status : BacnetDeviceSessionReadStatus)
    (value : Option BacnetValue) :
    ChainsTo runtime id scan nowMs 13 (.finish status value) system
      (system.finishObjectListScanRead runtime id scan status value
        nowMs) := by
  intro attempts
  unfold scanChain finishObjectListScanRead
  rcases (system.scans scan).absorbRead status value with ⟨step, job⟩
  cases step with
  | advance => exact chainsTo_advanceObjectListScan ..
  | complete => exact ⟨attempts, rfl⟩
  | fail => exact ⟨attempts, rfl⟩

/-- A read is started, or finished at once where it cannot be sent. -/
def tryStartObjectListScanRead
    (system : ClientSystem τ)
    (request : BacnetPropertyRequest)
    (phase : BacnetObjectListScanPhase) : ClientSystem τ :=
  match
    system.sendObjectListScanRead runtime id scan request phase nowMs with
  | (true, system) => system
  | (false, system) =>
      system.finishObjectListScanRead runtime id scan .sendFailed none nowMs

theorem chainsTo_tryStartObjectListScanRead
    (system : ClientSystem τ)
    (request : BacnetPropertyRequest)
    (phase : BacnetObjectListScanPhase) :
    ChainsTo runtime id scan nowMs kLongestScanChain
      (.tryStart request phase) system
      (system.tryStartObjectListScanRead runtime id scan nowMs request
        phase) := by
  unfold tryStartObjectListScanRead
  rcases sends :
      system.sendObjectListScanRead runtime id scan request phase nowMs with
    ⟨sent, after⟩
  cases sent with
  | true => exact chainsTo_of_sent sends
  | false =>
      exact chainsTo_of_unsent sends
        (chainsTo_finishObjectListScanRead runtime id scan nowMs after
          .sendFailed none)

/-- Every chain of calls ends, from any state, after a bounded number. -/
theorem scanChain_ends
    (call : ScanCall)
    (trace : ScanTrace τ) :
    ∃ after, ∀ calls, kLongestScanChain ≤ calls →
      scanChain runtime id scan nowMs calls call trace = some after := by
  obtain ⟨system, attempts⟩ := trace
  cases call with
  | tryStart request phase =>
      obtain ⟨attempted, ends⟩ :=
        chainsTo_tryStartObjectListScanRead runtime id scan nowMs system
          request phase attempts
      exact ⟨_, fun calls within => scanChain_mono within ends⟩
  | finish status value =>
      obtain ⟨attempted, ends⟩ :=
        chainsTo_finishObjectListScanRead runtime id scan nowMs system status
          value attempts
      exact ⟨_, fun calls within =>
        scanChain_mono (Nat.le_trans (by decide) within) ends⟩
  | advance =>
      obtain ⟨attempted, ends⟩ :=
        chainsTo_advanceObjectListScan runtime id scan nowMs system attempts
      exact ⟨_, fun calls within =>
        scanChain_mono (Nat.le_trans (by decide) within) ends⟩

end ClientSystem

end BacnetStack
