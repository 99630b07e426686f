import BacnetStack.ClientRuns

namespace BacnetStack

/-!
# What a complete scan has found

The invariant of a scan holds in every state an application can reach.  At
the end of a scan it says what a result that is complete and not truncated is
worth: it covers the Object_List exactly where every entry that was asked for
was answered.  An entry that was not answered ends the scan, and the result
does not say so.
-/

namespace BacnetObjectListScanJob

variable (job : BacnetObjectListScanJob)

/--
Every entry of the Object_List was read, and the object it names is stored if
the scan is interested in it.
-/
def Covers : Prop :=
  ∀ entry, 1 ≤ entry → entry ≤ job.result.objectListCount.toNat →
    ∃ read ∈ job.entryReads,
      read.index.toNat = entry ∧ read.status = .ack ∧
        ∀ object ∈ acceptedObject? job.options read.value,
          object ∈ job.storedObjects

variable {job}

theorem Finished.covers_iff
    (finished : job.Finished)
    (notTruncated : job.result.truncated = false) :
    job.Covers ↔ job.AllReadsAnswered := by
  have whole : job.maxIndex = job.result.objectListCount :=
    finished.limit.resolve_left (by rw [notTruncated]; exact nofun)
  have stored : job.AllStored :=
    finished.stored.resolve_left (by rw [notTruncated]; exact nofun)
  rcases finished.outcome with ⟨answered, covered⟩ | ⟨unanswered, missing⟩
  · refine iff_of_true (fun entry isPositive atMost => ?_) answered
    rw [← whole] at atMost
    obtain ⟨read, isMember, isEntry, isAnswered⟩ :=
      covered entry isPositive atMost
    exact ⟨read, isMember, isEntry, isAnswered,
      stored read isMember isAnswered⟩
  · refine iff_of_false (fun covers => ?_) unanswered
    obtain ⟨entry, isPositive, atMost, unread⟩ := missing
    rw [whole] at atMost
    obtain ⟨read, isMember, isEntry, isAnswered, -⟩ :=
      covers entry isPositive atMost
    exact unread ⟨read, isMember, isEntry, isAnswered⟩

end BacnetObjectListScanJob

namespace ClientSystem

variable {τ : Type}

/-- Scans are only changed by the calls that belong to them. -/
theorem Steps.soundScans
    {runtime : ClientRuntime τ}
    {guard : NotificationGuard τ}
    {system after : ClientSystem τ}
    (steps : Steps runtime guard system after)
    (sound : system.SoundScans) :
    after.SoundScans := by
  induction steps with
  | refl => exact sound
  | trans _ _ early late => exact late (early sound)
  | quiet _ scans => exact scans sound
  | turn => exact sound.of_same rfl
  | callback => exact sound.of_same rfl
  | callbackReturned => exact sound.of_same rfl
  | adjust => exact sound.of_same rfl
  | start => exact sound.of_same rfl
  | release _ _ _ inner =>
      exact (inner sound).of_same (scans_releaseSlot _ _ _)
  | reactivate _ _ inner => exact (inner sound).of_same rfl
  | stop => exact sound.of_same (scans_stopSubscription _ _)
  | subscribe => exact sound.of_same rfl
  | answer => exact sound.of_same (scans_onClient _ _)
  | pass _ _ _ taken =>
      exact sound.of_same
        (sameSubscriptions_takeCovNotification taken).1.scans
  | refuse _ _ _ taken unsent =>
      exact sound.of_same
        ((sameSubscriptions_takeCovNotification taken).1.trans
          (sameSubscriptions_acknowledgeTaken unsent).1).scans
  | accept _ _ _ taken sent =>
      exact sound.of_same
        ((sameSubscriptions_takeCovNotification taken).1.trans
          (sameSubscriptions_acknowledgeTaken sent).1).scans

variable (runtime : ClientRuntime τ) (application : ClientApplication τ)
  (depth : Nat)

theorem soundScans_step
    {system : ClientSystem τ}
    (sound : system.SoundScans)
    (step : ClientStep) :
    (system.step runtime (application.callback runtime depth)
      step).SoundScans := by
  by_cases isCall : ∃ call, step = .call call
  · obtain ⟨call, rfl⟩ := isCall
    exact (steps_call (callbackSteps_application application depth)
      (callAllowed_trivial system call)).soundScans sound
  · exact sound.of_same (keepsHistory_step runtime
      (application.callback runtime depth) system
      (fun call isSame => isCall ⟨call, isSame⟩)).scans

theorem IsInitial.soundScans
    {system : ClientSystem τ}
    (initial : system.IsInitial) :
    system.SoundScans := by
  intro scan
  rw [initial.scans scan]
  exact ⟨nofun, nofun⟩

/--
A scan that ended complete and not truncated covers the Object_List exactly
where every entry it asked for was answered.
-/
theorem covers_iff_of_run
    {system : ClientSystem τ}
    (initial : system.IsInitial)
    (steps : List ClientStep)
    (scan : ScanId)
    (complete :
      ((system.run runtime (application.callback runtime depth)
        steps).scans scan).status = .complete)
    (notTruncated :
      ((system.run runtime (application.callback runtime depth)
        steps).scans scan).result.truncated = false) :
    ((system.run runtime (application.callback runtime depth)
        steps).scans scan).Covers ↔
      ((system.run runtime (application.callback runtime depth)
        steps).scans scan).AllReadsAnswered :=
  have sound := EventRun.run_invariant SoundScans
    (fun _ step sound =>
      soundScans_step runtime application depth sound step)
    initial.soundScans steps
  ((sound scan).complete complete).covers_iff notTruncated

end ClientSystem

/-- The answer to the read of one entry of the Object_List of device 123. -/
def scriptedEntry
    (invokeId index : UInt8)
    (value : List UInt8) : Option ReceivedDatagram :=
  some
    { source := scriptedPeer
      packet :=
        [0x81, 0x0A, 0, 20 + value.length.toUInt8, 1, 0, 0x30, invokeId,
          0x0C, 0x0C, 2, 0, 0, 0x7B, 0x19, 76, 0x29, index, 0x3E] ++
          value ++ [0x3F] }

/-- A device that refuses to answer a request. -/
def scriptedAbort (invokeId : UInt8) : Option ReceivedDatagram :=
  some
    { source := scriptedPeer
      packet := [0x81, 0x0A, 0, 9, 1, 0, 0x70, invokeId, 1] }

/-- A scan of the objects only, polled three times. -/
def scanSteps : List ClientStep :=
  [.startClient true,
    .call (.beginObjectListScan 0 0
      { readObjectName := false
        readDescription := false
        readPresentValue := false } true 8 0),
    .call (.pollObjectListScan 0 0 1),
    .call (.pollObjectListScan 0 0 2),
    .call (.pollObjectListScan 0 0 3)]

/-- The scan of a list of two objects, given the answer to its last entry. -/
def scannedSystem
    (last : Option ReceivedDatagram) :
    ClientSystem (List (Option ReceivedDatagram)) :=
  (scriptedSystem
    [scriptedEntry 1 0 [0x21, 2], scriptedEntry 2 1 [0xC4, 0, 0, 0, 1],
      last]).run scriptedRuntime
    ((ClientApplication.observer _).callback scriptedRuntime 1) scanSteps

theorem covers_iff_of_run_answered :
    ((scannedSystem (scriptedEntry 3 2 [0xC4, 0, 0, 0, 2])).scans 0).Covers ↔
      ((scannedSystem (scriptedEntry 3 2 [0xC4, 0, 0, 0, 2])).scans
        0).AllReadsAnswered :=
  ClientSystem.covers_iff_of_run _ _ _ (isInitial_scriptedSystem _) _ 0
    (by decide +kernel) (by decide +kernel)

/-- A device that aborts the last read leaves a scan that seems complete. -/
theorem covers_of_run_aborted :
    ¬∀ (system : ClientSystem (List (Option ReceivedDatagram)))
      (steps : List ClientStep)
      (scan : ScanId),
      system.IsInitial →
      ((system.run scriptedRuntime
        ((ClientApplication.observer _).callback scriptedRuntime 1)
        steps).scans scan).status = .complete →
      ((system.run scriptedRuntime
        ((ClientApplication.observer _).callback scriptedRuntime 1)
        steps).scans scan).result.truncated = false →
      ((system.run scriptedRuntime
        ((ClientApplication.observer _).callback scriptedRuntime 1)
        steps).scans scan).Covers := by
  intro always
  have covers := always _ scanSteps 0
    (isInitial_scriptedSystem
      [scriptedEntry 1 0 [0x21, 2], scriptedEntry 2 1 [0xC4, 0, 0, 0, 1],
        scriptedAbort 3])
    (by decide +kernel) (by decide +kernel) 2 (by decide)
    (by decide +kernel)
  have unread :
      ¬∃ read ∈ ((scannedSystem (scriptedAbort 3)).scans 0).entryReads,
        read.index.toNat = 2 ∧ read.status = .ack := by
    decide +kernel
  obtain ⟨read, isMember, isEntry, isAnswered, -⟩ := covers
  exact unread ⟨read, isMember, isEntry, isAnswered⟩

end BacnetStack
