import BacnetStack.ClientScanAgreement
import BacnetStack.ClientScanCompleteness
import BacnetStack.ClientScanTally

namespace BacnetStack

/-!
# Whole scans

A scan begins, is polled and may be cancelled; in between the rest of the
system may change in any way that leaves its job and its slot alone.  The
chains of calls carry the tally of the job and the number of attempts from
one call to the next, so that both hold after every run.
-/

open BacnetObjectListScanJob

/-- What a call needs of the job it is made on. -/
def ScanCall.Allowed
    (call : ScanCall)
    (attempts : Nat)
    (job : BacnetObjectListScanJob) : Prop :=
  match call with
  | .tryStart _ phase =>
      ({ job with phase := phase } : BacnetObjectListScanJob).Asking
        (attempts + 1)
  | .finish status _ => status ≠ .skipped ∧ job.Asking attempts
  | .advance => job.requestInFlight = false ∧ job.Going attempts

namespace ScanTrace

variable {τ : Type}

/-- The slot of the session is the scan's. -/
def Holds
    (trace : ScanTrace τ)
    (id : SessionId)
    (scan : ScanId) : Prop :=
  (trace.system.sessions id).inFlightObjectListScan = some scan

/-- A call is made in the middle of a scan. -/
structure Runs
    (trace : ScanTrace τ)
    (id : SessionId)
    (scan : ScanId)
    (setup : ScanSetup)
    (call : ScanCall) : Prop where
  setup : (trace.system.scans scan).setup = setup
  active : (trace.system.scans scan).status = .active
  holds : trace.Holds id scan
  allowed :
    call.Allowed trace.attempts.length (trace.system.scans scan)

/-- The job may be named by what it is known to be. -/
theorem Runs.of_job
    {trace : ScanTrace τ}
    {id : SessionId}
    {scan : ScanId}
    {setup : ScanSetup}
    {call : ScanCall}
    {job : BacnetObjectListScanJob}
    (here : trace.system.scans scan = job)
    (isSetup : job.setup = setup)
    (active : job.status = .active)
    (holds : trace.Holds id scan)
    (allowed : call.Allowed trace.attempts.length job) :
    trace.Runs id scan setup call := by
  subst here
  exact ⟨isSetup, active, holds, allowed⟩

/--
Between two calls an active scan waits for a read and holds its slot; any
other has ended and holds none.
-/
structure Rests
    (trace : ScanTrace τ)
    (id : SessionId)
    (scan : ScanId)
    (setup : ScanSetup) : Prop where
  setup : (trace.system.scans scan).setup = setup
  counted : (trace.system.scans scan).Counted trace.attempts.length
  waits :
    (trace.system.scans scan).isActive = true →
      (trace.system.scans scan).requestInFlight = true ∧
        (trace.system.scans scan).Asking trace.attempts.length ∧
        trace.Holds id scan
  ended :
    (trace.system.scans scan).isActive = false →
      (trace.system.scans scan).isTerminal = true ∧
        (trace.system.scans scan).requestInFlight = false ∧
        ¬trace.Holds id scan

end ScanTrace

namespace ClientSystem

variable {τ : Type}
  {runtime : ClientRuntime τ}
  {id : SessionId}
  {scan : ScanId}
  {nowMs : UInt32}
  {setup : ScanSetup}

/-- The slot of a session is not part of what a request changes. -/
theorem slot_sendObjectListScanRead
    {system after : ClientSystem τ}
    {request : BacnetPropertyRequest}
    {phase : BacnetObjectListScanPhase}
    {sent : Bool}
    (sends :
      system.sendObjectListScanRead runtime id scan request phase nowMs =
        (sent, after)) :
    (after.sessions id).inFlightObjectListScan =
      (system.sessions id).inFlightObjectListScan := by
  have allocated :
      ((system.allocateInvokeId id).2.sessions id).inFlightObjectListScan =
        (system.sessions id).inFlightObjectListScan := by
    unfold allocateInvokeId
    rw [sessions_setSession_self]
    rfl
  unfold sendObjectListScanRead at sends
  dsimp only at sends
  split at sends
  · obtain ⟨-, rfl⟩ := Prod.mk.inj sends
    exact allocated
  · obtain ⟨-, rfl⟩ := Prod.mk.inj sends
    rw [sessions_setSession_self]
    exact allocated

theorem sessions_resolveNow
    (runtime : ClientRuntime τ)
    (system : ClientSystem τ)
    (nowMs : UInt32) :
    (system.resolveNow runtime nowMs).2.sessions = system.sessions := by
  unfold resolveNow
  split
  · rfl
  · rfl

/-- A scan that ends rests, and holds its slot no longer. -/
theorem rests_endObjectListScan
    {system : ClientSystem τ}
    {attempts : List BacnetPropertyRequest}
    {status : BacnetObjectListScanJobStatus}
    (phase : BacnetObjectListScanPhase)
    (inactive :
      ({ status := status } : BacnetObjectListScanJob).isActive = false)
    (terminal :
      ({ status := status } : BacnetObjectListScanJob).isTerminal = true)
    (isSetup : (system.scans scan).setup = setup)
    (counted : (system.scans scan).Counted attempts.length) :
    (ScanTrace.mk (system.endObjectListScan id scan status phase)
      attempts).Rests id scan setup := by
  have job :
      (system.endObjectListScan id scan status phase).scans scan = {
        (system.scans scan).clearInFlightState with
        status := status
        phase := phase
      } :=
    scans_setScan_self ..
  refine ⟨?_, ?_, fun active => ?_, fun _ => ⟨?_, ?_, fun holds => ?_⟩⟩
  · dsimp only
    rw [job]
    exact isSetup
  · dsimp only
    rw [job]
    exact counted.ended status phase
  · dsimp only at active
    rw [job] at active
    exact absurd (active.symm.trans inactive) (by decide)
  · dsimp only
    rw [job]
    exact terminal
  · dsimp only
    rw [job]
    rfl
  · have slot :
        (if (system.sessions id).inFlightObjectListScan = some scan then none
          else (system.sessions id).inFlightObjectListScan) = some scan :=
      (congrArg BacnetDeviceSession.inFlightObjectListScan
        (sessions_setSession_self ..)).symm.trans holds
    split at slot
    · cases slot
    · rename_i other
      exact other slot

/--
What one call of a chain leaves behind: a trace that rests, or one in which
the next call is made.
-/
inductive Hands
    (runtime : ClientRuntime τ)
    (id : SessionId)
    (scan : ScanId)
    (nowMs : UInt32)
    (setup : ScanSetup)
    (call : ScanCall)
    (trace : ScanTrace τ) : Prop where
  | back
      {after : ScanTrace τ}
      (returns :
        ∀ calls,
          scanChain runtime id scan nowMs (calls + 1) call trace =
            some after)
      (rests : after.Rests id scan setup)
  | on
      {next : ScanCall}
      {after : ScanTrace τ}
      (continues :
        ∀ calls,
          scanChain runtime id scan nowMs (calls + 1) call trace =
            scanChain runtime id scan nowMs calls next after)
      (runs : after.Runs id scan setup next)

/-- A read that is sent is waited for; one that is not is finished. -/
theorem hands_tryStart
    {trace : ScanTrace τ}
    {request : BacnetPropertyRequest}
    {phase : BacnetObjectListScanPhase}
    (runs : trace.Runs id scan setup (.tryStart request phase)) :
    Hands runtime id scan nowMs setup (.tryStart request phase) trace := by
  obtain ⟨system, attempts⟩ := trace
  obtain ⟨isSetup, active, holds, allowed⟩ := runs
  dsimp only at isSetup active allowed
  rcases sends :
      system.sendObjectListScanRead runtime id scan request phase nowMs with
    ⟨sent, next⟩
  obtain ⟨invokeId, startedAtMs, inFlight, scans, whenSent⟩ :=
    scans_sendObjectListScanRead runtime sends
  have job := congrFun scans scan
  rw [Function.update_self] at job
  have slot := (slot_sendObjectListScanRead sends).trans holds
  have asking :
      (next.scans scan).Asking (request :: attempts).length := by
    rw [job]
    exact @Asking.withRequest
      { system.scans scan with phase := phase } _ phase request invokeId
      startedAtMs inFlight allowed rfl
  cases sent with
  | true =>
      have returns
          (calls : Nat) :
          scanChain runtime id scan nowMs (calls + 1)
              (.tryStart request phase) ⟨system, attempts⟩ =
            some ⟨next, request :: attempts⟩ := by
        rw [scanChain, sends]
      refine .back returns
        ⟨?_, asking.counted, fun _ => ⟨?_, asking, slot⟩,
          fun inactive => ?_⟩
      · dsimp only
        rw [job]
        exact isSetup
      · dsimp only
        rw [job]
        exact whenSent rfl
      · dsimp only at inactive
        rw [job] at inactive
        exact absurd ((beq_iff_eq.mpr active).symm.trans inactive)
          (by decide)
  | false =>
      have runs :
          (ScanTrace.mk next (request :: attempts)).Runs id scan setup
            (.finish .sendFailed none) :=
        .of_job job isSetup active slot ⟨by decide, job ▸ asking⟩
      exact .on (fun calls => by rw [scanChain, sends]) runs

/-- A read that is finished ends the scan or lets it go on. -/
theorem hands_finish
    {trace : ScanTrace τ}
    {status : BacnetDeviceSessionReadStatus}
    {value : Option BacnetValue}
    (runs : trace.Runs id scan setup (.finish status value)) :
    Hands runtime id scan nowMs setup (.finish status value) trace := by
  obtain ⟨system, attempts⟩ := trace
  obtain ⟨isSetup, active, holds, ended, asking⟩ := runs
  dsimp only at isSetup active asking
  have same := sameScan_absorbRead (system.scans scan) status value
  have absorbs := asking.absorbs ended value
  rcases absorbed :
      (system.scans scan).absorbRead status value with ⟨step, job⟩
  rw [absorbed] at same absorbs
  obtain ⟨⟨sameSetup, sameStatus⟩, idle⟩ := same
  have here := scans_setScan_self system scan job
  cases absorbs with
  | advance going =>
      have runs :
          (ScanTrace.mk (system.setScan scan job) attempts).Runs id scan
            setup .advance :=
        .of_job here (sameSetup.trans isSetup) (sameStatus.trans active)
          holds ⟨idle, going⟩
      exact .on (fun calls => by rw [scanChain, absorbed]) runs
  | ends final counted =>
      have isSetup :
          ((system.setScan scan job).scans scan).setup = setup := by
        rw [here]
        exact sameSetup.trans isSetup
      have isCounted :
          ((system.setScan scan job).scans scan).Counted
            attempts.length := by
        rw [here]
        exact counted
      cases step with
      | advance => exact absurd rfl final
      | complete =>
          have rests :
              (ScanTrace.mk
                ((system.setScan scan job).completeObjectListScan id scan)
                attempts).Rests id scan setup :=
            rests_endObjectListScan _ rfl rfl isSetup isCounted
          exact .back (fun calls => by rw [scanChain, absorbed]) rests
      | fail =>
          have rests :
              (ScanTrace.mk
                ((system.setScan scan job).failObjectListScan id scan)
                attempts).Rests id scan setup :=
            rests_endObjectListScan _ rfl rfl isSetup isCounted
          exact .back (fun calls => by rw [scanChain, absorbed]) rests

/-- A scan that can go on asks for its next read, or is complete. -/
theorem hands_advance
    {trace : ScanTrace τ}
    (runs : trace.Runs id scan setup .advance) :
    Hands runtime id scan nowMs setup .advance trace := by
  obtain ⟨system, attempts⟩ := trace
  obtain ⟨isSetup, active, holds, idle, going⟩ := runs
  dsimp only at isSetup active idle going
  have isActive : (system.scans scan).isActive = true :=
    beq_iff_eq.mpr active
  have same := sameScan_nextRead (system.scans scan) (system.sessions id)
  have proceeds := going.proceeds (system.sessions id)
  rcases next :
      (system.scans scan).nextRead (system.sessions id) with ⟨job, read⟩
  rw [next] at same proceeds
  obtain ⟨⟨sameSetup, sameStatus⟩, -⟩ := same
  have here := scans_setScan_self system scan job
  cases proceeds with
  | @asks _ request phase asking =>
      have runs :
          (ScanTrace.mk (system.setScan scan job) attempts).Runs id scan
            setup (.tryStart request phase) :=
        .of_job here (sameSetup.trans isSetup) (sameStatus.trans active)
          holds asking
      exact .on
        (fun calls => by
          rw [scanChain, isActive, idle, if_neg (by decide), next]) runs
  | ends counted =>
      have rests :
          (ScanTrace.mk
            ((system.setScan scan job).completeObjectListScan id scan)
            attempts).Rests id scan setup := by
        refine rests_endObjectListScan _ rfl rfl ?_ ?_
        · rw [here]
          exact sameSetup.trans isSetup
        · rw [here]
          exact counted
      exact .back
        (fun calls => by
          rw [scanChain, isActive, idle, if_neg (by decide), next]) rests

/-- One call of a chain, whichever it is. -/
theorem hands
    {trace : ScanTrace τ}
    {call : ScanCall}
    (runs : trace.Runs id scan setup call) :
    Hands runtime id scan nowMs setup call trace := by
  cases call with
  | tryStart request phase => exact hands_tryStart runs
  | finish status value => exact hands_finish runs
  | advance => exact hands_advance runs

/-- The contract of the functions that call each other. -/
theorem rests_scanChain
    {calls : Nat}
    {call : ScanCall}
    {trace after : ScanTrace τ}
    (runs : trace.Runs id scan setup call)
    (ends : scanChain runtime id scan nowMs calls call trace = some after) :
    after.Rests id scan setup := by
  induction calls generalizing call trace with
  | zero => cases ends
  | succ calls inductionHypothesis =>
      cases @hands _ runtime id scan nowMs setup trace call runs with
      | back returns rests =>
          rw [returns] at ends
          obtain rfl := Option.some.inj ends
          exact rests
      | on continues runs =>
          rw [continues] at ends
          exact inductionHypothesis runs ends

/-- The end of the read in flight, where a poll finds one. -/
def pollScanRead
    (runtime : ClientRuntime τ)
    (system : ClientSystem τ)
    (id : SessionId)
    (scan : ScanId)
    (nowMs : UInt32) :
    Option (BacnetDeviceSessionReadStatus × Option BacnetValue) ×
      ClientSystem τ :=
  let job := system.scans scan
  if !job.isActive || !job.requestInFlight then
    (none, system)
  else
    let (poll, system) := system.onClient fun client =>
      client.pollReadPropertyStatus runtime job.inFlightInvokeId
        job.inFlightRequest
    if poll.status ≠ .none then
      let status :=
        classifyDetailedReadStatus poll job.inFlightRequest.arrayIndex
      (some (deviceReadStatusFromPropertyStatus status, some poll.value),
        system.setSession id
          ((system.sessions id).updatePropertyCache job.inFlightRequest
            status (some poll.value) nowMs poll.errorClass poll.errorCode))
    else if job.options.readTimeoutMs ≤ nowMs - job.inFlightStartedAtMs then
      (some (.timeout, none),
        system.setSession id
          ((system.sessions id).updatePropertyCache job.inFlightRequest
            .timeout none nowMs))
    else
      (none, system)

/-- A poll only looks for the end of the read. -/
structure PollsRead
    (system : ClientSystem τ)
    (id : SessionId)
    (scan : ScanId)
    (ended :
      Option (BacnetDeviceSessionReadStatus × Option BacnetValue))
    (after : ClientSystem τ) : Prop where
  scans : after.scans = system.scans
  slot :
    (after.sessions id).inFlightObjectListScan =
      (system.sessions id).inFlightObjectListScan
  status : ∀ read ∈ ended, read.1 ≠ .skipped
  active : ended.isSome = true → (system.scans scan).status = .active

theorem pollsRead_pollScanRead
    (system : ClientSystem τ)
    {ended : Option (BacnetDeviceSessionReadStatus × Option BacnetValue)}
    {after : ClientSystem τ}
    (polls :
      system.pollScanRead runtime id scan nowMs = (ended, after)) :
    system.PollsRead id scan ended after := by
  unfold pollScanRead at polls
  dsimp only at polls
  split at polls
  · obtain ⟨rfl, rfl⟩ := Prod.mk.inj polls
    exact ⟨rfl, rfl, fun _ isRead => absurd isRead (Option.not_mem_none _),
      (absurd · Bool.false_ne_true)⟩
  · rename_i waits
    obtain ⟨active, -⟩ :=
      Bool.or_eq_false_iff.mp (Bool.eq_false_iff.mpr waits)
    have isActive : (system.scans scan).status = .active :=
      eq_of_beq (Bool.not_eq_eq_eq_not.mp active)
    split at polls
    · obtain ⟨rfl, rfl⟩ := Prod.mk.inj polls
      refine ⟨rfl, ?_, fun read isRead => ?_, fun _ => isActive⟩
      · rw [sessions_setSession_self]
        rfl
      · obtain rfl := Option.some.inj isRead
        exact deviceReadStatus_ne_skipped _
    split at polls
    · obtain ⟨rfl, rfl⟩ := Prod.mk.inj polls
      refine ⟨rfl, ?_, fun read isRead => ?_, fun _ => isActive⟩
      · rw [sessions_setSession_self]
        rfl
      · obtain rfl := Option.some.inj isRead
        decide
    · obtain ⟨rfl, rfl⟩ := Prod.mk.inj polls
      exact ⟨rfl, rfl, fun _ isRead => absurd isRead (Option.not_mem_none _),
        (absurd · Bool.false_ne_true)⟩

/-- A poll of the slot finishes the read whose end it finds. -/
theorem pollInFlightObjectListScan_of_holds
    {system : ClientSystem τ}
    (holds : (system.sessions id).inFlightObjectListScan = some scan) :
    system.pollInFlightObjectListScan runtime id nowMs =
      match system.pollScanRead runtime id scan nowMs with
      | (none, system) => system
      | (some (status, value), system) =>
          system.finishObjectListScanRead runtime id scan status value
            nowMs := by
  unfold pollInFlightObjectListScan pollScanRead
  rw [holds]
  dsimp only
  split
  · rfl
  split
  · rfl
  split
  · rfl
  · rfl

variable (runtime id scan)

/-- Where a chain of calls leads. -/
def followChain
    (nowMs : UInt32)
    (call : ScanCall)
    (trace : ScanTrace τ) : ScanTrace τ :=
  (scanChain runtime id scan nowMs kLongestScanChain call trace).getD trace

variable {runtime id scan}

theorem system_followChain
    {call : ScanCall}
    {trace : ScanTrace τ}
    {after : ClientSystem τ}
    (ends :
      ChainsTo runtime id scan nowMs kLongestScanChain call trace.system
        after) :
    (followChain runtime id scan nowMs call trace).system = after := by
  obtain ⟨attempted, isEnd⟩ := ends trace.attempts
  unfold followChain
  rw [isEnd]
  rfl

theorem rests_followChain
    {call : ScanCall}
    {trace : ScanTrace τ}
    (runs : trace.Runs id scan setup call) :
    (followChain runtime id scan nowMs call trace).Rests id scan setup := by
  obtain ⟨after, ends⟩ := scanChain_ends runtime id scan nowMs call trace
  have isEnd := ends kLongestScanChain (Nat.le_refl _)
  unfold followChain
  rw [isEnd]
  exact rests_scanChain runs isEnd

end ClientSystem

namespace ScanTrace

open ClientSystem

variable {τ : Type}
  (runtime : ClientRuntime τ)
  (id : SessionId)
  (scan : ScanId)

/-- `beginObjectListScan` -/
def begin
    (system : ClientSystem τ)
    (options : BacnetObjectScanOptions)
    (hasResults : Bool)
    (resultCapacity : Nat)
    (nowMs : UInt32) : ScanTrace τ :=
  let (nowMs, system) := system.resolveNow runtime nowMs
  if (system.sessions id).isBusy || (system.scans scan).isActive then
    ⟨system, []⟩
  else
    let begun :=
      (system.setScan scan
        (newScanJob id options hasResults resultCapacity)).setSession id
          { system.sessions id with inFlightObjectListScan := some scan }
    followChain runtime id scan nowMs
      (.tryStart (ClientSystem.objectListRequest (begun.sessions id) 0)
        .readObjectListCount)
      ⟨begun, []⟩

/-- `pollInFlightObjectListScan` -/
def pollInFlight
    (trace : ScanTrace τ)
    (nowMs : UInt32) : ScanTrace τ :=
  if (trace.system.sessions id).inFlightObjectListScan = some scan then
    match trace.system.pollScanRead runtime id scan nowMs with
    | (none, system) => { trace with system := system }
    | (some (status, value), system) =>
        followChain runtime id scan nowMs (.finish status value)
          { trace with system := system }
  else
    { trace with
      system := trace.system.pollInFlightObjectListScan runtime id nowMs }

/-- `pollObjectListScan` -/
def poll
    (trace : ScanTrace τ)
    (nowMs : UInt32) : ScanTrace τ :=
  let (nowMs, system) := trace.system.resolveNow runtime nowMs
  if (system.scans scan).session = some id ∧
      (system.scans scan).isActive = true then
    let polled :=
      pollInFlight runtime id scan { trace with system := system } nowMs
    if (polled.system.scans scan).isActive &&
        !(polled.system.scans scan).requestInFlight then
      followChain runtime id scan nowMs .advance polled
    else
      polled
  else
    { trace with system := system }

theorem system_begin
    (system : ClientSystem τ)
    (options : BacnetObjectScanOptions)
    (hasResults : Bool)
    (resultCapacity : Nat)
    (nowMs : UInt32) :
    (begin runtime id scan system options hasResults resultCapacity
        nowMs).system =
      (system.beginObjectListScan runtime id scan options hasResults
        resultCapacity nowMs).2 := by
  unfold begin beginObjectListScan
  rcases system.resolveNow runtime nowMs with ⟨now, system⟩
  dsimp only
  split
  · rfl
  · refine (system_followChain
      (chainsTo_tryStartObjectListScanRead runtime id scan now _ _ _)).trans
        ?_
    unfold tryStartObjectListScanRead
    split
    · rename_i sends
      rw [sends]
    · rename_i sends
      rw [sends]

theorem system_pollInFlight
    (trace : ScanTrace τ)
    (nowMs : UInt32) :
    (pollInFlight runtime id scan trace nowMs).system =
      trace.system.pollInFlightObjectListScan runtime id nowMs := by
  unfold pollInFlight
  split
  · rename_i holds
    rw [pollInFlightObjectListScan_of_holds holds]
    split
    · rfl
    · exact system_followChain
        ((chainsTo_finishObjectListScanRead runtime id scan nowMs _ _ _).mono
          (by decide))
  · rfl

theorem system_poll
    (trace : ScanTrace τ)
    (nowMs : UInt32) :
    (poll runtime id scan trace nowMs).system =
      trace.system.pollObjectListScan runtime id scan nowMs := by
  unfold poll pollObjectListScan
  rcases trace.system.resolveNow runtime nowMs with ⟨now, system⟩
  dsimp only
  split
  · rw [system_pollInFlight]
    split
    · refine (system_followChain
        ((chainsTo_advanceObjectListScan runtime id scan now _).mono
          (by decide))).trans ?_
      rw [system_pollInFlight]
    · exact system_pollInFlight ..
  · rfl

end ScanTrace

/-! Whole runs of a scan and what they count. -/

/-- What happens after a scan was begun. -/
inductive ScanEvent (τ : Type) where
  | poll (nowMs : UInt32)
  /-- The session polls what is in flight, without starting anything new. -/
  | pollInFlight (nowMs : UInt32)
  | cancel
  /-- The rest of the system does anything; its outcome is given. -/
  | others (replacement : ClientSystem τ)

namespace ClientSystem

variable {τ : Type}

/--
Another system, with the job of a scan and its hold on the slot of a session
as they are in this one.
-/
def besideScan
    (system replacement : ClientSystem τ)
    (id : SessionId)
    (scan : ScanId) : ClientSystem τ :=
  (replacement.setScan scan (system.scans scan)).setSession id
    { replacement.sessions id with
      inFlightObjectListScan :=
        if (system.sessions id).inFlightObjectListScan = some scan then
          some scan
        else
          (replacement.sessions id).inFlightObjectListScan.filter
            fun other => other ≠ scan }

variable (runtime : ClientRuntime τ)
  (id : SessionId)
  (scan : ScanId)

/-- One event in the life of a scan. -/
def scanStep (system : ClientSystem τ) : ScanEvent τ → ClientSystem τ
  | .poll nowMs => system.pollObjectListScan runtime id scan nowMs
  | .pollInFlight nowMs =>
      if (system.sessions id).inFlightObjectListScan = some scan then
        system.pollInFlightObjectListScan runtime id nowMs
      else
        system
  | .cancel => system.cancelObjectListScan id scan
  | .others replacement => system.besideScan replacement id scan

/-- The system some events after a scan was begun. -/
def scanRun
    (system : ClientSystem τ)
    (options : BacnetObjectScanOptions)
    (hasResults : Bool)
    (resultCapacity : Nat)
    (nowMs : UInt32)
    (events : List (ScanEvent τ)) : ClientSystem τ :=
  EventRun.run (scanStep runtime id scan)
    (system.beginObjectListScan runtime id scan options hasResults
      resultCapacity nowMs).2 events

end ClientSystem

namespace ScanTrace

open ClientSystem

variable {τ : Type}
  (runtime : ClientRuntime τ)
  (id : SessionId)
  (scan : ScanId)

/-- One event in the life of a scan, with its attempts. -/
def step (trace : ScanTrace τ) : ScanEvent τ → ScanTrace τ
  | .poll nowMs => poll runtime id scan trace nowMs
  | .pollInFlight nowMs =>
      if (trace.system.sessions id).inFlightObjectListScan = some scan then
        pollInFlight runtime id scan trace nowMs
      else
        trace
  | .cancel =>
      { trace with system := trace.system.cancelObjectListScan id scan }
  | .others replacement =>
      { trace with system := trace.system.besideScan replacement id scan }

/-- A scan that was begun, with everything it has attempted. -/
def run
    (system : ClientSystem τ)
    (options : BacnetObjectScanOptions)
    (hasResults : Bool)
    (resultCapacity : Nat)
    (nowMs : UInt32)
    (events : List (ScanEvent τ)) : ScanTrace τ :=
  EventRun.run (step runtime id scan)
    (begin runtime id scan system options hasResults resultCapacity nowMs)
    events

theorem system_step
    (trace : ScanTrace τ)
    (event : ScanEvent τ) :
    (trace.step runtime id scan event).system =
      trace.system.scanStep runtime id scan event := by
  cases event with
  | poll nowMs => exact system_poll ..
  | pollInFlight nowMs =>
      unfold step scanStep
      dsimp only
      split
      · exact system_pollInFlight ..
      · rfl
  | cancel => rfl
  | others replacement => rfl

/-- The attempts are those of the functions themselves. -/
theorem system_run
    (system : ClientSystem τ)
    (options : BacnetObjectScanOptions)
    (hasResults : Bool)
    (resultCapacity : Nat)
    (nowMs : UInt32)
    (events : List (ScanEvent τ)) :
    (run runtime id scan system options hasResults resultCapacity nowMs
        events).system =
      system.scanRun runtime id scan options hasResults resultCapacity nowMs
        events := by
  refine (EventRun.run_map (system_step runtime id scan) _ events).trans ?_
  rw [system_begin]
  rfl

variable {runtime id scan} {setup : ScanSetup}

/-- Only the job and the slot matter to a trace at rest. -/
theorem Rests.of_same
    {trace : ScanTrace τ}
    (rests : trace.Rests id scan setup)
    {system : ClientSystem τ}
    (job : system.scans scan = trace.system.scans scan)
    (slot :
      (system.sessions id).inFlightObjectListScan = some scan ↔
        trace.Holds id scan) :
    ({ trace with system := system } : ScanTrace τ).Rests id scan setup := by
  obtain ⟨isSetup, counted, waits, ended⟩ := rests
  rw [← job] at isSetup counted waits ended
  exact ⟨isSetup, counted,
    fun active => ⟨(waits active).1, (waits active).2.1,
      slot.mpr (waits active).2.2⟩,
    fun inactive => ⟨(ended inactive).1, (ended inactive).2.1,
      fun holds => (ended inactive).2.2 (slot.mp holds)⟩⟩

theorem Rests.pollInFlight
    {trace : ScanTrace τ}
    (rests : trace.Rests id scan setup)
    (holds : trace.Holds id scan)
    (nowMs : UInt32) :
    (pollInFlight runtime id scan trace nowMs).Rests id scan setup := by
  unfold ScanTrace.pollInFlight
  unfold Holds at holds
  rw [if_pos holds]
  rcases polled :
      trace.system.pollScanRead runtime id scan nowMs with ⟨ended, after⟩
  obtain ⟨scans, slot, status, active⟩ :=
    pollsRead_pollScanRead trace.system polled
  have job := congrFun scans scan
  cases ended with
  | none => exact rests.of_same job (by rw [slot]; rfl)
  | some read =>
      have isActive := active rfl
      obtain ⟨-, asking, -⟩ := rests.waits (beq_iff_eq.mpr isActive)
      exact rests_followChain (.of_job job rests.setup isActive
        (slot.trans holds) ⟨status read rfl, asking⟩)

theorem Rests.poll
    {trace : ScanTrace τ}
    (rests : trace.Rests id scan setup)
    (nowMs : UInt32) :
    (poll runtime id scan trace nowMs).Rests id scan setup := by
  unfold ScanTrace.poll
  rcases resolved : trace.system.resolveNow runtime nowMs with ⟨now, system⟩
  have scans := scans_resolveNow runtime trace.system nowMs
  have sessions := sessions_resolveNow runtime trace.system nowMs
  rw [resolved] at scans sessions
  have here :
      ({ trace with system := system } : ScanTrace τ).Rests id scan setup :=
    rests.of_same (congrFun scans scan) (by rw [sessions]; rfl)
  dsimp only
  split
  · rename_i own
    have polled :=
      @Rests.pollInFlight _ runtime id scan setup _ here
        (here.waits own.2).2.2 now
    rw [if_neg]
    · exact polled
    · intro idle
      obtain ⟨active, notInFlight⟩ := Bool.and_eq_true_iff.mp idle
      rw [(polled.waits active).1] at notInFlight
      cases notInFlight
  · exact here

theorem Rests.cancel
    {trace : ScanTrace τ}
    (rests : trace.Rests id scan setup) :
    ({ trace with system := trace.system.cancelObjectListScan id scan } :
      ScanTrace τ).Rests id scan setup := by
  unfold cancelObjectListScan
  split
  · exact rests_endObjectListScan _ rfl rfl rests.setup rests.counted
  · exact rests

theorem Rests.others
    {trace : ScanTrace τ}
    (rests : trace.Rests id scan setup)
    (replacement : ClientSystem τ) :
    ({ trace with system := trace.system.besideScan replacement id scan } :
      ScanTrace τ).Rests id scan setup := by
  refine rests.of_same (scans_setScan_self ..) ?_
  unfold besideScan
  rw [sessions_setSession_self]
  dsimp only
  split
  · rename_i holds
    exact iff_of_true rfl holds
  · rename_i free
    refine iff_of_false (fun taken => ?_) free
    obtain ⟨-, isOther⟩ := Option.filter_eq_some_iff.mp taken
    exact of_decide_eq_true isOther rfl

/-- No event wakes a scan that rests. -/
theorem Rests.step
    {trace : ScanTrace τ}
    (rests : trace.Rests id scan setup)
    (event : ScanEvent τ) :
    (trace.step runtime id scan event).Rests id scan setup := by
  cases event with
  | poll nowMs => exact rests.poll nowMs
  | pollInFlight nowMs =>
      unfold ScanTrace.step
      dsimp only
      split
      · rename_i holds
        exact rests.pollInFlight holds nowMs
      · exact rests
  | cancel => exact rests.cancel
  | others replacement => exact rests.others replacement

/-- A scan that was begun rests. -/
theorem rests_begin
    {system : ClientSystem τ}
    (free : (system.sessions id).isBusy = false)
    (inactive : (system.scans scan).isActive = false)
    (options : BacnetObjectScanOptions)
    (hasResults : Bool)
    (resultCapacity : Nat)
    (nowMs : UInt32) :
    (begin runtime id scan system options hasResults resultCapacity
      nowMs).Rests id scan
        { session := some id
          options := options
          hasResults := hasResults
          resultCapacity := resultCapacity } := by
  unfold begin
  rcases resolved : system.resolveNow runtime nowMs with ⟨now, looked⟩
  have scans := scans_resolveNow runtime system nowMs
  have sessions := sessions_resolveNow runtime system nowMs
  rw [resolved] at scans sessions
  dsimp only at scans sessions ⊢
  rw [sessions, scans, free, inactive, if_neg (by decide)]
  refine rests_followChain (.of_job (scans_setScan_self ..) rfl rfl ?_
    (.count rfl ⟨rfl, rfl, rfl, rfl⟩ rfl rfl))
  unfold Holds
  rw [sessions_setSession_self]

theorem rests_run
    {system : ClientSystem τ}
    (free : (system.sessions id).isBusy = false)
    (inactive : (system.scans scan).isActive = false)
    (options : BacnetObjectScanOptions)
    (hasResults : Bool)
    (resultCapacity : Nat)
    (nowMs : UInt32)
    (events : List (ScanEvent τ)) :
    (run runtime id scan system options hasResults resultCapacity nowMs
      events).Rests id scan
        { session := some id
          options := options
          hasResults := hasResults
          resultCapacity := resultCapacity } :=
  EventRun.run_invariant (Rests · id scan _)
    (fun _ event rests => rests.step event)
    (rests_begin free inactive options hasResults resultCapacity nowMs)
    events

end ScanTrace

/-- The counters of a scan, and the objects it has stored. -/
structure BacnetObjectListScanJob.KeepsCount
    (job : BacnetObjectListScanJob)
    (options : BacnetObjectScanOptions)
    (hasResults : Bool)
    (resultCapacity : Nat) : Prop where
  storedFound : job.result.stored ≤ job.result.found
  foundInspected : job.result.found ≤ job.result.inspected.toNat
  inspectedLimit :
    job.result.inspected.toNat ≤
      min job.result.objectListCount.toNat
        options.maxObjectListEntries.toNat
  storedCapacity : job.result.stored ≤ resultCapacity
  /-- The entries were read one after the other. -/
  readInOrder :
    job.entryReads.reverse.map (fun read => read.index.toNat) =
      List.range' 1 job.entryReads.length
  /-- The accepted ones among them lie at increasing indices. -/
  acceptedInOrder :
    ((job.entryReads.reverse.filterMap (acceptedRead? options)).map
      Prod.fst).Pairwise (· < ·)
  /-- The first of these, as many as there is room for, are stored. -/
  results :
    job.results.map (·.objectId) =
      ((job.entryReads.reverse.filterMap (acceptedRead? options)).take
        (if hasResults then resultCapacity else 0)).map Prod.snd
  storedResults : job.result.stored = job.results.length

namespace ClientSystem

variable {τ : Type}
  (runtime : ClientRuntime τ)
  {id : SessionId}
  {scan : ScanId}

/-- The counters of a scan agree in every state it reaches. -/
theorem keepsCount_scanRun
    {system : ClientSystem τ}
    (free : (system.sessions id).isBusy = false)
    (inactive : (system.scans scan).isActive = false)
    (options : BacnetObjectScanOptions)
    (hasResults : Bool)
    (resultCapacity : Nat)
    (nowMs : UInt32)
    (events : List (ScanEvent τ)) :
    ((system.scanRun runtime id scan options hasResults resultCapacity nowMs
      events).scans scan).KeepsCount options hasResults resultCapacity := by
  have rests := @ScanTrace.rests_run _ runtime id scan system free inactive
    options hasResults resultCapacity nowMs events
  obtain ⟨isSetup, ⟨tally, -⟩, -, -⟩ := rests
  rw [ScanTrace.system_run] at isSetup tally
  generalize (system.scanRun runtime id scan options hasResults
    resultCapacity nowMs events).scans scan = job at isSetup tally
  obtain ⟨-, isOptions, isResults, isCapacity⟩ :=
    ScanSetup.mk.inj isSetup
  subst isOptions isResults isCapacity
  have atMostRoom : job.room ≤ job.resultCapacity := by
    unfold room
    split
    · exact Nat.le_refl _
    · exact Nat.zero_le _
  exact {
    storedFound := tally.stored_le_found
    foundInspected := tally.found_le_inspected
    inspectedLimit := tally.inspected_le
    storedCapacity := tally.stored_le_room.trans atMostRoom
    readInOrder := tally.inOrder
    acceptedInOrder := tally.increasing
    results := tally.objects
    storedResults := tally.filled
  }

/--
A scan makes a bounded number of requests, its functions come back from every
chain of calls, and it is over as soon as no request of it is under way.
-/
theorem attempts_scanRun
    {system : ClientSystem τ}
    (free : (system.sessions id).isBusy = false)
    (inactive : (system.scans scan).isActive = false)
    (options : BacnetObjectScanOptions)
    (hasResults : Bool)
    (resultCapacity : Nat)
    (nowMs : UInt32)
    (events : List (ScanEvent τ)) :
    ∃ attempts,
      ScanTrace.run runtime id scan system options hasResults resultCapacity
          nowMs events =
        ⟨system.scanRun runtime id scan options hasResults resultCapacity
          nowMs events, attempts⟩ ∧
      attempts.length ≤
        1 + 4 *
          min
            ((system.scanRun runtime id scan options hasResults
              resultCapacity nowMs events).scans
                scan).result.objectListCount.toNat
            options.maxObjectListEntries.toNat ∧
      (∀ laterMs call trace, ∃ after, ∀ calls, kLongestScanChain ≤ calls →
        scanChain runtime id scan laterMs calls call trace = some after) ∧
      (((system.scanRun runtime id scan options hasResults resultCapacity
          nowMs events).scans scan).requestInFlight = false →
        ((system.scanRun runtime id scan options hasResults resultCapacity
          nowMs events).scans scan).isTerminal = true ∧
        ((system.scanRun runtime id scan options hasResults resultCapacity
          nowMs events).sessions id).inFlightObjectListScan ≠ some scan) := by
  have rests := @ScanTrace.rests_run _ runtime id scan system free inactive
    options hasResults resultCapacity nowMs events
  have same := ScanTrace.system_run runtime id scan system options hasResults
    resultCapacity nowMs events
  generalize ScanTrace.run runtime id scan system options hasResults
    resultCapacity nowMs events = trace at rests same
  obtain ⟨after, attempts⟩ := trace
  dsimp only at same
  subst same
  obtain ⟨isSetup, counted, waits, ended⟩ := rests
  refine ⟨attempts, rfl, ?_, fun laterMs =>
    scanChain_ends runtime id scan laterMs, fun idle => ?_⟩
  · have isOptions := congrArg ScanSetup.options isSetup
    have within := counted.within
    unfold entryLimit at within
    rw [show ((system.scanRun runtime id scan options hasResults
      resultCapacity nowMs events).scans scan).options = options from
        isOptions] at within
    exact within
  · refine And.imp_right And.right (ended (Bool.eq_false_iff.mpr ?_))
    intro active
    have inFlight := (waits active).1
    exact absurd (idle.symm.trans inFlight) Bool.false_ne_true

end ClientSystem

/-- A client that was started, and a device that answers by a script. -/
def startedSystem
    (script : List (Option ReceivedDatagram)) :
    ClientSystem (List (Option ReceivedDatagram)) :=
  { scriptedSystem script with
    client := (scriptedSystem script).client.start true }

/-- A list of two objects; the name of the first cannot be read. -/
def shortListScript : List (Option ReceivedDatagram) :=
  [scriptedEntry 1 0 [0x21, 2], scriptedEntry 2 1 [0xC4, 0, 0, 0, 1],
    scriptedAbort 3, scriptedEntry 4 2 [0xC4, 0, 0, 0, 2]]

/-- The name of the second is lost with everything else the device knew. -/
def shortListEvents :
    List (ScanEvent (List (Option ReceivedDatagram))) :=
  [.poll 1, .pollInFlight 2, .poll 3, .poll 4, .others (startedSystem []),
    .poll 5, .poll 100000]

/-- Only the names of the objects are read. -/
def shortListOptions : BacnetObjectScanOptions where
  readDescription := false
  readPresentValue := false

theorem keepsCount_scanRun_shortList :
    (((startedSystem shortListScript).scanRun scriptedRuntime 0 0
      shortListOptions true 8 0 shortListEvents).scans 0).KeepsCount
        shortListOptions true 8 :=
  ClientSystem.keepsCount_scanRun scriptedRuntime (by decide) (by decide) _ _
    _ _ _

theorem attempts_scanRun_shortList :
    (((startedSystem shortListScript).scanRun scriptedRuntime 0 0
      shortListOptions true 8 0 shortListEvents).scans 0).isTerminal =
        true ∧
      (((startedSystem shortListScript).scanRun scriptedRuntime 0 0
        shortListOptions true 8 0 shortListEvents).sessions
          0).inFlightObjectListScan ≠ some 0 := by
  obtain ⟨attempts, -, -, -, ended⟩ :=
    @ClientSystem.attempts_scanRun _ scriptedRuntime 0 0
      (startedSystem shortListScript) (by decide) (by decide)
      shortListOptions true 8 0 shortListEvents
  exact ended (by decide +kernel)

end BacnetStack
