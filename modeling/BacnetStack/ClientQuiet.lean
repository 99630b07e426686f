import BacnetStack.ClientCacheOperations
import BacnetStack.ClientScanCoverage
import BacnetStack.ClientTraffic

namespace BacnetStack

/-!
# Scans, reads and writes do not touch subscriptions

A scan, a read or a write of a session sends requests, reads datagrams and
changes its own job, the cache and the slots of jobs.  What belongs to
subscriptions stays as it is, and so does the rule that a session waits for
one thing at a time.  The cache is only told of reads and results.
-/

namespace BacnetDeviceSession

/-- A session waits for at most one thing. -/
structure Exclusive (session : BacnetDeviceSession) : Prop where
  subscription :
    session.inFlightSubscription.isSome = true → session.jobInFlight = false
  scan :
    session.inFlightObjectListScan.isSome = true →
      session.inFlightPropertyRead = none

/--
What belongs to the subscriptions of a session is unchanged, and its cache is
told of reads and results.
-/
structure QuietStep (before after : BacnetDeviceSession) : Prop where
  endpoint : after.endpoint = before.endpoint
  slot : after.inFlightSubscription = before.inFlightSubscription
  pending : after.pendingCovNotifications = before.pendingCovNotifications
  turn :
    after.roundRobinSubscriptionIndex = before.roundRobinSubscriptionIndex
  cache : before.propertyCache.FollowsFrom after.propertyCache
  exclusive : before.Exclusive → after.Exclusive

/-- The jobs a session waits for are the same, and so is its peer. -/
structure SameJobs (before after : BacnetDeviceSession) : Prop where
  endpoint : after.endpoint = before.endpoint
  read : after.inFlightPropertyRead = before.inFlightPropertyRead
  scan : after.inFlightObjectListScan = before.inFlightObjectListScan

namespace QuietStep

theorem refl (session : BacnetDeviceSession) : session.QuietStep session :=
  ⟨rfl, rfl, rfl, rfl, .refl _, id⟩

theorem trans
    {first second third : BacnetDeviceSession}
    (early : first.QuietStep second)
    (late : second.QuietStep third) :
    first.QuietStep third :=
  ⟨late.endpoint.trans early.endpoint, late.slot.trans early.slot,
    late.pending.trans early.pending, late.turn.trans early.turn,
    early.cache.trans late.cache,
    fun exclusive => late.exclusive (early.exclusive exclusive)⟩

end QuietStep

variable {session : BacnetDeviceSession}

/-- A session that is not busy waits for nothing. -/
theorem slots_of_not_busy
    (notBusy : session.isBusy = false) :
    session.inFlightSubscription = none ∧
      session.inFlightObjectListScan = none ∧
      session.inFlightPropertyRead = none := by
  unfold isBusy at notBusy
  rw [Bool.or_eq_false_iff, Bool.or_eq_false_iff, Option.isSome_eq_false_iff,
    Option.isSome_eq_false_iff, Option.isSome_eq_false_iff,
    Option.isNone_iff_eq_none, Option.isNone_iff_eq_none,
    Option.isNone_iff_eq_none] at notBusy
  exact ⟨notBusy.1.1, notBusy.1.2, notBusy.2⟩

/-- A scan begins where nothing else is in flight. -/
theorem quiet_beginScan
    (notBusy : session.isBusy = false)
    (scan : ScanId) :
    session.QuietStep
      { session with inFlightObjectListScan := some scan } := by
  obtain ⟨noSubscription, -, noRead⟩ := slots_of_not_busy notBusy
  refine ⟨rfl, rfl, rfl, rfl, .refl _,
    fun _ => ⟨fun waits => ?_, fun _ => noRead⟩⟩
  rw [noSubscription] at waits
  exact nomatch waits

/-- A read job begins where nothing else is in flight. -/
theorem quiet_beginRead
    (notBusy : session.isBusy = false)
    (read : ReadId) :
    session.QuietStep
      { session with inFlightPropertyRead := some read } := by
  obtain ⟨noSubscription, noScan, -⟩ := slots_of_not_busy notBusy
  refine ⟨rfl, rfl, rfl, rfl, .refl _,
    fun _ => ⟨fun waits => ?_, fun waits => ?_⟩⟩
  · rw [noSubscription] at waits
    exact nomatch waits
  · rw [noScan] at waits
    exact nomatch waits

/-- No job is in flight exactly where both slots are empty. -/
theorem jobInFlight_eq_false_iff :
    session.jobInFlight = false ↔
      session.inFlightPropertyRead = none ∧
        session.inFlightObjectListScan = none := by
  unfold jobInFlight
  rw [Bool.or_eq_false_iff, Option.isSome_eq_false_iff,
    Option.isSome_eq_false_iff, Option.isNone_iff_eq_none,
    Option.isNone_iff_eq_none]

/-- The slot of a scan is cleared by that scan only. -/
theorem quiet_endScan (scan : ScanId) :
    session.QuietStep
      { session with
        inFlightObjectListScan :=
          if session.inFlightObjectListScan = some scan then none
          else session.inFlightObjectListScan } := by
  refine ⟨rfl, rfl, rfl, rfl, .refl _,
    fun exclusive => ⟨fun waits => ?_, fun waits => ?_⟩⟩
  · obtain ⟨noRead, noScan⟩ :=
      jobInFlight_eq_false_iff.mp (exclusive.subscription waits)
    refine jobInFlight_eq_false_iff.mpr ⟨noRead, ?_⟩
    dsimp only
    rw [noScan, if_neg nofun]
  · dsimp only at waits
    split at waits
    · exact nomatch waits
    · exact exclusive.scan waits

/-- The slot of a read job is cleared by that job only. -/
theorem quiet_endRead (read : ReadId) :
    session.QuietStep
      { session with
        inFlightPropertyRead :=
          if session.inFlightPropertyRead = some read then none
          else session.inFlightPropertyRead } := by
  refine ⟨rfl, rfl, rfl, rfl, .refl _,
    fun exclusive => ⟨fun waits => ?_, fun waits => ?_⟩⟩
  · obtain ⟨noRead, noScan⟩ :=
      jobInFlight_eq_false_iff.mp (exclusive.subscription waits)
    refine jobInFlight_eq_false_iff.mpr ⟨?_, noScan⟩
    dsimp only
    rw [noRead, if_neg nofun]
  · dsimp only
    rw [exclusive.scan waits, if_neg nofun]

/-- The cache is told of a read that ended. -/
theorem quiet_updatePropertyCache
    (request : BacnetPropertyRequest)
    (status : BacnetPropertyReadStatus)
    (value : Option BacnetValue)
    (attemptAtMs errorClass errorCode : UInt32) :
    session.QuietStep
      (session.updatePropertyCache request status value attemptAtMs
        errorClass errorCode) :=
  ⟨rfl, rfl, rfl, rfl,
    PropertyCache.followsFrom_update _ _ _ _ _ _ _,
    fun exclusive => ⟨exclusive.subscription, exclusive.scan⟩⟩

/-- The next invoke id of a session is used up. -/
theorem quiet_allocateInvokeId :
    session.QuietStep session.allocateInvokeId.2 :=
  ⟨rfl, rfl, rfl, rfl, .refl _,
    fun exclusive => ⟨exclusive.subscription, exclusive.scan⟩⟩

end BacnetDeviceSession

/-- What belongs to subscriptions and notifications is unchanged. -/
structure ClientSystem.QuietStep {τ : Type}
    (before after : ClientSystem τ) : Prop where
  client : before.client.QuietStep after.client
  subscriptions : after.subscriptions = before.subscriptions
  history : after.history = before.history
  session : ∀ id, (before.sessions id).QuietStep (after.sessions id)

namespace ClientSystem

variable {τ : Type} (runtime : ClientRuntime τ)

namespace QuietStep

theorem refl (system : ClientSystem τ) : system.QuietStep system :=
  ⟨.refl _, rfl, rfl, fun _ => .refl _⟩

variable {first second third : ClientSystem τ}

theorem trans
    (early : first.QuietStep second)
    (late : second.QuietStep third) :
    first.QuietStep third :=
  ⟨early.client.trans late.client,
    late.subscriptions.trans early.subscriptions,
    late.history.trans early.history,
    fun id => (early.session id).trans (late.session id)⟩

/-- A quiet operation of the client. -/
theorem onClient
    (quiet : first.QuietStep second)
    {Result : Type}
    {operation : BacnetClient τ → Result × BacnetClient τ}
    (isQuiet :
      ∀ client : BacnetClient τ, client.QuietStep (operation client).2) :
    first.QuietStep (second.onClient operation).2 :=
  quiet.trans ⟨isQuiet _, rfl, rfl, fun _ => .refl _⟩

/-- A quiet change of one session. -/
theorem setSession
    (quiet : first.QuietStep second)
    {id : SessionId}
    {session : BacnetDeviceSession}
    (isQuiet : (second.sessions id).QuietStep session) :
    first.QuietStep (second.setSession id session) := by
  refine quiet.trans ⟨.refl _, rfl, rfl, fun other => ?_⟩
  by_cases same : other = id
  · subst same
    show (second.sessions other).QuietStep
      (Function.update second.sessions other session other)
    rw [Function.update_self]
    exact isQuiet
  · show (second.sessions other).QuietStep
      (Function.update second.sessions id session other)
    rw [Function.update_of_ne same]
    exact .refl _

/-- A scan belongs to no subscription. -/
theorem setScan
    (quiet : first.QuietStep second)
    (scan : ScanId)
    (job : BacnetObjectListScanJob) :
    first.QuietStep (second.setScan scan job) :=
  quiet.trans ⟨.refl _, rfl, rfl, fun _ => .refl _⟩

/-- Nor does a read job. -/
theorem setRead
    (quiet : first.QuietStep second)
    (read : ReadId)
    (job : BacnetPropertyReadJob) :
    first.QuietStep (second.setRead read job) :=
  quiet.trans ⟨.refl _, rfl, rfl, fun _ => .refl _⟩

/-- The client may be asked for the time. -/
theorem resolveNow
    (quiet : first.QuietStep second)
    (nowMs : UInt32) :
    first.QuietStep (second.resolveNow runtime nowMs).2 := by
  unfold ClientSystem.resolveNow
  split
  · exact quiet.onClient (BacnetClient.quiet_nowMs runtime)
  · exact quiet

theorem allocateInvokeId
    (quiet : first.QuietStep second)
    (id : SessionId) :
    first.QuietStep (second.allocateInvokeId id).2 :=
  quiet.setSession BacnetDeviceSession.quiet_allocateInvokeId

/-- A ReadProperty request is sent. -/
theorem sendReadProperty
    (quiet : first.QuietStep second)
    (destination : BacnetIpEndpoint)
    (request : BacnetPropertyRequest)
    (invokeId : UInt8) :
    first.QuietStep
      (second.onClient fun client =>
        client.sendReadProperty runtime destination request invokeId).2 :=
  quiet.onClient fun client =>
    client.quiet_sendReadProperty runtime _ _ _

theorem updatePropertyCache
    (quiet : first.QuietStep second)
    (id : SessionId)
    (request : BacnetPropertyRequest)
    (status : BacnetPropertyReadStatus)
    (value : Option BacnetValue)
    (attemptAtMs errorClass errorCode : UInt32) :
    first.QuietStep
      (second.setSession id
        ((second.sessions id).updatePropertyCache request status value
          attemptAtMs errorClass errorCode)) :=
  quiet.setSession
    (BacnetDeviceSession.quiet_updatePropertyCache _ _ _ _ _ _)

/-- A scan sends its next read, or caches that it could not. -/
theorem sendObjectListScanRead
    (quiet : first.QuietStep second)
    (id : SessionId)
    (scan : ScanId)
    (request : BacnetPropertyRequest)
    (phase : BacnetObjectListScanPhase)
    (nowMs : UInt32) :
    first.QuietStep
      (second.sendObjectListScanRead runtime id scan request phase
        nowMs).2 := by
  unfold ClientSystem.sendObjectListScanRead
  dsimp only
  have sends :=
    ((quiet.allocateInvokeId id).setScan scan
      { (second.allocateInvokeId id).2.scans scan with
        phase := phase
        inFlightRequest := request }).sendReadProperty runtime
      ((second.allocateInvokeId id).2.sessions id).endpoint request
      (second.allocateInvokeId id).1
  split
  · exact sends.setScan _ _
  · exact sends.updatePropertyCache _ _ _ _ _ _ _

theorem endObjectListScan
    (quiet : first.QuietStep second)
    (id : SessionId)
    (scan : ScanId)
    (status : BacnetObjectListScanJobStatus)
    (phase : BacnetObjectListScanPhase) :
    first.QuietStep (second.endObjectListScan id scan status phase) :=
  (quiet.setSession (BacnetDeviceSession.quiet_endScan scan)).setScan _ _

/-- A scan asks for its next entry or ends. -/
theorem startEntryRead
    (quiet : first.QuietStep second)
    (id : SessionId)
    (scan : ScanId)
    (nowMs : UInt32) :
    first.QuietStep (second.startEntryRead runtime id scan nowMs) := by
  unfold ClientSystem.startEntryRead
  dsimp only
  split
  · exact quiet.endObjectListScan _ _ _ _
  · have sends := quiet.sendObjectListScanRead runtime id scan
      (objectListRequest (second.sessions id)
        (second.scans scan).currentIndex) .readObjectListEntry nowMs
    split
    · rename_i shape
      rw [shape] at sends
      exact sends
    · rename_i shape
      rw [shape] at sends
      exact (sends.setScan _ _).endObjectListScan _ _ _ _

/-- A scan asks for the fields of an object that it is to read. -/
theorem startFieldReads
    {id : SessionId}
    {scan : ScanId}
    (scanned : BacnetScannedObject)
    (nowMs : UInt32)
    (fields : List ScanField)
    {second : ClientSystem τ}
    (quiet : first.QuietStep second) :
    first.QuietStep
      (ClientSystem.startFieldReads runtime id scan scanned nowMs fields
        second) := by
  induction fields generalizing second with
  | nil => exact (quiet.setScan _ _).startEntryRead runtime _ _ _
  | cons field rest inductionHypothesis =>
      unfold ClientSystem.startFieldReads
      split
      · have sends := quiet.sendObjectListScanRead runtime id
          scan
          { object := scanned.objectId
            property := field.property
            arrayIndex := kBacnetNoArrayIndex } field.phase nowMs
        split
        · rename_i shape
          rw [shape] at sends
          exact sends
        · rename_i shape
          rw [shape] at sends
          exact inductionHypothesis (sends.setScan _ _)
      · exact inductionHypothesis quiet

/-- A scan with nothing in flight goes on. -/
theorem advanceObjectListScan
    (quiet : first.QuietStep second)
    (id : SessionId)
    (scan : ScanId)
    (nowMs : UInt32) :
    first.QuietStep
      (second.advanceObjectListScan runtime id scan nowMs) := by
  unfold ClientSystem.advanceObjectListScan
  dsimp only
  split
  · exact quiet
  · split
    · exact startFieldReads runtime _ _ _ quiet
    · exact quiet.startEntryRead runtime _ _ _

/-- A scan takes in the end of its read. -/
theorem finishObjectListScanRead
    (quiet : first.QuietStep second)
    (id : SessionId)
    (scan : ScanId)
    (status : BacnetDeviceSessionReadStatus)
    (value : Option BacnetValue)
    (nowMs : UInt32) :
    first.QuietStep
      (second.finishObjectListScanRead runtime id scan status value
        nowMs) := by
  unfold ClientSystem.finishObjectListScanRead
  split
  · exact (quiet.setScan _ _).advanceObjectListScan runtime _ _ _
  · exact (quiet.setScan _ _).endObjectListScan _ _ _ _
  · exact (quiet.setScan _ _).endObjectListScan _ _ _ _

/-- A poll for a response to a read. -/
theorem pollRead
    (quiet : first.QuietStep second)
    (invokeId : UInt8)
    (request : BacnetPropertyRequest) :
    first.QuietStep
      (second.onClient fun client =>
        client.pollReadPropertyStatus runtime invokeId request).2 :=
  quiet.onClient fun client => client.quiet_pollDatagram runtime _ _

/-- A poll for the read that a scan has in flight. -/
theorem pollInFlightObjectListScan
    (quiet : first.QuietStep second)
    (id : SessionId)
    (nowMs : UInt32) :
    first.QuietStep
      (second.pollInFlightObjectListScan runtime id nowMs) := by
  unfold ClientSystem.pollInFlightObjectListScan
  split
  · exact quiet
  · rename_i scan waits
    dsimp only
    split
    · exact quiet
    · have polled := quiet.pollRead runtime
        (second.scans scan).inFlightInvokeId
        (second.scans scan).inFlightRequest
      split
      · exact (polled.updatePropertyCache _ _ _ _ _ _ _
          ).finishObjectListScanRead runtime _ _ _ _ _
      · split
        · exact (polled.updatePropertyCache _ _ _ _ _ _ _
            ).finishObjectListScanRead runtime _ _ _ _ _
        · exact polled

/-- A scan begins with the read of the count. -/
theorem beginObjectListScan
    (quiet : first.QuietStep second)
    (id : SessionId)
    (scan : ScanId)
    (options : BacnetObjectScanOptions)
    (hasResults : Bool)
    (resultCapacity : Nat)
    (nowMs : UInt32) :
    first.QuietStep
      (second.beginObjectListScan runtime id scan options hasResults
        resultCapacity nowMs).2 := by
  have resolved := quiet.resolveNow runtime nowMs
  unfold ClientSystem.beginObjectListScan
  generalize second.resolveNow runtime nowMs = now at resolved ⊢
  obtain ⟨now, current⟩ := now
  dsimp only at resolved ⊢
  split
  · exact resolved
  · rename_i notBusy
    have idle := (Bool.or_eq_false_iff.mp (Bool.eq_false_iff.mpr notBusy)).1
    have sends :=
      ((resolved.setScan scan
        (newScanJob id options hasResults resultCapacity)).setSession
          (BacnetDeviceSession.quiet_beginScan idle scan)
        ).sendObjectListScanRead runtime id scan
          (objectListRequest
            (((current.setScan scan
              (newScanJob id options hasResults resultCapacity)).setSession
                id
                { current.sessions id with
                  inFlightObjectListScan := some scan }).sessions id) 0)
          .readObjectListCount now
    split
    · rename_i shape
      rw [shape] at sends
      exact sends
    · rename_i shape
      rw [shape] at sends
      exact sends.finishObjectListScanRead runtime _ _ _ _ _

theorem pollObjectListScan
    (quiet : first.QuietStep second)
    (id : SessionId)
    (scan : ScanId)
    (nowMs : UInt32) :
    first.QuietStep
      (second.pollObjectListScan runtime id scan nowMs) := by
  have resolved := quiet.resolveNow runtime nowMs
  unfold ClientSystem.pollObjectListScan
  dsimp only
  split
  · have polled := resolved.pollInFlightObjectListScan
      runtime id (second.resolveNow runtime nowMs).1
    split
    · exact polled.advanceObjectListScan runtime _ _ _
    · exact polled
  · exact resolved

theorem cancelObjectListScan
    (quiet : first.QuietStep second)
    (id : SessionId)
    (scan : ScanId) :
    first.QuietStep (second.cancelObjectListScan id scan) := by
  unfold ClientSystem.cancelObjectListScan
  split
  · exact quiet.endObjectListScan _ _ _ _
  · exact quiet

theorem idle
    (quiet : first.QuietStep second) :
    first.QuietStep
      { second with client := second.client.idle runtime } :=
  quiet.trans
    ⟨BacnetClient.quiet_idle runtime _, rfl, rfl, fun _ => .refl _⟩

/-- The rounds of a blocking scan, by induction on their number. -/
theorem scanRounds
    (id : SessionId)
    (scan : ScanId)
    (rounds : Nat)
    {second : ClientSystem τ}
    (quiet : first.QuietStep second) :
    first.QuietStep
      (ClientSystem.scanRounds runtime id scan rounds second) := by
  induction rounds generalizing second with
  | zero => exact quiet
  | succ rounds inductionHypothesis =>
      unfold ClientSystem.scanRounds
      split
      · have polled :=
          quiet.pollObjectListScan runtime id scan kUseClientClock
        exact inductionHypothesis (idle runtime polled)
      · exact quiet

/-- A blocking scan. -/
theorem scanObjectList
    (quiet : first.QuietStep second)
    (id : SessionId)
    (scan : ScanId)
    (options : BacnetObjectScanOptions)
    (hasResults : Bool)
    (resultCapacity rounds : Nat) :
    first.QuietStep
      (second.scanObjectList runtime id scan options hasResults
        resultCapacity rounds) := by
  have begun := quiet.beginObjectListScan runtime id scan
    options hasResults resultCapacity kUseClientClock
  unfold ClientSystem.scanObjectList
  split
  · rename_i shape
    rw [shape] at begun
    exact scanRounds runtime _ _ _ begun
  · rename_i shape
    rw [shape] at begun
    exact begun

/-- A read job is taken out of its slot. -/
theorem releasePropertyRead
    (quiet : first.QuietStep second)
    (id : SessionId)
    (read : ReadId) :
    first.QuietStep (second.releasePropertyRead id read) :=
  (quiet.setSession (BacnetDeviceSession.quiet_endRead read)).setRead _ _

/-- A read job ends with an outcome, which the cache is told. -/
theorem finishPropertyRead
    (quiet : first.QuietStep second)
    (id : SessionId)
    (read : ReadId)
    (status : BacnetPropertyReadStatus)
    (value : Option BacnetValue)
    (nowMs errorClass errorCode : UInt32) :
    first.QuietStep
      (second.finishPropertyRead id read status value nowMs errorClass
        errorCode) :=
  ((quiet.updatePropertyCache _ _ _ _ _ _ _).releasePropertyRead
    _ _).setRead _ _

/-- A read job sends its request, or ends at once. -/
theorem beginPropertyRead
    (quiet : first.QuietStep second)
    (id : SessionId)
    (read : ReadId)
    (request : BacnetPropertyRequest)
    (timeoutMs nowMs : UInt32) :
    first.QuietStep
      (second.beginPropertyRead runtime id read request timeoutMs
        nowMs).2 := by
  have resolved := quiet.resolveNow runtime nowMs
  unfold ClientSystem.beginPropertyRead
  generalize second.resolveNow runtime nowMs = now at resolved ⊢
  obtain ⟨now, current⟩ := now
  dsimp only at resolved ⊢
  split
  · exact resolved
  · rename_i notBusy
    have idle := (Bool.or_eq_false_iff.mp (Bool.eq_false_iff.mpr notBusy)).1
    have begun := ((resolved.setRead read
      { session := some id
        status := .active
        request := request
        timeoutMs := timeoutMs }).setSession
          (BacnetDeviceSession.quiet_beginRead idle read)
        ).allocateInvokeId id
    split
    · exact (begun.sendReadProperty runtime _ _ _).setRead _ _
    · exact (begun.sendReadProperty runtime _ _ _).finishPropertyRead
        _ _ _ _ _ _ _

/-- A poll for the reply to a read job. -/
theorem pollInFlightPropertyRead
    (quiet : first.QuietStep second)
    (id : SessionId)
    (nowMs : UInt32) :
    first.QuietStep
      (second.pollInFlightPropertyRead runtime id nowMs) := by
  unfold ClientSystem.pollInFlightPropertyRead
  split
  · exact quiet
  · rename_i read waits
    dsimp only
    have polled := quiet.pollRead runtime (second.reads read).invokeId
      (second.reads read).request
    split
    · exact polled.finishPropertyRead _ _ _ _ _ _ _
    · split
      · exact polled.finishPropertyRead _ _ _ _ _ _ _
      · exact polled

theorem pollPropertyRead
    (quiet : first.QuietStep second)
    (id : SessionId)
    (read : ReadId)
    (nowMs : UInt32) :
    first.QuietStep
      (second.pollPropertyRead runtime id read nowMs) := by
  have resolved := quiet.resolveNow runtime nowMs
  unfold ClientSystem.pollPropertyRead
  dsimp only
  split
  · exact resolved.pollInFlightPropertyRead runtime _ _
  · exact resolved

theorem cancelPropertyRead
    (quiet : first.QuietStep second)
    (id : SessionId)
    (read : ReadId) :
    first.QuietStep (second.cancelPropertyRead id read) := by
  unfold ClientSystem.cancelPropertyRead
  split
  · exact (quiet.releasePropertyRead _ _).setRead _ _
  · exact quiet

end QuietStep

/-- The jobs of all sessions are the same. -/
structure KeepsJobs (before after : ClientSystem τ) : Prop where
  reads : after.reads = before.reads
  scans : after.scans = before.scans
  session : ∀ id, (before.sessions id).SameJobs (after.sessions id)

namespace KeepsJobs

theorem refl (system : ClientSystem τ) : system.KeepsJobs system :=
  ⟨rfl, rfl, fun _ => ⟨rfl, rfl, rfl⟩⟩

variable {first second third : ClientSystem τ}

theorem trans
    (early : first.KeepsJobs second)
    (late : second.KeepsJobs third) :
    first.KeepsJobs third := by
  refine ⟨late.reads.trans early.reads, late.scans.trans early.scans,
    fun id => ⟨?_, ?_, ?_⟩⟩
  · exact (late.session id).endpoint.trans (early.session id).endpoint
  · exact (late.session id).read.trans (early.session id).read
  · exact (late.session id).scan.trans (early.session id).scan

/-- No operation of the client touches a job. -/
theorem onClient
    (keeps : first.KeepsJobs second)
    {Result : Type}
    (operation : BacnetClient τ → Result × BacnetClient τ) :
    first.KeepsJobs (second.onClient operation).2 :=
  keeps.trans ⟨rfl, rfl, fun _ => ⟨rfl, rfl, rfl⟩⟩

/-- A session keeps its jobs. -/
theorem setSession
    (keeps : first.KeepsJobs second)
    {id : SessionId}
    {session : BacnetDeviceSession}
    (same : (second.sessions id).SameJobs session) :
    first.KeepsJobs (second.setSession id session) := by
  refine keeps.trans ⟨rfl, rfl, fun other => ?_⟩
  show (second.sessions other).SameJobs
    (Function.update second.sessions id session other)
  by_cases isSame : other = id
  · rw [isSame, Function.update_self]
    exact same
  · rw [Function.update_of_ne isSame]
    exact ⟨rfl, rfl, rfl⟩

end KeepsJobs

/-! Blocking calls leave the jobs of a session alone as well. -/

/-- A change that leaves subscriptions and jobs alone. -/
structure ExchangeStep (before after : ClientSystem τ) : Prop where
  quiet : before.QuietStep after
  keeps : before.KeepsJobs after

namespace ExchangeStep

theorem refl (system : ClientSystem τ) : system.ExchangeStep system :=
  ⟨.refl system, .refl system⟩

variable {first second : ClientSystem τ}

/-- A quiet operation of the client. -/
theorem onClient
    (exchange : first.ExchangeStep second)
    {Result : Type}
    {operation : BacnetClient τ → Result × BacnetClient τ}
    (isQuiet :
      ∀ client : BacnetClient τ, client.QuietStep (operation client).2) :
    first.ExchangeStep (second.onClient operation).2 :=
  ⟨exchange.quiet.onClient isQuiet, exchange.keeps.onClient operation⟩

/-- A session changes neither its subscriptions nor its jobs. -/
theorem setSession
    (exchange : first.ExchangeStep second)
    {id : SessionId}
    {session : BacnetDeviceSession}
    (isQuiet : (second.sessions id).QuietStep session)
    (same : (second.sessions id).SameJobs session) :
    first.ExchangeStep (second.setSession id session) :=
  ⟨exchange.quiet.setSession isQuiet, exchange.keeps.setSession same⟩

theorem allocateInvokeId
    (exchange : first.ExchangeStep second)
    (id : SessionId) :
    first.ExchangeStep (second.allocateInvokeId id).2 :=
  exchange.setSession BacnetDeviceSession.quiet_allocateInvokeId
    ⟨rfl, rfl, rfl⟩

theorem sendReadProperty
    (exchange : first.ExchangeStep second)
    (destination : BacnetIpEndpoint)
    (request : BacnetPropertyRequest)
    (invokeId : UInt8) :
    first.ExchangeStep
      (second.onClient fun client =>
        client.sendReadProperty runtime destination request invokeId).2 :=
  exchange.onClient fun client =>
    client.quiet_sendReadProperty runtime _ _ _

theorem updatePropertyCache
    (exchange : first.ExchangeStep second)
    (id : SessionId)
    (request : BacnetPropertyRequest)
    (status : BacnetPropertyReadStatus)
    (value : Option BacnetValue)
    (attemptAtMs errorClass errorCode : UInt32) :
    first.ExchangeStep
      (second.setSession id
        ((second.sessions id).updatePropertyCache request status value
          attemptAtMs errorClass errorCode)) :=
  exchange.setSession
    (BacnetDeviceSession.quiet_updatePropertyCache _ _ _ _ _ _)
    ⟨rfl, rfl, rfl⟩

/-- The client is asked for the time. -/
theorem nowMs
    (exchange : first.ExchangeStep second) :
    first.ExchangeStep
      (second.onClient fun client => client.nowMs runtime).2 :=
  exchange.onClient (BacnetClient.quiet_nowMs runtime)

/-- The cache is told that a read failed. -/
theorem cacheFailure
    (exchange : first.ExchangeStep second)
    (id : SessionId)
    (request : BacnetPropertyRequest)
    (status : BacnetPropertyReadStatus) :
    first.ExchangeStep (second.cacheFailure runtime id request status) := by
  unfold ClientSystem.cacheFailure
  exact (exchange.nowMs runtime).updatePropertyCache _ _ _ _ _ _ _

/-- A blocking wait whose polls read a datagram each. -/
theorem await
    (exchange : first.ExchangeStep second)
    {Outcome : Type}
    {poll : BacnetClient τ → Option Outcome × BacnetClient τ}
    (quietPoll :
      ∀ client : BacnetClient τ, client.QuietStep (poll client).2)
    (startedAt timeoutMs : UInt32)
    (rounds : Nat) :
    first.ExchangeStep
      (second.onClient fun client =>
        client.await runtime poll startedAt timeoutMs rounds).2 :=
  exchange.onClient fun client =>
    client.quiet_await runtime quietPoll _ _ _

/-- A blocking read. -/
theorem readPropertyDetailed
    (exchange : first.ExchangeStep second)
    (id : SessionId)
    (request : BacnetPropertyRequest)
    (timeoutMs : UInt32)
    (rounds : Nat) :
    first.ExchangeStep
      (second.readPropertyDetailed runtime id request timeoutMs
        rounds).2 := by
  unfold ClientSystem.readPropertyDetailed
  dsimp only
  split
  · exact exchange.cacheFailure runtime _ _ _
  · have sends := (exchange.allocateInvokeId id).sendReadProperty
      runtime
      ((second.allocateInvokeId id).2.sessions id).endpoint request
      (second.allocateInvokeId id).1
    split
    · exact sends.cacheFailure runtime _ _ _
    · have awaited := (sends.nowMs runtime).await runtime
        (BacnetClient.quiet_awaitedRead runtime ·
          (second.allocateInvokeId id).1 request)
      split
      · exact awaited _ _ _
      · exact (awaited _ _ _).cacheFailure runtime _ _ _
      · exact ((awaited _ _ _).nowMs runtime).updatePropertyCache _ _ _ _ _ _ _

/-- A blocking read of a priority array. -/
theorem readPriorityArray
    (exchange : first.ExchangeStep second)
    (id : SessionId)
    (object : BacnetObjectId)
    (timeoutMs : UInt32)
    (rounds : Nat) :
    first.ExchangeStep
      (second.readPriorityArray runtime id object timeoutMs rounds).2 := by
  unfold ClientSystem.readPriorityArray
  dsimp only
  split
  · exact exchange
  · have sends := (exchange.allocateInvokeId id).sendReadProperty runtime
      ((second.allocateInvokeId id).2.sessions id).endpoint
      (priorityArrayRequest object) (second.allocateInvokeId id).1
    split
    · exact sends
    · have awaited := (sends.nowMs runtime).await runtime
        (BacnetClient.quiet_awaitedPriorityArray runtime ·
          (second.allocateInvokeId id).1 (priorityArrayRequest object))
      split
      · exact awaited _ _ _
      · exact awaited _ _ _
      · split
        · exact awaited _ _ _
        · exact awaited _ _ _

/-- The wait for the reply to a write. -/
theorem awaitWrite
    (exchange : first.ExchangeStep second)
    (invokeId : UInt8)
    (ends :
      BacnetWritePropertyPollStatus →
        Option BacnetDeviceSessionWriteStatus)
    (timeoutMs : UInt32)
    (rounds : Nat) :
    first.ExchangeStep
      (second.awaitWrite runtime invokeId ends timeoutMs rounds).2 := by
  unfold ClientSystem.awaitWrite
  dsimp only
  have awaited := (exchange.nowMs runtime).await runtime
    (BacnetClient.quiet_awaitedWrite runtime · ends invokeId)
  split
  · exact awaited _ _ _
  · exact awaited _ _ _
  · exact awaited _ _ _

/-- A blocking write. -/
theorem writeProperty
    (exchange : first.ExchangeStep second)
    (id : SessionId)
    (request : BacnetPropertyRequest)
    (value : BacnetValue)
    (timeoutMs : UInt32)
    (rounds : Nat) :
    first.ExchangeStep
      (second.writeProperty runtime id request value timeoutMs
        rounds).2 := by
  unfold ClientSystem.writeProperty
  dsimp only
  split
  · exact exchange
  · split
    · exact exchange
    · have sends := (exchange.allocateInvokeId id).onClient
        (BacnetClient.quiet_sendWriteProperty runtime ·
          ((second.allocateInvokeId id).2.sessions id).endpoint request
          value (second.allocateInvokeId id).1)
      split
      · exact sends
      · exact sends.awaitWrite runtime _ _ _ _

/-- A blocking write with a priority or an array index. -/
theorem writePropertyWithOptions
    (exchange : first.ExchangeStep second)
    (id : SessionId)
    (object : BacnetObjectId)
    (property : BacnetPropertyId)
    (value : BacnetValue)
    (options : BacnetWritePropertyOptions)
    (timeoutMs : UInt32)
    (rounds : Nat) :
    first.ExchangeStep
      (second.writePropertyWithOptions runtime id object property value
        options timeoutMs rounds).2 := by
  unfold ClientSystem.writePropertyWithOptions
  dsimp only
  split
  · exact exchange
  · split
    · exact exchange
    · have sends := (exchange.allocateInvokeId id).onClient
        (BacnetClient.quiet_sendWritePropertyWithOptions runtime ·
          ((second.allocateInvokeId id).2.sessions id).endpoint object
          property value options (second.allocateInvokeId id).1)
      split
      · exact sends
      · exact sends.awaitWrite runtime _ _ _ _

/-- A subscribe request is a request like the others. -/
theorem sendSubscription
    (exchange : first.ExchangeStep second)
    (endpoint : BacnetIpEndpoint)
    (subscription : BacnetPropertySubscription)
    (invokeId : UInt8) :
    first.ExchangeStep
      (second.sendSubscription runtime endpoint subscription
        invokeId).2 := by
  unfold ClientSystem.sendSubscription
  apply exchange.onClient
  intro client
  split
  · exact client.quiet_sendSubscribeCovProperty runtime _ _ _ _ _ _ _ _ _ _
  · exact client.quiet_sendSubscribeCov runtime _ _ _ _ _ _

end ExchangeStep

end ClientSystem

end BacnetStack
