import BacnetStack.ServerTimedLink
import BacnetStack.ClientRuns

namespace BacnetStack

/-!
# Scanning a server

Over a link that delivers, a scan of a server ends with the identifiers the
server enumerates: as many as the scan looks at, those that pass its filter,
and of these as many as fit.
-/

/-- The result of a scan of a list with so many entries. -/
structure BacnetObjectListScanJob.Agrees
    (job : BacnetObjectListScanJob)
    (options : BacnetObjectScanOptions)
    (capacity : Nat)
    (listed : List BacnetObjectId) : Prop where
  complete : job.status = .complete
  count : job.result.objectListCount.toNat = listed.length
  stored :
    job.storedObjects =
      ((listed.take options.maxObjectListEntries.toNat).filter
        options.acceptsObjectType).take capacity
  storedCount : job.result.stored = job.storedObjects.length
  truncated :
    job.result.truncated = true ↔
      options.maxObjectListEntries.toNat < listed.length ∨
        capacity <
          ((listed.take options.maxObjectListEntries.toNat).filter
            options.acceptsObjectType).length

namespace ScanPlan

/-- At the limit, the scan has looked at the entries it was asked to. -/
theorem accepted_limit (plan : ScanPlan) :
    plan.accepted plan.limit =
      (plan.listed.take plan.options.maxObjectListEntries.toNat).filter
        plan.options.acceptsObjectType := by
  rw [accepted, limit, ← List.take_take,
    List.take_of_length_le (List.length_take_le' _ _)]

end ScanPlan

theorem BacnetObjectListScanJob.Collected.agrees
    {job : BacnetObjectListScanJob}
    {plan : ScanPlan}
    (collected : job.Collected plan) :
    job.Agrees plan.options plan.room plan.listed := by
  have stored := collected.stored
  have truncated := collected.truncated
  rw [plan.accepted_limit] at stored truncated
  refine ⟨collected.complete, collected.count, stored, ?_, truncated⟩
  rw [collected.filled, storedObjects, List.length_map]

namespace ClientSystem

variable {τ : Type} {runtime : ClientRuntime τ} {peer : BacnetIpEndpoint}
  {atRest : UInt32 → τ → Prop}

/--
Whatever was registered and whatever the server did, a scan by a session of
its Device ends with what the server enumerates.
-/
theorem scanObjectList_agrees
    (calls : List RegistrationCall)
    (events : List ServerEvent)
    (registered :
      (EventRun.run BacnetServer.step {} events).objects =
        EventRun.run ServerObjects.register {} calls)
    (ready : (EventRun.run BacnetServer.step {} events).Ready)
    (options : BacnetObjectScanOptions)
    (delivers :
      DeliversReads runtime peer options.readTimeoutMs
        (EventRun.run BacnetServer.step {} events).ReadReply atRest)
    {system : ClientSystem τ}
    {id : SessionId}
    {scan : ScanId}
    (canScan :
      system.CanScan id scan peer
        (EventRun.run BacnetServer.step {} events).deviceObject atRest)
    (hasResults : Bool)
    (resultCapacity : Nat) :
    ∃ listed,
      (∀ index,
        (EventRun.run BacnetServer.step {} events).objectListEntry index =
          listed[index]?) ∧
      (EventRun.run BacnetServer.step {} events).objectCount =
        listed.length ∧
      ∃ least after,
        (after.scans scan).Agrees options
            (if hasResults then resultCapacity else 0) listed ∧
          ∀ rounds, least ≤ rounds →
            system.scanObjectList runtime id scan options hasResults
              resultCapacity rounds = after := by
  have kinds := ServerObjects.run_distinctKinds calls
  rw [← registered] at kinds
  have device := BacnetServer.run_deviceInstance_le events
  have oneForm := kinds.wellRegistered.oneForm
  let plan : ScanPlan := {
    options := options
    hasResults := hasResults
    resultCapacity := resultCapacity
    listed := (EventRun.run BacnetServer.step {} events).objectSequence
    indexable := BacnetServer.length_objectSequence_lt kinds
  }
  obtain ⟨least, after, collected, finishes⟩ :=
    @scanObjectList_collects τ runtime peer _ _ atRest _ plan id scan system
      delivers (BacnetServer.answersScan ready kinds device) rfl canScan
  exact ⟨plan.listed, BacnetServer.objectListEntry_eq oneForm,
    BacnetServer.objectCount_eq oneForm, least, after, collected.agrees,
    finishes⟩

/-- A client with one session, on a direct link with a clock. -/
def timedSystem (server : BacnetServer) : ClientSystem TimedLink where
  client :=
    { running := true
      transport := { link := { server := server }, clockMs := 0 } }
  sessions _ := { endpoint := scriptedPeer }

/-- A scan for Analog Values of a server that has one. -/
theorem scanObjectList_agrees_analogValue :
    ∃ listed,
      (∀ index,
        (EventRun.run BacnetServer.step {}
            BacnetServer.analogValueServer).objectListEntry index =
          listed[index]?) ∧
      (EventRun.run BacnetServer.step {}
          BacnetServer.analogValueServer).objectCount = listed.length ∧
      ∃ least after,
        (after.scans 0).Agrees
            { objectTypes := [BacnetObjectType.analogValue] } 1 listed ∧
          ∀ rounds, least ≤ rounds →
            (timedSystem (EventRun.run BacnetServer.step {}
                BacnetServer.analogValueServer)).scanObjectList
              (timedRuntime scriptedPeer) 0 0
              { objectTypes := [BacnetObjectType.analogValue] } true 1
              rounds = after :=
  scanObjectList_agrees BacnetServer.analogValueCalls
    BacnetServer.analogValueServer rfl ⟨rfl, rfl⟩
    { objectTypes := [BacnetObjectType.analogValue] }
    (timedRuntime_delivers scriptedPeer 1000 _)
    ⟨rfl, ⟨0xFFFFFFFF, ⟨⟨rfl, rfl⟩, ⟨rfl, rfl⟩, rfl⟩, rfl⟩, rfl, rfl,
      rfl, rfl, rfl⟩
    true 1

end ClientSystem

end BacnetStack
