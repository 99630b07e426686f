import BacnetStack.ClientScanExchange

namespace BacnetStack

/-!
# Scanning a peer that answers

Over a link that delivers, every read of a scan ends, and the entries of the
Object_List are answered with its identifiers.  So the scan comes to its end,
with what it was asked to collect.
-/

/-- A peer answers the reads of a scan of its Object_List. -/
structure AnswersScan
    (answers : List UInt8 → List UInt8 → Prop)
    (device : BacnetObjectId)
    (listed : List BacnetObjectId) : Prop where
  count :
    ReadsAs answers ⟨device, .objectList, 0⟩ fun outcome =>
      ∃ value,
        outcome = some { status := .ack, value := value } ∧
          value.type = .unsigned ∧
          value.unsignedValue.toNat = listed.length
  entry :
    ∀ {index : UInt32} {object},
      index ≠ 0 →
      listed[index.toNat - 1]? = some object →
        ReadsAs answers ⟨device, .objectList, index⟩ fun outcome =>
          ∃ value,
            outcome = some { status := .ack, value := value } ∧
              value.type = .objectIdentifier ∧
              value.objectValue = object
  field :
    ∀ object ∈ listed, ∀ field : ScanField,
      ReadsAs answers ⟨object, field.property, kBacnetNoArrayIndex⟩
        fun _ => True

/-- The end of a wait is recorded as more than a skipped read. -/
theorem deviceReadStatus_ne_skipped (status : BacnetPropertyReadStatus) :
    deviceReadStatusFromPropertyStatus status ≠ .skipped := by
  cases status <;> exact nofun

namespace BacnetObjectListScanJob

variable {job : BacnetObjectListScanJob} {plan : ScanPlan}

/-- All entries were looked at when the counter is behind the limit. -/
theorem AtEntry.isExhausted_iff
    {seen : Nat}
    (atEntry : job.AtEntry plan seen) :
    job.isExhausted = true ↔ seen = plan.limit := by
  have within := atEntry.within
  have next := atEntry.next
  have nonzero : job.currentIndex ≠ 0 := by
    intro isZero
    rw [isZero] at next
    exact absurd next (by simp)
  rw [isExhausted, beq_eq_false_iff_ne.mpr nonzero, Bool.false_or,
    decide_eq_true_iff, UInt32.lt_iff_toNat_lt, atEntry.last, next]
  omega

/-- A scan that is complete, with everything it was asked to collect. -/
structure Collected
    (job : BacnetObjectListScanJob)
    (plan : ScanPlan) : Prop extends job.Collects plan plan.limit where
  complete : job.status = .complete

end BacnetObjectListScanJob

namespace ClientSystem

variable {τ : Type} {runtime : ClientRuntime τ} {peer : BacnetIpEndpoint}
  {timeoutMs : UInt32} {answers : List UInt8 → List UInt8 → Prop}
  {atRest : UInt32 → τ → Prop} {device : BacnetObjectId} {plan : ScanPlan}
  {id : SessionId} {scan : ScanId} {system : ClientSystem τ} {now : UInt32}

/-- A scan of a peer may send its next request. -/
structure PreparedScan
    (system : ClientSystem τ)
    (id : SessionId)
    (scan : ScanId)
    (peer : BacnetIpEndpoint)
    (device : BacnetObjectId)
    (atRest : UInt32 → τ → Prop)
    (now : UInt32) : Prop where
  running : system.client.running = true
  transport : atRest now system.client.transport
  inFlight : (system.sessions id).inFlightObjectListScan = some scan
  endpoint : (system.sessions id).endpoint = peer
  device : (system.sessions id).deviceObject = device
  session : (system.scans scan).session = some id
  active : (system.scans scan).status = .active

/-- A request of a scan is under way. -/
structure SentScan
    (system sent : ClientSystem τ)
    (id : SessionId)
    (scan : ScanId)
    (request : BacnetPropertyRequest)
    (phase : BacnetObjectListScanPhase)
    (now : UInt32)
    (invokeId : UInt8) : Prop where
  running : sent.client.running = true
  inFlight :
    (sent.sessions id).inFlightObjectListScan =
      (system.sessions id).inFlightObjectListScan
  endpoint : (sent.sessions id).endpoint = (system.sessions id).endpoint
  device :
    (sent.sessions id).deviceObject = (system.sessions id).deviceObject
  job :
    sent.scans scan = {
      system.scans scan with
      phase := phase
      inFlightRequest := request
      inFlightInvokeId := invokeId
      inFlightStartedAtMs := now
      requestInFlight := true
    }

/-- Over a link that delivers, a request goes out and its wait ends. -/
theorem sendObjectListScanRead_of_delivers
    (delivers : DeliversReads runtime peer timeoutMs answers atRest)
    (reachable : peer.isZero = false)
    (prepared : system.PreparedScan id scan peer device atRest now)
    {request : BacnetPropertyRequest}
    {expected : Option BacnetReadPropertyPoll → Prop}
    (readsAs : ReadsAs answers request expected)
    (phase : BacnetObjectListScanPhase) :
    ∃ sent invokeId,
      system.sendObjectListScanRead runtime id scan request phase now =
          (true, sent) ∧
        system.SentScan sent id scan request phase now invokeId ∧
        ∀ start,
          start = sent.client.transport ∨
              start = runtime.idle sent.client.transport →
            ∃ (reply : Option (List UInt8)) (rounds : Nat),
              (∀ answer ∈ reply,
                (readPropertyOutcome answer invokeId request).status ≠
                  .none) ∧
                expected
                  (reply.map fun answer =>
                    readPropertyOutcome answer invokeId request) ∧
                PolledWait.Ends
                  { runtime := runtime
                    startedAt := now
                    timeoutMs := timeoutMs
                    ignored := NoReadResponse
                    atRest := atRest }
                  (reply.map fun packet => ⟨peer, packet⟩) rounds
                  start := by
  obtain ⟨packet, built, understood⟩ :=
    readsAs (system.allocateInvokeId id).1
  obtain ⟨sentTransport, sends, waits⟩ :=
    delivers.exchange prepared.transport ⟨request, _, built⟩
  obtain ⟨client, isSent, running, isTransport⟩ :=
    BacnetClient.sendReadProperty_of_sends prepared.running reachable built
      sends
  have allocated :
      (system.allocateInvokeId id).2.sessions id =
        (system.sessions id).allocateInvokeId.2 :=
    sessions_setSession_self ..
  have sameEndpoint :
      ((system.allocateInvokeId id).2.sessions id).endpoint = peer := by
    rw [allocated]
    exact prepared.endpoint
  let job : BacnetObjectListScanJob := {
    system.scans scan with
    phase := phase
    inFlightRequest := request
  }
  refine ⟨({ (system.allocateInvokeId id).2.setScan scan job with
      client := client } : ClientSystem τ).setScan scan
        { job with
          inFlightInvokeId := (system.allocateInvokeId id).1
          inFlightStartedAtMs := now
          requestInFlight := true }, (system.allocateInvokeId id).1, ?_,
    ⟨running, ?_, ?_, ?_, scans_setScan_self ..⟩, ?_⟩
  · unfold sendObjectListScanRead
    dsimp only [onClient]
    rw [sameEndpoint]
    rw [show ((system.allocateInvokeId id).2.setScan scan _).client =
      system.client from rfl, isSent]
    rfl
  · have kept := congrArg BacnetDeviceSession.inFlightObjectListScan allocated
    exact kept
  · have kept := congrArg BacnetDeviceSession.endpoint allocated
    exact kept
  · have kept := congrArg BacnetDeviceSession.deviceObject allocated
    exact kept
  · intro start isStart
    obtain ⟨reply, rounds, isAnswer, ends⟩ :=
      waits start (isTransport ▸ isStart)
    obtain ⟨taken, isExpected⟩ := understood reply isAnswer
    exact ⟨reply, rounds, taken, isExpected, ends⟩

/-- A scan whose request is under way finishes as it does after the wait. -/
theorem scanFinishes_of_sent
    (delivers : DeliversReads runtime peer timeoutMs answers atRest)
    (reachable : peer.isZero = false)
    (prepared : system.PreparedScan id scan peer device atRest now)
    (timeout : (system.scans scan).options.readTimeoutMs = timeoutMs)
    {request : BacnetPropertyRequest}
    {expected : Option BacnetReadPropertyPoll → Prop}
    (readsAs : ReadsAs answers request expected)
    (phase : BacnetObjectListScanPhase)
    {finished : BacnetObjectListScanJob → Prop}
    (goesOn :
      ∀ (waiting : ClientSystem τ) later invokeId outcome,
        waiting.PreparedScan id scan peer device atRest later →
        waiting.scans scan = {
          system.scans scan with
          phase := phase
          inFlightRequest := request
          inFlightInvokeId := invokeId
          inFlightStartedAtMs := now
          requestInFlight := true
        } →
        expected outcome →
          (waiting.finishScanWait runtime id scan outcome
              later).ScanSettled scan ∧
            ScanFinishes runtime id scan finished
              ((waiting.finishScanWait runtime id scan outcome
                later).idle runtime)) :
    ∃ sent,
      system.sendObjectListScanRead runtime id scan request phase now =
          (true, sent) ∧
        sent.ScanSettled scan ∧
        ScanFinishes runtime id scan finished sent ∧
        ScanFinishes runtime id scan finished (sent.idle runtime) := by
  obtain ⟨sent, invokeId, isSent, underWay, waits⟩ :=
    sendObjectListScanRead_of_delivers delivers reachable prepared readsAs
      phase
  have job := underWay.job
  have finishes
      (client : BacnetClient τ)
      (running : client.running = true)
      (start :
        client.transport = sent.client.transport ∨
          client.transport = runtime.idle sent.client.transport) :
      ScanFinishes runtime id scan finished
        { sent with client := client } := by
    obtain ⟨reply, rounds, taken, isExpected, ends⟩ := waits _ start
    have outcomeOf (datagram : ReceivedDatagram) :
        ({ sent with client := client } : ClientSystem τ).scanOutcome scan
            (some datagram) =
          BacnetClient.readResponse invokeId request datagram := by
      rw [scanOutcome]
      show (some datagram).bind (BacnetClient.readResponse
        (sent.scans scan).inFlightInvokeId
        (sent.scans scan).inFlightRequest) = _
      rw [job]
      rfl
    have outcome :
        ({ sent with client := client } : ClientSystem τ).scanOutcome scan
            (reply.map fun packet => ⟨peer, packet⟩) =
          reply.map fun answer =>
            readPropertyOutcome answer invokeId request := by
      cases reply with
      | none => rfl
      | some answer =>
          rw [Option.map_some, outcomeOf]
          exact if_neg (taken answer rfl)
    refine scanFinishes_of_ends rfl ?_ ?_ ?_ ?_ ?_ ends ?_
    · exact ⟨running, underWay.inFlight.trans prepared.inFlight,
        (congrArg BacnetObjectListScanJob.session job).trans
          prepared.session,
        (congrArg BacnetObjectListScanJob.status job).trans
          prepared.active,
        congrArg BacnetObjectListScanJob.requestInFlight job⟩
    · exact (congrArg BacnetObjectListScanJob.inFlightStartedAtMs job).symm
    · rw [← timeout]
      exact (congrArg
        (fun job => BacnetObjectScanOptions.readTimeoutMs
          (BacnetObjectListScanJob.options job)) job).symm
    · intro datagram unrelated
      rw [outcomeOf]
      exact NoReadResponse.readResponse_eq unrelated _ _
    · intro datagram isReply
      obtain ⟨answer, isAnswer, rfl⟩ := Option.map_eq_some_iff.mp isReply
      rw [outcomeOf]
      have isTaken := taken answer isAnswer
      simp [BacnetClient.readResponse, isTaken]
    · intro later after afterRunning isAtRest
      rw [outcome]
      refine ⟨_, rfl, ?_⟩
      have preparedLater :
          ({ sent with client := after } : ClientSystem τ).PreparedScan id
            scan peer device atRest later :=
        ⟨afterRunning, isAtRest,
          underWay.inFlight.trans prepared.inFlight,
          underWay.endpoint.trans prepared.endpoint,
          underWay.device.trans prepared.device,
          (congrArg BacnetObjectListScanJob.session job).trans
            prepared.session,
          (congrArg BacnetObjectListScanJob.status job).trans
            prepared.active⟩
      exact goesOn { sent with client := after } later invokeId _
        preparedLater job isExpected
  refine ⟨sent, isSent, fun _ => ?_, ?_, ?_⟩
  · exact congrArg BacnetObjectListScanJob.requestInFlight job
  · exact finishes sent.client underWay.running (.inl rfl)
  · exact finishes (sent.client.idle runtime) underWay.running (.inr rfl)

/-- The job of a scan comes to its end with what it was asked for. -/
abbrev Collects
    (runtime : ClientRuntime τ)
    (id : SessionId)
    (scan : ScanId)
    (plan : ScanPlan) : ClientSystem τ → Prop :=
  ScanFinishes runtime id scan (BacnetObjectListScanJob.Collected · plan)

/-- Every scan with fewer reads left collects what it was asked for. -/
def CollectsBelow
    (runtime : ClientRuntime τ)
    (id : SessionId)
    (scan : ScanId)
    (peer : BacnetIpEndpoint)
    (device : BacnetObjectId)
    (atRest : UInt32 → τ → Prop)
    (plan : ScanPlan)
    (left : Nat) : Prop :=
  ∀ fewer, fewer < left →
    ∀ (system : ClientSystem τ) now,
      system.PreparedScan id scan peer device atRest now →
      (system.scans scan).requestInFlight = false →
      (system.scans scan).CanAdvance plan fewer →
        (system.advanceObjectListScan runtime id scan now).ScanSettled
            scan ∧
          Collects runtime id scan plan
            ((system.advanceObjectListScan runtime id scan now).idle
              runtime)

/-- What an outcome tells the job of a scan. -/
def scanTold
    (arrayIndex : UInt32) :
    Option BacnetReadPropertyPoll →
      BacnetDeviceSessionReadStatus × Option BacnetValue
  | some poll =>
      (deviceReadStatusFromPropertyStatus
        (classifyDetailedReadStatus poll arrayIndex), some poll.value)
  | none => (.timeout, none)

/-- A read that was absorbed lets the scan go on with fewer reads. -/
theorem finishObjectListScanRead_of_absorbed
    {left fewer : Nat}
    (below :
      CollectsBelow runtime id scan peer device atRest plan left)
    (prepared : system.PreparedScan id scan peer device atRest now)
    {status : BacnetDeviceSessionReadStatus}
    {value : Option BacnetValue}
    {job : BacnetObjectListScanJob}
    (absorbed :
      (system.scans scan).absorbRead status value = (.advance, job))
    (advances : job.CanAdvance plan fewer)
    (isLess : fewer < left)
    (active : job.status = .active)
    (isIdle : job.requestInFlight = false) :
    (system.finishObjectListScanRead runtime id scan status value
        now).ScanSettled scan ∧
      Collects runtime id scan plan
        ((system.finishObjectListScanRead runtime id scan status value
          now).idle runtime) := by
  have session :=
    BacnetObjectListScanJob.session_absorbRead (system.scans scan) status
      value
  rw [absorbed] at session
  have set := scans_setScan_self system scan job
  have after :
      (system.setScan scan job).PreparedScan id scan peer device atRest
        now :=
    ⟨prepared.running, prepared.transport, prepared.inFlight,
      prepared.endpoint, prepared.device,
      by rw [set]; exact session.trans prepared.session,
      by rw [set]; exact active⟩
  have goesOn := below fewer isLess (system.setScan scan job) now after
    (by rw [set]; exact isIdle) (by rw [set]; exact advances)
  unfold finishObjectListScanRead
  rw [absorbed]
  exact goesOn

/-- What a property cache has is not looked at. -/
theorem PreparedScan.updatePropertyCache
    (prepared : system.PreparedScan id scan peer device atRest now)
    (request : BacnetPropertyRequest)
    (status : BacnetPropertyReadStatus)
    (value : Option BacnetValue)
    (attemptAtMs errorClass errorCode : UInt32) :
    (system.setSession id
      ((system.sessions id).updatePropertyCache request status value
        attemptAtMs errorClass errorCode)).PreparedScan id scan peer device
      atRest now := by
  have set :=
    sessions_setSession_self system id
      ((system.sessions id).updatePropertyCache request status value
        attemptAtMs errorClass errorCode)
  refine ⟨prepared.running, prepared.transport, ?_, ?_, ?_,
    prepared.session, prepared.active⟩
  · rw [set]
    exact prepared.inFlight
  · rw [set]
    exact prepared.endpoint
  · rw [set]
    exact prepared.device

/-- The end of a wait lets the scan go on with fewer reads. -/
theorem finishScanWait_of_absorbed
    {left fewer : Nat}
    (below :
      CollectsBelow runtime id scan peer device atRest plan left)
    (prepared : system.PreparedScan id scan peer device atRest now)
    (outcome : Option BacnetReadPropertyPoll)
    {told : BacnetDeviceSessionReadStatus × Option BacnetValue}
    (tells :
      scanTold (system.scans scan).inFlightRequest.arrayIndex outcome = told)
    {job : BacnetObjectListScanJob}
    (absorbed :
      (system.scans scan).absorbRead told.1 told.2 = (.advance, job))
    (advances : job.CanAdvance plan fewer)
    (isLess : fewer < left)
    (active : job.status = .active)
    (isIdle : job.requestInFlight = false) :
    (system.finishScanWait runtime id scan outcome now).ScanSettled scan ∧
      Collects runtime id scan plan
        ((system.finishScanWait runtime id scan outcome now).idle
          runtime) := by
  subst tells
  cases outcome with
  | none =>
      exact finishObjectListScanRead_of_absorbed below
        (prepared.updatePropertyCache (system.scans scan).inFlightRequest
          .timeout none now 0 0) absorbed advances isLess active isIdle
  | some poll =>
      exact finishObjectListScanRead_of_absorbed below
        (prepared.updatePropertyCache (system.scans scan).inFlightRequest
          (classifyDetailedReadStatus poll
            (system.scans scan).inFlightRequest.arrayIndex)
          (some poll.value) now poll.errorClass poll.errorCode)
        absorbed advances isLess active isIdle

theorem finishScanWait_of_waits
    {left : Nat}
    (below :
      CollectsBelow runtime id scan peer device atRest plan left)
    (prepared : system.PreparedScan id scan peer device atRest now)
    (waits : (system.scans scan).WaitsFor plan left)
    {outcome : Option BacnetReadPropertyPoll}
    {told : BacnetDeviceSessionReadStatus × Option BacnetValue}
    (tells :
      scanTold (system.scans scan).inFlightRequest.arrayIndex outcome = told)
    (expected :
      BacnetObjectListScanJob.Expects plan (system.scans scan) told.1
        told.2) :
    (system.finishScanWait runtime id scan outcome now).ScanSettled scan ∧
      Collects runtime id scan plan
        ((system.finishScanWait runtime id scan outcome now).idle
          runtime) := by
  obtain ⟨job, fewer, absorbed, advances, isLess, active, isIdle⟩ :=
    waits.absorbRead prepared.active expected
  exact finishScanWait_of_absorbed below prepared outcome tells absorbed
    advances isLess active isIdle

theorem CollectsBelow.mono
    {left more : Nat}
    (below : CollectsBelow runtime id scan peer device atRest plan more)
    (isLess : left ≤ more) :
    CollectsBelow runtime id scan peer device atRest plan left :=
  fun fewer isFewer =>
    below fewer (Nat.lt_of_lt_of_le isFewer isLess)

/-- Behind the last entry the scan is complete. -/
theorem completeObjectListScan_collects
    (collects : (system.scans scan).Collects plan plan.limit) :
    (system.completeObjectListScan id scan).ScanSettled scan ∧
      Collects runtime id scan plan
        ((system.completeObjectListScan id scan).idle runtime) := by
  have job :
      (system.completeObjectListScan id scan).scans scan =
        { (system.scans scan).clearInFlightState with
          status := .complete
          phase := .complete } :=
    scans_setScan_self ..
  have inactive :
      ((system.completeObjectListScan id scan).scans scan).isActive =
        false := by
    rw [job]
    rfl
  refine ⟨fun active => absurd active (by rw [inactive]; decide),
    scanFinishes_of_inactive inactive ?_⟩
  show ((system.completeObjectListScan id scan).scans scan).Collected plan
  rw [job]
  exact ⟨collects.of_same rfl rfl rfl ⟨rfl, rfl, rfl⟩ rfl rfl, rfl⟩

/-- The next entry is asked for, or the scan is complete. -/
theorem startEntryRead_collects
    (delivers : DeliversReads runtime peer timeoutMs answers atRest)
    (reachable : peer.isZero = false)
    (answersScan : AnswersScan answers device plan.listed)
    (timeout : plan.options.readTimeoutMs = timeoutMs)
    {seen : Nat}
    (below :
      CollectsBelow runtime id scan peer device atRest plan
        (4 * (plan.limit - seen)))
    (prepared : system.PreparedScan id scan peer device atRest now)
    (atEntry : (system.scans scan).AtEntry plan seen) :
    (system.startEntryRead runtime id scan now).ScanSettled scan ∧
      Collects runtime id scan plan
        ((system.startEntryRead runtime id scan now).idle runtime) := by
  unfold startEntryRead
  dsimp only
  by_cases exhausted : (system.scans scan).isExhausted = true
  · rw [if_pos exhausted]
    have isLast := atEntry.isExhausted_iff.mp exhausted
    exact completeObjectListScan_collects (isLast ▸ atEntry.toCollects)
  · rw [if_neg exhausted]
    have isBelow : seen < plan.limit :=
      Nat.lt_of_le_of_ne atEntry.within
        fun isLast => exhausted (atEntry.isExhausted_iff.mpr isLast)
    obtain ⟨object, found⟩ := ScanPlan.entry_of_lt_limit isBelow
    have nonzero : (system.scans scan).currentIndex ≠ 0 :=
      (BacnetObjectListScanJob.entry_of_remaining
        (Bool.eq_false_iff.mpr exhausted)).1
    have foundHere :
        plan.listed[(system.scans scan).currentIndex.toNat - 1]? =
          some object := by
      rw [atEntry.next, Nat.add_sub_cancel]
      exact found
    obtain ⟨sent, isSent, settled, -, finishes⟩ :=
      scanFinishes_of_sent delivers reachable prepared
        ((congrArg BacnetObjectScanOptions.readTimeoutMs
          atEntry.options).trans timeout)
        (answersScan.entry nonzero foundHere) .readObjectListEntry
        (fun waiting later invokeId outcome preparedLater job isExpected =>
          by
            obtain ⟨value, rfl, isObject, names⟩ := isExpected
            refine finishScanWait_of_waits below preparedLater ?_ rfl ?_
            · rw [job]
              exact .entry rfl (atEntry.withRequest _ _ _ _ _) isBelow
            · rw [job]
              refine ⟨deviceReadStatus_ne_skipped _, fun _ => ⟨?_,
                object, value, foundHere, rfl, isObject, names⟩⟩
              simp [scanTold, classifyDetailedReadStatus, isObject,
                deviceReadStatusFromPropertyStatus])
    have request :
        objectListRequest (system.sessions id)
            (system.scans scan).currentIndex =
          ⟨device, .objectList, (system.scans scan).currentIndex⟩ := by
      rw [objectListRequest, prepared.device]
    rw [request, isSent]
    exact ⟨settled, finishes⟩

/-- No property is read in the phase of an entry of the list. -/
theorem phase_ne_entry (field : ScanField) :
    field.phase ≠ .readObjectListEntry := by
  cases field <;> decide

/-- The properties of a stored object are asked for, then the next entry. -/
theorem startFieldReads_collects
    (delivers : DeliversReads runtime peer timeoutMs answers atRest)
    (reachable : peer.isZero = false)
    (answersScan : AnswersScan answers device plan.listed)
    (timeout : plan.options.readTimeoutMs = timeoutMs)
    {seen : Nat}
    (below :
      CollectsBelow runtime id scan peer device atRest plan
        (4 * (plan.limit - seen) + (system.scans scan).fieldsLeft))
    (prepared : system.PreparedScan id scan peer device atRest now)
    (atObject : (system.scans scan).AtObject plan seen)
    {scanned : BacnetScannedObject}
    (isCurrent : (system.scans scan).currentScanned? = some scanned)
    (fields : List ScanField) :
    (startFieldReads runtime id scan scanned now fields
        system).ScanSettled scan ∧
      Collects runtime id scan plan
        ((startFieldReads runtime id scan scanned now fields
          system).idle runtime) := by
  induction fields with
  | nil =>
      have set := scans_setScan_self system scan
        { (system.scans scan).skipEntry with hasCurrentStoreIndex := false }
      have atEntry :=
        atObject.toCollects.atEntry_skipEntry atObject.current
          atObject.within
      refine startEntryRead_collects delivers reachable answersScan timeout
        (below.mono (Nat.le_add_right _ _)) ?_ (by rw [set]; exact atEntry)
      exact ⟨prepared.running, prepared.transport, prepared.inFlight,
        prepared.endpoint, prepared.device,
        by rw [set]; exact prepared.session,
        by rw [set]; exact prepared.active⟩
  | cons field rest inductionHypothesis =>
      unfold startFieldReads
      by_cases needed :
          (system.scans scan).needsField field scanned = true
      · rw [if_pos needed]
        obtain ⟨sent, isSent, settled, -, finishes⟩ :=
          scanFinishes_of_sent delivers reachable prepared
            ((congrArg BacnetObjectScanOptions.readTimeoutMs
              atObject.options).trans timeout)
            (answersScan.field scanned.objectId
              (atObject.mem_listed isCurrent) field) field.phase
            (fun waiting later invokeId outcome preparedLater job _ => by
              have waits : (waiting.scans scan).WaitsFor plan
                  (4 * (plan.limit - seen) +
                    (system.scans scan).fieldsLeft) := by
                rw [job]
                exact .field rfl (atObject.withRequest _ _ _ _ _)
                  isCurrent needed
              have notEntry :
                  (waiting.scans scan).phase ≠ .readObjectListEntry := by
                rw [job]
                exact phase_ne_entry field
              refine finishScanWait_of_waits below preparedLater waits rfl ?_
              cases outcome with
              | none =>
                  refine ⟨fun told => ?_,
                    fun isEntry => absurd isEntry notEntry⟩
                  cases told
              | some poll =>
                  exact ⟨deviceReadStatus_ne_skipped _,
                    fun isEntry => absurd isEntry notEntry⟩)
        rw [isSent]
        exact ⟨settled, finishes⟩
      · rw [if_neg needed]
        exact inductionHypothesis

/-- A scan that can go on collects what it was asked for. -/
theorem collectsBelow
    (delivers : DeliversReads runtime peer timeoutMs answers atRest)
    (reachable : peer.isZero = false)
    (answersScan : AnswersScan answers device plan.listed)
    (timeout : plan.options.readTimeoutMs = timeoutMs)
    (left : Nat) :
    CollectsBelow runtime id scan peer device atRest plan left := by
  induction left with
  | zero => exact fun fewer isFewer => absurd isFewer (Nat.not_lt_zero _)
  | succ left inductionHypothesis =>
      intro fewer isFewer system now prepared isIdle advances
      have below :
          CollectsBelow runtime id scan peer device atRest plan fewer :=
        inductionHypothesis.mono (Nat.le_of_lt_succ isFewer)
      have isActive : (system.scans scan).isActive = true :=
        beq_iff_eq.mpr prepared.active
      have goesOn :
          (!(system.scans scan).isActive ||
            (system.scans scan).requestInFlight) ≠ true := by
        rw [isActive, isIdle]
        decide
      unfold advanceObjectListScan
      dsimp only
      rw [if_neg goesOn]
      cases advances with
      | entry atEntry =>
          have noScanned : (system.scans scan).currentScanned? = none := by
            rw [BacnetObjectListScanJob.currentScanned?, atEntry.noObject]
            rfl
          rw [noScanned]
          exact startEntryRead_collects delivers reachable answersScan
            timeout below prepared atEntry
      | object atObject =>
          obtain ⟨scanned, isCurrent⟩ := atObject.currentScanned
          rw [isCurrent]
          exact startFieldReads_collects delivers reachable answersScan
            timeout below prepared atObject isCurrent ScanField.all

/-- A session that is free may scan a peer with a job that is free. -/
structure CanScan
    (system : ClientSystem τ)
    (id : SessionId)
    (scan : ScanId)
    (peer : BacnetIpEndpoint)
    (device : BacnetObjectId)
    (atRest : UInt32 → τ → Prop) : Prop where
  running : system.client.running = true
  transport : ∃ now, atRest now system.client.transport
  idle : (system.sessions id).isBusy = false
  endpoint : (system.sessions id).endpoint = peer
  device : (system.sessions id).deviceObject = device
  job : (system.scans scan).isActive = false
  reachable : peer.isZero = false

/-- Over a link that delivers, a scan of a peer that answers is complete. -/
theorem scanObjectList_collects
    (delivers : DeliversReads runtime peer timeoutMs answers atRest)
    (answersScan : AnswersScan answers device plan.listed)
    (timeout : plan.options.readTimeoutMs = timeoutMs)
    (canScan : system.CanScan id scan peer device atRest) :
    ∃ least after,
      (after.scans scan).Collected plan ∧
        ∀ rounds, least ≤ rounds →
          system.scanObjectList runtime id scan plan.options
            plan.hasResults plan.resultCapacity rounds = after := by
  obtain ⟨before, isAtRest⟩ := canScan.transport
  let job := newScanJob id plan.options plan.hasResults plan.resultCapacity
  let session : BacnetDeviceSession :=
    { system.sessions id with inFlightObjectListScan := some scan }
  let looked : ClientSystem τ :=
    { system with client := (system.client.nowMs runtime).2 }
  have setSession :=
    sessions_setSession_self (looked.setScan scan job) id session
  have setScan :
      ((looked.setScan scan job).setSession id session).scans scan = job :=
    scans_setScan_self ..
  have prepared :
      ((looked.setScan scan job).setSession id session).PreparedScan id scan
        peer device atRest (system.client.nowMs runtime).1 :=
    ⟨canScan.running, delivers.clock isAtRest, by rw [setSession],
      by rw [setSession]; exact canScan.endpoint,
      by rw [setSession]; exact canScan.device, by rw [setScan]; rfl,
      by rw [setScan]; rfl⟩
  obtain ⟨sent, isSent, -, ⟨least, after, collected, finishes⟩, -⟩ :=
    scanFinishes_of_sent delivers canScan.reachable prepared
      (by rw [setScan]; exact timeout) answersScan.count
      .readObjectListCount
      (fun waiting later invokeId outcome preparedLater isJob isExpected =>
        by
          rw [setScan] at isJob
          obtain ⟨value, rfl, isUnsigned, isLength⟩ := isExpected
          have counting :
              (waiting.scans scan).clearInFlightState.Counting := by
            rw [isJob]
            exact ⟨rfl, rfl, rfl, rfl⟩
          obtain ⟨next, absorbed, atEntry, active, isIdle⟩ :=
            BacnetObjectListScanJob.absorbCount_of_counting counting
              (by rw [isJob]; rfl) (by rw [isJob]; rfl)
              (by rw [isJob]; rfl) isUnsigned isLength
          have told :
              scanTold (waiting.scans scan).inFlightRequest.arrayIndex
                  (some { status := .ack, value := value }) =
                (.ack, some value) := by
            simp [scanTold, classifyDetailedReadStatus, isUnsigned,
              deviceReadStatusFromPropertyStatus]
          have isCounting :
              (waiting.scans scan).phase = .readObjectListCount := by
            rw [isJob]
          refine finishScanWait_of_absorbed
            (collectsBelow delivers canScan.reachable answersScan timeout
              (4 * (plan.limit - 0) + 1))
            preparedLater _ told ?_ (.entry atEntry) (Nat.lt_succ_self _)
            (active.trans preparedLater.active) isIdle
          exact (BacnetObjectListScanJob.absorbRead_count isCounting _
            _).trans absorbed)
  refine ⟨least, after, collected, fun rounds enough => ?_⟩
  rw [← finishes rounds enough]
  have request :
      objectListRequest
          (((looked.setScan scan job).setSession id session).sessions id)
          0 =
        ⟨device, .objectList, 0⟩ := by
    rw [objectListRequest, prepared.device]
  have begun :
      system.beginObjectListScan runtime id scan plan.options
          plan.hasResults plan.resultCapacity kUseClientClock =
        (true, sent) := by
    unfold beginObjectListScan resolveNow
    simp only [if_true, onClient]
    rw [if_neg (by simp [canScan.idle, canScan.job])]
    rw [← request] at isSent
    dsimp only [looked, job, session] at isSent
    rw [isSent]
  rw [scanObjectList, begun]

end ClientSystem

end BacnetStack
