import BacnetStack.ClientRead

namespace BacnetStack

/-!
# Scanning an object list

The scan reads the length of the Object_List, then entry after entry, and for
every stored object up to three properties.  The source lets the functions
that start, finish and advance a read call each other; since a read that
cannot be sent is finished at once, such a chain goes through the properties
of one object in order and ends with the next entry.
-/

/-- The properties a scan reads of a stored object, in this order. -/
inductive ScanField where
  | objectName
  | description
  | presentValue
  deriving Repr, DecidableEq, Inhabited

namespace ScanField

def property : ScanField → BacnetPropertyId
  | .objectName => .objectName
  | .description => .description
  | .presentValue => .presentValue

def phase : ScanField → BacnetObjectListScanPhase
  | .objectName => .readObjectName
  | .description => .readDescription
  | .presentValue => .readPresentValue

/-- Whether the options ask for a property. -/
def isWanted : ScanField → BacnetObjectScanOptions → Bool
  | .objectName, options => options.readObjectName
  | .description, options => options.readDescription
  | .presentValue, options => options.readPresentValue

def status :
    ScanField → BacnetScannedObject → BacnetDeviceSessionReadStatus
  | .objectName, scanned => scanned.objectNameStatus
  | .description, scanned => scanned.descriptionStatus
  | .presentValue, scanned => scanned.presentValueStatus

/-- The value that comes with a status; one without keeps the old value. -/
def readValue
    (status : BacnetDeviceSessionReadStatus)
    (value : Option BacnetValue)
    (old : BacnetValue) : BacnetValue :=
  if status = .ack then value.getD old else old

/-- Store the outcome of a read of a property. -/
def store
    (field : ScanField)
    (status : BacnetDeviceSessionReadStatus)
    (value : Option BacnetValue)
    (scanned : BacnetScannedObject) : BacnetScannedObject :=
  match field with
  | .objectName =>
      { scanned with
        objectNameStatus := status
        objectName := readValue status value scanned.objectName }
  | .description =>
      { scanned with
        descriptionStatus := status
        description := readValue status value scanned.description }
  | .presentValue =>
      { scanned with
        presentValueStatus := status
        presentValue := readValue status value scanned.presentValue }

def all : List ScanField :=
  [.objectName, .description, .presentValue]

/-- The property a phase reads. -/
def ofPhase? (phase : BacnetObjectListScanPhase) : Option ScanField :=
  all.find? fun field => field.phase == phase

end ScanField

/-- How a scan goes on after a read. -/
inductive ScanStep where
  | advance
  | complete
  | fail
  deriving Repr, DecidableEq

namespace BacnetObjectListScanJob

variable (job : BacnetObjectListScanJob)

/-- The length of the list was read, or could not be. -/
def absorbCount
    (status : BacnetDeviceSessionReadStatus)
    (value : Option BacnetValue) : ScanStep × BacnetObjectListScanJob :=
  let counted := {
    job with
    result := { job.result with objectListCountStatus := status }
  }
  if status ≠ .ack then
    (.fail, counted)
  else
    match value with
    | none => (.fail, counted)
    | some value =>
        if value.type ≠ .unsigned then
          (.fail, counted)
        else
          let count := value.unsignedValue
          (.advance,
            { counted with
              result := {
                counted.result with
                objectListCount := count
                truncated :=
                  counted.result.truncated ||
                    decide (job.options.maxObjectListEntries < count)
              }
              maxIndex :=
                if count < job.options.maxObjectListEntries then count
                else job.options.maxObjectListEntries
              currentIndex := 1 })

/-- Go on with the next entry. -/
def skipEntry : BacnetObjectListScanJob :=
  { job with currentIndex := job.currentIndex + 1 }

/-- An accepted object is stored, or the result is marked as truncated. -/
def absorbObject (objectId : BacnetObjectId) : BacnetObjectListScanJob :=
  let found := {
    job with
    result := { job.result with found := job.result.found + 1 }
    currentObject := objectId
    hasCurrentStoreIndex := false
  }
  if !job.hasResults || decide (job.resultCapacity ≤ job.result.stored) then
    { found with result := { found.result with truncated := true } }.skipEntry
  else
    { found with
      result := { found.result with stored := job.result.stored + 1 }
      currentStoreIndex := job.result.stored
      hasCurrentStoreIndex := true
      results := job.results ++ [{ objectId := objectId }] }

/-- The read of the current entry has ended. -/
def noteEntryRead
    (status : BacnetDeviceSessionReadStatus)
    (value : Option BacnetValue) : BacnetObjectListScanJob :=
  { job with
    entryReads :=
      { index := job.currentIndex, status := status, value := value }
        :: job.entryReads }

/-- An entry was read, or could not be: then the scan is over. -/
def absorbEntry
    (status : BacnetDeviceSessionReadStatus)
    (value : Option BacnetValue) : ScanStep × BacnetObjectListScanJob :=
  let noted := job.noteEntryRead status value
  if status ≠ .ack then
    (.complete, noted)
  else
    let inspected := {
      noted with
      result := { job.result with inspected := job.result.inspected + 1 }
    }
    match value with
    | none => (.advance, inspected.skipEntry)
    | some value =>
        if value.type = .objectIdentifier ∧
            job.options.acceptsObjectType value.objectValue = true then
          (.advance, inspected.absorbObject value.objectValue)
        else
          (.advance, inspected.skipEntry)

/-- A property of a stored object was read, or could not be. -/
def absorbField
    (field : Option ScanField)
    (status : BacnetDeviceSessionReadStatus)
    (value : Option BacnetValue) : BacnetObjectListScanJob :=
  if !job.hasCurrentStoreIndex || !job.hasResults then
    job.skipEntry
  else
    match field with
    | none => job
    | some field =>
        { job with
          results :=
            job.results.modify job.currentStoreIndex
              (field.store status value) }

/-- What the end of a read does to the job. -/
def absorbRead
    (status : BacnetDeviceSessionReadStatus)
    (value : Option BacnetValue) : ScanStep × BacnetObjectListScanJob :=
  let job' := job.clearInFlightState
  if job.phase = .readObjectListCount then
    job'.absorbCount status value
  else if job.phase = .readObjectListEntry then
    job'.absorbEntry status value
  else
    (.advance, job'.absorbField (ScanField.ofPhase? job.phase) status value)

/-- The stored object whose properties are being read. -/
def currentScanned? : Option BacnetScannedObject :=
  if job.hasCurrentStoreIndex && job.hasResults then
    job.results[job.currentStoreIndex]?
  else
    none

/-- A property of an object is still to be read. -/
def needsField
    (field : ScanField)
    (scanned : BacnetScannedObject) : Bool :=
  field.isWanted job.options && field.status scanned == .skipped

/-- All entries were looked at. -/
def isExhausted : Bool :=
  job.currentIndex == 0 || decide (job.maxIndex < job.currentIndex)

end BacnetObjectListScanJob

namespace ClientSystem

variable {τ : Type} (runtime : ClientRuntime τ)

/-- `releaseObjectListScan`, then the final status of the job. -/
def endObjectListScan
    (system : ClientSystem τ)
    (id : SessionId)
    (scan : ScanId)
    (status : BacnetObjectListScanJobStatus)
    (phase : BacnetObjectListScanPhase) : ClientSystem τ :=
  let session := system.sessions id
  (system.setSession id
    { session with
      inFlightObjectListScan :=
        if session.inFlightObjectListScan = some scan then none
        else session.inFlightObjectListScan }).setScan scan
    { (system.scans scan).clearInFlightState with
      status := status
      phase := phase }

def completeObjectListScan
    (system : ClientSystem τ)
    (id : SessionId)
    (scan : ScanId) : ClientSystem τ :=
  system.endObjectListScan id scan .complete .complete

def failObjectListScan
    (system : ClientSystem τ)
    (id : SessionId)
    (scan : ScanId) : ClientSystem τ :=
  system.endObjectListScan id scan .failed .failed

/-- Send the next request of a scan. -/
def sendObjectListScanRead
    (system : ClientSystem τ)
    (id : SessionId)
    (scan : ScanId)
    (request : BacnetPropertyRequest)
    (phase : BacnetObjectListScanPhase)
    (nowMs : UInt32) : Bool × ClientSystem τ :=
  let (invokeId, system) := system.allocateInvokeId id
  let job := {
    system.scans scan with
    phase := phase
    inFlightRequest := request
  }
  let (sent, system) := (system.setScan scan job).onClient fun client =>
    client.sendReadProperty runtime (system.sessions id).endpoint
      request invokeId
  if sent then
    (true, system.setScan scan
      { job with
        inFlightInvokeId := invokeId
        inFlightStartedAtMs := nowMs
        requestInFlight := true })
  else
    (false, system.setSession id
      ((system.sessions id).updatePropertyCache request .sendFailed none
        nowMs))

/-- The request for one entry of the Object_List, or for its length. -/
def objectListRequest
    (session : BacnetDeviceSession)
    (arrayIndex : UInt32) : BacnetPropertyRequest where
  object := session.deviceObject
  property := .objectList
  arrayIndex := arrayIndex

/-- Read the next entry, or end where there is none. -/
def startEntryRead
    (system : ClientSystem τ)
    (id : SessionId)
    (scan : ScanId)
    (nowMs : UInt32) : ClientSystem τ :=
  let job := system.scans scan
  if job.isExhausted then
    system.completeObjectListScan id scan
  else
    match
      system.sendObjectListScanRead runtime id scan
        (objectListRequest (system.sessions id) job.currentIndex)
        .readObjectListEntry nowMs with
    | (true, system) => system
    | (false, system) =>
        -- An entry that cannot be asked for ends the scan like a failed one.
        (system.setScan scan
          ((system.scans scan).clearInFlightState.absorbEntry
            .sendFailed none).2).completeObjectListScan id scan

/-- Read the first of some properties of an object that is still needed. -/
def startFieldReads
    (id : SessionId)
    (scan : ScanId)
    (scanned : BacnetScannedObject)
    (nowMs : UInt32) :
    List ScanField → ClientSystem τ → ClientSystem τ
  | [], system =>
      let job := system.scans scan
      (system.setScan scan
        { job.skipEntry with hasCurrentStoreIndex := false }
        ).startEntryRead runtime id scan nowMs
  | field :: rest, system =>
      if (system.scans scan).needsField field scanned then
        match
          system.sendObjectListScanRead runtime id scan
            { object := scanned.objectId
              property := field.property
              arrayIndex := kBacnetNoArrayIndex }
            field.phase nowMs with
        | (true, system) => system
        | (false, system) =>
            startFieldReads id scan scanned nowMs rest
              (system.setScan scan
                ((system.scans scan).clearInFlightState.absorbField
                  (some field) .sendFailed none))
      else
        startFieldReads id scan scanned nowMs rest system

def advanceObjectListScan
    (system : ClientSystem τ)
    (id : SessionId)
    (scan : ScanId)
    (nowMs : UInt32) : ClientSystem τ :=
  let job := system.scans scan
  if !job.isActive || job.requestInFlight then
    system
  else
    match job.currentScanned? with
    | some scanned =>
        system.startFieldReads runtime id scan scanned nowMs ScanField.all
    | none => system.startEntryRead runtime id scan nowMs

/-- `finishObjectListScanRead` -/
def finishObjectListScanRead
    (system : ClientSystem τ)
    (id : SessionId)
    (scan : ScanId)
    (status : BacnetDeviceSessionReadStatus)
    (value : Option BacnetValue)
    (nowMs : UInt32) : ClientSystem τ :=
  match (system.scans scan).absorbRead status value with
  | (.advance, job) =>
      (system.setScan scan job).advanceObjectListScan runtime id scan nowMs
  | (.complete, job) =>
      (system.setScan scan job).completeObjectListScan id scan
  | (.fail, job) => (system.setScan scan job).failObjectListScan id scan

def pollInFlightObjectListScan
    (system : ClientSystem τ)
    (id : SessionId)
    (nowMs : UInt32) : ClientSystem τ :=
  match (system.sessions id).inFlightObjectListScan with
  | none => system
  | some scan =>
      let job := system.scans scan
      if !job.isActive || !job.requestInFlight then
        system
      else
        let (poll, system) := system.onClient fun client =>
          client.pollReadPropertyStatus runtime job.inFlightInvokeId
            job.inFlightRequest
        if poll.status ≠ .none then
          let status :=
            classifyDetailedReadStatus poll job.inFlightRequest.arrayIndex
          (system.setSession id
            ((system.sessions id).updatePropertyCache job.inFlightRequest
              status (some poll.value) nowMs poll.errorClass poll.errorCode)
            ).finishObjectListScanRead runtime id scan
              (deviceReadStatusFromPropertyStatus status)
              (some poll.value) nowMs
        else if job.options.readTimeoutMs ≤ nowMs - job.inFlightStartedAtMs then
          (system.setSession id
            ((system.sessions id).updatePropertyCache job.inFlightRequest
              .timeout none nowMs)
            ).finishObjectListScanRead runtime id scan .timeout none nowMs
        else
          system

/-- The job of a scan that was just begun. -/
def newScanJob
    (id : SessionId)
    (options : BacnetObjectScanOptions)
    (hasResults : Bool)
    (resultCapacity : Nat) : BacnetObjectListScanJob where
  session := some id
  options := options
  hasResults := hasResults
  resultCapacity := resultCapacity
  status := .active
  phase := .readObjectListCount

def beginObjectListScan
    (system : ClientSystem τ)
    (id : SessionId)
    (scan : ScanId)
    (options : BacnetObjectScanOptions)
    (hasResults : Bool)
    (resultCapacity : Nat)
    (nowMs : UInt32) : Bool × ClientSystem τ :=
  let (nowMs, system) := system.resolveNow runtime nowMs
  if (system.sessions id).isBusy || (system.scans scan).isActive then
    (false, system)
  else
    let begun :=
      (system.setScan scan
        (newScanJob id options hasResults resultCapacity)).setSession id
          { system.sessions id with inFlightObjectListScan := some scan }
    match
      begun.sendObjectListScanRead runtime id scan
        (objectListRequest (begun.sessions id) 0) .readObjectListCount
        nowMs with
    | (true, system) => (true, system)
    | (false, system) =>
        (false,
          system.finishObjectListScanRead runtime id scan .sendFailed none
            nowMs)

def pollObjectListScan
    (system : ClientSystem τ)
    (id : SessionId)
    (scan : ScanId)
    (nowMs : UInt32) : ClientSystem τ :=
  let (nowMs, system) := system.resolveNow runtime nowMs
  if (system.scans scan).session = some id ∧
      (system.scans scan).isActive = true then
    let system := system.pollInFlightObjectListScan runtime id nowMs
    if (system.scans scan).isActive &&
        !(system.scans scan).requestInFlight then
      system.advanceObjectListScan runtime id scan nowMs
    else
      system
  else
    system

def cancelObjectListScan
    (system : ClientSystem τ)
    (id : SessionId)
    (scan : ScanId) : ClientSystem τ :=
  if (system.scans scan).session = some id ∧
      (system.scans scan).isTerminal = false then
    system.endObjectListScan id scan .cancelled .cancelled
  else
    system

/-- The polls of the blocking `scanObjectList`, at most `rounds` of them. -/
def scanRounds
    (id : SessionId)
    (scan : ScanId) :
    Nat → ClientSystem τ → ClientSystem τ
  | 0, system => system
  | rounds + 1, system =>
      if (system.scans scan).isActive then
        let polled := system.pollObjectListScan runtime id scan kUseClientClock
        scanRounds id scan rounds
          { polled with client := polled.client.idle runtime }
      else
        system

/-- `scanObjectList`, with a job of its own. -/
def scanObjectList
    (system : ClientSystem τ)
    (id : SessionId)
    (scan : ScanId)
    (options : BacnetObjectScanOptions)
    (hasResults : Bool)
    (resultCapacity rounds : Nat) : ClientSystem τ :=
  match
    system.beginObjectListScan runtime id scan options hasResults
      resultCapacity kUseClientClock with
  | (true, system) => system.scanRounds runtime id scan rounds
  | (false, system) => system

/-- `pollInFlight`: advance whatever is in flight, and start nothing new. -/
def pollInFlight
    (callback : SubscriptionCallback τ)
    (system : ClientSystem τ)
    (id : SessionId)
    (nowMs : UInt32) : ClientSystem τ :=
  let (nowMs, system) := system.resolveNow runtime nowMs
  let session := system.sessions id
  if session.inFlightPropertyRead.isSome then
    system.pollInFlightPropertyRead runtime id nowMs
  else if session.inFlightObjectListScan.isSome then
    system.pollInFlightObjectListScan runtime id nowMs
  else if session.inFlightSubscription.isSome then
    system.pollInFlightSubscription runtime callback id nowMs
  else
    system

end ClientSystem

end BacnetStack
