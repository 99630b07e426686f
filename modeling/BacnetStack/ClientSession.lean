import BacnetStack.ClientPropertyCache
import BacnetStack.WrappingClock
import Mathlib.Logic.Function.Basic

namespace BacnetStack

/-!
# Sessions and what they work on

The state of an application's client: the client itself, the device sessions
that share it, the subscription handles and the scan and read jobs.  The
source links these with pointers.  Here each kind lives in a map of its own
and a pointer is a number, so that a handle can be moved from one place to
another and a session can name the handle it waits for.
-/

abbrev SessionId : Type := Nat
abbrev SubscriptionId : Type := Nat
abbrev ScanId : Type := Nat
abbrev ReadId : Type := Nat

abbrev kBacnetDefaultReadTimeoutMs : UInt32 := 1000

structure BacnetSubscribeOptions where
  fallbackPollMs : UInt32 := 10000
  timeoutMs : UInt32 := kBacnetDefaultReadTimeoutMs
  covLifetimeSeconds : UInt32 := 60
  covRenewBeforeSeconds : UInt32 := 5
  preferCov : Bool := false
  usePropertyCov : Bool := false
  hasCovIncrement : Bool := false
  covIncrement : Binary32 := .zero
  issueConfirmedNotifications : Bool := false
  immediateFirstRead : Bool := true
  notifyOnStatusChange : Bool := true
  deriving Repr, DecidableEq, Inhabited

inductive BacnetCovSubscriptionStatus where
  | pending
  | active
  | error
  | reject
  | abort
  | timeout
  | sendFailed
  deriving Repr, DecidableEq, Inhabited

/-- The reasons of a callback; the bits of the source are fields here. -/
structure BacnetSubscriptionNotificationReason where
  firstValue : Bool := false
  valueChanged : Bool := false
  statusChanged : Bool := false
  deriving Repr, DecidableEq, Inhabited

/-- `reasons != None` -/
def BacnetSubscriptionNotificationReason.any
    (reason : BacnetSubscriptionNotificationReason) : Bool :=
  reason.firstValue || reason.valueChanged || reason.statusChanged

/-- What a callback is told. -/
structure BacnetSubscriptionNotification where
  objectId : BacnetObjectId
  propertyId : BacnetPropertyId
  arrayIndex : UInt32
  status : BacnetDeviceSessionReadStatus
  value : Option BacnetValue
  firstValue : Bool
  valueChanged : Bool
  statusChanged : Bool
  reason : BacnetSubscriptionNotificationReason
  covProperties : Option (List BacnetCovPropertyValue)
  userData : Nat
  deriving Repr, DecidableEq

inductive PollTrigger where
  | none
  | initial
  | fallback
  | refresh
  deriving Repr, DecidableEq, Inhabited

/-- What a handle waits for. -/
inductive SubscriptionOperation where
  | none
  | poll
  | subscribeCov
  deriving Repr, DecidableEq, Inhabited

/-- A subscription handle; one without a session was moved from or is gone. -/
structure BacnetPropertySubscription where
  session : Option SessionId := none
  objectId : BacnetObjectId := {}
  propertyId : BacnetPropertyId := .objectName
  arrayIndex : UInt32 := kBacnetNoArrayIndex
  options : BacnetSubscribeOptions := {}
  hasCallback : Bool := false
  userData : Nat := 0
  active : Bool := false
  inFlight : Bool := false
  hasValue : Bool := false
  refreshRequested : Bool := false
  initialReadPending : Bool := false
  hasTerminalStatus : Bool := false
  lastValue : BacnetValue := {}
  lastStatus : BacnetDeviceSessionReadStatus := .skipped
  lastUpdateMs : UInt32 := 0
  nextPollAtMs : UInt32 := 0
  lastNotificationReason : BacnetSubscriptionNotificationReason := {}
  inFlightInvokeId : UInt8 := 0
  inFlightStartedAt : UInt32 := 0
  inFlightTrigger : PollTrigger := .none
  inFlightOperation : SubscriptionOperation := .none
  covActive : Bool := false
  covFallback : Bool := false
  covStatus : BacnetCovSubscriptionStatus := .pending
  covRejectReason : UInt8 := 0xFF
  covProcessId : UInt32 := 0
  covProcessIdAssigned : Bool := false
  covRenewAtMs : UInt32 := 0
  deriving Repr, DecidableEq, Inhabited

namespace BacnetPropertySubscription

/-- The constructor; `nowMs` is the reading of the client's clock. -/
def create
    (session : SessionId)
    (objectId : BacnetObjectId)
    (propertyId : BacnetPropertyId)
    (arrayIndex : UInt32)
    (options : BacnetSubscribeOptions)
    (hasCallback : Bool)
    (userData : Nat)
    (nowMs : UInt32) : BacnetPropertySubscription where
  session := some session
  objectId := objectId
  propertyId := propertyId
  arrayIndex := arrayIndex
  options := {
    options with
    timeoutMs :=
      if options.timeoutMs = 0 then
        kBacnetDefaultReadTimeoutMs
      else
        options.timeoutMs
  }
  hasCallback := hasCallback
  userData := userData
  active := true
  initialReadPending := options.immediateFirstRead
  nextPollAtMs :=
    if 0 < options.fallbackPollMs then nowMs + options.fallbackPollMs else 0

variable (subscription : BacnetPropertySubscription)

/-- The request that polls the subscribed property. -/
def request : BacnetPropertyRequest where
  object := subscription.objectId
  property := subscription.propertyId
  arrayIndex := subscription.arrayIndex

/-- The deadline of the next subscribe request is reached. -/
def renewalReached (nowMs : UInt32) : Bool :=
  WrappingClock.reached nowMs subscription.covRenewAtMs

def isDue (nowMs : UInt32) : Bool :=
  if !subscription.active || subscription.inFlight then
    false
  else if subscription.covActive then
    subscription.renewalReached nowMs
  else if subscription.refreshRequested ||
      subscription.initialReadPending then
    true
  else if subscription.options.fallbackPollMs = 0 then
    false
  else
    WrappingClock.reached nowMs subscription.nextPollAtMs

def scheduleNextPoll (nowMs : UInt32) : BacnetPropertySubscription :=
  { subscription with
    nextPollAtMs :=
      if subscription.options.fallbackPollMs = 0 then
        0
      else
        nowMs + subscription.options.fallbackPollMs }

def clearInFlightState : BacnetPropertySubscription :=
  { subscription with
    inFlight := false
    inFlightInvokeId := 0
    inFlightStartedAt := 0
    inFlightTrigger := .none
    inFlightOperation := .none }

/-- The handle `stop` leaves; what it knows about COV stays. -/
def stopped : BacnetPropertySubscription :=
  { subscription with
    active := false
    refreshRequested := false
    initialReadPending := false }.clearInFlightState

/-- What `moveFrom` leaves in the handle that was moved from. -/
def movedFrom : BacnetPropertySubscription :=
  { subscription with
    session := none
    active := false
    hasValue := false
    refreshRequested := false
    initialReadPending := false
    hasTerminalStatus := false
    lastStatus := .skipped
    lastUpdateMs := 0
    nextPollAtMs := 0
    lastNotificationReason := {}
    covActive := false
    covFallback := false
    covStatus := .pending
    covRejectReason := 0xFF
    covProcessId := 0
    covProcessIdAssigned := false
    covRenewAtMs := 0
    hasCallback := false
    userData := 0 }.clearInFlightState

/-- `scheduleCovRetry` -/
def scheduleCovRetry (nowMs : UInt32) : BacnetPropertySubscription :=
  { subscription with
    covActive := false
    covFallback := true
    initialReadPending := true
    covRenewAtMs := nowMs +
      (if subscription.options.covRenewBeforeSeconds ≠ 0 then
        subscription.options.covRenewBeforeSeconds
      else
        1) * 1000 }

/-- Milliseconds from an acknowledged subscribe to its renewal. -/
def renewalIntervalMs (options : BacnetSubscribeOptions) : UInt32 :=
  (if options.covRenewBeforeSeconds < options.covLifetimeSeconds then
    options.covLifetimeSeconds - options.covRenewBeforeSeconds
  else
    options.covLifetimeSeconds) * 1000

/-- A subscribe request was acknowledged. -/
def covAcknowledged (nowMs : UInt32) : BacnetPropertySubscription :=
  { subscription with
    covActive := true
    covFallback := false
    covStatus := .active
    covRenewAtMs := nowMs + renewalIntervalMs subscription.options
    }.clearInFlightState

/-- The process identifier of a handle, the same after a restart. -/
def assignProcessId : BacnetPropertySubscription :=
  if subscription.covProcessIdAssigned then
    subscription
  else
    { subscription with
      covProcessId :=
        (subscription.objectId.type.toUInt32 <<< 22) |||
          subscription.objectId.instance_
      covProcessIdAssigned := true }

end BacnetPropertySubscription

/-- A notification reports the given entry of the given property. -/
def BacnetCovNotification.Contains
    (notification : BacnetCovNotification)
    (property : BacnetPropertyId)
    (arrayIndex : UInt32) : Prop :=
  (∃ reported ∈ notification.properties,
    reported.property = property ∧ reported.arrayIndex = arrayIndex) ∨
  (notification.property = property ∧ notification.arrayIndex = arrayIndex)

instance
    (notification : BacnetCovNotification)
    (property : BacnetPropertyId)
    (arrayIndex : UInt32) :
    Decidable (notification.Contains property arrayIndex) :=
  inferInstanceAs (Decidable (_ ∨ _))

/--
A notification is for a handle: it comes from the peer of the session and
names the process identifier, the object and a subscribed property.
-/
structure BacnetCovNotification.IsFor
    (notification : BacnetCovNotification)
    (endpoint : BacnetIpEndpoint)
    (subscription : BacnetPropertySubscription) : Prop where
  source : notification.source = endpoint
  assigned : subscription.covProcessIdAssigned = true
  processId : notification.processId = subscription.covProcessId
  object : notification.object = subscription.objectId
  contained :
    notification.Contains subscription.propertyId subscription.arrayIndex

theorem BacnetCovNotification.isFor_iff
    {notification : BacnetCovNotification}
    {endpoint : BacnetIpEndpoint}
    {subscription : BacnetPropertySubscription} :
    notification.IsFor endpoint subscription ↔
      notification.source = endpoint ∧
      subscription.covProcessIdAssigned = true ∧
      notification.processId = subscription.covProcessId ∧
      notification.object = subscription.objectId ∧
      notification.Contains subscription.propertyId
        subscription.arrayIndex :=
  ⟨fun matched => ⟨matched.source, matched.assigned, matched.processId,
      matched.object, matched.contained⟩,
    fun ⟨source, assigned, processId, object, contained⟩ =>
      ⟨source, assigned, processId, object, contained⟩⟩

instance
    (notification : BacnetCovNotification)
    (endpoint : BacnetIpEndpoint)
    (subscription : BacnetPropertySubscription) :
    Decidable (notification.IsFor endpoint subscription) :=
  decidable_of_iff _ BacnetCovNotification.isFor_iff.symm

inductive BacnetObjectListScanJobStatus where
  | idle
  | active
  | complete
  | failed
  | cancelled
  deriving Repr, DecidableEq, Inhabited

inductive BacnetObjectListScanPhase where
  | idle
  | readObjectListCount
  | readObjectListEntry
  | readObjectName
  | readDescription
  | readPresentValue
  | complete
  | failed
  | cancelled
  deriving Repr, DecidableEq, Inhabited

/-- Options of a scan; without object types every object is accepted. -/
structure BacnetObjectScanOptions where
  objectTypes : List UInt16 := []
  maxObjectListEntries : UInt32 := 600
  readTimeoutMs : UInt32 := kBacnetDefaultReadTimeoutMs
  readObjectName : Bool := true
  readDescription : Bool := true
  readPresentValue : Bool := true
  deriving Repr, DecidableEq, Inhabited

def BacnetObjectScanOptions.acceptsObjectType
    (options : BacnetObjectScanOptions)
    (objectId : BacnetObjectId) : Bool :=
  options.objectTypes.isEmpty || decide (objectId.type ∈ options.objectTypes)

structure BacnetScannedObject where
  objectId : BacnetObjectId := {}
  objectNameStatus : BacnetDeviceSessionReadStatus := .skipped
  objectName : BacnetValue := {}
  descriptionStatus : BacnetDeviceSessionReadStatus := .skipped
  description : BacnetValue := {}
  presentValueStatus : BacnetDeviceSessionReadStatus := .skipped
  presentValue : BacnetValue := {}
  deriving Repr, DecidableEq, Inhabited

structure BacnetObjectScanResult where
  objectListCountStatus : BacnetDeviceSessionReadStatus := .skipped
  objectListCount : UInt32 := 0
  inspected : UInt32 := 0
  found : Nat := 0
  stored : Nat := 0
  truncated : Bool := false
  deriving Repr, DecidableEq, Inhabited

/-- How the read of one entry of an object list ended. -/
structure ScanEntryRead where
  index : UInt32
  status : BacnetDeviceSessionReadStatus
  value : Option BacnetValue
  deriving Repr, DecidableEq

/--
A scan of an object list.  The caller's buffer is the list of the entries
stored in it so far; `hasResults` is false where no buffer was given.  The
reads of entries that have ended are kept for the proofs, newest first.
-/
structure BacnetObjectListScanJob where
  session : Option SessionId := none
  options : BacnetObjectScanOptions := {}
  hasResults : Bool := false
  results : List BacnetScannedObject := []
  resultCapacity : Nat := 0
  result : BacnetObjectScanResult := {}
  status : BacnetObjectListScanJobStatus := .idle
  phase : BacnetObjectListScanPhase := .idle
  currentIndex : UInt32 := 0
  maxIndex : UInt32 := 0
  requestInFlight : Bool := false
  inFlightInvokeId : UInt8 := 0
  inFlightStartedAtMs : UInt32 := 0
  inFlightRequest : BacnetPropertyRequest := {}
  currentObject : BacnetObjectId := {}
  currentStoreIndex : Nat := 0
  hasCurrentStoreIndex : Bool := false
  entryReads : List ScanEntryRead := []
  deriving Repr, DecidableEq, Inhabited

namespace BacnetObjectListScanJob

variable (job : BacnetObjectListScanJob)

def isActive : Bool :=
  job.status == .active

def isTerminal : Bool :=
  job.status == .complete || job.status == .failed ||
    job.status == .cancelled

def clearInFlightState : BacnetObjectListScanJob :=
  { job with
    requestInFlight := false
    inFlightInvokeId := 0
    inFlightStartedAtMs := 0 }

end BacnetObjectListScanJob

inductive BacnetPropertyReadJobStatus where
  | idle
  | active
  | complete
  | failed
  | cancelled
  deriving Repr, DecidableEq, Inhabited

/-- A single non-blocking read. -/
structure BacnetPropertyReadJob where
  session : Option SessionId := none
  status : BacnetPropertyReadJobStatus := .idle
  request : BacnetPropertyRequest := {}
  readStatus : BacnetPropertyReadStatus := .busy
  value : BacnetValue := {}
  errorClass : UInt32 := 0
  errorCode : UInt32 := 0
  timeoutMs : UInt32 := 0
  invokeId : UInt8 := 0
  startedAtMs : UInt32 := 0
  deriving Repr, DecidableEq, Inhabited

def BacnetPropertyReadJob.isActive (job : BacnetPropertyReadJob) : Bool :=
  job.status == .active

structure BacnetDeviceSession where
  deviceInstance : UInt32 := 0
  endpoint : BacnetIpEndpoint := {}
  nextInvokeId : UInt8 := 1
  inFlightSubscription : Option SubscriptionId := none
  pendingCovNotifications : CovNotificationQueue := .empty
  inFlightObjectListScan : Option ScanId := none
  inFlightPropertyRead : Option ReadId := none
  roundRobinSubscriptionIndex : Nat := 0
  lastCovPollMs : UInt32 := 0
  covSubscribeAttemptCount : UInt32 := 0
  covSendFailureCount : UInt32 := 0
  covTimeoutCount : UInt32 := 0
  propertyCache : PropertyCache := default
  deriving DecidableEq, Inhabited

namespace BacnetDeviceSession

variable (session : BacnetDeviceSession)

/-- `isBusy` -/
def isBusy : Bool :=
  session.inFlightSubscription.isSome ||
    session.inFlightObjectListScan.isSome ||
    session.inFlightPropertyRead.isSome

/-- A job, and not a subscription, is in flight. -/
def jobInFlight : Bool :=
  session.inFlightPropertyRead.isSome ||
    session.inFlightObjectListScan.isSome

def deviceObject : BacnetObjectId where
  type := BacnetObjectType.device
  instance_ := session.deviceInstance

/-- Invoke ids run from 1 to 255. -/
def allocateInvokeId : UInt8 × BacnetDeviceSession :=
  (session.nextInvokeId,
    { session with
      nextInvokeId :=
        if session.nextInvokeId + 1 = 0 then 1
        else session.nextInvokeId + 1 })

def updatePropertyCache
    (request : BacnetPropertyRequest)
    (status : BacnetPropertyReadStatus)
    (value : Option BacnetValue)
    (attemptAtMs : UInt32)
    (errorClass errorCode : UInt32 := 0) : BacnetDeviceSession :=
  { session with
    propertyCache :=
      session.propertyCache.update request status value attemptAtMs
        errorClass errorCode }

def queueCovNotification
    (notification : BacnetCovNotification) : BacnetDeviceSession :=
  { session with
    pendingCovNotifications :=
      session.pendingCovNotifications.push notification }

end BacnetDeviceSession

/-- What the application can observe of its subscriptions. -/
inductive ClientEvent where
  /-- A handle's callback was invoked. -/
  | callback
      (subscription : SubscriptionId)
      (notification : BacnetSubscriptionNotification)
  /--
  The acknowledgement of a notification was handed to the transport while a
  handle was polled; the event keeps the handle and the peer of its session.
  -/
  | acknowledged
      (subscription : SubscriptionId)
      (handle : BacnetPropertySubscription)
      (endpoint : BacnetIpEndpoint)
      (notification : BacnetCovNotification)
      (accepted : Bool)
  /-- A handle of a session was given a notification. -/
  | delivered
      (session : SessionId)
      (subscription : SubscriptionId)
      (notification : BacnetCovNotification)
  /--
  The callback for a notification returned; `overtaken` says that another
  handle of the session was in flight then, and this one due for renewal.
  -/
  | callbackReturned
      (subscription : SubscriptionId)
      (overtaken : Bool)
  deriving Repr, DecidableEq

/-- A client with everything that uses it; the newest event comes first. -/
structure ClientSystem (τ : Type) where
  client : BacnetClient τ
  sessions : SessionId → BacnetDeviceSession := fun _ => {}
  subscriptions : SubscriptionId → BacnetPropertySubscription := fun _ => {}
  scans : ScanId → BacnetObjectListScanJob := fun _ => {}
  reads : ReadId → BacnetPropertyReadJob := fun _ => {}
  history : List ClientEvent := []

namespace ClientSystem

variable {τ : Type} (system : ClientSystem τ)

def setSession
    (id : SessionId)
    (session : BacnetDeviceSession) : ClientSystem τ :=
  { system with sessions := Function.update system.sessions id session }

def setSubscription
    (id : SubscriptionId)
    (subscription : BacnetPropertySubscription) : ClientSystem τ :=
  { system with
    subscriptions := Function.update system.subscriptions id subscription }

def setScan
    (id : ScanId)
    (job : BacnetObjectListScanJob) : ClientSystem τ :=
  { system with scans := Function.update system.scans id job }

def setRead
    (id : ReadId)
    (job : BacnetPropertyReadJob) : ClientSystem τ :=
  { system with reads := Function.update system.reads id job }

def record (event : ClientEvent) : ClientSystem τ :=
  { system with history := event :: system.history }

/-- An operation of the client, as one of the system. -/
def onClient {Result : Type}
    (operation : BacnetClient τ → Result × BacnetClient τ) :
    Result × ClientSystem τ :=
  let (result, client) := operation system.client
  (result, { system with client := client })

/-- The time argument that stands for the client's own clock. -/
abbrev kUseClientClock : UInt32 := 0xFFFFFFFF

/-- The time a call works with. -/
def resolveNow
    (runtime : ClientRuntime τ)
    (nowMs : UInt32) : UInt32 × ClientSystem τ :=
  if nowMs = kUseClientClock then
    system.onClient fun client => client.nowMs runtime
  else
    (nowMs, system)

/-- The next invoke id of a session. -/
def allocateInvokeId (id : SessionId) : UInt8 × ClientSystem τ :=
  let (invokeId, session) := (system.sessions id).allocateInvokeId
  (invokeId, system.setSession id session)

end ClientSystem

end BacnetStack
