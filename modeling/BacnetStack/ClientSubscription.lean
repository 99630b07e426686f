import BacnetStack.ClientSession

namespace BacnetStack

/-!
# Driving subscriptions

The subscription side of a session: the requests it starts, what a response,
a timeout or a notification does to a handle, and the two forms of `poll`.
A callback of the application runs in the middle of these and may itself call
the session, so it is a function on the whole system here, and every call in
it sees the state the source has at that point.
-/

/-- What the application does when the callback of a handle is invoked. -/
abbrev SubscriptionCallback (τ : Type) : Type :=
  SubscriptionId → BacnetSubscriptionNotification →
    ClientSystem τ → ClientSystem τ

/-- The text up to its first NUL, which is all `strcmp` looks at. -/
def cStringText (text : List UInt8) : List UInt8 :=
  text.takeWhile (· != 0)

def bacnetValueEquals (left right : BacnetValue) : Bool :=
  left.type == right.type &&
    match left.type with
    | .boolean => left.booleanValue == right.booleanValue
    | .unsigned | .enumerated => left.unsignedValue == right.unsignedValue
    | .signed => left.signedValue == right.signedValue
    | .real => Binary32.feq left.realValue right.realValue
    | .bitString =>
        left.bitStringValue == right.bitStringValue &&
          left.bitStringBitCount == right.bitStringBitCount
    | .objectIdentifier => left.objectValue == right.objectValue
    | .characterString | .objectIdentifierList | .propertyIdentifierList
    | .error | .unsupported =>
        cStringText left.text == cStringText right.text
    | .null | .empty | .notCommandable => true

/-- The end of a poll of a handle, or a notification for it. -/
structure SubscriptionResult where
  status : BacnetDeviceSessionReadStatus
  propertyStatus : BacnetPropertyReadStatus
  value : Option BacnetValue := none
  errorClass : UInt32 := 0
  errorCode : UInt32 := 0
  covNotification : Option BacnetCovNotification := none

namespace SubscriptionResult

/-- The result of a ReadProperty response. -/
def ofPoll
    (poll : BacnetReadPropertyPoll)
    (arrayIndex : UInt32) : SubscriptionResult :=
  let propertyStatus := classifyDetailedReadStatus poll arrayIndex
  { status := deviceReadStatusFromPropertyStatus propertyStatus
    propertyStatus := propertyStatus
    value := some poll.value
    errorClass := poll.errorClass
    errorCode := poll.errorCode }

def timeout : SubscriptionResult where
  status := .timeout
  propertyStatus := .timeout

def sendFailed : SubscriptionResult where
  status := .sendFailed
  propertyStatus := .sendFailed

/-- The value a notification reports for a handle, or its primary value. -/
def notifiedValue
    (subscription : BacnetPropertySubscription)
    (notification : BacnetCovNotification) : BacnetValue :=
  match
    notification.properties.find? fun reported =>
      reported.property == subscription.propertyId &&
        reported.arrayIndex == subscription.arrayIndex with
  | some reported => reported.value
  | none => notification.value

def ofNotification
    (subscription : BacnetPropertySubscription)
    (notification : BacnetCovNotification) : SubscriptionResult where
  status := .ack
  propertyStatus := .ack
  value := some (notifiedValue subscription notification)
  covNotification := some notification

end SubscriptionResult

namespace BacnetPropertySubscription

variable (subscription : BacnetPropertySubscription)

/-- A result carries the first value of a handle. -/
def isFirstValue (result : SubscriptionResult) : Bool :=
  result.status == .ack && result.value.isSome && !subscription.hasValue

/-- A result carries another value than the last one. -/
def isValueChange (result : SubscriptionResult) : Bool :=
  result.status == .ack &&
    result.value.any fun value =>
      !subscription.hasValue ||
        !bacnetValueEquals subscription.lastValue value

/-- A result ends with another status than the last one. -/
def isStatusChange (result : SubscriptionResult) : Bool :=
  !subscription.hasTerminalStatus || subscription.lastStatus != result.status

def notificationReason
    (result : SubscriptionResult) :
    BacnetSubscriptionNotificationReason where
  firstValue := subscription.isFirstValue result
  valueChanged := subscription.isValueChange result
  statusChanged :=
    subscription.isStatusChange result &&
      subscription.options.notifyOnStatusChange

/-- The handle with a result recorded, as its callback finds it. -/
def recordResult
    (result : SubscriptionResult)
    (nowMs : UInt32) : BacnetPropertySubscription :=
  { subscription with
    lastValue :=
      if subscription.isValueChange result then
        result.value.getD subscription.lastValue
      else
        subscription.lastValue
    hasValue :=
      subscription.hasValue ||
        (result.status == .ack && result.value.isSome)
    hasTerminalStatus := true
    lastStatus := result.status
    lastUpdateMs := nowMs
    lastNotificationReason := subscription.notificationReason result }

/-- What the callback is told about a recorded result. -/
def resultNotification
    (result : SubscriptionResult)
    (recorded : BacnetPropertySubscription) :
    BacnetSubscriptionNotification where
  objectId := subscription.objectId
  propertyId := subscription.propertyId
  arrayIndex := subscription.arrayIndex
  status := result.status
  value := if recorded.hasValue then some recorded.lastValue else none
  firstValue := subscription.isFirstValue result
  valueChanged := subscription.isValueChange result
  statusChanged := subscription.isStatusChange result
  reason := subscription.notificationReason result
  covProperties := result.covNotification.map (·.properties)
  userData := subscription.userData

/-- The handle after its callback has returned. -/
def completeResult (nowMs : UInt32) : BacnetPropertySubscription :=
  ({ subscription with initialReadPending := false }.scheduleNextPoll
    nowMs).clearInFlightState

end BacnetPropertySubscription

/-- The cache entries a result of a handle updates. -/
def BacnetDeviceSession.cacheResult
    (session : BacnetDeviceSession)
    (subscription : BacnetPropertySubscription)
    (result : SubscriptionResult)
    (nowMs : UInt32) : BacnetDeviceSession :=
  let polled :=
    session.updatePropertyCache subscription.request result.propertyStatus
      result.value nowMs result.errorClass result.errorCode
  match result.covNotification with
  | none => polled
  | some notification =>
      notification.properties.foldl
        (fun session reported =>
          session.updatePropertyCache
            { object := subscription.objectId
              property := reported.property
              arrayIndex := reported.arrayIndex }
            .ack (some reported.value) nowMs)
        polled

/-- A wait on a handle is over; the platform decides how wide it counts. -/
def subscriptionTimedOut
    (unsignedLongIs64Bit : Bool)
    (nowMs startedAt timeoutMs : UInt32) : Bool :=
  if unsignedLongIs64Bit then
    decide (timeoutMs.toUInt64 ≤ nowMs.toUInt64 - startedAt.toUInt64)
  else
    decide (timeoutMs ≤ nowMs - startedAt)

namespace ClientSystem

variable {τ : Type}
  (runtime : ClientRuntime τ)
  (callback : SubscriptionCallback τ)

/-- A session no longer waits for a handle, if it did. -/
def releaseSlot
    (system : ClientSystem τ)
    (id : SessionId)
    (handle : SubscriptionId) : ClientSystem τ :=
  if (system.sessions id).inFlightSubscription = some handle then
    system.setSession id
      { system.sessions id with inFlightSubscription := none }
  else
    system

/-- Record a result in the cache and the handle. -/
def recordResult
    (system : ClientSystem τ)
    (id : SessionId)
    (handle : SubscriptionId)
    (result : SubscriptionResult)
    (nowMs : UInt32) : ClientSystem τ :=
  let subscription := system.subscriptions handle
  (system.setSession id
    ((system.sessions id).cacheResult subscription result nowMs)
    ).setSubscription handle (subscription.recordResult result nowMs)

/-- Invoke the callback of a handle, if it has one and there is a reason. -/
def notifyResult
    (system : ClientSystem τ)
    (handle : SubscriptionId)
    (subscription : BacnetPropertySubscription)
    (result : SubscriptionResult) : ClientSystem τ :=
  if subscription.hasCallback &&
      (subscription.notificationReason result).any then
    let notification :=
      subscription.resultNotification result (system.subscriptions handle)
    callback handle notification
      (system.record (.callback handle notification))
  else
    system

/-- A handle and its session stop waiting. -/
def completeSubscriptionPoll
    (system : ClientSystem τ)
    (id : SessionId)
    (handle : SubscriptionId)
    (nowMs : UInt32) : ClientSystem τ :=
  (system.setSubscription handle
    ((system.subscriptions handle).completeResult nowMs)).releaseSlot
      id handle

/--
`finishSubscriptionPoll`: the callback runs before the handle and the session
stop waiting.
-/
def finishSubscriptionPoll
    (system : ClientSystem τ)
    (id : SessionId)
    (handle : SubscriptionId)
    (result : SubscriptionResult)
    (nowMs : UInt32) : ClientSystem τ :=
  let subscription := system.subscriptions handle
  ((system.recordResult id handle result nowMs).notifyResult callback
    handle subscription result).completeSubscriptionPoll id handle nowMs

/-- A request of a handle is in flight, and its session waits for it. -/
def setInFlight
    (system : ClientSystem τ)
    (id : SessionId)
    (handle : SubscriptionId)
    (subscription : BacnetPropertySubscription) : ClientSystem τ :=
  (system.setSubscription handle subscription).setSession id
    { system.sessions id with inFlightSubscription := some handle }

/-- What starts a poll of a due handle. -/
def pollTrigger
    (subscription : BacnetPropertySubscription) : PollTrigger :=
  if subscription.refreshRequested then
    .refresh
  else if subscription.initialReadPending then
    .initial
  else
    .fallback

def tryStartSubscriptionPoll
    (system : ClientSystem τ)
    (id : SessionId)
    (handle : SubscriptionId)
    (nowMs : UInt32) : ClientSystem τ :=
  let subscription := system.subscriptions handle
  if !subscription.isDue nowMs || (system.sessions id).jobInFlight then
    system
  else
    let (invokeId, system) := system.allocateInvokeId id
    let (sent, system) := system.onClient fun client =>
      client.sendReadProperty runtime (system.sessions id).endpoint
        subscription.request invokeId
    if sent then
      system.setInFlight id handle
        { subscription with
          inFlight := true
          inFlightInvokeId := invokeId
          inFlightStartedAt := nowMs
          inFlightTrigger := pollTrigger subscription
          inFlightOperation := .poll
          refreshRequested := false }
    else
      system.finishSubscriptionPoll callback id handle .sendFailed nowMs

/-- A subscribe request may be sent for a handle now. -/
def covStartPossible
    (session : BacnetDeviceSession)
    (subscription : BacnetPropertySubscription)
    (nowMs : UInt32) : Bool :=
  subscription.active && !subscription.inFlight && !session.jobInFlight &&
    subscription.options.preferCov &&
    !(subscription.covFallback && !subscription.renewalReached nowMs) &&
    !(subscription.covActive && !subscription.renewalReached nowMs)

/-- Send the subscribe request of a handle, in the form it asks for. -/
def sendSubscription
    (system : ClientSystem τ)
    (endpoint : BacnetIpEndpoint)
    (subscription : BacnetPropertySubscription)
    (invokeId : UInt8) : Bool × ClientSystem τ :=
  system.onClient fun client =>
    if subscription.options.usePropertyCov then
      client.sendSubscribeCovProperty runtime endpoint
        subscription.covProcessId subscription.objectId
        subscription.propertyId subscription.options.covLifetimeSeconds
        invokeId subscription.options.issueConfirmedNotifications
        subscription.arrayIndex subscription.options.hasCovIncrement
        subscription.options.covIncrement
    else
      client.sendSubscribeCov runtime endpoint
        subscription.covProcessId subscription.objectId
        subscription.options.covLifetimeSeconds
        invokeId subscription.options.issueConfirmedNotifications

/--
`tryStartCovSubscription`.  The jobs of the session are looked at here, the
handle it may already wait for is not.
-/
def tryStartCovSubscription
    (system : ClientSystem τ)
    (id : SessionId)
    (handle : SubscriptionId)
    (nowMs : UInt32) : Bool × ClientSystem τ :=
  if covStartPossible
      (system.sessions id) (system.subscriptions handle) nowMs then
    let (invokeId, system) := system.allocateInvokeId id
    let session := system.sessions id
    let system := system.setSession id
      { session with
        covSubscribeAttemptCount := session.covSubscribeAttemptCount + 1 }
    let subscription :=
      { (system.subscriptions handle).assignProcessId with
        covRejectReason := 0xFF }
    let (sent, system) :=
      system.sendSubscription runtime session.endpoint subscription invokeId
    if sent then
      (true, system.setInFlight id handle
        { subscription with
          inFlight := true
          inFlightInvokeId := invokeId
          inFlightStartedAt := nowMs
          inFlightOperation := .subscribeCov })
    else
      let session := system.sessions id
      (false,
        (system.setSession id
          { session with
            covSendFailureCount := session.covSendFailureCount + 1 }
          ).setSubscription handle
            { subscription.scheduleCovRetry nowMs with
              covStatus := .sendFailed })
  else
    (false, system)

/-- What a poll may start for a handle, a subscription first. -/
def startSubscriptionWork
    (system : ClientSystem τ)
    (id : SessionId)
    (handle : SubscriptionId)
    (nowMs : UInt32) : ClientSystem τ :=
  match system.tryStartCovSubscription runtime id handle nowMs with
  | (true, system) => system
  | (false, system) =>
      system.tryStartSubscriptionPoll runtime callback id handle nowMs

/-- How a subscribe request that was not acknowledged ends. -/
def failedCovStatus :
    BacnetSubscribeCovResponseKind → BacnetCovSubscriptionStatus
  | .error => .error
  | .reject => .reject
  | .abort => .abort
  | .ack | .none => .timeout

/-- A subscribe request ended without an acknowledgement. -/
def failCovSubscription
    (system : ClientSystem τ)
    (id : SessionId)
    (handle : SubscriptionId)
    (kind : BacnetSubscribeCovResponseKind)
    (rejectReason : UInt8)
    (nowMs : UInt32) : ClientSystem τ :=
  let session := system.sessions id
  let subscription := (system.subscriptions handle).scheduleCovRetry nowMs
  let failed : BacnetPropertySubscription := {
    subscription with
    covStatus := failedCovStatus kind
    covRejectReason :=
      if kind = .reject then rejectReason
      else subscription.covRejectReason
  }
  (system.setSubscription handle failed.clearInFlightState).setSession id
    { session with
      inFlightSubscription := none
      covTimeoutCount :=
        if kind = .none then session.covTimeoutCount + 1
        else session.covTimeoutCount }

/-- Poll for the response to a subscribe request. -/
def pollCovResponse
    (system : ClientSystem τ)
    (id : SessionId)
    (handle : SubscriptionId)
    (nowMs : UInt32) : ClientSystem τ :=
  let subscription := system.subscriptions handle
  let ((kind, rejectReason), system) := system.onClient fun client =>
    client.pollSubscribeCov runtime subscription.inFlightInvokeId
      (if subscription.options.usePropertyCov then
        kServiceSubscribeCovProperty
      else
        kServiceSubscribeCov)
      (some (system.sessions id).endpoint)
  if kind = .ack then
    (system.setSubscription handle
      (subscription.covAcknowledged nowMs)).setSession id
        { system.sessions id with inFlightSubscription := none }
  else if kind ≠ .none ∨
      subscriptionTimedOut runtime.unsignedLongIs64Bit nowMs
        subscription.inFlightStartedAt subscription.options.timeoutMs then
    system.failCovSubscription id handle kind rejectReason nowMs
  else
    system

/-- Poll for the response to a read of a handle. -/
def pollReadResponse
    (system : ClientSystem τ)
    (id : SessionId)
    (handle : SubscriptionId)
    (nowMs : UInt32) : ClientSystem τ :=
  let subscription := system.subscriptions handle
  let (poll, system) := system.onClient fun client =>
    client.pollReadPropertyStatus runtime subscription.inFlightInvokeId
      subscription.request
  if poll.status ≠ .none then
    system.finishSubscriptionPoll callback id handle
      (.ofPoll poll subscription.arrayIndex) nowMs
  else if subscriptionTimedOut runtime.unsignedLongIs64Bit nowMs
      subscription.inFlightStartedAt subscription.options.timeoutMs then
    system.finishSubscriptionPoll callback id handle .timeout nowMs
  else
    system

def pollInFlightSubscription
    (system : ClientSystem τ)
    (id : SessionId)
    (nowMs : UInt32) : ClientSystem τ :=
  match (system.sessions id).inFlightSubscription with
  | none => system
  | some handle =>
      let subscription := system.subscriptions handle
      if !subscription.active then
        (system.setSubscription handle
          subscription.clearInFlightState).setSession id
            { system.sessions id with inFlightSubscription := none }
      else if subscription.inFlightOperation = .subscribeCov then
        system.pollCovResponse runtime id handle nowMs
      else
        system.pollReadResponse runtime callback id handle nowMs

/--
`takeCovNotification`: the first waiting notification for a handle, or else
whatever the client has next.  One for another handle waits at the session.
-/
def takeCovNotification
    (system : ClientSystem τ)
    (id : SessionId)
    (handle : SubscriptionId) :
    Option BacnetCovNotification × ClientSystem τ :=
  let session := system.sessions id
  let isWanted := fun notification : BacnetCovNotification =>
    decide (notification.IsFor session.endpoint
      (system.subscriptions handle))
  match session.pendingCovNotifications.takeMatching isWanted with
  | some (notification, rest) =>
      (some notification,
        system.setSession id { session with pendingCovNotifications := rest })
  | none =>
      match system.onClient fun client =>
          client.pollCovNotification runtime false with
      | (none, system) => (none, system)
      | (some notification, system) =>
          if isWanted notification then
            (some notification, system)
          else
            (none, system.setSession id
              ((system.sessions id).queueCovNotification notification))

/-- Acknowledge a notification taken for a handle, if it asks for that. -/
def acknowledgeTaken
    (system : ClientSystem τ)
    (id : SessionId)
    (handle : SubscriptionId)
    (notification : BacnetCovNotification) : Bool × ClientSystem τ :=
  if notification.confirmed then
    let (accepted, acknowledged) := system.onClient fun client =>
      client.acknowledgeCovNotification runtime notification
    (accepted, acknowledged.record
      (.acknowledged handle (system.subscriptions handle)
        (system.sessions id).endpoint notification accepted))
  else
    (true, system)

/-- Give a notification to a handle. -/
def deliverCovNotification
    (system : ClientSystem τ)
    (id : SessionId)
    (handle : SubscriptionId)
    (notification : BacnetCovNotification)
    (nowMs : UInt32) : ClientSystem τ :=
  let finished :=
    (system.record
      (.delivered id handle notification)).finishSubscriptionPoll
      callback id handle
      (.ofNotification (system.subscriptions handle) notification) nowMs
  finished.setSubscription handle
    { finished.subscriptions handle with covActive := true }

/--
The notification part of a poll, and whether the poll goes on.  A
notification that could not be acknowledged waits again.
-/
def pollCovNotification
    (system : ClientSystem τ)
    (id : SessionId)
    (handle : SubscriptionId)
    (nowMs : UInt32) : Bool × ClientSystem τ :=
  if (system.subscriptions handle).covActive then
    match system.takeCovNotification runtime id handle with
    | (none, system) => (true, system)
    | (some notification, system) =>
        match system.acknowledgeTaken runtime id handle notification with
        | (false, system) =>
            (false, system.setSession id
              ((system.sessions id).queueCovNotification notification))
        | (true, system) =>
            (true, system.deliverCovNotification callback id handle
              notification nowMs)
  else
    (true, system)

/-- A poll of a session is noted and its pending request is looked at. -/
def beginPoll
    (system : ClientSystem τ)
    (id : SessionId)
    (nowMs : UInt32) : ClientSystem τ :=
  (system.setSession id
    { system.sessions id with lastCovPollMs := nowMs }
    ).pollInFlightSubscription runtime callback id nowMs

/-- `poll` of a single handle at a given time. -/
def pollSingleAt
    (system : ClientSystem τ)
    (id : SessionId)
    (handle : SubscriptionId)
    (nowMs : UInt32) : ClientSystem τ :=
  if (system.subscriptions handle).session ≠ some id then
    system
  else
    let system := system.beginPoll runtime callback id nowMs
    if (system.sessions id).inFlightSubscription.isSome then
      system
    else
      match system.pollCovNotification runtime callback id handle nowMs with
      | (false, system) => system
      | (true, system) =>
          system.startSubscriptionWork runtime callback id handle nowMs

/-- `poll` of a single handle. -/
def pollSingle
    (system : ClientSystem τ)
    (id : SessionId)
    (handle : SubscriptionId)
    (nowMs : UInt32) : ClientSystem τ :=
  let (nowMs, system) := system.resolveNow runtime nowMs
  system.pollSingleAt runtime callback id handle nowMs

/-- The handles of an array in the order a poll looks at them. -/
def pollOrder
    (start : Nat)
    (handles : List SubscriptionId) : List (Nat × SubscriptionId) :=
  (List.range handles.length).filterMap fun step =>
    let index := (start + step) % handles.length
    handles[index]?.map (index, ·)

/-- `poll` of an array of handles at a given time. -/
def pollArrayAt
    (system : ClientSystem τ)
    (id : SessionId)
    (handles : List SubscriptionId)
    (nowMs : UInt32) : ClientSystem τ :=
  let system := system.beginPoll runtime callback id nowMs
  let session := system.sessions id
  if session.inFlightSubscription.isSome ||
      session.inFlightPropertyRead.isSome || handles.isEmpty then
    system
  else
    let start :=
      if handles.length ≤ session.roundRobinSubscriptionIndex then 0
      else session.roundRobinSubscriptionIndex
    let restarted := system.setSession id
      { session with roundRobinSubscriptionIndex := start }
    match
      (pollOrder start handles).find? fun (_, handle) =>
        decide ((restarted.subscriptions handle).session = some id) &&
          (restarted.subscriptions handle).isDue nowMs with
    | none => restarted
    | some (index, handle) =>
        (restarted.setSession id
          { session with
            roundRobinSubscriptionIndex := (index + 1) % handles.length }
          ).startSubscriptionWork runtime callback id handle nowMs

/-- `poll` of an array of handles. -/
def pollArray
    (system : ClientSystem τ)
    (id : SessionId)
    (handles : List SubscriptionId)
    (nowMs : UInt32) : ClientSystem τ :=
  let (nowMs, system) := system.resolveNow runtime nowMs
  system.pollArrayAt runtime callback id handles nowMs

/-- `stop` of a handle. -/
def stopSubscription
    (system : ClientSystem τ)
    (handle : SubscriptionId) : ClientSystem τ :=
  let subscription := system.subscriptions handle
  if subscription.active then
    let released :=
      match subscription.session with
      | some id => system.releaseSlot id handle
      | none => system
    released.setSubscription handle subscription.stopped
  else
    system

def requestRefresh
    (system : ClientSystem τ)
    (handle : SubscriptionId) : ClientSystem τ :=
  let subscription := system.subscriptions handle
  if subscription.active then
    system.setSubscription handle
      { subscription with refreshRequested := true }
  else
    system

/-- `releaseSubscription`, made by the session of a handle. -/
def releaseSubscription
    (system : ClientSystem τ)
    (handle : SubscriptionId) : ClientSystem τ :=
  let subscription := system.subscriptions handle
  match subscription.session with
  | none => system
  | some id =>
      (system.releaseSlot id handle).setSubscription handle
        subscription.clearInFlightState

/-- `moveFrom`: the session of a waiting handle follows it. -/
def moveFrom
    (system : ClientSystem τ)
    (handle other : SubscriptionId) : ClientSystem τ :=
  let subscription := system.subscriptions other
  let moved :=
    (system.setSubscription handle subscription).setSubscription other
      subscription.movedFrom
  match subscription.session with
  | none => moved
  | some id =>
      if (system.sessions id).inFlightSubscription = some other then
        moved.setSession id
          { system.sessions id with inFlightSubscription := some handle }
      else
        moved

/-- Move assignment; the handle that is overwritten is released first. -/
def moveAssign
    (system : ClientSystem τ)
    (handle other : SubscriptionId) : ClientSystem τ :=
  if handle = other then
    system
  else
    (system.releaseSubscription handle).moveFrom handle other

/-- The destructor; nothing is left of the handle. -/
def destroySubscription
    (system : ClientSystem τ)
    (handle : SubscriptionId) : ClientSystem τ :=
  (system.releaseSubscription handle).setSubscription handle {}

end ClientSystem

end BacnetStack
