import BacnetStack.ServerWriteProperty
import BacnetStack.WrappingClock

namespace BacnetStack

/-!
# COV subscriptions

Reading, comparing, storing and sending the values of a subscription, the
scan over the table that an idle poll makes, and the subscribe request.  The
scan is written as a decision per slot and a loop that stops at the first
slot with something to send.
-/

open WrappingClock

namespace ServerObjects

variable (objects : ServerObjects)

/-- Only the kinds a subscription can monitor are read, and no array index. -/
def readCovValue
    (object : BacnetObjectId)
    (property : BacnetPropertyId)
    (arrayIndex : UInt32) : Option BacnetValue :=
  if arrayIndex ≠ kBacnetNoArrayIndex then
    none
  else if object.type = BacnetObjectType.analogValue then
    match objects.findAnalogValue object.instance_ with
    | some value => objects.readAnalogValueProperty value property
    | none => do
        objects.readCommandableAnalogValueProperty
          (← objects.findCommandableAnalogValue object.instance_) property
  else if object.type = BacnetObjectType.analogOutput then do
    objects.readAnalogOutputProperty
      (← objects.findAnalogOutput object.instance_) property
  else if object.type = BacnetObjectType.analogInput then do
    objects.readAnalogInputProperty
      (← objects.findAnalogInput object.instance_) property
  else if object.type = BacnetObjectType.binaryInput then do
    objects.readBinaryInputProperty
      (← objects.findBinaryInput object.instance_) property
  else if object.type = BacnetObjectType.binaryOutput then do
    objects.readBinaryOutputProperty
      (← objects.findBinaryOutput object.instance_) property
  else if object.type = BacnetObjectType.binaryValue then do
    objects.readBinaryValueProperty
      (← objects.findBinaryValue object.instance_) property
  else
    none

end ServerObjects

namespace BacnetServerCovSubscription

/--
What a subscription reports: one property, or Present_Value with
Status_Flags.
-/
def reported
    (subscription : BacnetServerCovSubscription) :
    List (BacnetPropertyId × UInt32) :=
  if subscription.isPropertySubscription then
    [(subscription.property, subscription.arrayIndex)]
  else
    [(.presentValue, kBacnetNoArrayIndex),
      (.statusFlags, kBacnetNoArrayIndex)]

end BacnetServerCovSubscription

/-- Read every reported property; any unreadable one fails the whole. -/
def collectCovValues
    (objects : ServerObjects)
    (subscription : BacnetServerCovSubscription) :
    Option (List BacnetCovPropertyValue) :=
  subscription.reported.mapM fun (property, arrayIndex) => do
    let value ←
      objects.readCovValue subscription.object property arrayIndex
    return ⟨property, arrayIndex, value⟩

/-- The fields of a value that are kept. -/
def snapshotOf (value : BacnetValue) : CovSnapshot :=
  { valid := true
    type := value.type
    boolean := value.booleanValue
    unsigned := value.unsignedValue
    real := value.realValue
    bitString := value.bitStringValue
    bitCount := value.bitStringBitCount }

/-- Whether a Real changed, by the increment for the first value only. -/
def covRealChanged
    (subscription : BacnetServerCovSubscription)
    (index : Nat)
    (stored current : Binary32) : Bool :=
  if Binary32.feq stored current then
    false
  else if !subscription.hasCovIncrement || index != 0 then
    true
  else
    let difference := current.sub stored
    let magnitude :=
      if Binary32.flt difference .zero then difference.neg else difference
    Binary32.fle subscription.covIncrement magnitude

/-- The comparison of one value with its snapshot. -/
def covValueChanged
    (subscription : BacnetServerCovSubscription)
    (index : Nat)
    (snapshot : CovSnapshot)
    (value : BacnetValue) : Bool :=
  if !snapshot.valid || snapshot.type != value.type then
    true
  else
    match value.type with
    | .boolean => snapshot.boolean != value.booleanValue
    | .real =>
        covRealChanged subscription index snapshot.real value.realValue
    | .bitString =>
        snapshot.bitString != value.bitStringValue ||
          snapshot.bitCount != value.bitStringBitCount
    | .unsigned => snapshot.unsigned != value.unsignedValue
    | .enumerated => snapshot.unsigned != value.unsignedValue
    | _ => true

/-- `covValuesChanged`: some reported value differs from its snapshot. -/
def covValuesChanged
    (slot : CovSlot)
    (values : List BacnetCovPropertyValue) : Bool :=
  values.isEmpty || decide (kCovObjectPropertyCount < values.length) ||
    (List.finRange kCovObjectPropertyCount).any fun index =>
      match values[index.val]? with
      | some reported =>
          covValueChanged slot.subscription index.val
            (slot.snapshots index) reported.value
      | none => false

/-- `storeCovValues` -/
def storeCovValues
    (slot : CovSlot)
    (values : List BacnetCovPropertyValue) : CovSlot :=
  { slot with
    snapshots := fun index =>
      match values[index.val]? with
      | some reported => snapshotOf reported.value
      | none => slot.snapshots index }

/-- The value a retransmission makes of a snapshot. -/
def snapshotValue (snapshot : CovSnapshot) : BacnetValue :=
  { type := snapshot.type
    booleanValue := snapshot.boolean
    unsignedValue := snapshot.unsigned
    realValue := snapshot.real
    bitStringValue := snapshot.bitString
    bitStringBitCount := snapshot.bitCount }

/-- The values of a retransmission, rebuilt from the snapshots. -/
def retryValues (slot : CovSlot) : List BacnetCovPropertyValue :=
  slot.subscription.reported.zipIdx.map
    fun ((property, arrayIndex), index) =>
      { property := property
        arrayIndex := arrayIndex
        value :=
          snapshotValue
            (if index = 0 then slot.snapshots 0 else slot.snapshots 1) }

namespace CovSlot

/--
Drop the subscription on a cancellation and at `begin` and `end`; the send
backoff stays behind.
-/
def drop (slot : CovSlot) : CovSlot :=
  { slot with
    subscription := {}
    snapshots := fun index => { slot.snapshots index with valid := false }
    confirmedRetryCount := 0 }

/-- An expired slot loses its send backoff as well. -/
def expire (slot : CovSlot) : CovSlot :=
  { slot.drop with
    sendRetryCount := 0
    retryAtMs := 0 }

end CovSlot

/-- Largest delay before a failed notification is tried again. -/
def kMaxCovRetryDelayMs : Nat :=
  2 ^ 31 - 2

/-- A failed send delays the next attempt of the slot. -/
def failedSend
    (device : BacnetServerDevice)
    (now : UInt32)
    (slot : CovSlot) : CovSlot :=
  let sendRetryCount :=
    if slot.sendRetryCount.toUInt32 < device.numberOfApduRetries then
      slot.sendRetryCount + 1
    else
      slot.sendRetryCount
  let retryDelayMs :=
    if device.apduTimeout ≠ 0 then device.apduTimeout else 1000
  let retryMultiplier :=
    if sendRetryCount ≠ 0 then sendRetryCount.toNat else 1
  let boundedRetryDelayMs :=
    min (retryDelayMs.toNat * retryMultiplier) kMaxCovRetryDelayMs
  let retryAtMs := now + UInt32.ofNat boundedRetryDelayMs
  { slot with
    sendRetryCount := sendRetryCount
    -- Zero means that no attempt is pending.
    retryAtMs := if retryAtMs = 0 then 1 else retryAtMs }

/-- A successful send stores what was sent. -/
def completedSend
    (now : UInt32)
    (invokeId : UInt8)
    (values : List BacnetCovPropertyValue)
    (slot : CovSlot) : CovSlot :=
  storeCovValues
    { slot with
      sendRetryCount := 0
      retryAtMs := 0
      subscription :=
        { slot.subscription with
          lastSentMs := now
          pendingInvokeId := invokeId
          state :=
            if slot.subscription.confirmed then
              .awaitingConfirmedAck
            else
              .active } }
    values

/-- What the scan does with one slot. -/
inductive SlotVisit where
  | next (slot : CovSlot)
  | send
      (slot : CovSlot)
      (values : List BacnetCovPropertyValue)
      (isRetransmission : Bool)

/-- A positive lifetime has run out on a server with a clock. -/
def lifetimeOver
    (hasClock : Bool)
    (now : UInt32)
    (subscription : BacnetServerCovSubscription) : Bool :=
  subscription.lifetimeSeconds != 0 && hasClock &&
    reached now subscription.expiresAtMs

/-- A failed send has to be waited out. -/
def backoffPending
    (now : UInt32)
    (slot : CovSlot) : Bool :=
  slot.retryAtMs != 0 && !reached now slot.retryAtMs

/-- The time for an acknowledgement has passed. -/
def acknowledgementOverdue
    (device : BacnetServerDevice)
    (hasClock : Bool)
    (now : UInt32)
    (subscription : BacnetServerCovSubscription) : Bool :=
  hasClock && decide (device.apduTimeout ≤ now - subscription.lastSentMs)

/-- No further retransmission is allowed. -/
def retriesExhausted
    (device : BacnetServerDevice)
    (slot : CovSlot) : Bool :=
  decide (device.numberOfApduRetries ≤ slot.confirmedRetryCount.toUInt32)

/-- Stop waiting for an acknowledgement. -/
def CovSlot.giveUp (slot : CovSlot) : CovSlot :=
  { slot with
    subscription := { slot.subscription with state := .active }
    confirmedRetryCount := 0 }

/--
One round of the scan loop.  The branches follow the source: a free slot, an
expired one, one in send backoff, one that awaits an acknowledgement, and an
active one.
-/
def visitSlot
    (objects : ServerObjects)
    (device : BacnetServerDevice)
    (hasClock : Bool)
    (now : UInt32)
    (slot : CovSlot) : SlotVisit :=
  if slot.subscription.state = .inactive then
    .next slot
  else if lifetimeOver hasClock now slot.subscription then
    .next slot.expire
  else if backoffPending now slot then
    .next slot
  else if slot.subscription.state = .awaitingConfirmedAck then
    if acknowledgementOverdue device hasClock now slot.subscription then
      if retriesExhausted device slot then
        .next slot.giveUp
      else
        .send
          { slot with
            confirmedRetryCount := slot.confirmedRetryCount + 1 }
          (retryValues slot) true
    else
      .next slot
  else
    match collectCovValues objects slot.subscription with
    | none => .next slot
    | some values =>
        if covValuesChanged slot values then
          .send { slot with confirmedRetryCount := 0 } values false
        else
          .next slot

namespace BacnetServer

variable (server : BacnetServer)

/-- Seconds until a subscription expires, rounded up. -/
def timeRemaining
    (subscription : BacnetServerCovSubscription)
    (now : UInt32) : UInt32 :=
  if subscription.lifetimeSeconds = 0 ∨ !server.hasClock then
    0
  else
    (subscription.expiresAtMs - now + 999) / 1000

/-- Invoke ids are drawn for confirmed notifications and skip 0. -/
def drawInvokeId (confirmed : Bool) : UInt8 :=
  if confirmed then server.nextCovInvokeId else 0

/-- The counter after a draw. -/
def advancedInvokeId (confirmed : Bool) : UInt8 :=
  let next :=
    if confirmed then
      server.nextCovInvokeId + 1
    else
      server.nextCovInvokeId
  if next = 0 then 1 else next

/-- The packet of a notification. -/
def covNotificationPacket
    (subscription : BacnetServerCovSubscription)
    (values : List BacnetCovPropertyValue)
    (now : UInt32) : Option (List UInt8) :=
  buildCovNotification kMaxDatagramSize subscription.processId
    server.deviceObject subscription.object
    (server.timeRemaining subscription now) values
    subscription.confirmed (server.drawInvokeId subscription.confirmed)

/-- The packet could be built and the transport took it. -/
def delivers
    (sendSucceeds : Bool)
    (now : UInt32)
    (subscription : BacnetServerCovSubscription)
    (values : List BacnetCovPropertyValue) : Bool :=
  (server.covNotificationPacket subscription values now).isSome &&
    sendSucceeds

/-- The slot after a send. -/
def sentSlot
    (sendSucceeds : Bool)
    (now : UInt32)
    (slot : CovSlot)
    (values : List BacnetCovPropertyValue) : CovSlot :=
  if server.delivers sendSucceeds now slot.subscription values then
    completedSend now (server.drawInvokeId slot.subscription.confirmed)
      values slot
  else
    failedSend server.device now slot

/-- `sendCovNotification`, with the poll result made of its outcome. -/
def sendCovNotification
    (sendSucceeds : Bool)
    (now : UInt32)
    (index : CovIndex)
    (slot : CovSlot)
    (values : List BacnetCovPropertyValue)
    (isRetransmission : Bool) : PollOutput :=
  let subscription := slot.subscription
  let delivered := server.delivers sendSucceeds now subscription values
  { server :=
      { server.setSlot index
          (server.sentSlot sendSucceeds now slot values) with
        nextCovInvokeId := server.advancedInvokeId subscription.confirmed }
    result := if delivered then .covNotificationSent else .sendFailed
    datagram :=
      (server.covNotificationPacket subscription values now).map
        fun packet => ⟨subscription.peer, packet⟩
    transmission :=
      some {
        index := index
        values := values
        invokeId := server.drawInvokeId subscription.confirmed
        isRetransmission := isRetransmission
        delivered := delivered } }

/-- What the scan would do with a slot of this server. -/
def visit
    (now : UInt32)
    (index : CovIndex) : SlotVisit :=
  visitSlot server.objects server.device server.hasClock now
    (server.covSlots index)

/-- The scan loop over the given slots. -/
def scanSlots
    (sendSucceeds : Bool)
    (now : UInt32) :
    List CovIndex → BacnetServer → PollOutput
  | [], server => { server := server, result := .noDatagram }
  | index :: rest, server =>
      match server.visit now index with
      | .next slot => scanSlots sendSucceeds now rest (server.setSlot index slot)
      | .send slot values isRetransmission =>
          server.sendCovNotification sendSucceeds now index slot values
            isRetransmission

def processCovSubscriptions (input : PollInput) : PollOutput :=
  scanSlots input.sendSucceeds (server.nowMs input.clockMs)
    (List.finRange kMaxCovSubscriptions) server

end BacnetServer

/-- The tuple that identifies a subscription. -/
structure CovTuple where
  peer : BacnetIpEndpoint
  processId : UInt32
  object : BacnetObjectId
  isPropertySubscription : Bool
  property : BacnetPropertyId
  arrayIndex : UInt32
  deriving Repr, DecidableEq

def BacnetServerCovSubscription.tuple
    (subscription : BacnetServerCovSubscription) : CovTuple :=
  { peer := subscription.peer
    processId := subscription.processId
    object := subscription.object
    isPropertySubscription := subscription.isPropertySubscription
    property := subscription.property
    arrayIndex := subscription.arrayIndex }

namespace BacnetSubscribeCovRequestHeader

variable (request : BacnetSubscribeCovRequestHeader)

/-- The object form always monitors Present_Value. -/
def monitoredProperty : BacnetPropertyId :=
  if request.isPropertySubscription then
    request.property
  else
    .presentValue

def tuple (source : BacnetIpEndpoint) : CovTuple :=
  { peer := source
    processId := request.processId
    object := request.object
    isPropertySubscription := request.isPropertySubscription
    property := request.monitoredProperty
    arrayIndex := request.arrayIndex }

def serviceChoice : UInt8 :=
  if request.isPropertySubscription then
    kServiceSubscribeCovProperty
  else
    kServiceSubscribeCov

/-- The checks in front of the table; `none` when the request passes. -/
def refusal
    (objects : ServerObjects) : Option BacnetError :=
  match objects.readCovValue request.object request.monitoredProperty
      request.arrayIndex with
  | none => some unknownPropertyError
  | some presentValue =>
      let currentValue :=
        if request.isPropertySubscription then
          some presentValue
        else
          objects.readCovValue request.object .statusFlags
            kBacnetNoArrayIndex
      match currentValue with
      | none => some unknownPropertyError
      | some currentValue =>
          if request.hasCovIncrement ∧
              (!request.isPropertySubscription ∨
                request.monitoredProperty ≠ .presentValue ∨
                currentValue.type ≠ .real) then
            some valueOutOfRangeError
          else
            none

end BacnetSubscribeCovRequestHeader

/-- A freshly activated slot; whatever the slot held before is discarded. -/
def activatedSlot
    (source : BacnetIpEndpoint)
    (request : BacnetSubscribeCovRequestHeader)
    (expiresAtMs : UInt32)
    (slot : CovSlot) : CovSlot :=
  { slot with
    subscription := {
      state := .active
      peer := source
      processId := request.processId
      object := request.object
      property := request.monitoredProperty
      arrayIndex := request.arrayIndex
      isPropertySubscription := request.isPropertySubscription
      hasCovIncrement := request.hasCovIncrement
      covIncrement := request.covIncrement
      confirmed := request.issueConfirmedNotifications
      lifetimeSeconds := request.lifetimeSeconds
      expiresAtMs := expiresAtMs }
    snapshots := fun index => { slot.snapshots index with valid := false }
    confirmedRetryCount := 0
    sendRetryCount := 0
    retryAtMs := 0 }

namespace BacnetServer

variable (server : BacnetServer)

/-- The slot in use for a tuple. -/
def matchedSlot? (tuple : CovTuple) : Option CovIndex :=
  (List.finRange kMaxCovSubscriptions).find? fun index =>
    let subscription := (server.covSlots index).subscription
    subscription.state != .inactive && subscription.tuple == tuple

/-- The first slot not in use. -/
def freeSlot? : Option CovIndex :=
  (List.finRange kMaxCovSubscriptions).find? fun index =>
    (server.covSlots index).subscription.state == .inactive

/-- The deadline of a subscription accepted now. -/
def expiryDeadline
    (input : PollInput)
    (lifetimeSeconds : UInt32) : UInt32 :=
  if server.hasClock then
    input.clockMs + lifetimeSeconds * 1000
  else
    0

/-- Answer a subscribe request with an error. -/
def refuseSubscribe
    (input : PollInput)
    (request : BacnetSubscribeCovRequestHeader)
    (error : BacnetError) : PollOutput :=
  sendReply server input
    (buildServiceErrorResponse kMaxDatagramSize request.invokeId
      request.serviceChoice error.1 error.2) .subscribeCovErrorSent

/-- Answer a subscribe request with an acknowledgement. -/
def acknowledgeSubscribe
    (input : PollInput)
    (request : BacnetSubscribeCovRequestHeader) : PollOutput :=
  sendReply server input
    (buildSimpleAckResponse kMaxDatagramSize request.invokeId
      request.serviceChoice) .subscribeCovAckSent

def handleSubscribeCov
    (input : PollInput)
    (request : BacnetSubscribeCovRequestHeader) : PollOutput :=
  match request.refusal server.objects with
  | some error => server.refuseSubscribe input request error
  | none =>
      let matched := server.matchedSlot? (request.tuple input.source)
      if request.lifetimeSeconds = 0 then
        match matched with
        | some index =>
            (server.setSlot index
              (server.covSlots index).drop).acknowledgeSubscribe
              input request
        | none => server.acknowledgeSubscribe input request
      else
        match matched.or server.freeSlot? with
        | some index =>
            { (server.setSlot index
                (activatedSlot input.source request
                  (server.expiryDeadline input request.lifetimeSeconds)
                  (server.covSlots index))).acknowledgeSubscribe
                input request with
              activated := some index }
        | none => server.refuseSubscribe input request noSpaceError

end BacnetServer

end BacnetStack
