import BacnetStack.ProtocolValueDecode

namespace BacnetStack

/-!
# Decoding requests

The server side of the codec: Who-Is, the fixed part of a confirmed request,
the three services behind it and the replies to a confirmed notification.
Each decoder checks the whole packet again from its first octet, as the
source does.
-/

open Reader

/-- The first octet of a confirmed request. -/
abbrev kApduConfirmedRequest : UInt8 := 0x00
/-- The first octet of an unconfirmed request. -/
abbrev kApduUnconfirmedRequest : UInt8 := 0x10
/-- The first octet of an acknowledgement without content. -/
abbrev kApduSimpleAck : UInt8 := 0x20
/-- The first octet of an acknowledgement with content. -/
abbrev kApduComplexAck : UInt8 := 0x30
/-- The first octet of an Error. -/
abbrev kApduError : UInt8 := 0x50
/-- The first octet of a Reject. -/
abbrev kApduReject : UInt8 := 0x60
/-- The first octet of an Abort. -/
abbrev kApduAbort : UInt8 := 0x70
abbrev kServiceIAm : UInt8 := 0x00
abbrev kServiceConfirmedCovNotification : UInt8 := 0x01
abbrev kServiceUnconfirmedCovNotification : UInt8 := 0x02
/-- The service that subscribes to an object. -/
abbrev kServiceSubscribeCov : UInt8 := 0x05
abbrev kServiceWhoIs : UInt8 := 0x08
abbrev kServiceReadProperty : UInt8 := 0x0C
abbrev kServiceWriteProperty : UInt8 := 0x0F
/-- The service that subscribes to a property. -/
abbrev kServiceSubscribeCovProperty : UInt8 := 0x1C

/-- Every octet of the packet has been consumed. -/
def Reader.atEnd : Reader Unit := do
  require !(← hasMore)

/-- A Who-Is, with both limits of its range or none. -/
def whoIsReader : Reader BacnetWhoIsRequest := do
  readBvlcHeader 8 true
  readNpduHeader
  require (decide (2 ≤ (← remaining)))
  expect kApduUnconfirmedRequest
  expect kServiceWhoIs
  if ← hasMore then
    let lowDeviceInstance ← readContextValue 0
    let highDeviceInstance ← readContextValue 1
    atEnd
    require (decide (lowDeviceInstance ≤ highDeviceInstance) &&
      decide (highDeviceInstance ≤ kObjectInstanceMask))
    return {
      hasDeviceInstanceRange := true
      lowDeviceInstance := lowDeviceInstance
      highDeviceInstance := highDeviceInstance
    }
  else
    return {}

/-- `parseWhoIsRequest` -/
def parseWhoIsRequest (packet : List UInt8) : Option BacnetWhoIsRequest :=
  parse? whoIsReader packet

/-- Outcome of looking for a confirmed service. -/
inductive ParseStatus (α : Type) where
  | unrelated
  | malformed
  | parsed (request : α)
  deriving Repr, DecidableEq, Inhabited

/--
Run a decoder that may also find that the packet is of another kind.  Any
failed check makes the packet malformed.
-/
def parseStatus {α : Type}
    (reader : Reader (Option α))
    (packet : List UInt8) : ParseStatus α :=
  match reader.run packet with
  | .ok (some request, _) => .parsed request
  | .ok (none, _) => .unrelated
  | .error _ => .malformed

/-- The header of a confirmed request; another kind of APDU is unrelated. -/
def confirmedRequestHeaderReader :
    Reader (Option BacnetConfirmedRequestHeader) := do
  readBvlcHeader 4 false
  readNpduHeader
  require (← hasMore)
  if (← peek) &&& 0xF0 != kApduConfirmedRequest then
    return none
  require (decide (4 ≤ (← remaining)))
  skip 2
  let invokeId ← next
  let serviceChoice ← next
  return some {
    invokeId := invokeId
    serviceChoice := serviceChoice
    body := ← get
  }

/-- `parseConfirmedRequestHeader` -/
def parseConfirmedRequestHeader
    (packet : List UInt8) : ParseStatus BacnetConfirmedRequestHeader :=
  parseStatus confirmedRequestHeaderReader packet

/--
The common start of the three services: the packet is a confirmed request
for an accepted service choice, and its body is decoded by `body`.
-/
def parseConfirmedService {α : Type}
    (services : List UInt8)
    (body : BacnetConfirmedRequestHeader → Reader α)
    (packet : List UInt8) : ParseStatus α :=
  match parseConfirmedRequestHeader packet with
  | .malformed => .malformed
  | .unrelated => .unrelated
  | .parsed confirmed =>
      if confirmed.serviceChoice ∈ services then
        match parse? (body confirmed) confirmed.body with
        | some request => .parsed request
        | none => .malformed
      else
        .unrelated

/-- Object identifier and property identifier of a property reference. -/
def readObjectAndProperty : Reader (BacnetObjectId × BacnetPropertyId) := do
  let objectIdentifier ← readContextValue 0
  let propertyIdentifier ← readContextValue 1
  require (decide (objectIdentifier >>> 22 ≤ 1023))
  return (decodeObjectId objectIdentifier, ⟨propertyIdentifier⟩)

/-- What follows the header of a ReadProperty request. -/
def readPropertyRequestBody
    (confirmed : BacnetConfirmedRequestHeader) :
    Reader BacnetReadPropertyRequestHeader := do
  let (object, property) ← readObjectAndProperty
  let arrayIndex ←
    if ← hasMore then readContextValue 2 else pure kBacnetNoArrayIndex
  atEnd
  return {
    invokeId := confirmed.invokeId
    request := {
      object := object
      property := property
      arrayIndex := arrayIndex
    }
  }

/-- `parseReadPropertyRequest` -/
def parseReadPropertyRequest
    (packet : List UInt8) : ParseStatus BacnetReadPropertyRequestHeader :=
  parseConfirmedService
    [kServiceReadProperty] readPropertyRequestBody packet

/-- An optional context-tagged number, read only when its tag is next. -/
def readOptionalContextValue
    (expectedTag : UInt8)
    (absent : UInt32) : Reader UInt32 := do
  if ← atContextTag expectedTag then
    readContextValue expectedTag
  else
    return absent

/-- What follows the header of a WriteProperty request. -/
def writePropertyRequestBody
    (confirmed : BacnetConfirmedRequestHeader) :
    Reader BacnetWritePropertyRequestHeader := do
  let (object, property) ← readObjectAndProperty
  let arrayIndex ← readOptionalContextValue 2 kBacnetNoArrayIndex
  expect 0x3E
  let value ← parseReadPropertyApplicationValue property arrayIndex
  expect 0x3F
  let hasPriority ← hasMore
  let priority ←
    if hasPriority then readContextValue 4 else pure 0
  require (decide (priority ≤ 0xFF))
  atEnd
  return {
    invokeId := confirmed.invokeId
    request := {
      object := object
      property := property
      arrayIndex := arrayIndex
    }
    value := value
    hasPriority := hasPriority
    priority := priority.toUInt8
  }

/-- `parseWritePropertyRequest` -/
def parseWritePropertyRequest
    (packet : List UInt8) : ParseStatus BacnetWritePropertyRequestHeader :=
  parseConfirmedService
    [kServiceWriteProperty] writePropertyRequestBody packet

/-- The bracketed property reference of the property form. -/
def readSubscribedProperty : Reader (BacnetPropertyId × UInt32) := do
  expect 0x2E
  let property ← readContextValue 0
  let arrayIndex ← readOptionalContextValue 1 kBacnetNoArrayIndex
  expect 0x2F
  return (⟨property⟩, arrayIndex)

/--
Both forms, told apart by the service choice; the property form shifts the
tags of the later fields by one and may carry an increment.
-/
def subscribeCovRequestBody
    (confirmed : BacnetConfirmedRequestHeader) :
    Reader BacnetSubscribeCovRequestHeader := do
  let processId ← readContextValue 0
  let objectIdentifier ← readContextValue 1
  require (decide (objectIdentifier >>> 22 ≤ 1023))
  let isPropertySubscription :=
    confirmed.serviceChoice == kServiceSubscribeCovProperty
  let (property, arrayIndex) ←
    if isPropertySubscription then
      readSubscribedProperty
    else
      pure (.presentValue, kBacnetNoArrayIndex)
  let issueConfirmed ←
    readOptionalContextValue (if isPropertySubscription then 3 else 2) 0
  require (decide (issueConfirmed ≤ 1))
  let lifetimeSeconds ←
    readOptionalContextValue (if isPropertySubscription then 4 else 3) 0
  let hasCovIncrement ←
    if isPropertySubscription then atContextTag 5 else pure false
  let covIncrement ←
    if hasCovIncrement then readContextReal 5 else pure .zero
  require !(Binary32.flt covIncrement .zero)
  atEnd
  return {
    invokeId := confirmed.invokeId
    processId := processId
    object := decodeObjectId objectIdentifier
    isPropertySubscription := isPropertySubscription
    property := property
    arrayIndex := arrayIndex
    issueConfirmedNotifications := issueConfirmed != 0
    lifetimeSeconds := lifetimeSeconds
    hasCovIncrement := hasCovIncrement
    covIncrement := covIncrement
  }

/-- `parseSubscribeCovRequest`, for both services. -/
def parseSubscribeCovRequest
    (packet : List UInt8) : ParseStatus BacnetSubscribeCovRequestHeader :=
  parseConfirmedService
    [kServiceSubscribeCov, kServiceSubscribeCovProperty]
    subscribeCovRequestBody packet

/-- The answer of a subscriber to a confirmed notification. -/
def confirmedCovNotificationResponseReader
    (expectedInvokeId : UInt8) :
    Reader BacnetSubscribeCovResponseKind := do
  readBvlcHeader 8 false
  readNpduHeader
  require (decide (2 ≤ (← remaining)))
  let apduType := (← next) &&& 0xF0
  require ((← next) == expectedInvokeId)
  let answersNotification ←
    if ← hasMore then
      pure ((← peek) == kServiceConfirmedCovNotification)
    else
      pure false
  if apduType = kApduSimpleAck ∧ answersNotification then
    return .ack
  else if apduType = kApduError ∧ answersNotification then
    return .error
  else if apduType = kApduReject then
    return .reject
  else if apduType = kApduAbort then
    return .abort
  else
    return .none

/-- `classifyConfirmedCovNotificationResponse` -/
def classifyConfirmedCovNotificationResponse
    (packet : List UInt8)
    (expectedInvokeId : UInt8) : BacnetSubscribeCovResponseKind :=
  (parse?
    (confirmedCovNotificationResponseReader expectedInvokeId)
    packet).getD .none

end BacnetStack
