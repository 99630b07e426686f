import BacnetStack.ProtocolRequestDecode
import BacnetStack.ProtocolWriter

namespace BacnetStack

/-!
# Decoding responses

The client side of the codec: how a datagram relates to an awaited invoke id,
the contents of a ReadProperty acknowledgement or error, and I-Am.  A packet
names the invoke id it answers but not the endpoint it comes from, so nothing
here looks at the sender.
-/

open Reader

/-- The kinds of response to a confirmed request. -/
inductive ConfirmedResponseKind where
  | ack
  | error
  | reject
  | abort
  deriving Repr, DecidableEq, Inhabited

/--
The kind of a response to `expectedInvokeId`.  Acknowledgements and errors
also name the service they answer, rejects and aborts do not.
-/
def confirmedResponseReader
    (ackType service expectedInvokeId : UInt8) :
    Reader ConfirmedResponseKind := do
  readBvlcHeader 8 true
  readNpduHeader
  let apduType := (← checkedNext) &&& 0xF0
  if apduType = ackType ∨ apduType = kApduError then
    require (decide (2 ≤ (← remaining)))
    require ((← next) == expectedInvokeId)
    require ((← next) == service)
    return if apduType = ackType then .ack else .error
  else
    require (apduType == kApduReject || apduType == kApduAbort)
    require ((← checkedNext) == expectedInvokeId)
    return if apduType = kApduReject then .reject else .abort

def classifyReadPropertyResponse
    (packet : List UInt8)
    (expectedInvokeId : UInt8) : BacnetReadPropertyResponseKind :=
  match
    parse?
      (confirmedResponseReader
        kApduComplexAck kServiceReadProperty expectedInvokeId)
      packet with
  | some .ack => .ack
  | some .error => .error
  | some .reject => .reject
  | some .abort => .abort
  | none => .unrelated

def classifyWritePropertyResponse
    (packet : List UInt8)
    (expectedInvokeId : UInt8) : BacnetWritePropertyResponseKind :=
  match
    parse?
      (confirmedResponseReader
        kApduSimpleAck kServiceWriteProperty expectedInvokeId)
      packet with
  | some .ack => .ack
  | some .error => .error
  | some .reject => .reject
  | some .abort => .abort
  | none => .unrelated

/-- Kind of the answer to a subscription, with the reason of a reject. -/
def subscribeCovResponseReader
    (expectedInvokeId expectedServiceChoice : UInt8) :
    Reader (BacnetSubscribeCovResponseKind × UInt8) := do
  readBvlcHeader 8 false
  readNpduHeader
  require (decide (2 ≤ (← remaining)))
  let apduType := (← next) &&& 0xF0
  require ((← next) == expectedInvokeId)
  let third := (← get).head?
  if apduType = kApduSimpleAck ∧ third = some expectedServiceChoice then
    return (.ack, 0xFF)
  else if apduType = kApduError ∧ third = some expectedServiceChoice then
    return (.error, 0xFF)
  else if apduType = kApduReject then
    return (.reject, third.getD 0xFF)
  else if apduType = kApduAbort then
    return (.abort, 0xFF)
  else
    return (.none, 0xFF)

def classifySubscribeCovResponse
    (packet : List UInt8)
    (expectedInvokeId expectedServiceChoice : UInt8) :
    BacnetSubscribeCovResponseKind × UInt8 :=
  (parse?
    (subscribeCovResponseReader expectedInvokeId expectedServiceChoice)
    packet).getD (.none, 0xFF)

/-- A simple acknowledgement of one invoke id and service, and nothing else. -/
def simpleAckReader
    (expectedInvokeId expectedServiceChoice : UInt8) : Reader Unit := do
  readBvlcHeader 9 false
  readNpduHeader
  require ((← remaining) == 3)
  require ((← next) &&& 0xF0 == kApduSimpleAck)
  require ((← next) == expectedInvokeId)
  require ((← next) == expectedServiceChoice)

def isSimpleAck
    (packet : List UInt8)
    (expectedInvokeId expectedServiceChoice : UInt8) : Bool :=
  (parse?
    (simpleAckReader expectedInvokeId expectedServiceChoice)
    packet).isSome

/-- A complex acknowledgement of the expected ReadProperty request. -/
def readPropertyAckHeader
    (expectedInvokeId : UInt8) : Reader Unit := do
  readBvlcHeader 17 false
  readNpduHeader
  require (decide (3 ≤ (← remaining)))
  require ((← next) &&& 0xF0 == kApduComplexAck)
  require ((← next) == expectedInvokeId)
  require ((← next) == kServiceReadProperty)

/-- The array index of a response, where one was asked for or is present. -/
def readResponseArrayIndex
    (expectedArrayIndex : UInt32) : Reader UInt32 := do
  if ← atContextTag 2 then
    let responseArrayIndex ← readContextValue 2
    require (expectedArrayIndex == kBacnetNoArrayIndex ||
      responseArrayIndex == expectedArrayIndex)
    return responseArrayIndex
  else
    require (expectedArrayIndex == kBacnetNoArrayIndex)
    return kBacnetNoArrayIndex

/-- The acknowledged property reference, which must be the requested one. -/
def readAcknowledgedProperty
    (expectedRequest : BacnetPropertyRequest) : Reader Unit := do
  let objectIdentifier ← readContextValue 0
  require (objectIdentifier == encodeObjectId expectedRequest.object)
  let propertyIdentifier ← readContextValue 1
  require (propertyIdentifier == expectedRequest.property.raw)

/-- The value of an acknowledgement, up to the closing tag. -/
def readPropertyAckReader
    (expectedInvokeId : UInt8)
    (expectedRequest : BacnetPropertyRequest) : Reader BacnetValue := do
  readPropertyAckHeader expectedInvokeId
  readAcknowledgedProperty expectedRequest
  let responseArrayIndex ←
    readResponseArrayIndex expectedRequest.arrayIndex
  expect 0x3E
  parseReadPropertyApplicationValue
    expectedRequest.property responseArrayIndex

/--
Whether an acknowledgement was accepted, with the value it leaves: a value
whose closing tag is missing stays in place, any other failure leaves it
empty.
-/
def parseReadPropertyAck
    (packet : List UInt8)
    (expectedInvokeId : UInt8)
    (expectedRequest : BacnetPropertyRequest) : Bool × BacnetValue :=
  match
    (readPropertyAckReader expectedInvokeId expectedRequest).run packet with
  | .ok (value, rest) => (rest.head? == some 0x3F, value)
  | .error _ => (false, {})

/--
The acknowledgement of a property of any object, up to the closing tag: this
form compares neither the object nor the array index.
-/
def readPropertyAckReaderOf
    (expectedInvokeId : UInt8)
    (expectedProperty : BacnetPropertyId) : Reader BacnetValue := do
  readPropertyAckHeader expectedInvokeId
  let _objectIdentifier ← readContextValue 0
  let propertyIdentifier ← readContextValue 1
  require (propertyIdentifier == expectedProperty.raw)
  let responseArrayIndex ← readOptionalContextValue 2 kBacnetNoArrayIndex
  expect 0x3E
  parseReadPropertyApplicationValue expectedProperty responseArrayIndex

/-- The overload of `parseReadPropertyAck` that takes only a property. -/
def parseReadPropertyAckOf
    (packet : List UInt8)
    (expectedInvokeId : UInt8)
    (expectedProperty : BacnetPropertyId) : Bool × BacnetValue :=
  match
    (readPropertyAckReaderOf expectedInvokeId expectedProperty).run
      packet with
  | .ok (value, rest) => (rest.head? == some 0x3F, value)
  | .error _ => (false, {})

/-- Values of a priority array, one after the other. -/
def readPrioritySlots : Nat → Reader (List BacnetValue)
  | 0 => return []
  | slots + 1 => do
      require (← hasMore)
      require ((← peek) != 0x3F)
      let value ←
        parseReadPropertyApplicationValue .priorityArray kBacnetNoArrayIndex
      return value :: (← readPrioritySlots slots)

/-- `parseReadPriorityArrayAck`: all 16 slots of a whole priority array. -/
def parseReadPriorityArrayAck
    (packet : List UInt8)
    (expectedInvokeId : UInt8)
    (expectedRequest : BacnetPropertyRequest) : Option (List BacnetValue) :=
  if expectedRequest.property = .priorityArray ∧
      expectedRequest.arrayIndex = kBacnetNoArrayIndex then
    parse?
      (do
        readPropertyAckHeader expectedInvokeId
        readAcknowledgedProperty expectedRequest
        expect 0x3E
        let slots ← readPrioritySlots 16
        expect 0x3F
        atEnd
        return slots)
      packet
  else
    none

def bacnetErrorClassName (errorClass : UInt32) : List UInt8 :=
  if errorClass = 1 then
    asciiBytes "object"
  else if errorClass = 2 then
    asciiBytes "property"
  else
    asciiBytes "error"

def bacnetErrorCodeName (errorCode : UInt32) : List UInt8 :=
  if errorCode = 26 then
    asciiBytes "optional-functionality-not-supported"
  else if errorCode = 31 then
    asciiBytes "unknown-object"
  else if errorCode = 32 then
    asciiBytes "unknown-property"
  else if errorCode = 42 then
    asciiBytes "invalid-array-index"
  else
    asciiBytes "error"

/-- The text of an error whose class and code were readable. -/
def propertyErrorText
    (errorClass errorCode : UInt32) : Option (List UInt8) := do
  let used ← appendText 64 [] (bacnetErrorCodeName errorCode)
  let used ← appendText 64 used (asciiBytes " (")
  let used ← appendText 64 used (bacnetErrorClassName errorClass)
  let used ← appendText 64 used (asciiBytes "/")
  let used ← appendUnsignedDecimal 64 used errorCode
  appendText 64 used (asciiBytes ")")

/-- A decoded error: its text with the class and code it reports. -/
structure BacnetPropertyError where
  value : BacnetValue := {}
  errorClass : UInt32 := 0
  errorCode : UInt32 := 0
  deriving Repr, DecidableEq, Inhabited

/-- An error response to the expected ReadProperty request. -/
def readPropertyErrorReader
    (expectedInvokeId : UInt8) : Reader Unit := do
  readBvlcHeader 13 false
  readNpduHeader
  require (decide (3 ≤ (← remaining)))
  require ((← next) &&& 0xF0 == kApduError)
  require ((← next) == expectedInvokeId)
  require ((← next) == kServiceReadProperty)

/-- Class and code of an error, both enumerated values. -/
def readErrorClassAndCode : Reader (UInt32 × UInt32) := do
  let errorClass ← readApplicationValue 9
  let errorCode ← readApplicationValue 9
  return (errorClass, errorCode)

/--
An error whose class or code cannot be read is still an error, reported with
class and code 0.
-/
def parseReadPropertyError
    (packet : List UInt8)
    (expectedInvokeId : UInt8) : Option BacnetPropertyError :=
  match (readPropertyErrorReader expectedInvokeId).run packet with
  | .error _ => none
  | .ok (_, body) =>
      match parse? readErrorClassAndCode body with
      | some (errorClass, errorCode) =>
          (propertyErrorText errorClass errorCode).map fun text => {
            value := setTextValue {} .error text
            errorClass := errorClass
            errorCode := errorCode
          }
      | none => some { value := setTextValue {} .error (asciiBytes "error") }

/-- The network header as this decoder walks it, without a hop count check. -/
def readIAmNpduHeader : Reader Unit := do
  expect kNpduVersion
  let npduControl ← checkedNext
  require (npduControl &&& 0x80 == 0)
  if npduControl &&& 0x20 != 0 then
    skipNpduAddress
    skip 1
  if npduControl &&& 0x08 != 0 then
    skipNpduAddress

def iAmReader : Reader BacnetIAmDeviceInfo := do
  readBvlcHeader 14 true
  readIAmNpduHeader
  require (decide (2 ≤ (← remaining)))
  expect kApduUnconfirmedRequest
  expect kServiceIAm
  let objectIdentifier ← readApplicationValue 12
  require (objectIdentifier >>> 22 == BacnetObjectType.device.toUInt32)
  let maxApduLengthAccepted ← readApplicationValue 2
  let segmentationSupported ← readApplicationValue 9
  require (decide (segmentationSupported ≤ 0xFF))
  let vendorId ← readApplicationValue 2
  require (decide (vendorId ≤ 0xFFFF))
  return {
    deviceInstance := objectIdentifier &&& kObjectInstanceMask
    maxApduLengthAccepted := maxApduLengthAccepted
    segmentationSupported := segmentationSupported.toUInt8
    vendorId := vendorId.toUInt16
  }

def parseIAmResponse (packet : List UInt8) : Option BacnetIAmDeviceInfo :=
  parse? iAmReader packet

/-- Number of property values a notification keeps. -/
abbrev kMaxCovNotificationProperties : Nat := 4

/--
A received notification.  The primary value is Present_Value where the
notification reports it and the first reported property otherwise.
-/
structure BacnetCovNotification where
  processId : UInt32 := 0
  object : BacnetObjectId := {}
  property : BacnetPropertyId := .presentValue
  arrayIndex : UInt32 := kBacnetNoArrayIndex
  value : BacnetValue := {}
  properties : List BacnetCovPropertyValue := []
  confirmed : Bool := false
  invokeId : UInt8 := 0
  source : BacnetIpEndpoint := {}
  deriving Repr, DecidableEq, Inhabited

/-- Take one reported value into a notification. -/
def BacnetCovNotification.report
    (notification : BacnetCovNotification)
    (hasValue : Bool)
    (reported : BacnetCovPropertyValue) : BacnetCovNotification :=
  let kept :=
    if notification.properties.length < kMaxCovNotificationProperties then
      { notification with
        properties := notification.properties ++ [reported] }
    else
      notification
  if !hasValue || reported.property == .presentValue then
    { kept with
      property := reported.property
      arrayIndex := reported.arrayIndex
      value := reported.value }
  else
    kept

/-- One entry of the list of values; a priority behind it is skipped. -/
def readCovPropertyValue : Reader BacnetCovPropertyValue := do
  let property : BacnetPropertyId := ⟨← readContextValue 0⟩
  let arrayIndex ←
    if ← atContextTag 1 then
      readContextValue 1
    else
      pure kBacnetNoArrayIndex
  expect 0x2E
  let value ← parseReadPropertyApplicationValue property arrayIndex
  expect 0x2F
  if ← atContextTag 3 then
    if (← peek) &&& 0x07 < 5 then
      let _priority ← readContextValue 3
  return {
    property := property
    arrayIndex := arrayIndex
    value := value
  }

/--
The loop over the list of values up to its closing tag.  Every entry takes
octets, so the packet length bounds the rounds.
-/
def readCovValues :
    Nat → BacnetCovNotification → Bool →
      Reader (BacnetCovNotification × Bool)
  | 0, notification, hasValue => return (notification, hasValue)
  | rounds + 1, notification, hasValue => do
      if ← hasMore then
        if (← peek) != 0x4F then
          let reported ← readCovPropertyValue
          readCovValues rounds (notification.report hasValue reported) true
        else
          return (notification, hasValue)
      else
        return (notification, hasValue)

/-- Service choice and, for the confirmed form, the invoke id. -/
def readCovNotificationService : Reader BacnetCovNotification := do
  let apdu ← checkedNext
  if apdu = kApduUnconfirmedRequest then
    expect kServiceUnconfirmedCovNotification
    return {}
  else
    require (apdu &&& 0xF0 == kApduConfirmedRequest)
    require (decide (2 ≤ (← remaining)))
    skip 1
    let invokeId ← next
    require ((← next) == kServiceConfirmedCovNotification)
    return { confirmed := true, invokeId := invokeId }

def covNotificationReader : Reader BacnetCovNotification := do
  readBvlcHeader 20 true
  readNpduHeader
  let service ← readCovNotificationService
  let processId ← readContextValue 0
  let _initiatingDevice ← readContextValue 1
  let monitoredObject ← readContextValue 2
  let _timeRemaining ← readContextValue 3
  expect 0x4E
  let header := {
    service with
    processId := processId
    object := decodeObjectId monitoredObject
  }
  let (notification, hasValue) ←
    readCovValues (← remaining) header false
  require hasValue
  expect 0x4F
  atEnd
  return notification

def parseCovNotification (packet : List UInt8) : Option BacnetCovNotification :=
  parse? covNotificationReader packet

end BacnetStack
