import BacnetStack.ProtocolWriter

namespace BacnetStack

/-!
# Building requests

The client side of the codec.  The subscription requests are built with
invoke id 0, which the client replaces before it sends them.
-/

open PacketWriter

/-- `contextUnsignedSize` -/
def contextUnsignedSize (value : UInt32) : Nat :=
  if value ≤ 0xFF then 2
  else if value ≤ 0xFFFF then 3
  else 5

/-- `writeContextBoolean` -/
def contextBoolean
    (tagNumber : UInt8)
    (value : Bool) : List UInt8 :=
  [(tagNumber <<< 4) ||| 0x09, if value then 1 else 0]

/-- `writeContextReal` -/
def contextReal
    (tagNumber : UInt8)
    (value : Binary32) : List UInt8 :=
  ((tagNumber <<< 4) ||| 0x0C) :: bigEndianOctets value.bits 4

/-- Headers of a confirmed request. -/
def putConfirmedRequest (invokeId service : UInt8) : PacketWriter Unit := do
  putHeaders kNpduExpectingReply
  put [kApduConfirmedRequest, 0x05, invokeId, service]

def buildWhoIsRequest (bufferSize : Nat) : Option (List UInt8) :=
  if bufferSize < 8 then
    none
  else
    some [kBvlcTypeBacnetIp, kBvlcOriginalBroadcastNpdu, 0, 8,
      kNpduVersion, 0, kApduUnconfirmedRequest, kServiceWhoIs]

/-- The octets of a read request. -/
def writeReadPropertyRequest
    (bufferSize : Nat)
    (request : BacnetPropertyRequest)
    (invokeId : UInt8) : PacketWriter Unit := do
  require (decide (25 ≤ bufferSize) &&
    decide (request.object.instance_ ≤ kObjectInstanceMask))
  putConfirmedRequest invokeId kServiceReadProperty
  put (contextObjectIdentifier 0 request.object)
  put (contextUnsigned 1 request.property.raw)
  if request.arrayIndex ≠ kBacnetNoArrayIndex then
    put (contextUnsigned 2 request.arrayIndex)
  storeLength

def buildReadPropertyRequest
    (bufferSize : Nat)
    (request : BacnetPropertyRequest)
    (invokeId : UInt8) : Option (List UInt8) :=
  build (writeReadPropertyRequest bufferSize request invokeId)

/--
A priority of 0 is not encoded, and refused for Present_Value.
-/
def writeWritePropertyRequest
    (bufferSize : Nat)
    (object : BacnetObjectId)
    (property : BacnetPropertyId)
    (value : BacnetValue)
    (options : BacnetWritePropertyOptions)
    (invokeId : UInt8) : PacketWriter Unit := do
  require (decide (24 ≤ bufferSize) &&
    decide (object.type ≤ 1023) &&
    decide (object.instance_ ≤ kObjectInstanceMask) &&
    !(options.hasPriority && decide (16 < options.priority)) &&
    !(options.hasPriority && options.priority == 0 &&
      property == .presentValue))
  putConfirmedRequest invokeId kServiceWriteProperty
  put (contextObjectIdentifier 0 object)
  put (contextUnsigned 1 property.raw)
  if options.arrayIndex ≠ kBacnetNoArrayIndex then
    put (contextUnsigned 2 options.arrayIndex)
  require (decide ((← offset) + 2 ≤ bufferSize))
  put [0x3E]
  putApplicationValue (sizeSub (sizeSub bufferSize (← offset)) 1) value
  require (decide ((← offset) + 1 ≤ bufferSize))
  put [0x3F]
  if options.hasPriority && options.priority != 0 then
    require (decide ((← offset) + 2 ≤ bufferSize))
    put (contextUnsigned 4 options.priority.toUInt32)
  storeLength

def buildWritePropertyRequest
    (bufferSize : Nat)
    (object : BacnetObjectId)
    (property : BacnetPropertyId)
    (value : BacnetValue)
    (options : BacnetWritePropertyOptions)
    (invokeId : UInt8) : Option (List UInt8) :=
  build (writeWritePropertyRequest bufferSize object property value options
    invokeId)

/-- The octets of a subscription to an object. -/
def writeSubscribeCovRequest
    (bufferSize : Nat)
    (processId : UInt32)
    (object : BacnetObjectId)
    (lifetimeSeconds : UInt32)
    (issueConfirmedNotifications : Bool) : PacketWriter Unit := do
  require (decide
    (10 + contextUnsignedSize processId + 5 + 2 +
      contextUnsignedSize lifetimeSeconds ≤ bufferSize) &&
    decide (object.instance_ ≤ kObjectInstanceMask))
  putConfirmedRequest 0 kServiceSubscribeCov
  put (contextUnsigned 0 processId)
  put (contextObjectIdentifier 1 object)
  put (contextBoolean 2 issueConfirmedNotifications)
  put (contextUnsigned 3 lifetimeSeconds)
  storeLength

def buildSubscribeCovRequest
    (bufferSize : Nat)
    (processId : UInt32)
    (object : BacnetObjectId)
    (lifetimeSeconds : UInt32)
    (issueConfirmedNotifications : Bool) : Option (List UInt8) :=
  build (writeSubscribeCovRequest bufferSize processId object lifetimeSeconds
    issueConfirmedNotifications)

/-- The octets of a subscription to a property. -/
def writeSubscribeCovPropertyRequest
    (bufferSize : Nat)
    (processId : UInt32)
    (object : BacnetObjectId)
    (property : BacnetPropertyId)
    (lifetimeSeconds : UInt32)
    (issueConfirmedNotifications : Bool)
    (arrayIndex : UInt32)
    (hasCovIncrement : Bool)
    (covIncrement : Binary32) : PacketWriter Unit := do
  require (decide
    (10 + contextUnsignedSize processId + 5 + 2 +
      contextUnsignedSize property.raw + 1 + 2 +
      contextUnsignedSize lifetimeSeconds +
      (if arrayIndex = kBacnetNoArrayIndex then 0
        else contextUnsignedSize arrayIndex) +
      (if hasCovIncrement then 5 else 0) ≤ bufferSize) &&
    decide (object.instance_ ≤ kObjectInstanceMask))
  putConfirmedRequest 0 kServiceSubscribeCovProperty
  put (contextUnsigned 0 processId)
  put (contextObjectIdentifier 1 object)
  put [0x2E]
  put (contextUnsigned 0 property.raw)
  if arrayIndex ≠ kBacnetNoArrayIndex then
    put (contextUnsigned 1 arrayIndex)
  put [0x2F]
  put (contextBoolean 3 issueConfirmedNotifications)
  put (contextUnsigned 4 lifetimeSeconds)
  if hasCovIncrement then
    put (contextReal 5 covIncrement)
  storeLength

def buildSubscribeCovPropertyRequest
    (bufferSize : Nat)
    (processId : UInt32)
    (object : BacnetObjectId)
    (property : BacnetPropertyId)
    (lifetimeSeconds : UInt32)
    (issueConfirmedNotifications : Bool)
    (arrayIndex : UInt32)
    (hasCovIncrement : Bool)
    (covIncrement : Binary32) : Option (List UInt8) :=
  build (writeSubscribeCovPropertyRequest bufferSize processId object property
    lifetimeSeconds issueConfirmedNotifications arrayIndex hasCovIncrement
    covIncrement)

end BacnetStack
