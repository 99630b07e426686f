import BacnetStack.ProtocolRequestDecode

namespace BacnetStack

/-!
# Writing packets

A writer appends to the octets written so far and stops as soon as one of the
size checks of the source fails; what had been written by then stays in the
state.  Sizes are computed with the 32-bit `size_t` of the target, so a
difference that would be negative becomes a huge capacity, as in the source.
-/

/-- A packet builder over the octets written so far. -/
abbrev PacketWriter (α : Type) : Type :=
  OptionT (StateM (List UInt8)) α

/-- `size_t` subtraction. -/
def sizeSub (left right : Nat) : Nat :=
  (left + 2 ^ 32 - right) % 2 ^ 32

namespace PacketWriter

/-- Return 0 from the builder. -/
def fail {α : Type} : PacketWriter α :=
  failure

/-- Continue only when a size check of the source holds. -/
def require (holds : Bool) : PacketWriter Unit :=
  if holds then pure () else fail

/-- Current write offset. -/
def offset : PacketWriter Nat := do
  return (← get).length

/-- `buffer[offset++] = …` for each octet. -/
def put (octets : List UInt8) : PacketWriter Unit :=
  modify (· ++ octets)

/-- Store the final length in the BACnet/IP header. -/
def storeLength : PacketWriter Unit :=
  modify fun octets =>
    (octets.set 2 (UInt8.ofNat (octets.length / 256))).set 3
      (UInt8.ofNat octets.length)

/-- The packet a builder produces; `none` stands for the returned size 0. -/
def build (writer : PacketWriter Unit) : Option (List UInt8) :=
  match (writer.run).run [] with
  | (some (), octets) => some octets
  | (none, _) => none

section

variable {α β : Type}

/-- The outcome of a writer and everything written by then. -/
def exec
    (writer : PacketWriter α)
    (written : List UInt8) : Option α × List UInt8 :=
  (writer.run).run written

/-- The second part of a sequence runs when the first one succeeded. -/
theorem exec_bind
    (writer : PacketWriter α)
    (continuation : α → PacketWriter β)
    (written : List UInt8) :
    exec (writer >>= continuation) written =
      match exec writer written with
      | (some value, octets) => exec (continuation value) octets
      | (none, octets) => (none, octets) := by
  unfold exec
  rw [OptionT.run_bind, Option.elimM, StateT.run_bind]
  rcases (writer.run).run written with ⟨_ | value, octets⟩ <;> rfl

@[simp] theorem exec_pure
    (value : α)
    (written : List UInt8) :
    exec (pure value) written = (some value, written) :=
  rfl

@[simp] theorem exec_put
    (octets written : List UInt8) :
    exec (put octets) written = (some (), written ++ octets) :=
  rfl

@[simp] theorem exec_offset
    (written : List UInt8) :
    exec offset written = (some written.length, written) :=
  rfl

@[simp] theorem exec_require
    (holds : Bool)
    (written : List UInt8) :
    exec (require holds) written =
      (if holds then some () else none, written) := by
  cases holds <;> rfl

@[simp] theorem exec_storeLength
    (written : List UInt8) :
    exec storeLength written =
      (some (),
        (written.set 2 (UInt8.ofNat (written.length / 256))).set 3
          (UInt8.ofNat written.length)) :=
  rfl

/-- A packet is what a successful writer wrote. -/
theorem build_eq
    (writer : PacketWriter Unit) :
    build writer =
      match exec writer [] with
      | (some (), octets) => some octets
      | (none, _) => none :=
  rfl

end

end PacketWriter

open PacketWriter

/-- The lowest `length` octets of a number, most significant first. -/
def bigEndianOctets
    (value : UInt32)
    (length : Nat) : List UInt8 :=
  (List.range length).map fun index =>
    (value >>> UInt32.ofNat ((length - index - 1) * 8)).toUInt8

/-- `encodeObjectId` -/
def encodeObjectId (object : BacnetObjectId) : UInt32 :=
  (object.type.toUInt32 <<< 22) ||| (object.instance_ &&& kObjectInstanceMask)

/-- `writeContextUnsigned`; three-octet numbers are not used here. -/
def contextUnsigned
    (tagNumber : UInt8)
    (value : UInt32) : List UInt8 :=
  if value ≤ 0xFF then
    ((tagNumber <<< 4) ||| 0x09) :: bigEndianOctets value 1
  else if value ≤ 0xFFFF then
    ((tagNumber <<< 4) ||| 0x0A) :: bigEndianOctets value 2
  else
    ((tagNumber <<< 4) ||| 0x0C) :: bigEndianOctets value 4

/-- `writeContextObjectIdentifier` -/
def contextObjectIdentifier
    (tagNumber : UInt8)
    (object : BacnetObjectId) : List UInt8 :=
  ((tagNumber <<< 4) ||| 0x0C) :: bigEndianOctets (encodeObjectId object) 4

/-- Octets an unsigned number needs. -/
def unsignedLength (raw : UInt32) : Nat :=
  if raw ≤ 0xFF then 1
  else if raw ≤ 0xFFFF then 2
  else if raw ≤ 0xFFFFFF then 3
  else 4

/-- Octets a signed number needs. -/
def signedLength (raw : Int32) : Nat :=
  if -128 ≤ raw ∧ raw ≤ 127 then 1
  else if -32768 ≤ raw ∧ raw ≤ 32767 then 2
  else if -8388608 ≤ raw ∧ raw ≤ 8388607 then 3
  else 4

/-- A tag octet with the payload length, and the payload. -/
def taggedNumber
    (bufferSize : Nat)
    (tag : UInt8)
    (raw : UInt32)
    (length : Nat) : Option (List UInt8) :=
  if bufferSize < length + 1 then
    none
  else
    some (((tag <<< 4) ||| UInt8.ofNat length) ::
      bigEndianOctets raw length)

/-- One octet of an encoded bit string, first bit most significant. -/
def packedOctet
    (value : UInt32)
    (count octet : Nat) : UInt8 :=
  (List.range 8).foldl
    (fun packed bit =>
      if octet * 8 + bit < count ∧ value.toNat.testBit (octet * 8 + bit) then
        packed ||| (0x80 >>> UInt8.ofNat bit)
      else
        packed)
    0

/-- The octets of an application value, or `none` where it cannot be encoded. -/
def encodeApplicationValue
    (bufferSize : Nat)
    (value : BacnetValue) : Option (List UInt8) :=
  if bufferSize = 0 then
    none
  else
    match value.type with
    | .null => some [0x00]
    | .boolean => some [0x10 ||| (if value.booleanValue then 1 else 0)]
    | .unsigned =>
        taggedNumber bufferSize 2 value.unsignedValue
          (unsignedLength value.unsignedValue)
    | .signed =>
        taggedNumber bufferSize 3 value.signedValue.toUInt32
          (signedLength value.signedValue)
    | .enumerated =>
        taggedNumber bufferSize 9 value.unsignedValue
          (unsignedLength value.unsignedValue)
    | .bitString =>
        let bitCount := value.bitStringBitCount.toNat
        let byteCount := (bitCount + 7) / 8
        let payloadLength := byteCount + 1
        if bitCount = 0 ∨ 32 < bitCount then
          none
        else if bufferSize < payloadLength + 1 ∨ 4 < payloadLength then
          none
        else
          some ((0x80 ||| UInt8.ofNat payloadLength) ::
            UInt8.ofNat (byteCount * 8 - bitCount) ::
            (List.range byteCount).map
              (packedOctet value.bitStringValue bitCount))
    | .real =>
        taggedNumber bufferSize 4 value.realValue.bits 4
    | .characterString =>
        let payloadLength := value.text.length + 1
        let headerLength := if payloadLength ≤ 4 then 1 else 2
        if kMaxTextLength ≤ value.text.length ∨ 253 < value.text.length then
          none
        else if bufferSize < headerLength + payloadLength then
          none
        else if payloadLength ≤ 4 then
          some ((0x70 ||| UInt8.ofNat payloadLength) :: 0 :: value.text)
        else
          some (0x75 :: UInt8.ofNat payloadLength :: 0 :: value.text)
    | .objectIdentifier =>
        if 1023 < value.objectValue.type ∨
            kObjectInstanceMask < value.objectValue.instance_ then
          none
        else
          taggedNumber bufferSize 12 (encodeObjectId value.objectValue) 4
    | _ => none

/-- `encodeApplicationValue` into the rest of the buffer. -/
def putApplicationValue
    (bufferSize : Nat)
    (value : BacnetValue) : PacketWriter Unit := do
  match encodeApplicationValue bufferSize value with
  | some octets => put octets
  | none => fail

/-- An enumerated number, as the error replies use it. -/
def enumeratedValue (raw : UInt32) : BacnetValue :=
  { type := .enumerated, unsignedValue := raw }

/-- An unsigned number, as the list replies use it for their length. -/
def unsignedValue (raw : UInt32) : BacnetValue :=
  { type := .unsigned, unsignedValue := raw }

@[simp] theorem exec_putApplicationValue
    (bufferSize : Nat)
    (value : BacnetValue)
    (written : List UInt8) :
    exec (putApplicationValue bufferSize value) written =
      match encodeApplicationValue bufferSize value with
      | some octets => (some (), written ++ octets)
      | none => (none, written) := by
  unfold putApplicationValue
  cases encodeApplicationValue bufferSize value <;> rfl

/-- A small enumerated number takes a tag and one octet. -/
theorem encodeApplicationValue_enumerated
    {bufferSize : Nat}
    {raw : UInt32}
    (room : 2 ≤ bufferSize)
    (small : raw ≤ 0xFF) :
    encodeApplicationValue bufferSize (enumeratedValue raw) =
      some [0x91, raw.toUInt8] := by
  have notEmpty : bufferSize ≠ 0 := by omega
  have enough : ¬bufferSize < 1 + 1 := by omega
  have tag : ((9 : UInt8) <<< 4) ||| UInt8.ofNat 1 = 0x91 := by decide
  simp only [encodeApplicationValue, enumeratedValue, notEmpty,
    unsignedLength, small, taggedNumber, enough, ↓reduceIte, tag]
  simp [bigEndianOctets]

/-- The BACnet/IP and network headers; the length is stored at the end. -/
def putHeaders (npduControl : UInt8) : PacketWriter Unit :=
  put [kBvlcTypeBacnetIp, kBvlcOriginalUnicastNpdu, 0, 0,
    kNpduVersion, npduControl]

def buildSimpleAckResponse
    (bufferSize : Nat)
    (invokeId serviceChoice : UInt8) : Option (List UInt8) :=
  if bufferSize < 9 then
    none
  else
    some [kBvlcTypeBacnetIp, kBvlcOriginalUnicastNpdu, 0, 9,
      kNpduVersion, 0, kApduSimpleAck, invokeId, serviceChoice]

/-- The octets of a simple acknowledgement. -/
def simpleAckPacket (invokeId serviceChoice : UInt8) : List UInt8 :=
  [kBvlcTypeBacnetIp, kBvlcOriginalUnicastNpdu, 0, 9, kNpduVersion, 0,
    kApduSimpleAck, invokeId, serviceChoice]

/-- A simple acknowledgement always fits into a server's buffer. -/
theorem buildSimpleAckResponse_eq
    (invokeId serviceChoice : UInt8) :
    buildSimpleAckResponse 1476 invokeId serviceChoice =
      some (simpleAckPacket invokeId serviceChoice) :=
  if_neg (by decide)

def buildWritePropertyAck
    (bufferSize : Nat)
    (invokeId : UInt8) : Option (List UInt8) :=
  buildSimpleAckResponse bufferSize invokeId kServiceWriteProperty

def buildRejectResponse
    (bufferSize : Nat)
    (invokeId reason : UInt8) : Option (List UInt8) :=
  if bufferSize < 9 then
    none
  else
    some [kBvlcTypeBacnetIp, kBvlcOriginalUnicastNpdu, 0, 9,
      kNpduVersion, 0, kApduReject, invokeId, reason]

/-- The octets of an error reply. -/
def writeServiceErrorResponse
    (bufferSize : Nat)
    (invokeId serviceChoice : UInt8)
    (errorClass errorCode : UInt32) : PacketWriter Unit := do
  require (decide (13 ≤ bufferSize))
  putHeaders 0
  put [kApduError, invokeId, serviceChoice]
  putApplicationValue
    (sizeSub bufferSize (← offset)) (enumeratedValue errorClass)
  putApplicationValue
    (sizeSub bufferSize (← offset)) (enumeratedValue errorCode)
  storeLength

def buildServiceErrorResponse
    (bufferSize : Nat)
    (invokeId serviceChoice : UInt8)
    (errorClass errorCode : UInt32) : Option (List UInt8) :=
  build (writeServiceErrorResponse bufferSize invokeId serviceChoice
    errorClass errorCode)

/-- The octets of an error reply with a small class and code. -/
def serviceErrorPacket
    (invokeId serviceChoice : UInt8)
    (errorClass errorCode : UInt32) : List UInt8 :=
  [kBvlcTypeBacnetIp, kBvlcOriginalUnicastNpdu, 0, 13, kNpduVersion, 0,
    kApduError, invokeId, serviceChoice,
    0x91, errorClass.toUInt8, 0x91, errorCode.toUInt8]

/-- An error reply always fits into a server's buffer. -/
theorem buildServiceErrorResponse_eq
    {errorClass errorCode : UInt32}
    (smallClass : errorClass ≤ 0xFF)
    (smallCode : errorCode ≤ 0xFF)
    (invokeId serviceChoice : UInt8) :
    buildServiceErrorResponse 1476 invokeId serviceChoice
        errorClass errorCode =
      some (serviceErrorPacket invokeId serviceChoice
        errorClass errorCode) := by
  have classValue :
      encodeApplicationValue (sizeSub 1476 9)
          (enumeratedValue errorClass) =
        some [0x91, errorClass.toUInt8] :=
    encodeApplicationValue_enumerated (by decide) smallClass
  have codeValue :
      encodeApplicationValue (sizeSub 1476 11)
          (enumeratedValue errorCode) =
        some [0x91, errorCode.toUInt8] :=
    encodeApplicationValue_enumerated (by decide) smallCode
  simp [buildServiceErrorResponse, writeServiceErrorResponse, build_eq,
    exec_bind, putHeaders, classValue, codeValue, serviceErrorPacket]

def buildReadPropertyError
    (bufferSize : Nat)
    (invokeId : UInt8)
    (errorClass errorCode : UInt32) : Option (List UInt8) :=
  buildServiceErrorResponse
    bufferSize invokeId kServiceReadProperty errorClass errorCode

def buildWritePropertyError
    (bufferSize : Nat)
    (invokeId : UInt8)
    (errorClass errorCode : UInt32) : Option (List UInt8) :=
  buildServiceErrorResponse
    bufferSize invokeId kServiceWriteProperty errorClass errorCode

/-- The octets of an announcement; the size is checked once, in front. -/
def writeIAmResponse
    (bufferSize : Nat)
    (device : BacnetIAmDeviceInfo) : PacketWriter Unit := do
  let segmentation := device.segmentationSupported.toUInt32
  let vendorId := device.vendorId.toUInt32
  require (decide
    (13 + (unsignedLength device.maxApduLengthAccepted + 1) +
      (unsignedLength segmentation + 1) +
      (unsignedLength vendorId + 1) ≤ bufferSize) &&
    decide (device.deviceInstance ≤ kObjectInstanceMask))
  putHeaders 0
  put [kApduUnconfirmedRequest, kServiceIAm, 0xC4]
  put (bigEndianOctets (((8 : UInt32) <<< 22) ||| device.deviceInstance) 4)
  put ((0x20 ||| UInt8.ofNat (unsignedLength device.maxApduLengthAccepted)) ::
    bigEndianOctets device.maxApduLengthAccepted
      (unsignedLength device.maxApduLengthAccepted))
  put ((0x90 ||| UInt8.ofNat (unsignedLength segmentation)) ::
    bigEndianOctets segmentation (unsignedLength segmentation))
  put ((0x20 ||| UInt8.ofNat (unsignedLength vendorId)) ::
    bigEndianOctets vendorId (unsignedLength vendorId))
  storeLength

def buildIAmResponse
    (bufferSize : Nat)
    (device : BacnetIAmDeviceInfo) : Option (List UInt8) :=
  build (writeIAmResponse bufferSize device)

/-- Everything in front of the opening tag of the value. -/
def writeReadPropertyAckPrefix
    (bufferSize : Nat)
    (request : BacnetReadPropertyRequestHeader) : PacketWriter Unit := do
  require (decide (16 ≤ bufferSize) &&
    decide (request.request.object.type ≤ 1023) &&
    decide (request.request.object.instance_ ≤ kObjectInstanceMask))
  putHeaders 0
  put [kApduComplexAck, request.invokeId, kServiceReadProperty]
  put (contextObjectIdentifier 0 request.request.object)
  put (contextUnsigned 1 request.request.property.raw)
  if request.request.arrayIndex ≠ kBacnetNoArrayIndex then
    put (contextUnsigned 2 request.request.arrayIndex)

/-- `finishReadPropertyAck`, with the closing tag in front of it. -/
def finishReadPropertyAck (bufferSize : Nat) : PacketWriter Unit := do
  require (decide ((← offset) < bufferSize))
  put [0x3F]
  require (decide ((← offset) ≤ 0xFFFF))
  storeLength

/-- One more value of an acknowledgement, leaving room for the closing tag. -/
def appendAckValue
    (bufferSize : Nat)
    (value : BacnetValue) : PacketWriter Unit := do
  putApplicationValue
    (sizeSub (sizeSub bufferSize (← offset)) 1) value

/-- Append the entries with the given indices. -/
def appendAckEntries
    (bufferSize : Nat)
    (valueAt : Nat → Option BacnetValue) : List Nat → PacketWriter Unit
  | [] => pure ()
  | index :: rest => do
      match valueAt index with
      | some value =>
          appendAckValue bufferSize value
          appendAckEntries bufferSize valueAt rest
      | none => fail

/--
An array property: index 0 is its length, any other index one entry, no
index the whole array.
-/
def writeReadPropertyArrayAck
    (bufferSize : Nat)
    (request : BacnetReadPropertyRequestHeader)
    (entryCount : Nat)
    (valueAt : Nat → Option BacnetValue) : PacketWriter Unit := do
  require (entryCount != 0)
  writeReadPropertyAckPrefix bufferSize request
  require (decide ((← offset) + 2 ≤ bufferSize))
  put [0x3E]
  let arrayIndex := request.request.arrayIndex
  if arrayIndex = kBacnetNoArrayIndex then
    appendAckEntries bufferSize valueAt (List.range entryCount)
  else if arrayIndex = 0 then
    appendAckValue bufferSize (unsignedValue (UInt32.ofNat entryCount))
  else
    require (decide ((arrayIndex - 1).toNat < entryCount))
    appendAckEntries bufferSize valueAt [(arrayIndex - 1).toNat]
  finishReadPropertyAck bufferSize

def buildReadPropertyArrayAck
    (bufferSize : Nat)
    (request : BacnetReadPropertyRequestHeader)
    (entryCount : Nat)
    (valueAt : Nat → Option BacnetValue) : Option (List UInt8) :=
  build (writeReadPropertyArrayAck bufferSize request entryCount valueAt)

def buildReadPropertyPriorityArrayAck
    (bufferSize : Nat)
    (request : BacnetReadPropertyRequestHeader)
    (slotCount : Nat)
    (valueAt : Nat → Option BacnetValue) : Option (List UInt8) :=
  if request.request.property ≠ .priorityArray then
    none
  else
    buildReadPropertyArrayAck bufferSize request slotCount valueAt

def buildReadPropertyCharacterStringListAck
    (bufferSize : Nat)
    (request : BacnetReadPropertyRequestHeader)
    (strings : List (Option (List UInt8)))
    (stringCount : Nat) : Option (List UInt8) :=
  if request.request.property ≠ .stateText then
    none
  else
    buildReadPropertyArrayAck bufferSize request stringCount fun index =>
      match strings[index]?.join with
      | none => none
      | some text =>
          if kMaxTextLength ≤ text.length then
            none
          else
            some { type := .characterString, text := text }

def buildReadPropertyObjectListAck
    (bufferSize : Nat)
    (request : BacnetReadPropertyRequestHeader)
    (objectCount : Nat)
    (objectAt : Nat → Option BacnetObjectId) : Option (List UInt8) :=
  buildReadPropertyArrayAck bufferSize request objectCount fun index =>
    (objectAt index).map fun object =>
      { type := .objectIdentifier, objectValue := object }

def buildReadPropertyPropertyListAck
    (bufferSize : Nat)
    (request : BacnetReadPropertyRequestHeader)
    (propertyCount : Nat)
    (propertyAt : Nat → Option BacnetPropertyId) : Option (List UInt8) :=
  buildReadPropertyArrayAck bufferSize request propertyCount fun index =>
    (propertyAt index).map fun property => enumeratedValue property.raw

/-- The octets of an empty list. -/
def writeReadPropertyEmptyListAck
    (bufferSize : Nat)
    (request : BacnetReadPropertyRequestHeader) : PacketWriter Unit := do
  require (request.request.arrayIndex == kBacnetNoArrayIndex)
  writeReadPropertyAckPrefix bufferSize request
  require (decide ((← offset) + 2 ≤ bufferSize))
  put [0x3E, 0x3F]
  require (decide ((← offset) ≤ 0xFFFF))
  storeLength

def buildReadPropertyEmptyListAck
    (bufferSize : Nat)
    (request : BacnetReadPropertyRequestHeader) : Option (List UInt8) :=
  build (writeReadPropertyEmptyListAck bufferSize request)

/-- The octets of an acknowledgement that carries a single value. -/
def writeReadPropertyAck
    (bufferSize : Nat)
    (request : BacnetReadPropertyRequestHeader)
    (value : BacnetValue) : PacketWriter Unit := do
  require (decide (20 ≤ bufferSize))
  writeReadPropertyAckPrefix bufferSize request
  require (decide ((← offset) + 2 ≤ bufferSize))
  put [0x3E]
  appendAckValue bufferSize value
  require (decide ((← offset) + 1 ≤ bufferSize))
  put [0x3F]
  storeLength

/-- The acknowledgement that carries a single value. -/
def buildReadPropertyAck
    (bufferSize : Nat)
    (request : BacnetReadPropertyRequestHeader)
    (value : BacnetValue) : Option (List UInt8) :=
  build (writeReadPropertyAck bufferSize request value)

/-- One property value of a notification with its size checks. -/
def putCovPropertyValue
    (bufferSize : Nat)
    (propertyValue : BacnetCovPropertyValue) : PacketWriter Unit := do
  require (decide (8 ≤ sizeSub bufferSize (← offset)))
  put (contextUnsigned 0 propertyValue.property.raw)
  if propertyValue.arrayIndex ≠ kBacnetNoArrayIndex then
    require (decide (6 ≤ sizeSub bufferSize (← offset)))
    put (contextUnsigned 1 propertyValue.arrayIndex)
  put [0x2E]
  putApplicationValue
    (sizeSub (sizeSub bufferSize (← offset)) 2) propertyValue.value
  put [0x2F]

/-- All property values of a notification. -/
def putCovPropertyValues
    (bufferSize : Nat) : List BacnetCovPropertyValue → PacketWriter Unit
  | [] => pure ()
  | propertyValue :: rest => do
      putCovPropertyValue bufferSize propertyValue
      putCovPropertyValues bufferSize rest

/-- The octets of a notification. -/
def writeCovNotification
    (bufferSize : Nat)
    (processId : UInt32)
    (initiatingDevice monitoredObject : BacnetObjectId)
    (timeRemainingSeconds : UInt32)
    (values : List BacnetCovPropertyValue)
    (confirmed : Bool)
    (invokeId : UInt8) : PacketWriter Unit := do
  require (!values.isEmpty &&
    decide (initiatingDevice.instance_ ≤ kObjectInstanceMask) &&
    decide (monitoredObject.instance_ ≤ kObjectInstanceMask) &&
    decide (32 ≤ bufferSize))
  putHeaders (if confirmed then kNpduExpectingReply else 0)
  if confirmed then
    put [kApduConfirmedRequest, 0x05, invokeId,
      kServiceConfirmedCovNotification]
  else
    put [kApduUnconfirmedRequest, kServiceUnconfirmedCovNotification]
  require (decide (20 ≤ sizeSub bufferSize (← offset)))
  put (contextUnsigned 0 processId)
  put (contextObjectIdentifier 1 initiatingDevice)
  put (contextObjectIdentifier 2 monitoredObject)
  put (contextUnsigned 3 timeRemainingSeconds)
  put [0x4E]
  putCovPropertyValues bufferSize values
  require (decide ((← offset) + 1 ≤ bufferSize))
  put [0x4F]
  storeLength

def buildCovNotification
    (bufferSize : Nat)
    (processId : UInt32)
    (initiatingDevice monitoredObject : BacnetObjectId)
    (timeRemainingSeconds : UInt32)
    (values : List BacnetCovPropertyValue)
    (confirmed : Bool)
    (invokeId : UInt8) : Option (List UInt8) :=
  build (writeCovNotification bufferSize processId initiatingDevice
    monitoredObject timeRemainingSeconds values confirmed invokeId)

end BacnetStack
