import BacnetStack.Binary32

namespace BacnetStack

/-!
# Data types of the BACnet stack

The records and enumerations shared by the protocol codec, the client and the
server.  Integers keep the width of the source.  A character string is the
list of its bytes up to `textLength`, so the separate length field of the
source is the length of that list.  Property identifiers and object types
arrive from the network as arbitrary numbers and therefore stay numbers, with
the identifiers the stack knows as named constants.
-/

/-- The notification queues and the snapshots of a slot have two places. -/
instance twoPlaces : NeZero 2 :=
  ⟨by decide⟩

/-- An object type number together with an instance number. -/
structure BacnetObjectId where
  type : UInt16 := 0
  instance_ : UInt32 := 0
  deriving Repr, DecidableEq, Inhabited

namespace BacnetObjectType

abbrev analogInput : UInt16 := 0
abbrev analogOutput : UInt16 := 1
abbrev analogValue : UInt16 := 2
abbrev binaryInput : UInt16 := 3
abbrev binaryOutput : UInt16 := 4
abbrev binaryValue : UInt16 := 5
abbrev device : UInt16 := 8
abbrev multiStateValue : UInt16 := 19

end BacnetObjectType

/-- A property identifier as it is sent on the wire. -/
structure BacnetPropertyId where
  raw : UInt32
  deriving Repr, DecidableEq, Inhabited

namespace BacnetPropertyId

@[match_pattern] abbrev apduTimeout : BacnetPropertyId := ⟨10⟩
@[match_pattern] abbrev applicationSoftwareVersion : BacnetPropertyId := ⟨12⟩
@[match_pattern] abbrev description : BacnetPropertyId := ⟨28⟩
@[match_pattern] abbrev deviceAddressBinding : BacnetPropertyId := ⟨30⟩
@[match_pattern] abbrev eventState : BacnetPropertyId := ⟨36⟩
@[match_pattern] abbrev firmwareRevision : BacnetPropertyId := ⟨44⟩
@[match_pattern] abbrev location : BacnetPropertyId := ⟨58⟩
@[match_pattern] abbrev maxApduLengthAccepted : BacnetPropertyId := ⟨62⟩
@[match_pattern] abbrev maxPresentValue : BacnetPropertyId := ⟨65⟩
@[match_pattern] abbrev minPresentValue : BacnetPropertyId := ⟨69⟩
@[match_pattern] abbrev modelName : BacnetPropertyId := ⟨70⟩
@[match_pattern] abbrev numberOfApduRetries : BacnetPropertyId := ⟨73⟩
@[match_pattern] abbrev numberOfStates : BacnetPropertyId := ⟨74⟩
@[match_pattern] abbrev objectIdentifier : BacnetPropertyId := ⟨75⟩
@[match_pattern] abbrev objectList : BacnetPropertyId := ⟨76⟩
@[match_pattern] abbrev objectName : BacnetPropertyId := ⟨77⟩
@[match_pattern] abbrev objectType : BacnetPropertyId := ⟨79⟩
@[match_pattern] abbrev outOfService : BacnetPropertyId := ⟨81⟩
@[match_pattern] abbrev polarity : BacnetPropertyId := ⟨84⟩
@[match_pattern] abbrev presentValue : BacnetPropertyId := ⟨85⟩
@[match_pattern] abbrev priorityArray : BacnetPropertyId := ⟨87⟩
@[match_pattern] abbrev protocolObjectTypesSupported : BacnetPropertyId := ⟨96⟩
@[match_pattern] abbrev protocolServicesSupported : BacnetPropertyId := ⟨97⟩
@[match_pattern] abbrev protocolVersion : BacnetPropertyId := ⟨98⟩
@[match_pattern] abbrev reliability : BacnetPropertyId := ⟨103⟩
@[match_pattern] abbrev relinquishDefault : BacnetPropertyId := ⟨104⟩
@[match_pattern] abbrev resolution : BacnetPropertyId := ⟨106⟩
@[match_pattern] abbrev segmentationSupported : BacnetPropertyId := ⟨107⟩
@[match_pattern] abbrev stateText : BacnetPropertyId := ⟨110⟩
@[match_pattern] abbrev statusFlags : BacnetPropertyId := ⟨111⟩
@[match_pattern] abbrev systemStatus : BacnetPropertyId := ⟨112⟩
@[match_pattern] abbrev units : BacnetPropertyId := ⟨117⟩
@[match_pattern] abbrev vendorIdentifier : BacnetPropertyId := ⟨120⟩
@[match_pattern] abbrev vendorName : BacnetPropertyId := ⟨121⟩
@[match_pattern] abbrev protocolRevision : BacnetPropertyId := ⟨139⟩
@[match_pattern] abbrev databaseRevision : BacnetPropertyId := ⟨155⟩
@[match_pattern] abbrev propertyList : BacnetPropertyId := ⟨371⟩
@[match_pattern] abbrev serialNumber : BacnetPropertyId := ⟨372⟩

end BacnetPropertyId

/-- The array index that stands for "no index given". -/
abbrev kBacnetNoArrayIndex : UInt32 := 0xFFFFFFFF

/-- The 22-bit mask of an object instance. -/
abbrev kObjectInstanceMask : UInt32 := 0x003FFFFF

/-- A reference to a property, or to one entry of it. -/
structure BacnetPropertyRequest where
  object : BacnetObjectId := {}
  property : BacnetPropertyId := .objectName
  arrayIndex : UInt32 := kBacnetNoArrayIndex
  deriving Repr, DecidableEq, Inhabited

/-- Optional parts of a WriteProperty request. -/
structure BacnetWritePropertyOptions where
  arrayIndex : UInt32 := kBacnetNoArrayIndex
  hasPriority : Bool := false
  priority : UInt8 := 0
  deriving Repr, DecidableEq, Inhabited

/-- The kinds of value a `BacnetValue` can carry. -/
inductive BacnetValueType where
  | empty
  | null
  | boolean
  | unsigned
  | signed
  | real
  | bitString
  | enumerated
  | characterString
  | objectIdentifier
  | objectIdentifierList
  | error
  | notCommandable
  | unsupported
  | propertyIdentifierList
  deriving Repr, DecidableEq, Inhabited

/-- Capacity of the text buffer of a value, terminator included. -/
abbrev kMaxTextLength : Nat := 512

/--
A decoded or to-be-encoded value.  Only the fields its type names are
meaningful; the others keep whatever was left in them.
-/
structure BacnetValue where
  type : BacnetValueType := .empty
  text : List UInt8 := []
  booleanValue : Bool := false
  unsignedValue : UInt32 := 0
  signedValue : Int32 := 0
  realValue : Binary32 := .zero
  bitStringValue : UInt32 := 0
  bitStringBitCount : UInt8 := 0
  objectValue : BacnetObjectId := {}
  deriving Repr, DecidableEq, Inhabited

/-- A peer address with its UDP port. -/
structure BacnetIpEndpoint where
  a : UInt8 := 0
  b : UInt8 := 0
  c : UInt8 := 0
  d : UInt8 := 0
  port : UInt16 := 47808
  deriving Repr, DecidableEq, Inhabited

/-- One property reference with its value inside a notification. -/
structure BacnetCovPropertyValue where
  property : BacnetPropertyId := .presentValue
  arrayIndex : UInt32 := kBacnetNoArrayIndex
  value : BacnetValue := {}
  deriving Repr, DecidableEq, Inhabited

/-- What an I-Am announces about a device. -/
structure BacnetIAmDeviceInfo where
  deviceInstance : UInt32 := 0
  maxApduLengthAccepted : UInt32 := 0
  segmentationSupported : UInt8 := 0
  vendorId : UInt16 := 0
  deriving Repr, DecidableEq, Inhabited

/-- A Who-Is, with the instance range it is limited to. -/
structure BacnetWhoIsRequest where
  hasDeviceInstanceRange : Bool := false
  lowDeviceInstance : UInt32 := 0
  highDeviceInstance : UInt32 := 0
  deriving Repr, DecidableEq, Inhabited

/-- Whether a Who-Is asks for this device. -/
def BacnetWhoIsRequest.includes
    (request : BacnetWhoIsRequest)
    (deviceInstance : UInt32) : Bool :=
  !request.hasDeviceInstanceRange ||
    (decide (request.lowDeviceInstance ≤ deviceInstance) &&
      decide (deviceInstance ≤ request.highDeviceInstance))

/-- Fixed part of a confirmed request; `body` is what follows it. -/
structure BacnetConfirmedRequestHeader where
  invokeId : UInt8 := 0
  serviceChoice : UInt8 := 0
  body : List UInt8 := []
  deriving Repr, DecidableEq, Inhabited

/-- A parsed ReadProperty request. -/
structure BacnetReadPropertyRequestHeader where
  invokeId : UInt8 := 0
  request : BacnetPropertyRequest := {}
  deriving Repr, DecidableEq, Inhabited

/-- A parsed WriteProperty request. -/
structure BacnetWritePropertyRequestHeader where
  invokeId : UInt8 := 0
  request : BacnetPropertyRequest := {}
  value : BacnetValue := {}
  hasPriority : Bool := false
  priority : UInt8 := 0
  deriving Repr, DecidableEq, Inhabited

/--
A parsed subscription request.  The property form keeps its property
reference, so that a subscription is never widened.
-/
structure BacnetSubscribeCovRequestHeader where
  invokeId : UInt8 := 0
  processId : UInt32 := 0
  object : BacnetObjectId := {}
  isPropertySubscription : Bool := false
  property : BacnetPropertyId := .presentValue
  arrayIndex : UInt32 := kBacnetNoArrayIndex
  issueConfirmedNotifications : Bool := false
  lifetimeSeconds : UInt32 := 0
  hasCovIncrement : Bool := false
  covIncrement : Binary32 := .zero
  deriving Repr, DecidableEq, Inhabited

/-- How a datagram relates to an awaited acknowledgement. -/
inductive BacnetSubscribeCovResponseKind where
  | none
  | ack
  | error
  | reject
  | abort
  deriving Repr, DecidableEq, Inhabited

/-- How a datagram relates to an awaited ReadProperty response. -/
inductive BacnetReadPropertyResponseKind where
  | unrelated
  | ack
  | error
  | reject
  | abort
  deriving Repr, DecidableEq, Inhabited

/-- How a datagram relates to an awaited WriteProperty response. -/
inductive BacnetWritePropertyResponseKind where
  | unrelated
  | ack
  | error
  | reject
  | abort
  deriving Repr, DecidableEq, Inhabited

/-- The information a value carries, without the fields its type ignores. -/
inductive ValueContent where
  | null
  | boolean (value : Bool)
  | unsigned (value : UInt32)
  | signed (value : Int32)
  | real (value : Binary32)
  | bitString (bits : List Bool)
  | enumerated (value : UInt32)
  | text (bytes : List UInt8)
  | objectIdentifier (value : BacnetObjectId)
  deriving Repr, DecidableEq

/-- The first `count` bits of a bit string, lowest first. -/
def bitsOf
    (value : UInt32)
    (count : UInt8) : List Bool :=
  (List.range count.toNat).map value.toNat.testBit

/--
The content of a value; `none` for the marker types that carry no data of
their own.
-/
def BacnetValue.content
    (value : BacnetValue) : Option ValueContent :=
  match value.type with
  | .null => some .null
  | .boolean => some (.boolean value.booleanValue)
  | .unsigned => some (.unsigned value.unsignedValue)
  | .signed => some (.signed value.signedValue)
  | .real => some (.real value.realValue)
  | .bitString =>
      some (.bitString
        (bitsOf value.bitStringValue value.bitStringBitCount))
  | .enumerated => some (.enumerated value.unsignedValue)
  | .characterString => some (.text value.text)
  | .objectIdentifier => some (.objectIdentifier value.objectValue)
  | _ => none

end BacnetStack
