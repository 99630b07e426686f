import BacnetStack.ServerState

namespace BacnetStack

/-!
# ReadProperty

Lookup of the addressed object, the check of property and array index, and
the acknowledgement.  The error of a refused request and the packet of an
accepted one are computed in two passes, as in the source.
-/

def kDeviceProperties : List BacnetPropertyId :=
  [.objectIdentifier, .objectName, .objectType, .systemStatus, .vendorName,
    .vendorIdentifier, .modelName, .firmwareRevision,
    .applicationSoftwareVersion, .protocolVersion, .protocolRevision,
    .protocolServicesSupported, .protocolObjectTypesSupported, .objectList,
    .maxApduLengthAccepted, .segmentationSupported, .apduTimeout,
    .numberOfApduRetries, .deviceAddressBinding, .databaseRevision,
    .propertyList]

def kAnalogValueProperties : List BacnetPropertyId :=
  [.objectIdentifier, .objectName, .objectType, .presentValue, .statusFlags,
    .eventState, .outOfService, .units, .propertyList]

def kCommandableAnalogValueProperties : List BacnetPropertyId :=
  [.objectIdentifier, .objectName, .objectType, .presentValue, .statusFlags,
    .eventState, .outOfService, .units, .priorityArray, .relinquishDefault,
    .propertyList]

def kAnalogOutputProperties : List BacnetPropertyId :=
  [.objectIdentifier, .objectName, .objectType, .presentValue, .statusFlags,
    .eventState, .outOfService, .units, .priorityArray, .relinquishDefault,
    .propertyList]

def kAnalogInputProperties : List BacnetPropertyId :=
  [.objectIdentifier, .objectName, .objectType, .presentValue, .statusFlags,
    .eventState, .outOfService, .units, .propertyList]

def kBinaryInputProperties : List BacnetPropertyId :=
  [.objectIdentifier, .objectName, .objectType, .presentValue, .statusFlags,
    .eventState, .outOfService, .propertyList]

def kBinaryOutputProperties : List BacnetPropertyId :=
  [.objectIdentifier, .objectName, .objectType, .presentValue, .statusFlags,
    .eventState, .outOfService, .reliability, .polarity, .priorityArray,
    .relinquishDefault, .propertyList]

def kBinaryValueProperties : List BacnetPropertyId :=
  [.objectIdentifier, .objectName, .objectType, .presentValue, .statusFlags,
    .eventState, .outOfService, .priorityArray, .relinquishDefault,
    .propertyList]

def kMultiStateValueProperties : List BacnetPropertyId :=
  [.objectIdentifier, .objectName, .objectType, .presentValue, .statusFlags,
    .eventState, .outOfService, .numberOfStates, .stateText, .propertyList]

/-- Base properties by object type only; used for optional properties. -/
def isBaseProperty
    (object : BacnetObjectId)
    (property : BacnetPropertyId) : Bool :=
  if object.type = BacnetObjectType.analogValue then
    kAnalogValueProperties.contains property
  else if object.type = BacnetObjectType.analogInput then
    kAnalogInputProperties.contains property
  else if object.type = BacnetObjectType.binaryInput then
    kBinaryInputProperties.contains property
  else if object.type = BacnetObjectType.binaryOutput then
    kBinaryOutputProperties.contains property
  else if object.type = BacnetObjectType.binaryValue then
    kBinaryValueProperties.contains property
  else if object.type = BacnetObjectType.multiStateValue then
    kMultiStateValueProperties.contains property
  else
    false

namespace ServerObjects

variable (objects : ServerObjects)

/-- Base properties by object; `none` for the types without a list. -/
def baseProperties
    (object : BacnetObjectId) : Option (List BacnetPropertyId) :=
  if object.type = BacnetObjectType.analogValue then
    if (objects.findCommandableAnalogValue object.instance_).isSome then
      some kCommandableAnalogValueProperties
    else
      some kAnalogValueProperties
  else if object.type = BacnetObjectType.analogInput then
    some kAnalogInputProperties
  else if object.type = BacnetObjectType.analogOutput then
    some kAnalogOutputProperties
  else if object.type = BacnetObjectType.binaryInput then
    some kBinaryInputProperties
  else if object.type = BacnetObjectType.binaryOutput then
    some kBinaryOutputProperties
  else if object.type = BacnetObjectType.binaryValue then
    some kBinaryValueProperties
  else if object.type = BacnetObjectType.multiStateValue then
    some kMultiStateValueProperties
  else
    none

/-- Registered properties of an object outside a base list. -/
def extraRegistrations
    (object : BacnetObjectId)
    (base : List BacnetPropertyId) : List BacnetPropertyId :=
  (objects.propertyRegistrations.filter fun registration =>
    registration.object == object &&
      !base.contains registration.property).map
    BacnetServerPropertyRegistration.property

def objectPropertyCount (object : BacnetObjectId) : Nat :=
  let base := (objects.baseProperties object).getD []
  base.length + (objects.extraRegistrations object base).length +
    ((objects.optionalProperties object).filter fun slot =>
      !base.contains slot.property).length

def objectPropertyAt
    (object : BacnetObjectId)
    (index : Nat) : Option BacnetPropertyId := do
  let base ← objects.baseProperties object
  let optional :=
    ((objects.optionalProperties object).filter fun slot =>
      !isBaseProperty object slot.property).map
      BacnetObjectPropertySlot.property
  (base ++ objects.extraRegistrations object base ++ optional)[index]?

end ServerObjects

namespace BacnetServer

variable (server : BacnetServer)

/-- Properties registered for the Device object. -/
def deviceRegistrations : List BacnetPropertyId :=
  (server.objects.propertyRegistrations.filter fun registration =>
    registration.object == server.deviceObject).map
    BacnetServerPropertyRegistration.property

def devicePropertyCount : Nat :=
  kDeviceProperties.length + server.deviceRegistrations.length

def devicePropertyAt (index : Nat) : Option BacnetPropertyId :=
  (kDeviceProperties ++ server.deviceRegistrations)[index]?

/-- Whether any commandable object is registered. -/
def hasCommandableObjects : Bool :=
  !server.objects.analogOutputs.isEmpty ||
    !server.objects.commandableAnalogValues.isEmpty ||
    !server.objects.allBinaryOutputs.isEmpty ||
    !server.objects.binaryValues.isEmpty

/-- `1UL << position` -/
def singleBit (position : UInt32) : UInt32 :=
  1 <<< position

/-- The bit of an object type, if objects of that type are registered. -/
def objectTypeBit
    (registered : Bool)
    (objectType : UInt16) : UInt32 :=
  if registered then singleBit objectType.toUInt32 else 0

def protocolObjectTypesSupported : BacnetValue :=
  let objects := server.objects
  bitStringValue
    (objectTypeBit true BacnetObjectType.device |||
      objectTypeBit (!objects.allAnalogInputs.isEmpty)
        BacnetObjectType.analogInput |||
      objectTypeBit (objects.analogValueCount != 0)
        BacnetObjectType.analogValue |||
      objectTypeBit (!objects.analogOutputs.isEmpty)
        BacnetObjectType.analogOutput |||
      objectTypeBit (!objects.allBinaryInputs.isEmpty)
        BacnetObjectType.binaryInput |||
      objectTypeBit (!objects.allBinaryOutputs.isEmpty)
        BacnetObjectType.binaryOutput |||
      objectTypeBit (!objects.binaryValues.isEmpty)
        BacnetObjectType.binaryValue |||
      objectTypeBit (!objects.multiStateValues.isEmpty)
        BacnetObjectType.multiStateValue)
    (if objects.multiStateValues.isEmpty then 9 else 20)

def protocolServicesSupported : BacnetValue :=
  if server.hasCommandableObjects then
    bitStringValue (singleBit 5 ||| singleBit 12 ||| singleBit 15) 16
  else
    bitStringValue (singleBit 5 ||| singleBit 12) 13

/-- A device text must be set and fit a value. -/
def deviceText (text : Option (List UInt8)) : Option BacnetValue := do
  let text ← text
  if text.length ≥ kMaxTextLength then
    none
  else
    some (characterStringValue text)

/-- An unset or empty software version falls back to the firmware revision. -/
def applicationSoftwareVersionText : Option (List UInt8) :=
  match server.device.applicationSoftwareVersion with
  | some (character :: rest) => some (character :: rest)
  | _ => server.device.firmwareRevision

def readDeviceProperty
    (property : BacnetPropertyId) : Option BacnetValue :=
  let device := server.device
  match server.objects.findPropertyRegistration
      server.deviceObject property with
  | some registration => registration.provider
  | none =>
      match property with
      | .objectIdentifier =>
          some (objectIdentifierValue server.deviceObject)
      | .objectName => deviceText device.objectName
      | .vendorName => deviceText device.vendorName
      | .modelName => deviceText device.modelName
      | .firmwareRevision => deviceText device.firmwareRevision
      | .applicationSoftwareVersion =>
          deviceText server.applicationSoftwareVersionText
      | .objectType =>
          some (enumeratedValue BacnetObjectType.device.toUInt32)
      | .systemStatus => some (enumeratedValue 0)
      | .vendorIdentifier =>
          some (unsignedValue device.vendorId.toUInt32)
      | .protocolVersion =>
          some (unsignedValue device.protocolVersion.toUInt32)
      | .protocolRevision =>
          some (unsignedValue device.protocolRevision.toUInt32)
      | .maxApduLengthAccepted =>
          some (unsignedValue device.maxApduLengthAccepted)
      | .segmentationSupported =>
          some (enumeratedValue device.segmentationSupported.toUInt32)
      | .apduTimeout => some (unsignedValue device.apduTimeout)
      | .numberOfApduRetries =>
          some (unsignedValue device.numberOfApduRetries)
      | .databaseRevision => some (unsignedValue device.databaseRevision)
      | .protocolServicesSupported =>
          some server.protocolServicesSupported
      | .protocolObjectTypesSupported =>
          some server.protocolObjectTypesSupported
      | _ => none

def objectCount : Nat :=
  let objects := server.objects
  objects.analogValueCount + objects.allAnalogInputs.length +
    objects.allBinaryInputs.length + objects.analogOutputs.length +
    objects.allBinaryOutputs.length + objects.binaryValues.length +
    objects.multiStateValues.length + 1

/--
One registry of the walk through all objects: an index in it names one of its
objects, and what is left of a larger one goes on to the next registry.
-/
def entryOf {Object : Type}
    (registered : List Object)
    (identifierOf : Object → BacnetObjectId)
    (next : Nat → Option BacnetObjectId)
    (index : Nat) : Option BacnetObjectId :=
  if index < registered.length then
    registered[index]?.map identifierOf
  else
    next (index - registered.length)

/-- `objectListEntry`: the Device, then one registry after the other. -/
def objectListEntry (index : Nat) : Option BacnetObjectId :=
  let objects := server.objects
  if server.objectCount ≤ index then
    none
  else if index = 0 then
    some server.deviceObject
  else
    entryOf objects.analogValues
      (fun value => ⟨BacnetObjectType.analogValue, value.instance_⟩)
    (entryOf objects.commandableAnalogValues
      (fun value => ⟨BacnetObjectType.analogValue, value.instance_⟩)
    (entryOf objects.allAnalogInputs
      (fun input => ⟨BacnetObjectType.analogInput, input.instance_⟩)
    (entryOf objects.allBinaryInputs
      (fun input => ⟨BacnetObjectType.binaryInput, input.instance_⟩)
    (entryOf objects.analogOutputs
      (fun output => ⟨BacnetObjectType.analogOutput, output.instance_⟩)
    (entryOf objects.allBinaryOutputs
      (fun output => ⟨BacnetObjectType.binaryOutput, output.instance_⟩)
    (entryOf objects.binaryValues
      (fun value => ⟨BacnetObjectType.binaryValue, value.instance_⟩)
    (fun rest =>
      objects.multiStateValues[rest]?.map fun value =>
        ⟨BacnetObjectType.multiStateValue, value.instance_⟩)))))))
    (index - 1)

end BacnetServer

/-- The registered objects a request addresses. -/
structure ObjectLookup where
  isDevice : Bool
  analogValue : Option BacnetServerAnalogValue
  commandableAnalogValue : Option BacnetServerCommandableAnalogValue
  analogOutput : Option BacnetServerAnalogOutput
  analogInput : Option BacnetServerAnalogInput
  binaryInput : Option BacnetServerBinaryInput
  binaryOutput : Option BacnetServerBinaryOutput
  binaryValue : Option BacnetServerBinaryValue
  multiStateValue : Option BacnetServerMultiStateValue

namespace ObjectLookup

/-- No object was found. -/
def isUnknown (lookup : ObjectLookup) : Bool :=
  !lookup.isDevice && lookup.analogValue.isNone &&
    lookup.commandableAnalogValue.isNone && lookup.analogOutput.isNone &&
    lookup.analogInput.isNone && lookup.binaryInput.isNone &&
    lookup.binaryOutput.isNone && lookup.binaryValue.isNone &&
    lookup.multiStateValue.isNone

/-- An object with a Priority_Array was found. -/
def hasPriorityArray (lookup : ObjectLookup) : Bool :=
  lookup.commandableAnalogValue.isSome || lookup.analogOutput.isSome ||
    lookup.binaryOutput.isSome || lookup.binaryValue.isSome

end ObjectLookup

/-- `validObjectConfiguration` -/
def validObjectConfiguration
    (instance_ : UInt32)
    (objectName : List UInt8) : Bool :=
  decide (instance_ ≤ 0x003FFFFF) &&
    decide (objectName.length < kMaxTextLength)

def validMultiStateValueConfiguration
    (value : BacnetServerMultiStateValue) : Bool :=
  validObjectConfiguration value.instance_ value.objectName &&
    value.numberOfStates != 0 && value.presentValue != 0 &&
    decide (value.presentValue ≤ value.numberOfStates) &&
    (List.range value.numberOfStates.toNat).all fun state =>
      match value.stateText[state]?.join with
      | some text => decide (text.length < kMaxTextLength)
      | none => false

/-- Slots of a Boolean priority array; the stale value of a free slot stays. -/
def binaryPriorityEntry
    (priority : BacnetCommandPriority Bool)
    (index : Nat) : Option BacnetValue :=
  if inRange : index < kSlotCount then
    some {
      type :=
        if priority.occupied ⟨index, inRange⟩ then .enumerated else .null
      unsignedValue := if priority.slots ⟨index, inRange⟩ then 1 else 0
    }
  else
    none

/-- Slots of a Real priority array. -/
def analogPriorityEntry
    (priority : BacnetCommandPriority Binary32)
    (index : Nat) : Option BacnetValue :=
  if inRange : index < kSlotCount then
    if priority.occupied ⟨index, inRange⟩ then
      some (realValue (priority.slots ⟨index, inRange⟩))
    else
      some { type := .null }
  else
    none

/-- An error class with an error code. -/
abbrev BacnetError : Type := UInt32 × UInt32

abbrev unknownObjectError : BacnetError := (1, 31)
abbrev unknownPropertyError : BacnetError := (2, 32)
abbrev valueOutOfRangeError : BacnetError := (2, 37)
abbrev invalidDataTypeError : BacnetError := (2, 9)
abbrev writeAccessDeniedError : BacnetError := (2, 40)
abbrev invalidArrayIndexError : BacnetError := (2, 42)
abbrev noSpaceError : BacnetError := (2, 18)

namespace BacnetServer

variable (server : BacnetServer)

/-- Each kind is searched only when the object type names it. -/
def lookupObject (object : BacnetObjectId) : ObjectLookup :=
  let objects := server.objects
  let ofType {α : Type}
      (objectType : UInt16)
      (find : UInt32 → Option α) : Option α :=
    if object.type = objectType then find object.instance_ else none
  { isDevice := object == server.deviceObject
    analogValue :=
      ofType BacnetObjectType.analogValue objects.findAnalogValue
    commandableAnalogValue :=
      ofType BacnetObjectType.analogValue
        objects.findCommandableAnalogValue
    analogOutput :=
      ofType BacnetObjectType.analogOutput objects.findAnalogOutput
    analogInput :=
      ofType BacnetObjectType.analogInput objects.findAnalogInput
    binaryInput :=
      ofType BacnetObjectType.binaryInput objects.findBinaryInput
    binaryOutput :=
      ofType BacnetObjectType.binaryOutput objects.findBinaryOutput
    binaryValue :=
      ofType BacnetObjectType.binaryValue objects.findBinaryValue
    multiStateValue :=
      ofType BacnetObjectType.multiStateValue
        objects.findMultiStateValue }

/--
One read per object found; all have to succeed and the last one determines
the value.
-/
def readFoundProperty
    (lookup : ObjectLookup)
    (property : BacnetPropertyId) : Option BacnetValue := do
  let objects := server.objects
  let reads : List (Option (Option BacnetValue)) :=
    [lookup.analogValue.map fun value =>
        objects.readAnalogValueProperty value property,
      lookup.commandableAnalogValue.map fun value =>
        objects.readCommandableAnalogValueProperty value property,
      lookup.analogOutput.map fun output =>
        objects.readAnalogOutputProperty output property,
      lookup.analogInput.map fun input =>
        objects.readAnalogInputProperty input property,
      lookup.binaryInput.map fun input =>
        objects.readBinaryInputProperty input property,
      lookup.binaryOutput.map fun output =>
        objects.readBinaryOutputProperty output property,
      lookup.binaryValue.map fun value =>
        objects.readBinaryValueProperty value property,
      lookup.multiStateValue.map fun value =>
        objects.readMultiStateValueProperty value property]
  let values ← (reads.filterMap id).mapM id
  return values.getLastD {}

/-- An array index that is given must not be past the end. -/
def checkArrayIndex
    (arrayIndex : UInt32)
    (entryCount : Nat) : Except BacnetError BacnetValue :=
  if arrayIndex ≠ kBacnetNoArrayIndex ∧ entryCount < arrayIndex.toNat then
    .error invalidArrayIndexError
  else
    .ok {}

/-- An unreadable property is reported as unknown. -/
def valueOrUnknownProperty
    (value : Option BacnetValue) : Except BacnetError BacnetValue :=
  match value with
  | some value => .ok value
  | none => .error unknownPropertyError

/-- The checks on a Device property. -/
def checkDeviceRead
    (request : BacnetPropertyRequest) : Except BacnetError BacnetValue :=
  if request.property = .objectList then
    checkArrayIndex request.arrayIndex server.objectCount
  else if request.property = .propertyList then
    checkArrayIndex request.arrayIndex server.devicePropertyCount
  else if request.arrayIndex ≠ kBacnetNoArrayIndex then
    .error invalidArrayIndexError
  else if request.property = .deviceAddressBinding then
    .ok {}
  else
    valueOrUnknownProperty (server.readDeviceProperty request.property)

/--
First pass: the error of a refused request, or the value of an accepted one
where the reply is not a list.
-/
def checkRead
    (lookup : ObjectLookup)
    (request : BacnetPropertyRequest) : Except BacnetError BacnetValue :=
  let stateTextOf :=
    if request.property = .stateText then
      lookup.multiStateValue
    else
      none
  let readsPriorityArray :=
    lookup.hasPriorityArray && request.property == .priorityArray
  if lookup.isUnknown then
    .error unknownObjectError
  else if lookup.isDevice then
    server.checkDeviceRead request
  else if lookup.multiStateValue.any fun value =>
      !validMultiStateValueConfiguration value then
    .error valueOutOfRangeError
  else match stateTextOf with
  | some value =>
      checkArrayIndex request.arrayIndex value.numberOfStates.toNat
  | none =>
      if request.property = .propertyList then
        checkArrayIndex request.arrayIndex
          (server.objects.objectPropertyCount request.object)
      else if request.arrayIndex ≠ kBacnetNoArrayIndex then
        if readsPriorityArray && request.arrayIndex.toNat ≤ kSlotCount then
          .ok {}
        else
          .error invalidArrayIndexError
      else if readsPriorityArray then
        .ok {}
      else
        valueOrUnknownProperty
          (server.readFoundProperty lookup request.property)

/-- The entries of the Priority_Array that answers a read. -/
def priorityArrayEntries
    (lookup : ObjectLookup) : Option (Nat → Option BacnetValue) :=
  match lookup.binaryOutput, lookup.binaryValue,
      lookup.commandableAnalogValue, lookup.analogOutput with
  | some output, _, _, _ => some (binaryPriorityEntry output.priority)
  | none, some value, _, _ => some (binaryPriorityEntry value.priority)
  | none, none, some value, _ => some (analogPriorityEntry value.priority)
  | none, none, none, some output =>
      some (analogPriorityEntry output.priority)
  | none, none, none, none => none

/-- Second pass: the acknowledgement. -/
def buildReadAck
    (lookup : ObjectLookup)
    (request : BacnetReadPropertyRequestHeader)
    (value : BacnetValue) : Option (List UInt8) :=
  let property := request.request.property
  let object := request.request.object
  let priorityEntries :=
    if property = .priorityArray then
      priorityArrayEntries lookup
    else
      none
  if lookup.isDevice && property == .objectList then
    buildReadPropertyObjectListAck kMaxDatagramSize request
      server.objectCount server.objectListEntry
  else if lookup.isDevice && property == .propertyList then
    buildReadPropertyPropertyListAck kMaxDatagramSize request
      server.devicePropertyCount server.devicePropertyAt
  else if !lookup.isDevice && property == .propertyList then
    buildReadPropertyPropertyListAck kMaxDatagramSize request
      (server.objects.objectPropertyCount object)
      (server.objects.objectPropertyAt object)
  else match lookup.multiStateValue, priorityEntries with
  | some multiStateValue, entries =>
      if property = .stateText then
        buildReadPropertyCharacterStringListAck kMaxDatagramSize request
          multiStateValue.stateText multiStateValue.numberOfStates.toNat
      else match entries with
      | some valueAt =>
          buildReadPropertyPriorityArrayAck
            kMaxDatagramSize request kSlotCount valueAt
      | none => buildReadPropertyAck kMaxDatagramSize request value
  | none, some valueAt =>
      buildReadPropertyPriorityArrayAck
        kMaxDatagramSize request kSlotCount valueAt
  | none, none =>
      if lookup.isDevice && property == .deviceAddressBinding then
        buildReadPropertyEmptyListAck kMaxDatagramSize request
      else
        buildReadPropertyAck kMaxDatagramSize request value

def handleReadProperty
    (input : PollInput)
    (request : BacnetReadPropertyRequestHeader) : PollOutput :=
  let lookup := server.lookupObject request.request.object
  match server.checkRead lookup request.request with
  | .ok value =>
      sendReply server input
        (server.buildReadAck lookup request value) .readPropertyAckSent
  | .error (errorClass, errorCode) =>
      sendReply server input
        (buildReadPropertyError kMaxDatagramSize request.invokeId
          errorClass errorCode) .readPropertyErrorSent

end BacnetServer

end BacnetStack
