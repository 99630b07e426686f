import BacnetStack.CommandPriority
import BacnetStack.ProtocolWriter

namespace BacnetStack

/-!
# Server objects

The caller-owned objects a server exposes and the property reads on them.  A
value provider is represented by the value it would return now: during one
poll the server reads one state of the application, and between polls the
application may replace any of it.
-/

/-- The settings of the Device of a server. -/
structure BacnetServerDevice where
  deviceInstance : UInt32 := 0
  vendorId : UInt16 := 0
  objectName : Option (List UInt8) := none
  vendorName : Option (List UInt8) := none
  modelName : Option (List UInt8) := none
  firmwareRevision : Option (List UInt8) := none
  applicationSoftwareVersion : Option (List UInt8) := none
  maxApduLengthAccepted : UInt32 := 1476
  apduTimeout : UInt32 := 3000
  numberOfApduRetries : UInt32 := 3
  databaseRevision : UInt32 := 0
  protocolVersion : UInt8 := 1
  protocolRevision : UInt8 := 14
  segmentationSupported : UInt8 := 3
  deriving Repr, DecidableEq, Inhabited

/-- An Analog Value as the application registers it. -/
structure BacnetServerAnalogValue where
  instance_ : UInt32 := 0
  objectName : List UInt8 := []
  presentValue : Binary32 := .zero
  units : UInt32 := 0
  outOfService : Bool := false
  presentValueProvider : Option Binary32 := none

/-- An Analog Value with a priority array. -/
structure BacnetServerCommandableAnalogValue where
  instance_ : UInt32 := 0
  objectName : List UInt8 := []
  priority : BacnetCommandPriority Binary32 := .empty .zero
  units : UInt32 := 0
  outOfService : Bool := false
  callbackStorage : Option CommandCallbackStorage := none
  callbackInProgress : Bool := false

/-- An Analog Output with a priority array and its callbacks. -/
structure BacnetServerAnalogOutput where
  instance_ : UInt32 := 0
  objectName : List UInt8 := []
  priority : BacnetCommandPriority Binary32 := .empty .zero
  units : UInt32 := 0
  outOfService : Bool := false
  hasApply : Bool := false
  callbackStorage : Option CommandCallbackStorage := none
  callbackInProgress : Bool := false

/-- Linear map from a raw range to an engineering range. -/
structure BacnetLinearScale where
  rawMin : Binary32 := .zero
  rawMax : Binary32 := .one
  valueMin : Binary32 := .zero
  valueMax : Binary32 := .one
  deriving Repr, DecidableEq, Inhabited

/-- An Analog Input, with a provider and a scale if it has them. -/
structure BacnetServerAnalogInput where
  instance_ : UInt32 := 0
  objectName : List UInt8 := []
  presentValue : Binary32 := .zero
  units : UInt32 := 0
  outOfService : Bool := false
  presentValueProvider : Option Binary32 := none
  inputScale : BacnetLinearScale := {}
  hasInputScale : Bool := false

/-- A Binary Input, whose value a provider may give. -/
structure BacnetServerBinaryInput where
  instance_ : UInt32 := 0
  objectName : List UInt8 := []
  presentValue : Bool := false
  outOfService : Bool := false
  presentValueProvider : Option Bool := none

/-- A Binary Output with a priority array and its callbacks. -/
structure BacnetServerBinaryOutput where
  instance_ : UInt32 := 0
  objectName : List UInt8 := []
  priority : BacnetCommandPriority Bool := .empty false
  outOfService : Bool := false
  polarity : UInt32 := 0
  reliability : UInt32 := 0
  hasApply : Bool := false
  localWritePriority : UInt8 := 16
  hasLocalWritePriority : Bool := false
  callbackStorage : Option CommandCallbackStorage := none
  callbackInProgress : Bool := false

/-- A Binary Value with a priority array. -/
structure BacnetServerBinaryValue where
  instance_ : UInt32 := 0
  objectName : List UInt8 := []
  priority : BacnetCommandPriority Bool := .empty false
  outOfService : Bool := false

/-- A Multi-state Value with the texts of its states. -/
structure BacnetServerMultiStateValue where
  instance_ : UInt32 := 0
  objectName : List UInt8 := []
  presentValue : UInt32 := 1
  numberOfStates : UInt32 := 0
  stateText : List (Option (List UInt8)) := []
  outOfService : Bool := false

/--
Value of an optional property.  The reference forms hold what the referenced
variable contains now.
-/
inductive BacnetObjectPropertySlotValue where
  | characterString (text : List UInt8)
  | real (value : Binary32)
  | realReference (value : Binary32)
  | boolean (value : Bool)
  | booleanReference (value : Bool)
  | enumerated (value : UInt32)
  | enumeratedReference (value : UInt32)
  | bitString (value : UInt32) (bitCount : UInt8)
  | bitStringReference (value : UInt32) (bitCount : UInt8)
  deriving Repr, DecidableEq

/-- A property that an object is configured with. -/
structure BacnetObjectPropertySlot where
  property : BacnetPropertyId
  value : BacnetObjectPropertySlotValue
  deriving Repr, DecidableEq

/-- An object registered through the object-centric interface. -/
structure ObjectCentric (α : Type) where
  object : α
  properties : List BacnetObjectPropertySlot := []

/-- A Real from an optional property must be finite. -/
def storedReal (value : Binary32) : Option BacnetValue :=
  if value.isFinite then
    some { type := .real, realValue := value }
  else
    none

/-- A bit string from an optional property must have a bit. -/
def storedBitString
    (value : UInt32)
    (bitCount : UInt8) : Option BacnetValue :=
  if bitCount ≠ 0 then
    some {
      type := .bitString
      bitStringValue := value
      bitStringBitCount := bitCount
    }
  else
    none

/-- `readStoredProperty` -/
def readStoredProperty
    (properties : List BacnetObjectPropertySlot)
    (property : BacnetPropertyId) : Option BacnetValue := do
  let slot ← properties.find? fun slot => slot.property == property
  match slot.value with
  | .characterString text =>
      if text.length ≥ kMaxTextLength then
        none
      else
        some { type := .characterString, text := text }
  | .real value => storedReal value
  | .realReference value => storedReal value
  | .boolean value => some { type := .boolean, booleanValue := value }
  | .booleanReference value =>
      some { type := .boolean, booleanValue := value }
  | .enumerated value => some (enumeratedValue value)
  | .enumeratedReference value => some (enumeratedValue value)
  | .bitString value bitCount => storedBitString value bitCount
  | .bitStringReference value bitCount => storedBitString value bitCount

/--
A property registration; its provider either fails or returns a value.
-/
structure BacnetServerPropertyRegistration where
  object : BacnetObjectId
  property : BacnetPropertyId
  provider : Option BacnetValue
  deriving Repr, DecidableEq

/-- Everything registered with a server, by kind and registration form. -/
structure ServerObjects where
  analogValues : List BacnetServerAnalogValue := []
  commandableAnalogValues : List BacnetServerCommandableAnalogValue := []
  analogOutputs : List BacnetServerAnalogOutput := []
  analogInputs : List BacnetServerAnalogInput := []
  objectCentricAnalogInputs :
    List (ObjectCentric BacnetServerAnalogInput) := []
  binaryInputs : List BacnetServerBinaryInput := []
  objectCentricBinaryInputs :
    List (ObjectCentric BacnetServerBinaryInput) := []
  binaryOutputs : List BacnetServerBinaryOutput := []
  objectCentricBinaryOutputs :
    List (ObjectCentric BacnetServerBinaryOutput) := []
  binaryValues : List BacnetServerBinaryValue := []
  multiStateValues : List BacnetServerMultiStateValue := []
  propertyRegistrations : List BacnetServerPropertyRegistration := []

/--
A kind with two registration forms uses the object-centric one as soon as it
is not empty.
-/
def registeredObjects {α : Type}
    (objects : List α)
    (objectCentric : List (ObjectCentric α)) : List α :=
  if objectCentric.isEmpty then
    objects
  else
    objectCentric.map ObjectCentric.object

/-- An object found by its instance has it. -/
theorem instance_of_find?
    {Object : Type}
    {instanceOf : Object → UInt32}
    {registered : List Object}
    {instance_ : UInt32}
    {object : Object}
    (found :
      (registered.find? fun object => instanceOf object == instance_) =
        some object) :
    instanceOf object = instance_ := by
  have same := List.find?_some found
  exact beq_iff_eq.mp same

namespace ServerObjects

variable (objects : ServerObjects)

/-- The Analog Inputs, in the form in which they were registered. -/
def allAnalogInputs : List BacnetServerAnalogInput :=
  registeredObjects
    objects.analogInputs objects.objectCentricAnalogInputs

/-- The Binary Inputs, in the form in which they were registered. -/
def allBinaryInputs : List BacnetServerBinaryInput :=
  registeredObjects
    objects.binaryInputs objects.objectCentricBinaryInputs

/-- The Binary Outputs, in the form in which they were registered. -/
def allBinaryOutputs : List BacnetServerBinaryOutput :=
  registeredObjects
    objects.binaryOutputs objects.objectCentricBinaryOutputs

/-- Plain and commandable Analog Values share their instances. -/
def analogValueCount : Nat :=
  objects.analogValues.length + objects.commandableAnalogValues.length

def findAnalogValue
    (instance_ : UInt32) : Option BacnetServerAnalogValue :=
  objects.analogValues.find? fun value => value.instance_ == instance_

def findCommandableAnalogValue
    (instance_ : UInt32) : Option BacnetServerCommandableAnalogValue :=
  objects.commandableAnalogValues.find? fun value =>
    value.instance_ == instance_

def findAnalogOutput
    (instance_ : UInt32) : Option BacnetServerAnalogOutput :=
  objects.analogOutputs.find? fun output => output.instance_ == instance_

def findAnalogInput
    (instance_ : UInt32) : Option BacnetServerAnalogInput :=
  objects.allAnalogInputs.find? fun input => input.instance_ == instance_

def findBinaryInput
    (instance_ : UInt32) : Option BacnetServerBinaryInput :=
  objects.allBinaryInputs.find? fun input => input.instance_ == instance_

def findBinaryOutput
    (instance_ : UInt32) : Option BacnetServerBinaryOutput :=
  objects.allBinaryOutputs.find? fun output => output.instance_ == instance_

def findBinaryValue
    (instance_ : UInt32) : Option BacnetServerBinaryValue :=
  objects.binaryValues.find? fun value => value.instance_ == instance_

def findMultiStateValue
    (instance_ : UInt32) : Option BacnetServerMultiStateValue :=
  objects.multiStateValues.find? fun value => value.instance_ == instance_

/-- The registration of a property that no kind has by itself. -/
def findPropertyRegistration
    (object : BacnetObjectId)
    (property : BacnetPropertyId) :
    Option BacnetServerPropertyRegistration :=
  objects.propertyRegistrations.find? fun registration =>
    registration.object == object && registration.property == property

/-- Optional properties of the object-centric object with this identifier. -/
def optionalProperties
    (object : BacnetObjectId) : List BacnetObjectPropertySlot :=
  let propertiesOf {α : Type}
      (instanceOf : α → UInt32)
      (sources : List (ObjectCentric α)) :
      List BacnetObjectPropertySlot :=
    match sources.find? fun source =>
        instanceOf source.object == object.instance_ with
    | some source => source.properties
    | none => []
  if object.type = BacnetObjectType.analogInput then
    propertiesOf BacnetServerAnalogInput.instance_
      objects.objectCentricAnalogInputs
  else if object.type = BacnetObjectType.binaryInput then
    propertiesOf BacnetServerBinaryInput.instance_
      objects.objectCentricBinaryInputs
  else if object.type = BacnetObjectType.binaryOutput then
    propertiesOf BacnetServerBinaryOutput.instance_
      objects.objectCentricBinaryOutputs
  else
    []

end ServerObjects

namespace BacnetLinearScale

/-- The raw limits differ, and all four are finite. -/
def isValid (scale : BacnetLinearScale) : Bool :=
  scale.rawMin.isFinite && scale.rawMax.isFinite &&
    scale.valueMin.isFinite && scale.valueMax.isFinite &&
    !Binary32.feq scale.rawMin scale.rawMax

/-- `apply`; `none` where the source returns false. -/
def apply
    (scale : BacnetLinearScale)
    (rawValue : Binary32) : Option Binary32 :=
  if !scale.isValid || !rawValue.isFinite then
    none
  else
    let ratio :=
      (rawValue.sub scale.rawMin).div (scale.rawMax.sub scale.rawMin)
    let clamped :=
      if Binary32.flt ratio .zero then
        .zero
      else if Binary32.flt .one ratio then
        .one
      else
        ratio
    let value :=
      scale.valueMin.add (clamped.mul (scale.valueMax.sub scale.valueMin))
    if value.isFinite then some value else none

end BacnetLinearScale

/-- A Real, as the property of an object. -/
def realValue (value : Binary32) : BacnetValue :=
  { type := .real, realValue := value }

/-- A Boolean, as the property of an object. -/
def booleanValue (value : Bool) : BacnetValue :=
  { type := .boolean, booleanValue := value }

/-- A text, as the property of an object. -/
def characterStringValue (text : List UInt8) : BacnetValue :=
  { type := .characterString, text := text }

/-- An identifier, as the property of an object. -/
def objectIdentifierValue (object : BacnetObjectId) : BacnetValue :=
  { type := .objectIdentifier, objectValue := object }

/-- A bit string, as the property of an object. -/
def bitStringValue
    (value : UInt32)
    (bitCount : UInt8) : BacnetValue :=
  { type := .bitString
    bitStringValue := value
    bitStringBitCount := bitCount }

/-- A binary present value is an enumeration, not a Boolean. -/
def binaryEnumeration (value : Bool) : BacnetValue :=
  enumeratedValue (if value then 1 else 0)

/-- The properties every object kind answers in the same way. -/
def readCommonProperty
    (object : BacnetObjectId)
    (objectName : List UInt8)
    (outOfService : Bool)
    (property : BacnetPropertyId) : Option BacnetValue :=
  match property with
  | .objectIdentifier => some (objectIdentifierValue object)
  | .objectName => some (characterStringValue objectName)
  | .objectType => some (enumeratedValue object.type.toUInt32)
  | .statusFlags => some (bitStringValue (if outOfService then 8 else 0) 4)
  | .eventState => some (enumeratedValue 0)
  | .outOfService => some (booleanValue outOfService)
  | _ => none

namespace ServerObjects

variable (objects : ServerObjects)

/--
The order of every read: first the optional properties of an object-centric
object, then a registration, and only then the object's own properties.
-/
def readProperty
    (object : BacnetObjectId)
    (property : BacnetPropertyId)
    (own : Option BacnetValue) : Option BacnetValue :=
  match readStoredProperty (objects.optionalProperties object) property with
  | some value => some value
  | none =>
      match objects.findPropertyRegistration object property with
      | some registration => registration.provider
      | none => own

/-- The own properties of an Analog Value. -/
def readAnalogValueProperty
    (analogValue : BacnetServerAnalogValue)
    (property : BacnetPropertyId) : Option BacnetValue :=
  let object : BacnetObjectId :=
    ⟨BacnetObjectType.analogValue, analogValue.instance_⟩
  objects.readProperty object property
    (match property with
    | .presentValue =>
        some (realValue
          (analogValue.presentValueProvider.getD analogValue.presentValue))
    | .units => some (enumeratedValue analogValue.units)
    | _ =>
        readCommonProperty object analogValue.objectName
          analogValue.outOfService property)

/-- Properties of the two analog objects with a command priority. -/
def readCommandableAnalogProperty
    (object : BacnetObjectId)
    (objectName : List UInt8)
    (priority : BacnetCommandPriority Binary32)
    (units : UInt32)
    (outOfService : Bool)
    (property : BacnetPropertyId) : Option BacnetValue :=
  match property with
  | .presentValue => some (realValue priority.effectiveValue)
  | .units => some (enumeratedValue units)
  | .relinquishDefault => some (realValue priority.relinquishDefault)
  | _ => readCommonProperty object objectName outOfService property

/-- The own properties of a commandable Analog Value. -/
def readCommandableAnalogValueProperty
    (analogValue : BacnetServerCommandableAnalogValue)
    (property : BacnetPropertyId) : Option BacnetValue :=
  let object : BacnetObjectId :=
    ⟨BacnetObjectType.analogValue, analogValue.instance_⟩
  objects.readProperty object property
    (readCommandableAnalogProperty object analogValue.objectName
      analogValue.priority analogValue.units analogValue.outOfService
      property)

/-- The own properties of an Analog Output. -/
def readAnalogOutputProperty
    (analogOutput : BacnetServerAnalogOutput)
    (property : BacnetPropertyId) : Option BacnetValue :=
  let object : BacnetObjectId :=
    ⟨BacnetObjectType.analogOutput, analogOutput.instance_⟩
  objects.readProperty object property
    (readCommandableAnalogProperty object analogOutput.objectName
      analogOutput.priority analogOutput.units analogOutput.outOfService
      property)

/-- An input scale that cannot map the raw value makes the read fail. -/
def readAnalogInputProperty
    (analogInput : BacnetServerAnalogInput)
    (property : BacnetPropertyId) : Option BacnetValue :=
  let object : BacnetObjectId :=
    ⟨BacnetObjectType.analogInput, analogInput.instance_⟩
  objects.readProperty object property
    (match property with
    | .presentValue =>
        let raw :=
          analogInput.presentValueProvider.getD analogInput.presentValue
        if analogInput.hasInputScale then
          (analogInput.inputScale.apply raw).map realValue
        else
          some (realValue raw)
    | .units => some (enumeratedValue analogInput.units)
    | _ =>
        readCommonProperty object analogInput.objectName
          analogInput.outOfService property)

/-- The own properties of a Binary Input. -/
def readBinaryInputProperty
    (binaryInput : BacnetServerBinaryInput)
    (property : BacnetPropertyId) : Option BacnetValue :=
  let object : BacnetObjectId :=
    ⟨BacnetObjectType.binaryInput, binaryInput.instance_⟩
  objects.readProperty object property
    (match property with
    | .presentValue =>
        some (binaryEnumeration
          (binaryInput.presentValueProvider.getD binaryInput.presentValue))
    | _ =>
        readCommonProperty object binaryInput.objectName
          binaryInput.outOfService property)

/-- The own properties of a Binary Output. -/
def readBinaryOutputProperty
    (binaryOutput : BacnetServerBinaryOutput)
    (property : BacnetPropertyId) : Option BacnetValue :=
  let object : BacnetObjectId :=
    ⟨BacnetObjectType.binaryOutput, binaryOutput.instance_⟩
  objects.readProperty object property
    (match property with
    | .presentValue =>
        some (binaryEnumeration binaryOutput.priority.effectiveValue)
    | .reliability => some (enumeratedValue binaryOutput.reliability)
    | .polarity => some (enumeratedValue binaryOutput.polarity)
    | .relinquishDefault =>
        some (binaryEnumeration binaryOutput.priority.relinquishDefault)
    | _ =>
        readCommonProperty object binaryOutput.objectName
          binaryOutput.outOfService property)

/-- The own properties of a Binary Value. -/
def readBinaryValueProperty
    (binaryValue : BacnetServerBinaryValue)
    (property : BacnetPropertyId) : Option BacnetValue :=
  let object : BacnetObjectId :=
    ⟨BacnetObjectType.binaryValue, binaryValue.instance_⟩
  objects.readProperty object property
    (match property with
    | .presentValue =>
        some (binaryEnumeration binaryValue.priority.effectiveValue)
    | .relinquishDefault =>
        some (binaryEnumeration binaryValue.priority.relinquishDefault)
    | _ =>
        readCommonProperty object binaryValue.objectName
          binaryValue.outOfService property)

/-- The own properties of a Multi-state Value. -/
def readMultiStateValueProperty
    (multiStateValue : BacnetServerMultiStateValue)
    (property : BacnetPropertyId) : Option BacnetValue :=
  let object : BacnetObjectId :=
    ⟨BacnetObjectType.multiStateValue, multiStateValue.instance_⟩
  objects.readProperty object property
    (match property with
    | .presentValue => some (unsignedValue multiStateValue.presentValue)
    | .numberOfStates => some (unsignedValue multiStateValue.numberOfStates)
    | _ =>
        readCommonProperty object multiStateValue.objectName
          multiStateValue.outOfService property)

end ServerObjects

end BacnetStack
