import BacnetStack.ServerReadProperty

namespace BacnetStack

/-!
# WriteProperty

Remote writes to the four commandable kinds, and the local operations an
application has on the same objects.  A successful write replaces the object
it addresses in the registry; every refused one is an error with the objects
as they were.
-/

/-- A call out of the server, of a Boolean or of a Real object. -/
inductive CommandCall where
  | binary (object : BacnetObjectId) (event : CommandEvent Bool)
  | analog (object : BacnetObjectId) (event : CommandEvent Binary32)

/-- `!=` of Boolean values. -/
def binaryDiffers (left right : Bool) : Bool :=
  left != right

/-- `!=` of Real values. -/
def analogDiffers (left right : Binary32) : Bool :=
  !Binary32.feq left right

namespace BacnetServerBinaryOutput

variable (output : BacnetServerBinaryOutput)

def objectId : BacnetObjectId :=
  ⟨BacnetObjectType.binaryOutput, output.instance_⟩

def commandTarget : CommandTarget Bool :=
  { object := output.objectId
    priority := output.priority
    callbackInProgress := output.callbackInProgress
    callbackStorage := output.callbackStorage
    hasApply := output.hasApply
    outOfService := output.outOfService }

def applyPriorityValue
    (value : Bool)
    (priorityValue : UInt8)
    (relinquish : Bool)
    (origin : BacnetChangeOrigin) : Option (CommandWriteResult Bool) :=
  applyCommandPriorityValue binaryDiffers output.commandTarget
    value priorityValue relinquish origin

def setRelinquishDefaultValue
    (value : Bool)
    (origin : BacnetChangeOrigin) : Option (CommandWriteResult Bool) :=
  setCommandRelinquishDefault binaryDiffers output.commandTarget value origin

/-- Local writes with priority 0 go to the relinquish default. -/
def applyLocalWrite
    (value : Bool)
    (priorityValue : UInt8)
    (relinquish : Bool) : Option (CommandWriteResult Bool) :=
  if priorityValue = 0 then
    if relinquish then
      none
    else
      output.setRelinquishDefaultValue value .relinquishDefault
  else
    output.applyPriorityValue value priorityValue relinquish .local

/-- The priority of a local write without one of its own. -/
def defaultWritePriority (serverLocalWritePriority : Option UInt8) : UInt8 :=
  if output.hasLocalWritePriority then
    output.localWritePriority
  else
    serverLocalWritePriority.getD (UInt8.ofNat kSlotCount)

/-- `relinquish`; priority 0 is refused. -/
def relinquish
    (priorityValue : UInt8) : Option (CommandWriteResult Bool) :=
  if priorityValue = 0 then
    none
  else
    output.applyLocalWrite false priorityValue true

end BacnetServerBinaryOutput

namespace BacnetServerCommandableAnalogValue

variable (value : BacnetServerCommandableAnalogValue)

def objectId : BacnetObjectId :=
  ⟨BacnetObjectType.analogValue, value.instance_⟩

/-- A commandable Analog Value has no apply hook. -/
def commandTarget : CommandTarget Binary32 :=
  { object := value.objectId
    priority := value.priority
    callbackInProgress := value.callbackInProgress
    callbackStorage := value.callbackStorage
    hasApply := false
    outOfService := value.outOfService }

def applyPriorityValue
    (written : Binary32)
    (priorityValue : UInt8)
    (relinquish : Bool)
    (origin : BacnetChangeOrigin) : Option (CommandWriteResult Binary32) :=
  applyCommandPriorityValue analogDiffers value.commandTarget
    written priorityValue relinquish origin

def setRelinquishDefaultValue
    (written : Binary32)
    (origin : BacnetChangeOrigin) : Option (CommandWriteResult Binary32) :=
  setCommandRelinquishDefault analogDiffers value.commandTarget written origin

end BacnetServerCommandableAnalogValue

namespace BacnetServerAnalogOutput

variable (output : BacnetServerAnalogOutput)

def objectId : BacnetObjectId :=
  ⟨BacnetObjectType.analogOutput, output.instance_⟩

def commandTarget : CommandTarget Binary32 :=
  { object := output.objectId
    priority := output.priority
    callbackInProgress := output.callbackInProgress
    callbackStorage := output.callbackStorage
    hasApply := output.hasApply
    outOfService := output.outOfService }

def applyPriorityValue
    (written : Binary32)
    (priorityValue : UInt8)
    (relinquish : Bool)
    (origin : BacnetChangeOrigin) : Option (CommandWriteResult Binary32) :=
  applyCommandPriorityValue analogDiffers output.commandTarget
    written priorityValue relinquish origin

def setRelinquishDefaultValue
    (written : Binary32)
    (origin : BacnetChangeOrigin) : Option (CommandWriteResult Binary32) :=
  setCommandRelinquishDefault analogDiffers output.commandTarget written origin

end BacnetServerAnalogOutput

/-- Replace the first entry a test accepts. -/
def replaceFirst {α : Type}
    (accepts : α → Bool)
    (replace : α → α) : List α → List α
  | [] => []
  | entry :: rest =>
      if accepts entry then
        replace entry :: rest
      else
        entry :: replaceFirst accepts replace rest

namespace ServerObjects

variable (objects : ServerObjects)

def updateCommandableAnalogValue
    (instance_ : UInt32)
    (update : BacnetServerCommandableAnalogValue →
      BacnetServerCommandableAnalogValue) : ServerObjects :=
  { objects with
    commandableAnalogValues :=
      replaceFirst (fun value => value.instance_ == instance_) update
        objects.commandableAnalogValues }

def updateAnalogOutput
    (instance_ : UInt32)
    (update : BacnetServerAnalogOutput → BacnetServerAnalogOutput) :
    ServerObjects :=
  { objects with
    analogOutputs :=
      replaceFirst (fun output => output.instance_ == instance_) update
        objects.analogOutputs }

def updateBinaryValue
    (instance_ : UInt32)
    (update : BacnetServerBinaryValue → BacnetServerBinaryValue) :
    ServerObjects :=
  { objects with
    binaryValues :=
      replaceFirst (fun value => value.instance_ == instance_) update
        objects.binaryValues }

/-- The output is looked up in the registration form in use. -/
def updateBinaryOutput
    (instance_ : UInt32)
    (update : BacnetServerBinaryOutput → BacnetServerBinaryOutput) :
    ServerObjects :=
  if objects.objectCentricBinaryOutputs.isEmpty then
    { objects with
      binaryOutputs :=
        replaceFirst (fun output => output.instance_ == instance_) update
          objects.binaryOutputs }
  else
    { objects with
      objectCentricBinaryOutputs :=
        replaceFirst
          (fun source => source.object.instance_ == instance_)
          (fun source => { source with object := update source.object })
          objects.objectCentricBinaryOutputs }

end ServerObjects

/-- The commandable object a write addresses. -/
inductive WriteTarget where
  | binaryOutput (output : BacnetServerBinaryOutput)
  | binaryValue (value : BacnetServerBinaryValue)
  | commandableAnalogValue (value : BacnetServerCommandableAnalogValue)
  | analogOutput (output : BacnetServerAnalogOutput)

/-- The objects after an accepted write, with the calls it made. -/
structure WriteEffect where
  objects : ServerObjects
  calls : List CommandCall := []

namespace ServerObjects

variable (objects : ServerObjects)

def findWriteTarget (object : BacnetObjectId) : Option WriteTarget :=
  if object.type = BacnetObjectType.binaryOutput then
    (objects.findBinaryOutput object.instance_).map .binaryOutput
  else if object.type = BacnetObjectType.binaryValue then
    (objects.findBinaryValue object.instance_).map .binaryValue
  else if object.type = BacnetObjectType.analogValue then
    (objects.findCommandableAnalogValue object.instance_).map
      .commandableAnalogValue
  else if object.type = BacnetObjectType.analogOutput then
    (objects.findAnalogOutput object.instance_).map .analogOutput
  else
    none

/-- Store a written Binary Output. -/
def commitBinaryOutput
    (output : BacnetServerBinaryOutput)
    (written : CommandWriteResult Bool) : WriteEffect :=
  { objects :=
      objects.updateBinaryOutput output.instance_ fun output =>
        { output with priority := written.priority }
    calls := written.events.map (.binary output.objectId) }

/-- Store a written commandable Analog Value. -/
def commitCommandableAnalogValue
    (value : BacnetServerCommandableAnalogValue)
    (written : CommandWriteResult Binary32) : WriteEffect :=
  { objects :=
      objects.updateCommandableAnalogValue value.instance_ fun value =>
        { value with priority := written.priority }
    calls := written.events.map (.analog value.objectId) }

/-- Store a written Analog Output. -/
def commitAnalogOutput
    (output : BacnetServerAnalogOutput)
    (written : CommandWriteResult Binary32) : WriteEffect :=
  { objects :=
      objects.updateAnalogOutput output.instance_ fun output =>
        { output with priority := written.priority }
    calls := written.events.map (.analog output.objectId) }

/-- Store a written Binary Value, which makes no calls. -/
def commitBinaryValue
    (value : BacnetServerBinaryValue)
    (written : BacnetCommandPriority Bool) : WriteEffect :=
  { objects :=
      objects.updateBinaryValue value.instance_ fun value =>
        { value with priority := written } }

/-- The write of a Present_Value whose priority and type were checked. -/
def applyPresentValue
    (target : WriteTarget)
    (value : BacnetValue)
    (priorityValue : UInt8) : Option WriteEffect :=
  let relinquish := value.type == .null
  match target with
  | .commandableAnalogValue target =>
      (target.applyPriorityValue value.realValue priorityValue relinquish
        .bacnetWriteProperty).map
        (objects.commitCommandableAnalogValue target)
  | .analogOutput target =>
      (target.applyPriorityValue value.realValue priorityValue relinquish
        .bacnetWriteProperty).map
        (objects.commitAnalogOutput target)
  | .binaryOutput target =>
      (target.applyPriorityValue (value.unsignedValue == 1) priorityValue
        relinquish .bacnetWriteProperty).map
        (objects.commitBinaryOutput target)
  | .binaryValue target =>
      (target.priority.write priorityValue relinquish
        (value.unsignedValue == 1)).map
        (objects.commitBinaryValue target)

/-- Whether a value can be written to the Present_Value of an object. -/
def validPresentValue
    (target : WriteTarget)
    (value : BacnetValue) : Bool :=
  match target with
  | .commandableAnalogValue _ => value.type == .null || value.type == .real
  | .analogOutput _ => value.type == .null || value.type == .real
  | .binaryOutput _ =>
      value.type == .null ||
        (value.type == .enumerated && decide (value.unsignedValue ≤ 1))
  | .binaryValue _ =>
      value.type == .null ||
        (value.type == .enumerated && decide (value.unsignedValue ≤ 1))

/-- Set Out_Of_Service; an apply hook is called with the new state. -/
def applyOutOfService
    (target : WriteTarget)
    (outOfService : Bool) : WriteEffect :=
  match target with
  | .analogOutput target =>
      { objects :=
          objects.updateAnalogOutput target.instance_ fun output =>
            { output with outOfService := outOfService }
        calls :=
          if target.hasApply then
            [.analog target.objectId
              (.apply target.priority.effectiveValue outOfService)]
          else [] }
  | .commandableAnalogValue target =>
      { objects :=
          objects.updateCommandableAnalogValue target.instance_ fun value =>
            { value with outOfService := outOfService } }
  | .binaryOutput target =>
      { objects :=
          objects.updateBinaryOutput target.instance_ fun output =>
            { output with outOfService := outOfService }
        calls :=
          if target.hasApply then
            [.binary target.objectId
              (.apply target.priority.effectiveValue outOfService)]
          else [] }
  | .binaryValue target =>
      { objects :=
          objects.updateBinaryValue target.instance_ fun value =>
            { value with outOfService := outOfService } }

/-- The checks of a write in the order of the source, and its effect. -/
def writeProperty
    (request : BacnetWritePropertyRequestHeader) :
    Except BacnetError WriteEffect :=
  match objects.findWriteTarget request.request.object with
  | none => .error unknownObjectError
  | some target =>
      if request.request.arrayIndex ≠ kBacnetNoArrayIndex then
        .error invalidArrayIndexError
      else if request.request.property = .presentValue then
        let priorityValue :=
          if request.hasPriority then request.priority else 16
        if priorityValue = 0 ∨ kSlotCount < priorityValue.toNat then
          .error valueOutOfRangeError
        else if !validPresentValue target request.value then
          .error invalidDataTypeError
        else
          match objects.applyPresentValue target request.value
              priorityValue with
          | some effect => .ok effect
          | none => .error valueOutOfRangeError
      else if request.request.property = .outOfService then
        if request.hasPriority ∨ request.value.type ≠ .boolean then
          .error invalidDataTypeError
        else
          .ok (objects.applyOutOfService target request.value.booleanValue)
      else
        .error writeAccessDeniedError

end ServerObjects

namespace BacnetServer

def handleWriteProperty
    (server : BacnetServer)
    (input : PollInput)
    (request : BacnetWritePropertyRequestHeader) : PollOutput :=
  match server.objects.writeProperty request with
  | .ok effect =>
      sendReply { server with objects := effect.objects } input
        (buildWritePropertyAck kMaxDatagramSize request.invokeId)
        .writePropertyAckSent
  | .error (errorClass, errorCode) =>
      sendReply server input
        (buildWritePropertyError kMaxDatagramSize request.invokeId
          errorClass errorCode) .writePropertyErrorSent

end BacnetServer

end BacnetStack
