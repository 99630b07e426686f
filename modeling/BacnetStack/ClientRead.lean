import BacnetStack.ClientSubscription

namespace BacnetStack

/-!
# Reads and writes of a session

The blocking calls, which poll the socket until a response or a timeout, and
the read job, which is polled by the application.  A blocking call is given
the number of rounds its loop may take; one that needs more is still waiting.
-/

/-- How far a blocking wait has come. -/
inductive Wait (Outcome : Type) where
  | answered (outcome : Outcome)
  | timedOut
  | waiting
  deriving Repr, DecidableEq

namespace BacnetClient

variable {τ Outcome : Type} (runtime : ClientRuntime τ)

/-- The loop of the blocking calls: poll, then look at the clock. -/
def await
    (poll : BacnetClient τ → Option Outcome × BacnetClient τ)
    (startedAt timeoutMs : UInt32) :
    Nat → BacnetClient τ → Wait Outcome × BacnetClient τ
  | 0, client => (.waiting, client)
  | rounds + 1, client =>
      match poll client with
      | (some outcome, client) => (.answered outcome, client)
      | (none, client) =>
          let (now, client) := client.nowMs runtime
          if timeoutMs ≤ now - startedAt then
            (.timedOut, client)
          else
            await poll startedAt timeoutMs rounds (client.idle runtime)

/-- One round of waiting for a ReadProperty response. -/
def awaitedRead
    (invokeId : UInt8)
    (request : BacnetPropertyRequest)
    (client : BacnetClient τ) :
    Option BacnetReadPropertyPoll × BacnetClient τ :=
  let (poll, client) :=
    client.pollReadPropertyStatus runtime invokeId request
  (if poll.status = .none then none else some poll, client)

/-- One round of waiting for a priority array. -/
def awaitedPriorityArray
    (invokeId : UInt8)
    (request : BacnetPropertyRequest)
    (client : BacnetClient τ) :
    Option (BacnetReadPropertyPoll × List BacnetValue) × BacnetClient τ :=
  let (poll, client) :=
    client.pollReadPriorityArrayStatus runtime invokeId request
  (if poll.1.status = .none then none else some poll, client)

/-- One round of waiting for a WriteProperty response. -/
def awaitedWrite
    (ends :
      BacnetWritePropertyPollStatus →
        Option BacnetDeviceSessionWriteStatus)
    (invokeId : UInt8)
    (client : BacnetClient τ) :
    Option BacnetDeviceSessionWriteStatus × BacnetClient τ :=
  let (status, client) := client.pollWriteProperty runtime invokeId
  (ends status, client)

end BacnetClient

/-- The poll statuses that end a write without options. -/
def writeEnd :
    BacnetWritePropertyPollStatus → Option BacnetDeviceSessionWriteStatus
  | .none => none
  | .ack => some .ack
  | .notCommandable => some .notCommandable
  | .reject => some .reject
  | .abort => some .abort
  | .disabled => some .disabled
  | .sendFailed => some .sendFailed
  | .error | .decodeError | .invalidArgument | .unsupportedValue =>
      some .error

/-- The poll statuses that end a write with options. -/
def writeEndWithOptions :
    BacnetWritePropertyPollStatus → Option BacnetDeviceSessionWriteStatus
  | .ack => some .ack
  | .error => some .error
  | .notCommandable => some .notCommandable
  | .reject => some .reject
  | .abort => some .abort
  | .none | .decodeError | .disabled | .invalidArgument | .unsupportedValue
  | .sendFailed => none

/-- What a write without options reports when it was not sent. -/
def writeNotSent :
    BacnetWritePropertyPollStatus → Option BacnetDeviceSessionWriteStatus
  | .none => none
  | .disabled => some .disabled
  | .invalidArgument => some .invalidArgument
  | .unsupportedValue => some .unsupportedValue
  | .sendFailed => some .sendFailed
  | _ => some .error

/-- What a write with options reports when it was not sent. -/
def writeNotSentWithOptions :
    BacnetWritePropertyPollStatus → Option BacnetDeviceSessionWriteStatus
  | .none => none
  | .disabled => some .disabled
  | .invalidArgument => some .invalidArgument
  | .unsupportedValue => some .unsupportedValue
  | _ => some .sendFailed

/-- Result of a blocking read. -/
structure PropertyReadResult where
  status : BacnetPropertyReadStatus
  value : BacnetValue := {}
  errorClass : UInt32 := 0
  errorCode : UInt32 := 0
  deriving Repr, DecidableEq

/-- The result of an answered read. -/
def PropertyReadResult.ofPoll
    (poll : BacnetReadPropertyPoll)
    (arrayIndex : UInt32) : PropertyReadResult where
  status := classifyDetailedReadStatus poll arrayIndex
  value := poll.value
  errorClass := poll.errorClass
  errorCode := poll.errorCode

namespace ClientSystem

variable {τ : Type} (runtime : ClientRuntime τ)

/-- A failed attempt goes into the cache with the current time. -/
def cacheFailure
    (system : ClientSystem τ)
    (id : SessionId)
    (request : BacnetPropertyRequest)
    (status : BacnetPropertyReadStatus) : ClientSystem τ :=
  let (now, system) := system.onClient fun client => client.nowMs runtime
  system.setSession id
    ((system.sessions id).updatePropertyCache request status none now)

/-- `readPropertyDetailed`; no result means that it still waits. -/
def readPropertyDetailed
    (system : ClientSystem τ)
    (id : SessionId)
    (request : BacnetPropertyRequest)
    (timeoutMs : UInt32)
    (rounds : Nat) : Option PropertyReadResult × ClientSystem τ :=
  if (system.sessions id).isBusy then
    (some { status := .busy },
      system.cacheFailure runtime id request .busy)
  else
    let (invokeId, system) := system.allocateInvokeId id
    let (sent, system) := system.onClient fun client =>
      client.sendReadProperty runtime (system.sessions id).endpoint
        request invokeId
    if !sent then
      (some { status := .sendFailed },
        system.cacheFailure runtime id request .sendFailed)
    else
      let (startedAt, system) := system.onClient fun client =>
        client.nowMs runtime
      let (wait, system) := system.onClient fun client =>
        client.await runtime (BacnetClient.awaitedRead runtime invokeId request)
          startedAt timeoutMs rounds
      match wait with
      | .waiting => (none, system)
      | .timedOut =>
          (some { status := .timeout },
            system.cacheFailure runtime id request .timeout)
      | .answered poll =>
          let result := PropertyReadResult.ofPoll poll request.arrayIndex
          let (now, system) := system.onClient fun client =>
            client.nowMs runtime
          (some result,
            system.setSession id
              ((system.sessions id).updatePropertyCache request result.status
                (some result.value) now result.errorClass result.errorCode))

/-- The request for a whole priority array. -/
def priorityArrayRequest (object : BacnetObjectId) : BacnetPropertyRequest where
  object := object
  property := .priorityArray
  arrayIndex := kBacnetNoArrayIndex

/-- `readPriorityArray`; the slots are those of an acknowledgement. -/
def readPriorityArray
    (system : ClientSystem τ)
    (id : SessionId)
    (object : BacnetObjectId)
    (timeoutMs : UInt32)
    (rounds : Nat) :
    Option (BacnetPropertyReadStatus × List BacnetValue) ×
      ClientSystem τ :=
  let request := priorityArrayRequest object
  if (system.sessions id).isBusy then
    (some (.busy, []), system)
  else
    let (invokeId, system) := system.allocateInvokeId id
    let (sent, system) := system.onClient fun client =>
      client.sendReadProperty runtime (system.sessions id).endpoint
        request invokeId
    if !sent then
      (some (.sendFailed, []), system)
    else
      let (startedAt, system) := system.onClient fun client =>
        client.nowMs runtime
      let (wait, system) := system.onClient fun client =>
        client.await runtime
          (BacnetClient.awaitedPriorityArray runtime invokeId request)
          startedAt timeoutMs rounds
      match wait with
      | .waiting => (none, system)
      | .timedOut => (some (.timeout, []), system)
      | .answered (poll, slots) =>
          if poll.status = .ack then
            (some (.ack, slots), system)
          else
            -- The value of a failed poll is not looked at.
            (some (classifyDetailedReadStatus { poll with value := {} }
              kBacnetNoArrayIndex, slots), system)

/-- The common part of the blocking writes, once the request is on its way. -/
def awaitWrite
    (system : ClientSystem τ)
    (invokeId : UInt8)
    (ends :
      BacnetWritePropertyPollStatus →
        Option BacnetDeviceSessionWriteStatus)
    (timeoutMs : UInt32)
    (rounds : Nat) :
    Option BacnetDeviceSessionWriteStatus × ClientSystem τ :=
  let (startedAt, system) := system.onClient fun client =>
    client.nowMs runtime
  let (wait, system) := system.onClient fun client =>
    client.await runtime (BacnetClient.awaitedWrite runtime ends invokeId)
      startedAt timeoutMs rounds
  match wait with
  | .waiting => (none, system)
  | .timedOut => (some .timeout, system)
  | .answered status => (some status, system)

/-- `writeProperty` of a property reference, without options. -/
def writeProperty
    (system : ClientSystem τ)
    (id : SessionId)
    (request : BacnetPropertyRequest)
    (value : BacnetValue)
    (timeoutMs : UInt32)
    (rounds : Nat) :
    Option BacnetDeviceSessionWriteStatus × ClientSystem τ :=
  if (system.sessions id).isBusy then
    (some .busy, system)
  else if !runtime.writePropertyEnabled then
    (some .disabled, system)
  else
    let (invokeId, system) := system.allocateInvokeId id
    let (sendStatus, system) := system.onClient fun client =>
      client.sendWriteProperty runtime (system.sessions id).endpoint
        request value invokeId
    match writeNotSent sendStatus with
    | some status => (some status, system)
    | none => system.awaitWrite runtime invokeId writeEnd timeoutMs rounds

/-- `writeProperty` with options. -/
def writePropertyWithOptions
    (system : ClientSystem τ)
    (id : SessionId)
    (object : BacnetObjectId)
    (property : BacnetPropertyId)
    (value : BacnetValue)
    (options : BacnetWritePropertyOptions)
    (timeoutMs : UInt32)
    (rounds : Nat) :
    Option BacnetDeviceSessionWriteStatus × ClientSystem τ :=
  if (system.sessions id).isBusy then
    (some .busy, system)
  else if !BacnetClient.writeEnabled runtime options.hasPriority then
    (some .disabled, system)
  else
    let (invokeId, system) := system.allocateInvokeId id
    let (sendStatus, system) := system.onClient fun client =>
      client.sendWritePropertyWithOptions runtime
        (system.sessions id).endpoint object property value options invokeId
    match writeNotSentWithOptions sendStatus with
    | some status => (some status, system)
    | none =>
        system.awaitWrite runtime invokeId writeEndWithOptions timeoutMs
          rounds

/-- `releasePropertyRead` -/
def releasePropertyRead
    (system : ClientSystem τ)
    (id : SessionId)
    (read : ReadId) : ClientSystem τ :=
  let session := system.sessions id
  (system.setSession id
    { session with
      inFlightPropertyRead :=
        if session.inFlightPropertyRead = some read then none
        else session.inFlightPropertyRead }).setRead read
    { system.reads read with invokeId := 0, startedAtMs := 0 }

/-- `finishPropertyRead`; `value` is absent where nothing was received. -/
def finishPropertyRead
    (system : ClientSystem τ)
    (id : SessionId)
    (read : ReadId)
    (status : BacnetPropertyReadStatus)
    (value : Option BacnetValue)
    (nowMs errorClass errorCode : UInt32) : ClientSystem τ :=
  let job := system.reads read
  let cached := system.setSession id
    ((system.sessions id).updatePropertyCache job.request status value nowMs
      errorClass errorCode)
  let released := cached.releasePropertyRead id read
  released.setRead read
    { released.reads read with
      readStatus := status
      value := value.getD {}
      errorClass := errorClass
      errorCode := errorCode
      status :=
        if status = .ack ∨ status = .emptyValue then .complete
        else .failed }

def beginPropertyRead
    (system : ClientSystem τ)
    (id : SessionId)
    (read : ReadId)
    (request : BacnetPropertyRequest)
    (timeoutMs nowMs : UInt32) : Bool × ClientSystem τ :=
  let (nowMs, system) := system.resolveNow runtime nowMs
  if (system.sessions id).isBusy || (system.reads read).isActive then
    (false, system)
  else
    let job : BacnetPropertyReadJob := {
      session := some id
      status := .active
      request := request
      timeoutMs := timeoutMs
    }
    let system := (system.setRead read job).setSession id
      { system.sessions id with inFlightPropertyRead := some read }
    let (invokeId, system) := system.allocateInvokeId id
    let (sent, system) := system.onClient fun client =>
      client.sendReadProperty runtime (system.sessions id).endpoint
        request invokeId
    if sent then
      (true, system.setRead read
        { job with invokeId := invokeId, startedAtMs := nowMs })
    else
      (false, system.finishPropertyRead id read .sendFailed none nowMs 0 0)

def pollInFlightPropertyRead
    (system : ClientSystem τ)
    (id : SessionId)
    (nowMs : UInt32) : ClientSystem τ :=
  match (system.sessions id).inFlightPropertyRead with
  | none => system
  | some read =>
      let job := system.reads read
      let (poll, system) := system.onClient fun client =>
        client.pollReadPropertyStatus runtime job.invokeId job.request
      if poll.status ≠ .none then
        system.finishPropertyRead id read
          (classifyDetailedReadStatus poll job.request.arrayIndex)
          (some poll.value) nowMs poll.errorClass poll.errorCode
      else if job.timeoutMs ≤ nowMs - job.startedAtMs then
        system.finishPropertyRead id read .timeout none nowMs 0 0
      else
        system

def pollPropertyRead
    (system : ClientSystem τ)
    (id : SessionId)
    (read : ReadId)
    (nowMs : UInt32) : ClientSystem τ :=
  let (nowMs, system) := system.resolveNow runtime nowMs
  if (system.reads read).session = some id ∧
      (system.reads read).isActive = true then
    system.pollInFlightPropertyRead runtime id nowMs
  else
    system

def cancelPropertyRead
    (system : ClientSystem τ)
    (id : SessionId)
    (read : ReadId) : ClientSystem τ :=
  if (system.reads read).session = some id ∧
      (system.reads read).isActive = true then
    let released := system.releasePropertyRead id read
    released.setRead read
      { released.reads read with status := .cancelled }
  else
    system

end ClientSystem

end BacnetStack
