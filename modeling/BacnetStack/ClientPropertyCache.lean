import BacnetStack.Client

namespace BacnetStack

/-!
# Read statuses and the property cache

How a session names the outcome of a read, and the bounded cache in which it
keeps the latest outcome for each property it has asked for.
-/

inductive BacnetDeviceSessionReadStatus where
  | ack
  | error
  | timeout
  | sendFailed
  | skipped
  | busy
  deriving Repr, DecidableEq, Inhabited

inductive BacnetDeviceSessionWriteStatus where
  | ack
  | error
  | notCommandable
  | reject
  | abort
  | timeout
  | sendFailed
  | disabled
  | invalidArgument
  | unsupportedValue
  | busy
  deriving Repr, DecidableEq, Inhabited

inductive BacnetPropertyReadStatus where
  | ack
  | unsupportedProperty
  | timeout
  | error
  | reject
  | abort
  | decodeError
  | emptyValue
  | unsupportedDatatype
  | arrayIndexNotSupported
  | sendFailed
  | busy
  | skipped
  deriving Repr, DecidableEq, Inhabited

def deviceReadStatusFromPropertyStatus :
    BacnetPropertyReadStatus → BacnetDeviceSessionReadStatus
  | .ack | .emptyValue | .unsupportedDatatype => .ack
  | .timeout => .timeout
  | .sendFailed => .sendFailed
  | .busy => .busy
  | _ => .error

abbrev kBacnetErrorClassProperty : UInt32 := 2
abbrev kBacnetErrorCodeUnknownProperty : UInt32 := 32
abbrev kBacnetErrorCodeInvalidArrayIndex : UInt32 := 42

/-- `classifyDetailedReadStatus` -/
def classifyDetailedReadStatus
    (poll : BacnetReadPropertyPoll)
    (requestArrayIndex : UInt32) : BacnetPropertyReadStatus :=
  match poll.status with
  | .ack =>
      if poll.value.type = .unsupported then
        .unsupportedDatatype
      else if poll.value.type = .empty ∨ poll.value.type = .null then
        .emptyValue
      else
        .ack
  | .error =>
      if poll.errorClass = kBacnetErrorClassProperty ∧
          poll.errorCode = kBacnetErrorCodeUnknownProperty then
        .unsupportedProperty
      else if requestArrayIndex ≠ kBacnetNoArrayIndex ∧
          poll.errorClass = kBacnetErrorClassProperty ∧
          poll.errorCode = kBacnetErrorCodeInvalidArrayIndex then
        .arrayIndexNotSupported
      else
        .error
  | .reject => .reject
  | .abort => .abort
  | .decodeError => .decodeError
  | .none => .timeout

structure BacnetCachedProperty where
  request : BacnetPropertyRequest := {}
  status : BacnetPropertyReadStatus := .skipped
  value : BacnetValue := {}
  updatedAtMs : UInt32 := 0
  lastAttemptMs : UInt32 := 0
  lastSuccessMs : UInt32 := 0
  errorClass : UInt32 := 0
  errorCode : UInt32 := 0
  hasValue : Bool := false
  deriving Repr, DecidableEq, Inhabited

/--
The cache of a session: one entry for each used slot, the number of used
slots and the slot to be filled next.
-/
structure PropertyCache where
  slots : List (Option BacnetCachedProperty)
  count : Nat := 0
  nextSlot : Nat := 0
  deriving Repr, DecidableEq

namespace PropertyCache

/-- A cache without entries. -/
def ofSize (size : Nat) : PropertyCache :=
  { slots := List.replicate size none }

instance : Inhabited PropertyCache :=
  ⟨ofSize 8⟩

variable (cache : PropertyCache)

/-- The slot that holds the outcome for a request. -/
def usedSlot? (request : BacnetPropertyRequest) : Option Nat :=
  cache.slots.findIdx? fun slot =>
    slot.any fun entry => decide (entry.request = request)

/-- `findCachedProperty` -/
def find? (request : BacnetPropertyRequest) : Option BacnetCachedProperty :=
  (cache.usedSlot? request).bind fun slot => cache.slots[slot]?.join

/-- The first unused slot from `nextSlot` on, while the cache is not full. -/
def freeSlot? : Option Nat :=
  if cache.count < cache.slots.length then
    ((List.range cache.slots.length).map fun step =>
      (cache.nextSlot + step) % cache.slots.length).find? fun slot =>
        cache.slots[slot]? == some none
  else
    none

/-- Use a slot for a new request, instead of whatever it held. -/
def claim
    (slot : Nat)
    (count : Nat)
    (request : BacnetPropertyRequest) : PropertyCache where
  slots := cache.slots.set slot (some { request := request })
  count := count
  nextSlot := (slot + 1) % cache.slots.length

/-- `findOrCreateCachedProperty` -/
def findOrCreate
    (request : BacnetPropertyRequest) : Nat × PropertyCache :=
  match cache.usedSlot? request with
  | some slot => (slot, cache)
  | none =>
      match cache.freeSlot? with
      | some slot => (slot, cache.claim slot (cache.count + 1) request)
      | none =>
          (cache.nextSlot,
            cache.claim cache.nextSlot cache.count request)

end PropertyCache

/--
The entry after another attempt.  A failed attempt keeps an earlier value,
and is remembered as the value only where there is none.
-/
def BacnetCachedProperty.attempted
    (entry : BacnetCachedProperty)
    (status : BacnetPropertyReadStatus)
    (value : Option BacnetValue)
    (attemptAtMs errorClass errorCode : UInt32) : BacnetCachedProperty :=
  let entry := {
    entry with
    status := status
    lastAttemptMs := attemptAtMs
    errorClass := errorClass
    errorCode := errorCode
  }
  match value with
  | none => entry
  | some value =>
      if status = .ack then
        { entry with
          value := value
          hasValue := true
          lastSuccessMs := attemptAtMs
          updatedAtMs := attemptAtMs }
      else if entry.hasValue then
        entry
      else
        { entry with value := value }

/-- `updatePropertyCache` -/
def PropertyCache.update
    (cache : PropertyCache)
    (request : BacnetPropertyRequest)
    (status : BacnetPropertyReadStatus)
    (value : Option BacnetValue)
    (attemptAtMs errorClass errorCode : UInt32) : PropertyCache :=
  let (slot, cache) := cache.findOrCreate request
  { cache with
    slots := cache.slots.modify slot fun entry =>
      entry.map fun entry =>
        entry.attempted status value attemptAtMs errorClass errorCode }

end BacnetStack
