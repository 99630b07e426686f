import BacnetStack.ClientRead

namespace BacnetStack

/-!
# Reading a property list

The blocking `readPropertyList` asks for the length of the Property_List and
then for one entry after the other, as far as the caller's buffer reaches.
The first read that is not answered with a property ends it.
-/

/-- Result of `readPropertyList`, with what is written to the buffer. -/
structure BacnetPropertyListReadResult where
  status : BacnetPropertyReadStatus := .skipped
  advertised : UInt32 := 0
  stored : Nat := 0
  truncated : Bool := false
  properties : List BacnetPropertyId := []
  deriving Repr, DecidableEq, Inhabited

/-- The property an entry of a Property_List names. -/
def bacnetPropertyIdFromPropertyListValue
    (value : BacnetValue) : Option BacnetPropertyId :=
  if value.type ≠ .enumerated ∧ value.type ≠ .unsigned then
    none
  else
    some ⟨value.unsignedValue⟩

namespace BacnetPropertyListReadResult

variable (result : BacnetPropertyListReadResult)

/-- Count a property, and write it unless the buffer is missing. -/
def store
    (hasProperties : Bool)
    (property : BacnetPropertyId) : BacnetPropertyListReadResult :=
  { result with
    stored := result.stored + 1
    properties :=
      if hasProperties then result.properties ++ [property]
      else result.properties }

/-- The length of the list was read. -/
def advertise
    (count : UInt32)
    (propertyCapacity : Nat) : BacnetPropertyListReadResult :=
  { result with
    advertised := count
    truncated := decide (propertyCapacity < count.toNat) }

/-- How many entries are asked for. -/
def limit (propertyCapacity : Nat) : Nat :=
  if result.advertised.toNat < propertyCapacity then
    result.advertised.toNat
  else
    propertyCapacity

end BacnetPropertyListReadResult

/-- The request for one entry of the Property_List, or for its length. -/
def propertyListRequest
    (object : BacnetObjectId)
    (arrayIndex : UInt32) : BacnetPropertyRequest where
  object := object
  property := .propertyList
  arrayIndex := arrayIndex

namespace ClientSystem

variable {τ : Type} (runtime : ClientRuntime τ)

/-- The loop of `readPropertyList`, from an entry on. -/
def readPropertyListEntries
    (id : SessionId)
    (object : BacnetObjectId)
    (hasProperties : Bool)
    (timeoutMs : UInt32)
    (rounds : Nat) :
    Nat → Nat → BacnetPropertyListReadResult → ClientSystem τ →
      Option BacnetPropertyListReadResult × ClientSystem τ
  | 0, _, result, system => (some result, system)
  | remaining + 1, index, result, system =>
      match
        system.readPropertyDetailed runtime id
          (propertyListRequest object (UInt32.ofNat (index + 1)))
          timeoutMs rounds with
      | (none, system) => (none, system)
      | (some read, system) =>
          if read.status ≠ .ack then
            (some { result with status := read.status }, system)
          else
            match bacnetPropertyIdFromPropertyListValue read.value with
            | none => (some { result with status := .decodeError }, system)
            | some property =>
                readPropertyListEntries id object hasProperties timeoutMs
                  rounds remaining (index + 1)
                  (result.store hasProperties property) system

/-- `readPropertyList`; no result means that a read still waits. -/
def readPropertyList
    (system : ClientSystem τ)
    (id : SessionId)
    (object : BacnetObjectId)
    (hasProperties : Bool)
    (propertyCapacity : Nat)
    (timeoutMs : UInt32)
    (rounds : Nat) :
    Option BacnetPropertyListReadResult × ClientSystem τ :=
  match
    system.readPropertyDetailed runtime id (propertyListRequest object 0)
      timeoutMs rounds with
  | (none, system) => (none, system)
  | (some read, system) =>
      let result : BacnetPropertyListReadResult := { status := read.status }
      if read.status ≠ .ack then
        (some result, system)
      else if read.value.type ≠ .unsigned then
        (some { result with status := .decodeError }, system)
      else
        let result :=
          result.advertise read.value.unsignedValue propertyCapacity
        system.readPropertyListEntries runtime id object hasProperties
          timeoutMs rounds (result.limit propertyCapacity) 0 result

end ClientSystem

end BacnetStack
