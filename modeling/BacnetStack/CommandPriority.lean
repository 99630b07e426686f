import BacnetStack.PriorityMap
import BacnetStack.ProtocolTypes
import Mathlib.Data.Fintype.Pi

namespace BacnetStack

/-!
# Command priorities

The sixteen-slot storage every commandable object shares, and the write path
with its apply hook and change callbacks.  Hooks and callbacks appear as the
list of calls the write makes, in call order.
-/

/-- Number of priority slots. -/
abbrev kSlotCount : Nat := 16

/-- Sixteen command slots over a default. -/
structure BacnetCommandPriority (α : Type) where
  relinquishDefault : α
  slots : Fin kSlotCount → α
  occupied : Fin kSlotCount → Bool

namespace BacnetCommandPriority

variable {α : Type}

/-- Storage whose slots are all free. -/
def empty (value : α) : BacnetCommandPriority α :=
  { relinquishDefault := value
    slots := fun _ => value
    occupied := fun _ => false }

/-- The occupied slot of highest priority. -/
def effectiveSlot?
    (priority : BacnetCommandPriority α) : Option (Fin kSlotCount) :=
  (List.finRange kSlotCount).find? priority.occupied

def effectiveValue (priority : BacnetCommandPriority α) : α :=
  match priority.effectiveSlot? with
  | some index => priority.slots index
  | none => priority.relinquishDefault

/-- The effective priority 1 to 16, or 0 for the default. -/
def effectivePriority (priority : BacnetCommandPriority α) : UInt8 :=
  match priority.effectiveSlot? with
  | some index => UInt8.ofNat (index.val + 1)
  | none => 0

/-- The slot a priority number addresses. -/
def slotIndex? (priorityValue : UInt8) : Option (Fin kSlotCount) :=
  if addressed : priorityValue ≠ 0 ∧ priorityValue.toNat ≤ kSlotCount then
    some ⟨priorityValue.toNat - 1, by
      have positive : priorityValue.toNat ≠ 0 := fun zero =>
        addressed.1 (UInt8.toNat_inj.mp zero)
      omega⟩
  else
    none

/-- Occupy a slot with a value, or free it and keep the stale value. -/
def writeSlot
    (priority : BacnetCommandPriority α)
    (index : Fin kSlotCount)
    (relinquish : Bool)
    (value : α) : BacnetCommandPriority α :=
  { priority with
    occupied := Function.update priority.occupied index (!relinquish)
    slots :=
      if relinquish then
        priority.slots
      else
        Function.update priority.slots index value }

/-- `write`; `none` stands for the refused call. -/
def write
    (priority : BacnetCommandPriority α)
    (priorityValue : UInt8)
    (relinquish : Bool)
    (value : α) : Option (BacnetCommandPriority α) :=
  (slotIndex? priorityValue).map fun index =>
    priority.writeSlot index relinquish value

end BacnetCommandPriority

/-- Where a change of a commandable object came from. -/
inductive BacnetChangeOrigin where
  | local
  | bacnetWriteProperty
  | relinquishDefault
  deriving Repr, DecidableEq, Inhabited

/-- Which change callbacks the application registered. -/
structure CommandCallbackStorage where
  presentValueChange : Bool := false
  priorityValueChange : Fin kSlotCount → Bool := fun _ => false
  effectivePriorityChange : Bool := false
  relinquishChange : Bool := false

/-- One call out of a write, with the data handed to the application. -/
inductive CommandEvent (α : Type) where
  | apply
      (presentValue : α)
      (outOfService : Bool)
  | priorityValueChange
      (object : BacnetObjectId)
      (priority : UInt8)
      (oldOccupied : Bool)
      (oldValue : α)
      (newOccupied : Bool)
      (newValue : α)
      (origin : BacnetChangeOrigin)
  | effectivePriorityChange
      (object : BacnetObjectId)
      (oldPriority newPriority : UInt8)
      (oldValue newValue : α)
      (origin : BacnetChangeOrigin)
  | presentValueChange
      (object : BacnetObjectId)
      (oldValue newValue : α)
      (origin : BacnetChangeOrigin)
  | relinquishChange
      (object : BacnetObjectId)
      (releasedPriority : UInt8)
      (oldEffectiveValue newEffectiveValue : α)
      (newEffectivePriority : UInt8)
      (relinquishDefaultEffective : Bool)
      (origin : BacnetChangeOrigin)

/-- The parts of a commandable object that its write path uses. -/
structure CommandTarget (α : Type) where
  object : BacnetObjectId
  priority : BacnetCommandPriority α
  callbackInProgress : Bool
  callbackStorage : Option CommandCallbackStorage
  hasApply : Bool
  outOfService : Bool

/-- Result of a write: the new storage and the calls made on the way. -/
structure CommandWriteResult (α : Type) where
  priority : BacnetCommandPriority α
  events : List (CommandEvent α)

section Writes

variable {α : Type} (differs : α → α → Bool)

/-- The callbacks after a slot was written, in the order of the source. -/
def priorityWriteCallbacks
    (target : CommandTarget α)
    (index : Fin kSlotCount)
    (priorityValue : UInt8)
    (relinquish : Bool)
    (origin : BacnetChangeOrigin)
    (written : BacnetCommandPriority α)
    (storage : CommandCallbackStorage) :
    List (CommandEvent α) :=
  let old := target.priority
  let slotChanged :=
    old.occupied index != written.occupied index ||
      (old.occupied index && written.occupied index &&
        differs (old.slots index) (written.slots index))
  let valueChanged := differs old.effectiveValue written.effectiveValue
  (if slotChanged && storage.priorityValueChange index then
    [.priorityValueChange target.object priorityValue
      (old.occupied index) (old.slots index)
      (written.occupied index) (written.slots index) origin]
  else []) ++
  (if old.effectivePriority != written.effectivePriority &&
      storage.effectivePriorityChange then
    [.effectivePriorityChange target.object
      old.effectivePriority written.effectivePriority
      old.effectiveValue written.effectiveValue origin]
  else []) ++
  (if valueChanged && storage.presentValueChange then
    [.presentValueChange target.object
      old.effectiveValue written.effectiveValue origin]
  else []) ++
  (if relinquish && storage.relinquishChange then
    [.relinquishChange target.object priorityValue
      old.effectiveValue written.effectiveValue
      written.effectivePriority (written.effectivePriority == 0) origin]
  else [])

/--
The write path shared by Binary Output, Analog Output and commandable Analog
Value; `differs` is the `!=` of the value type.
-/
def applyCommandPriorityValue
    (target : CommandTarget α)
    (value : α)
    (priorityValue : UInt8)
    (relinquish : Bool)
    (origin : BacnetChangeOrigin) : Option (CommandWriteResult α) :=
  if target.callbackInProgress then
    none
  else
    match BacnetCommandPriority.slotIndex? priorityValue with
    | none => none
    | some index =>
        let written := target.priority.writeSlot index relinquish value
        let valueChanged :=
          differs target.priority.effectiveValue written.effectiveValue
        some {
          priority := written
          events :=
            (if target.hasApply && valueChanged then
              [.apply written.effectiveValue target.outOfService]
            else []) ++
            (match target.callbackStorage with
            | none => []
            | some storage =>
                priorityWriteCallbacks differs target index
                  priorityValue relinquish origin written storage)
        }

/-- `setRelinquishDefaultValue` of the same three object kinds. -/
def setCommandRelinquishDefault
    (target : CommandTarget α)
    (value : α)
    (origin : BacnetChangeOrigin) : Option (CommandWriteResult α) :=
  if target.callbackInProgress then
    none
  else
    let old := target.priority
    let written := { old with relinquishDefault := value }
    let valueChanged :=
      differs old.effectiveValue written.effectiveValue
    some {
      priority := written
      events :=
        (if target.hasApply && valueChanged then
          [.apply written.effectiveValue target.outOfService]
        else []) ++
        (match target.callbackStorage with
        | none => []
        | some storage =>
            if valueChanged && storage.presentValueChange then
              [.presentValueChange target.object
                old.effectiveValue written.effectiveValue origin]
            else [])
    }

end Writes

end BacnetStack
