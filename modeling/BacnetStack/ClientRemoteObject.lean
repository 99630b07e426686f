import BacnetStack.ClientRead

namespace BacnetStack

/-!
# Commands of remote objects

A remote object is an identifier and the session of its device.  Its commands
are blocking writes of Present_Value, each with a priority of its own.
-/

abbrev kMinimumOnOffPriority : UInt8 := 6

structure BacnetPriorityResetOptions where
  skipMinimumOnOffPriority : Bool := false
  deriving Repr, DecidableEq, Inhabited

structure BacnetPriorityRelinquishResult where
  status : BacnetDeviceSessionWriteStatus := .ack
  completedPriorities : UInt8 := 0
  skippedPriority : UInt8 := 0
  failedPriority : UInt8 := 0
  deriving Repr, DecidableEq, Inhabited

/-- All priorities were released, or skipped on purpose. -/
def BacnetPriorityRelinquishResult.succeeded
    (result : BacnetPriorityRelinquishResult) : Bool :=
  result.failedPriority == 0 &&
    (result.completedPriorities.toNat +
      (if result.skippedPriority = 0 then 0 else 1) == 16) &&
    result.status == .ack

namespace ClientSystem

variable {τ : Type} (runtime : ClientRuntime τ)

/-- `writePresentValue` of a remote object. -/
def writePresentValue
    (system : ClientSystem τ)
    (id : SessionId)
    (objectId : BacnetObjectId)
    (value : BacnetValue)
    (priority : UInt8)
    (timeoutMs : UInt32)
    (rounds : Nat) :
    Option BacnetDeviceSessionWriteStatus × ClientSystem τ :=
  system.writePropertyWithOptions runtime id objectId .presentValue value
    { hasPriority := true, priority := priority } timeoutMs rounds

/-- `relinquishPresentValue`: NULL releases a priority. -/
def relinquishPresentValue
    (system : ClientSystem τ)
    (id : SessionId)
    (objectId : BacnetObjectId)
    (priority : UInt8)
    (timeoutMs : UInt32)
    (rounds : Nat) :
    Option BacnetDeviceSessionWriteStatus × ClientSystem τ :=
  system.writePresentValue runtime id objectId { type := .null } priority
    timeoutMs rounds

/-- The loop of `relinquishAllPriorities`; the first failure ends it. -/
def relinquishPriorities
    (id : SessionId)
    (objectId : BacnetObjectId)
    (options : BacnetPriorityResetOptions)
    (timeoutMs : UInt32)
    (rounds : Nat) :
    List UInt8 → BacnetPriorityRelinquishResult → ClientSystem τ →
      Option BacnetPriorityRelinquishResult × ClientSystem τ
  | [], result, system => (some result, system)
  | priority :: rest, result, system =>
      if options.skipMinimumOnOffPriority &&
          priority == kMinimumOnOffPriority then
        relinquishPriorities id objectId options timeoutMs rounds rest
          { result with skippedPriority := priority } system
      else
        match
          system.relinquishPresentValue runtime id objectId priority timeoutMs
            rounds with
        | (none, system) => (none, system)
        | (some status, system) =>
            if status ≠ .ack then
              (some
                { result with status := status, failedPriority := priority },
                system)
            else
              relinquishPriorities id objectId options timeoutMs rounds rest
                { result with
                  status := status
                  completedPriorities := result.completedPriorities + 1 }
                system

/-- The priorities 1 to 16. -/
def allPriorities : List UInt8 :=
  [1, 2, 3, 4, 5, 6, 7, 8, 9, 10, 11, 12, 13, 14, 15, 16]

/-- `relinquishAllPriorities`; no result means that a write still waits. -/
def relinquishAllPriorities
    (system : ClientSystem τ)
    (id : SessionId)
    (objectId : BacnetObjectId)
    (options : BacnetPriorityResetOptions)
    (timeoutMs : UInt32)
    (rounds : Nat) :
    Option BacnetPriorityRelinquishResult × ClientSystem τ :=
  relinquishPriorities runtime id objectId options timeoutMs rounds
    allPriorities {} system

end ClientSystem

end BacnetStack
