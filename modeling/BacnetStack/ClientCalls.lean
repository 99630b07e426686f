import BacnetStack.ClientScan
import BacnetStack.EventRun

namespace BacnetStack

/-!
# Calls of the application

Everything an application may do with its sessions, as data, so that a run is
a list of calls.  Callbacks make calls too: an application decides what its
callback calls from the state it is invoked in, and callbacks of these calls
may be nested to any depth.
-/

/-- A call of a session, or of a handle, that a callback may make as well. -/
inductive ClientCall where
  | subscribe
      (id : SessionId)
      (handle : SubscriptionId)
      (objectId : BacnetObjectId)
      (propertyId : BacnetPropertyId)
      (arrayIndex : UInt32)
      (options : BacnetSubscribeOptions)
      (hasCallback : Bool)
      (userData : Nat)
  | pollSingle (id : SessionId) (handle : SubscriptionId) (nowMs : UInt32)
  | pollArray
      (id : SessionId)
      (handles : List SubscriptionId)
      (nowMs : UInt32)
  | pollInFlight (id : SessionId) (nowMs : UInt32)
  | stop (handle : SubscriptionId)
  | requestRefresh (handle : SubscriptionId)
  | beginObjectListScan
      (id : SessionId)
      (scan : ScanId)
      (options : BacnetObjectScanOptions)
      (hasResults : Bool)
      (resultCapacity : Nat)
      (nowMs : UInt32)
  | pollObjectListScan (id : SessionId) (scan : ScanId) (nowMs : UInt32)
  | cancelObjectListScan (id : SessionId) (scan : ScanId)
  | scanObjectList
      (id : SessionId)
      (scan : ScanId)
      (options : BacnetObjectScanOptions)
      (hasResults : Bool)
      (resultCapacity rounds : Nat)
  | beginPropertyRead
      (id : SessionId)
      (read : ReadId)
      (request : BacnetPropertyRequest)
      (timeoutMs nowMs : UInt32)
  | pollPropertyRead (id : SessionId) (read : ReadId) (nowMs : UInt32)
  | cancelPropertyRead (id : SessionId) (read : ReadId)
  | readProperty
      (id : SessionId)
      (request : BacnetPropertyRequest)
      (timeoutMs : UInt32)
      (rounds : Nat)
  | readPriorityArray
      (id : SessionId)
      (object : BacnetObjectId)
      (timeoutMs : UInt32)
      (rounds : Nat)
  | writeProperty
      (id : SessionId)
      (request : BacnetPropertyRequest)
      (value : BacnetValue)
      (timeoutMs : UInt32)
      (rounds : Nat)
  | writePropertyWithOptions
      (id : SessionId)
      (object : BacnetObjectId)
      (property : BacnetPropertyId)
      (value : BacnetValue)
      (options : BacnetWritePropertyOptions)
      (timeoutMs : UInt32)
      (rounds : Nat)
  deriving Repr, DecidableEq

/-- The session that a call may poll. -/
def ClientCall.session? : ClientCall → Option SessionId
  | .subscribe id _ _ _ _ _ _ _ | .pollSingle id _ _ | .pollArray id _ _
  | .pollInFlight id _ | .beginObjectListScan id _ _ _ _ _
  | .pollObjectListScan id _ _ | .cancelObjectListScan id _
  | .scanObjectList id _ _ _ _ _ | .beginPropertyRead id _ _ _ _
  | .pollPropertyRead id _ _ | .cancelPropertyRead id _
  | .readProperty id _ _ _ | .readPriorityArray id _ _ _
  | .writeProperty id _ _ _ _ | .writePropertyWithOptions id _ _ _ _ _ _ =>
      some id
  | .stop _ | .requestRefresh _ => none

namespace ClientSystem

variable {τ : Type}
  (runtime : ClientRuntime τ)
  (callback : SubscriptionCallback τ)

/--
A session creates a handle, in a place where there is none.  Its constructor
reads the clock where the handle is polled from time to time.
-/
def subscribe
    (system : ClientSystem τ)
    (id : SessionId)
    (handle : SubscriptionId)
    (objectId : BacnetObjectId)
    (propertyId : BacnetPropertyId)
    (arrayIndex : UInt32)
    (options : BacnetSubscribeOptions)
    (hasCallback : Bool)
    (userData : Nat) : ClientSystem τ :=
  if (system.subscriptions handle).session = none then
    let (nowMs, system) :=
      if 0 < options.fallbackPollMs then
        system.onClient fun client => client.nowMs runtime
      else
        (0, system)
    system.setSubscription handle
      (.create id objectId propertyId arrayIndex options hasCallback userData
        nowMs)
  else
    system

/-- The system after one call. -/
def call
    (system : ClientSystem τ) : ClientCall → ClientSystem τ
  | .subscribe id handle objectId propertyId arrayIndex options hasCallback
      userData =>
      system.subscribe runtime id handle objectId propertyId arrayIndex
        options hasCallback userData
  | .pollSingle id handle nowMs =>
      system.pollSingle runtime callback id handle nowMs
  | .pollArray id handles nowMs =>
      system.pollArray runtime callback id handles nowMs
  | .pollInFlight id nowMs => system.pollInFlight runtime callback id nowMs
  | .stop handle => system.stopSubscription handle
  | .requestRefresh handle => system.requestRefresh handle
  | .beginObjectListScan id scan options hasResults resultCapacity nowMs =>
      (system.beginObjectListScan runtime id scan options hasResults
        resultCapacity nowMs).2
  | .pollObjectListScan id scan nowMs =>
      system.pollObjectListScan runtime id scan nowMs
  | .cancelObjectListScan id scan => system.cancelObjectListScan id scan
  | .scanObjectList id scan options hasResults resultCapacity rounds =>
      system.scanObjectList runtime id scan options hasResults
        resultCapacity rounds
  | .beginPropertyRead id read request timeoutMs nowMs =>
      (system.beginPropertyRead runtime id read request timeoutMs nowMs).2
  | .pollPropertyRead id read nowMs =>
      system.pollPropertyRead runtime id read nowMs
  | .cancelPropertyRead id read => system.cancelPropertyRead id read
  | .readProperty id request timeoutMs rounds =>
      (system.readPropertyDetailed runtime id request timeoutMs rounds).2
  | .readPriorityArray id object timeoutMs rounds =>
      (system.readPriorityArray runtime id object timeoutMs rounds).2
  | .writeProperty id request value timeoutMs rounds =>
      (system.writeProperty runtime id request value timeoutMs rounds).2
  | .writePropertyWithOptions id object property value options timeoutMs
      rounds =>
      (system.writePropertyWithOptions runtime id object property value
        options timeoutMs rounds).2

/-- Another handle of the session of `handle` is in flight. -/
def otherInFlight
    (system : ClientSystem τ)
    (handle : SubscriptionId) : Bool :=
  (system.subscriptions handle).session.any fun id =>
    (system.sessions id).inFlightSubscription.any (· != handle)

/--
The callback for a notification returned with another handle of its session
in flight, while its own handle is about to be renewed.
-/
def overtaken
    (system : ClientSystem τ)
    (handle : SubscriptionId)
    (nowMs : UInt32) : Bool :=
  system.otherInFlight handle &&
    (system.subscriptions handle).active &&
    (system.subscriptions handle).renewalReached nowMs

end ClientSystem

/-- What the callbacks of an application call. -/
abbrev ClientApplication (τ : Type) : Type :=
  SubscriptionId → BacnetSubscriptionNotification →
    ClientSystem τ → List ClientCall

/-- An application whose callbacks only look at what they are told. -/
def ClientApplication.observer (τ : Type) : ClientApplication τ :=
  fun _ _ _ => []

/-- The callback for a notification returns; other returns are not noted. -/
def ClientSystem.callbackReturns {τ : Type}
    (system : ClientSystem τ)
    (handle : SubscriptionId)
    (notification : BacnetSubscriptionNotification)
    (nowMs : UInt32) : ClientSystem τ :=
  if notification.covProperties.isSome then
    system.record
      (.callbackReturned handle (system.overtaken handle nowMs))
  else
    system

/--
The callbacks of an application, nested to the given depth: those at the
greatest depth make no calls.
-/
def ClientApplication.callback {τ : Type}
    (application : ClientApplication τ)
    (runtime : ClientRuntime τ) : Nat → SubscriptionCallback τ
  | 0 => fun handle notification system =>
      system.callbackReturns handle notification
        (system.subscriptions handle).lastUpdateMs
  | depth + 1 => fun handle notification system =>
      ((application handle notification system).foldl
        (fun system call =>
          system.call runtime (application.callback runtime depth) call)
        system).callbackReturns handle notification
          (system.subscriptions handle).lastUpdateMs

end BacnetStack
