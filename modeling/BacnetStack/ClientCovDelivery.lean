import BacnetStack.ClientCovRouting

namespace BacnetStack

/-!
# Notifications between handles and between sessions

A notification is taken by whichever handle is polled first.  A second handle
it is for is not given it, and a session that has no use for it puts it aside
where the session it is for does not look.
-/

namespace CovRoute

/-- To any handle of a session. -/
def toSession
    (home : SessionId)
    (notification : BacnetCovNotification) : CovRoute where
  home := home
  notification := notification
  welcome _ := true

/-- To one handle of a session. -/
def toHandle
    (home : SessionId)
    (handle : SubscriptionId)
    (notification : BacnetCovNotification) : CovRoute where
  home := home
  notification := notification
  welcome other := other == handle

variable {τ : Type}

/--
A notification reaches a handle, if no other handle is polled where it is
next.
-/
theorem keeps_toHandle_run
    (runtime : ClientRuntime τ)
    (callback : SubscriptionCallback τ)
    (home : SessionId)
    (handle : SubscriptionId)
    (notification : BacnetCovNotification)
    (callbacks :
      ClientSystem.CallbackSteps runtime
        ((toHandle home handle notification).guard runtime) callback)
    {system : ClientSystem τ}
    {calls : List ClientCall}
    (allowed :
      EventRun.Along (ClientSystem.call runtime callback)
        ((toHandle home handle notification).CallAllowed runtime callback)
        system calls) :
    (toHandle home handle notification).Keeps runtime callback system
      (EventRun.run (ClientSystem.call runtime callback) system calls) :=
  keeps_run callbacks allowed

/--
A notification reaches a session, if no other session is polled where it is
next.
-/
theorem keeps_toSession_run
    (runtime : ClientRuntime τ)
    (callback : SubscriptionCallback τ)
    (home : SessionId)
    (notification : BacnetCovNotification)
    (callbacks :
      ClientSystem.CallbackSteps runtime
        ((toSession home notification).guard runtime) callback)
    {system : ClientSystem τ}
    {calls : List ClientCall}
    (allowed :
      EventRun.Along (ClientSystem.call runtime callback)
        ((toSession home notification).CallAllowed runtime callback)
        system calls) :
    (toSession home notification).Keeps runtime callback system
      (EventRun.run (ClientSystem.call runtime callback) system calls) :=
  keeps_run callbacks allowed

end CovRoute

/-- A second device. -/
def otherPeer : BacnetIpEndpoint :=
  { scriptedPeer with d := 21 }

/-- A started client with two devices; all sessions but one are of the first. -/
def routingSystem
    (script : List (Option ReceivedDatagram)) :
    ClientSystem (List (Option ReceivedDatagram)) where
  client := { transport := script, running := true }
  sessions id :=
    { endpoint := if id = 1 then otherPeer else scriptedPeer
      deviceInstance := 123 }

theorem isInitial_routingSystem
    (script : List (Option ReceivedDatagram)) :
    (routingSystem script).IsInitial :=
  ⟨rfl, rfl, rfl, fun _ => rfl, fun _ => rfl, fun _ => rfl, fun _ => rfl,
    fun _ => rfl, fun _ => rfl, fun _ => rfl⟩

/-- The observer's callback. -/
abbrev observe :
    SubscriptionCallback (List (Option ReceivedDatagram)) :=
  (ClientApplication.observer _).callback scriptedRuntime 0

/-- A run of calls with that callback. -/
abbrev routingRun
    (system : ClientSystem (List (Option ReceivedDatagram)))
    (calls : List ClientCall) :
    ClientSystem (List (Option ReceivedDatagram)) :=
  EventRun.run (ClientSystem.call scriptedRuntime observe) system calls

/-- A handle of a session subscribes for an analog input. -/
def subscribeCall
    (id : SessionId)
    (handle : SubscriptionId)
    (analogInput : UInt32) : ClientCall :=
  .subscribe id handle { type := 0, instance_ := analogInput } .presentValue
    kBacnetNoArrayIndex { preferCov := true } true 0

/-- Handle 1 of one session and handle 0 of the same or another subscribe. -/
def setup
    (id : SessionId)
    (analogInput : UInt32) : List ClientCall :=
  [subscribeCall 0 0 1, subscribeCall id 1 analogInput,
    .pollSingle 0 0 0, .pollSingle 0 0 1, .pollSingle id 1 2,
    .pollSingle id 1 3]

/-- What `setup` needs, and then a notification. -/
def setupScript
    (peer : BacnetIpEndpoint)
    (invokeId analogInput : UInt8) : List (Option ReceivedDatagram) :=
  [some (scriptedSimpleAck scriptedPeer 1), none,
    some (scriptedSimpleAck peer invokeId), none,
    some (scriptedNotification peer analogInput false 0)]

/-- The notification of such a script. -/
def scriptedValue
    (peer : BacnetIpEndpoint)
    (analogInput : UInt8) : BacnetCovNotification :=
  ((scriptedNotification peer analogInput false 0).covNotification?).getD {}

/-- Two handles of one session, for different objects. -/
abbrev differentHandles : ClientSystem (List (Option ReceivedDatagram)) :=
  routingRun (routingSystem (setupScript scriptedPeer 2 2)) (setup 0 2)

/-- One handle of each of two sessions. -/
abbrev twoSessions : ClientSystem (List (Option ReceivedDatagram)) :=
  routingRun (routingSystem (setupScript otherPeer 1 2)) (setup 1 2)

/-- A handle that the notification is not for puts it aside for the other. -/
theorem keeps_toHandle_differentHandles :
    (CovRoute.toHandle 0 1 (scriptedValue scriptedPeer 2)).Keeps
      scriptedRuntime observe differentHandles
      (routingRun differentHandles [.pollSingle 0 0 4, .pollSingle 0 1 5]) := by
  apply CovRoute.keeps_toHandle_run
  · exact ClientSystem.callbackSteps_observer 0
  · refine ⟨⟨?_, fun _ => ?_, ?_⟩, ⟨?_, fun _ => ?_, ?_⟩, trivial⟩
    · rintro id handle nowMs same current isMember
      obtain ⟨rfl, rfl, rfl⟩ := ClientCall.pollSingle.inj same
      have checked :
          ∀ current ∈
              differentHandles.pollStage scriptedRuntime observe 0 0 4,
            ¬(scriptedValue scriptedPeer 2).IsFor
                (current.sessions 0).endpoint (current.subscriptions 0) ∧
              scriptedValue scriptedPeer 2 ∉
                (current.sessions 0).pendingCovNotifications.displaced := by
        decide +kernel
      obtain ⟨notFor, room⟩ := checked current isMember
      exact ⟨fun _ next => absurd next.1 notFor, fun _ => room,
        fun elsewhere => absurd rfl elsewhere⟩
    · decide +kernel
    · decide +kernel
    · rintro id handle nowMs same current isMember
      obtain ⟨rfl, rfl, rfl⟩ := ClientCall.pollSingle.inj same
      have checked :
          ∀ current ∈
              (routingRun differentHandles [.pollSingle 0 0 4]).pollStage
                scriptedRuntime observe 0 1 5,
            scriptedValue scriptedPeer 2 ∉
              (current.sessions 0).pendingCovNotifications.displaced := by
        decide +kernel
      exact ⟨fun _ _ => rfl, fun _ => checked current isMember,
        fun elsewhere => absurd rfl elsewhere⟩
    · decide +kernel
    · decide +kernel

/-- The handle that is polled first takes the notification of both. -/
theorem not_keeps_toHandle :
    ¬∀ (system : ClientSystem (List (Option ReceivedDatagram)))
      (prepare calls : List ClientCall)
      (home : SessionId)
      (handle : SubscriptionId)
      (notification : BacnetCovNotification),
      system.IsInitial →
        ((routingRun system prepare).subscriptions handle).covActive =
            true →
          notification.IsFor
              ((routingRun system prepare).sessions home).endpoint
              ((routingRun system prepare).subscriptions handle) →
            ((routingRun (routingRun system prepare)
                calls).client.traffic.filterMap
                  ClientTraffic.arrival?).length ≤
                kMaxQueuedCovNotifications →
              (CovRoute.toHandle home handle notification).Keeps
                scriptedRuntime observe (routingRun system prepare)
                (routingRun (routingRun system prepare) calls) := by
  intro always
  have kept := always (routingSystem (setupScript scriptedPeer 2 1))
    (setup 0 1) [.pollSingle 0 0 4, .pollSingle 0 1 5] 0 1
    (scriptedValue scriptedPeer 1) (isInitial_routingSystem _)
    (by decide +kernel) (by decide +kernel) (by decide +kernel)
  exact absurd kept.balance (by decide +kernel)

/-- The session that is polled first gets its notification. -/
theorem keeps_toSession_twoSessions :
    (CovRoute.toSession 1 (scriptedValue otherPeer 2)).Keeps
      scriptedRuntime observe twoSessions
      (routingRun twoSessions [.pollSingle 1 1 4]) := by
  apply CovRoute.keeps_toSession_run
  · exact ClientSystem.callbackSteps_observer 0
  · refine ⟨⟨?_, fun _ => ?_, ?_⟩, trivial⟩
    · rintro id handle nowMs same current isMember
      obtain ⟨rfl, rfl, rfl⟩ := ClientCall.pollSingle.inj same
      have checked :
          ∀ current ∈ twoSessions.pollStage scriptedRuntime observe 1 1 4,
            scriptedValue otherPeer 2 ∉
              (current.sessions 1).pendingCovNotifications.displaced := by
        decide +kernel
      exact ⟨fun _ _ => rfl, fun _ => checked current isMember,
        fun elsewhere => absurd rfl elsewhere⟩
    · decide +kernel
    · decide +kernel

/-- A session that is polled first keeps the notification of another. -/
theorem not_keeps_toSession :
    ¬∀ (system : ClientSystem (List (Option ReceivedDatagram)))
      (prepare calls : List ClientCall)
      (home : SessionId)
      (handle : SubscriptionId)
      (notification : BacnetCovNotification),
      system.IsInitial →
        ((routingRun system prepare).subscriptions handle).covActive =
            true →
          notification.IsFor
              ((routingRun system prepare).sessions home).endpoint
              ((routingRun system prepare).subscriptions handle) →
            ((routingRun (routingRun system prepare)
                calls).client.traffic.filterMap
                  ClientTraffic.arrival?).length ≤
                kMaxQueuedCovNotifications →
              (CovRoute.toSession home notification).Keeps
                scriptedRuntime observe (routingRun system prepare)
                (routingRun (routingRun system prepare) calls) := by
  intro always
  have kept := always (routingSystem (setupScript otherPeer 1 2))
    (setup 1 2) [.pollSingle 0 0 4, .pollSingle 1 1 5] 1 1
    (scriptedValue otherPeer 2) (isInitial_routingSystem _)
    (by decide +kernel) (by decide +kernel) (by decide +kernel)
  exact absurd kept.balance (by decide +kernel)

end BacnetStack
