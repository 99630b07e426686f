import BacnetStack.ClientCallSteps

namespace BacnetStack

/-!
# Runs of an application

What an application does at its top level: it makes calls, moves and destroys
handles, and starts and stops the client.  A run is a list of these, with the
same callbacks behind every call.
-/

/-- One step of an application. -/
inductive ClientStep where
  | call (call : ClientCall)
  | moveConstruct (handle other : SubscriptionId)
  | moveAssign (handle other : SubscriptionId)
  | destroy (handle : SubscriptionId)
  | startClient (bound : Bool)
  | stopClient
  deriving Repr, DecidableEq

namespace ClientSystem

variable {τ : Type}
  (runtime : ClientRuntime τ)
  (callback : SubscriptionCallback τ)

/--
The system after one step.  A handle is only constructed where there is none.
-/
def step (system : ClientSystem τ) : ClientStep → ClientSystem τ
  | .call call => system.call runtime callback call
  | .moveConstruct handle other =>
      if (system.subscriptions handle).session = none ∧ handle ≠ other then
        system.moveFrom handle other
      else
        system
  | .moveAssign handle other => system.moveAssign handle other
  | .destroy handle => system.destroySubscription handle
  | .startClient bound =>
      { system with client := system.client.start bound }
  | .stopClient => { system with client := system.client.stop }

/-- The system after a list of steps. -/
abbrev run
    (system : ClientSystem τ)
    (steps : List ClientStep) : ClientSystem τ :=
  EventRun.run (step runtime callback) system steps

/-- Nothing has happened yet; the sessions may be those of any devices. -/
structure IsInitial (system : ClientSystem τ) : Prop where
  history : system.history = []
  traffic : system.client.traffic = []
  queued : system.client.queuedCovNotifications = .empty
  subscriptions : ∀ handle, system.subscriptions handle = {}
  scans : ∀ scan, system.scans scan = {}
  reads : ∀ read, system.reads read = {}
  slot : ∀ id, (system.sessions id).inFlightSubscription = none
  scanSlot : ∀ id, (system.sessions id).inFlightObjectListScan = none
  readSlot : ∀ id, (system.sessions id).inFlightPropertyRead = none
  pending : ∀ id, (system.sessions id).pendingCovNotifications = .empty

end ClientSystem

/-- What a script says next, and the rest of it. -/
def scriptedReceive :
    List (Option ReceivedDatagram) →
      Option ReceivedDatagram × List (Option ReceivedDatagram)
  | [] => (none, [])
  | datagram :: rest => (intoBuffer datagram, rest)

/-- A transport that delivers what a script says, one entry a poll. -/
def scriptedRuntime : ClientRuntime (List (Option ReceivedDatagram)) where
  receive := scriptedReceive
  receivable script datagram read := by
    cases script with
    | nil => cases read
    | cons arrived rest => exact receivable_of_intoBuffer read
  send script _ _ := (true, script)
  nowMs script := (0, script)
  idle script := script

/-- The device of the examples. -/
def scriptedPeer : BacnetIpEndpoint where
  a := 192
  b := 168
  c := 1
  d := 20
  port := 47808

/-- The SimpleACK to a SubscribeCOV request. -/
def scriptedSimpleAck
    (source : BacnetIpEndpoint)
    (invokeId : UInt8) : ReceivedDatagram where
  source := source
  packet := simpleAckPacket invokeId kServiceSubscribeCov

/-- A COV notification for the present value of an analog input. -/
def scriptedNotification
    (source : BacnetIpEndpoint)
    (analogInput : UInt8)
    (confirmed : Bool)
    (invokeId : UInt8) : ReceivedDatagram where
  source := source
  packet :=
    let header : List UInt8 :=
      if confirmed then
        [0x81, 0x0A, 0, 0x23, 1, 0, 0x00, 0x05, invokeId, 1]
      else
        [0x81, 0x0A, 0, 0x21, 1, 0, 0x10, 2]
    header ++
      [0x09, analogInput, 0x1C, 2, 0, 0, 0x7B, 0x2C, 0, 0, 0, analogInput,
        0x39, 0x3C, 0x4E, 0x09, 0x55, 0x2E, 0x44, 0, 0, 0, 0, 0x2F, 0x4F]

/-- A client whose sessions all talk to the device of the examples. -/
def scriptedSystem
    (script : List (Option ReceivedDatagram)) :
    ClientSystem (List (Option ReceivedDatagram)) where
  client := { transport := script }
  sessions _ := { endpoint := scriptedPeer, deviceInstance := 123 }

theorem isInitial_scriptedSystem
    (script : List (Option ReceivedDatagram)) :
    (scriptedSystem script).IsInitial :=
  ⟨rfl, rfl, rfl, fun _ => rfl, fun _ => rfl, fun _ => rfl, fun _ => rfl,
    fun _ => rfl, fun _ => rfl, fun _ => rfl⟩

namespace ClientSystem

variable {τ : Type}
  (runtime : ClientRuntime τ)
  (callback : SubscriptionCallback τ)

theorem history_releaseSubscription
    (system : ClientSystem τ)
    (handle : SubscriptionId) :
    (system.releaseSubscription handle).history = system.history := by
  unfold releaseSubscription
  dsimp only
  split
  · rfl
  · exact history_releaseSlot ..

theorem client_releaseSubscription
    (system : ClientSystem τ)
    (handle : SubscriptionId) :
    (system.releaseSubscription handle).client = system.client := by
  unfold releaseSubscription
  dsimp only
  split
  · rfl
  · exact client_releaseSlot ..

theorem scans_releaseSubscription
    (system : ClientSystem τ)
    (handle : SubscriptionId) :
    (system.releaseSubscription handle).scans = system.scans := by
  unfold releaseSubscription
  dsimp only
  split
  · rfl
  · exact scans_releaseSlot ..

theorem subscriptions_releaseSubscription
    (system : ClientSystem τ)
    {handle other : SubscriptionId}
    (differs : other ≠ handle) :
    (system.releaseSubscription handle).subscriptions other =
      system.subscriptions other := by
  unfold releaseSubscription
  dsimp only
  split
  · rfl
  · show Function.update (releaseSlot system _ handle).subscriptions handle _
      other = _
    rw [Function.update_of_ne differs, subscriptions_releaseSlot]

theorem moveFrom_eq
    (system : ClientSystem τ)
    (handle other : SubscriptionId) :
    ∃ sessions,
      system.moveFrom handle other = {
        system with
        sessions := sessions
        subscriptions :=
          Function.update
            (Function.update system.subscriptions handle
              (system.subscriptions other))
            other (system.subscriptions other).movedFrom } := by
  unfold moveFrom
  dsimp only
  split
  · exact ⟨system.sessions, rfl⟩
  · split
    · exact ⟨_, rfl⟩
    · exact ⟨system.sessions, rfl⟩

/-- What a move, a destruction or a start of the client may change. -/
structure KeepsHistory (before after : ClientSystem τ) : Prop where
  history : after.history = before.history
  traffic : after.client.traffic = before.client.traffic
  scans : after.scans = before.scans

theorem keepsHistory_step
    (system : ClientSystem τ)
    {step : ClientStep}
    (noCall : ∀ call, step ≠ .call call) :
    system.KeepsHistory (system.step runtime callback step) := by
  cases step with
  | call call => exact absurd rfl (noCall call)
  | moveConstruct handle other =>
      unfold ClientSystem.step
      dsimp only
      split
      · obtain ⟨sessions, moved⟩ := system.moveFrom_eq handle other
        rw [moved]
        exact ⟨rfl, rfl, rfl⟩
      · exact ⟨rfl, rfl, rfl⟩
  | moveAssign handle other =>
      show system.KeepsHistory (system.moveAssign handle other)
      unfold moveAssign
      split
      · exact ⟨rfl, rfl, rfl⟩
      · obtain ⟨sessions, moved⟩ :=
          (system.releaseSubscription handle).moveFrom_eq handle other
        rw [moved]
        exact ⟨history_releaseSubscription system handle,
          congrArg BacnetClient.traffic
            (client_releaseSubscription system handle),
          scans_releaseSubscription system handle⟩
  | destroy handle =>
      exact ⟨history_releaseSubscription system handle,
        congrArg BacnetClient.traffic
          (client_releaseSubscription system handle),
        scans_releaseSubscription system handle⟩
  | startClient bound => exact ⟨rfl, rfl, rfl⟩
  | stopClient => exact ⟨rfl, rfl, rfl⟩

namespace SessionRule

variable {runtime : ClientRuntime τ} {callback : SubscriptionCallback τ}
  {guard : NotificationGuard τ}
  {relation : SessionId → BacnetDeviceSession → BacnetDeviceSession → Prop}
  (rule : SessionRule guard relation)

include rule

/-- A moved handle takes the place that its session waits for with it. -/
theorem moveFrom
    (system : ClientSystem τ)
    (handle other : SubscriptionId)
    (id : SessionId) :
    relation id (system.sessions id)
      ((system.moveFrom handle other).sessions id) := by
  unfold ClientSystem.moveFrom
  dsimp only
  split
  · exact rule.refl id _
  · split
    · exact rule.setSession system (rule.slot _ _ _) id
    · exact rule.refl id _

theorem releaseSubscription
    (system : ClientSystem τ)
    (handle : SubscriptionId)
    (id : SessionId) :
    relation id (system.sessions id)
      ((system.releaseSubscription handle).sessions id) := by
  unfold ClientSystem.releaseSubscription
  dsimp only
  split
  · exact rule.refl id _
  · exact rule.releaseSlot system _ handle id

/-- One step of an application, if the guard allows the call. -/
theorem step
    (callbacks : CallbackSteps runtime guard callback)
    (system : ClientSystem τ)
    {step : ClientStep}
    (allowed :
      ∀ call, step = .call call →
        CallAllowed runtime guard callback system call)
    (id : SessionId) :
    relation id (system.sessions id)
      ((system.step runtime callback step).sessions id) := by
  cases step with
  | call call => exact rule.steps (steps_call callbacks (allowed call rfl)) id
  | moveConstruct handle other =>
      unfold ClientSystem.step
      dsimp only
      split
      · exact rule.moveFrom system handle other id
      · exact rule.refl id _
  | moveAssign handle other =>
      show relation id _ ((system.moveAssign handle other).sessions id)
      unfold moveAssign
      split
      · exact rule.refl id _
      · exact rule.trans (rule.releaseSubscription system handle id)
          (rule.moveFrom _ handle other id)
  | destroy handle => exact rule.releaseSubscription system handle id
  | startClient bound => exact rule.refl id _
  | stopClient => exact rule.refl id _

end SessionRule

/-- Whatever is called, and whatever the callbacks call. -/
theorem SessionRule.run
    {relation : SessionId → BacnetDeviceSession → BacnetDeviceSession → Prop}
    (rule : SessionRule (.trivial τ) relation)
    (application : ClientApplication τ)
    (depth : Nat)
    (system : ClientSystem τ)
    (steps : List ClientStep)
    (id : SessionId) :
    relation id (system.sessions id)
      ((system.run runtime (application.callback runtime depth)
        steps).sessions id) :=
  EventRun.run_invariant
    (fun current => relation id (system.sessions id) (current.sessions id))
    (fun current _ related =>
      rule.trans related
        (rule.step (callbackSteps_application application depth) current
          (fun call _ => callAllowed_trivial current call) id))
    (rule.refl id _) steps

end ClientSystem

end BacnetStack
