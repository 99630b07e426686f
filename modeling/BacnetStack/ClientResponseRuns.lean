import BacnetStack.ClientScanCompleteness

namespace BacnetStack

/-!
# Responses reach the job they are for

A handle that is COV-active looks for notifications at the socket, and what it
reads there may be the response to a job of its own session.  Without such a
poll no response is lost: in every reachable state, a job that is still in
flight has received none.
-/

/-- The datagram that a poll for a notification would read. -/
def BacnetClient.nextDatagram? {τ : Type}
    (runtime : ClientRuntime τ)
    (client : BacnetClient τ) : Option ReceivedDatagram :=
  if client.running && client.queuedCovNotifications.entries.isEmpty then
    (runtime.receive client.transport).1
  else
    none

theorem BacnetClient.nextDatagram?_of_receive {τ : Type}
    {runtime : ClientRuntime τ}
    {client received : BacnetClient τ}
    {datagram : ReceivedDatagram}
    (running : client.running = true)
    (empty : client.queuedCovNotifications.takeFirst = none)
    (receives : client.receive runtime = (some datagram, received)) :
    datagram ∈ client.nextDatagram? runtime := by
  have noneQueued := BoundedQueue.takeFirst_eq_none_iff.mp empty
  rw [nextDatagram?, running, noneQueued]
  unfold receive at receives
  split at receives
  · exact nomatch receives
  · rename_i shape
    obtain ⟨isSame, -⟩ := Prod.mk.inj receives
    rw [shape]
    exact isSame

/-- A poll for a notification reads the next datagram, or none. -/
theorem BacnetClient.onlyReceives_pollCovNotification {τ : Type}
    (runtime : ClientRuntime τ)
    (client : BacnetClient τ) :
    OnlyReceives (· ∈ client.nextDatagram? runtime) client
      (client.pollCovNotification runtime false).2 := by
  have next :
      OnlyReceives (· ∈ client.nextDatagram? runtime) client
        (client.nextCovNotification runtime).2 := by
    unfold nextCovNotification
    split
    · exact .of_traffic rfl
    · rename_i isRunning
      have running : client.running = true :=
        Bool.not_eq_eq_eq_not.mp (Bool.eq_false_iff.mpr isRunning)
      split
      · exact .of_traffic rfl
      · rename_i empty
        split
        · rename_i receives
          exact .of_traffic (receive_none receives).1
        · rename_i datagram received receives
          have isNext := nextDatagram?_of_receive running empty receives
          have traffic := (receive_some receives).1
          split
          · refine ⟨[.received datagram], traffic, fun other isMember => ?_⟩
            obtain rfl :=
              ClientTraffic.received.inj (List.mem_singleton.mp isMember)
            exact isNext
          · rename_i notification carried
            refine ⟨[.notified notification, .received datagram], ?_,
              fun other isMember => ?_⟩
            · exact congrArg (List.cons (.notified notification)) traffic
            rcases List.mem_cons.mp isMember with isFirst | isSecond
            · exact nomatch isFirst
            · obtain rfl :=
                ClientTraffic.received.inj (List.mem_singleton.mp isSecond)
              exact isNext
  unfold pollCovNotification
  split
  all_goals
    rename_i shape
    rw [shape] at next
    exact next

namespace ClientSystem

variable {τ : Type}

/-- A session waits for one thing, and not for what it has received. -/
structure Attentive
    (system : ClientSystem τ)
    (id : SessionId) : Prop where
  exclusive : (system.sessions id).Exclusive
  unanswered : system.Unanswered id

/-- Jobs and traffic stay, and nothing begins to wait for a handle. -/
structure Settles (before after : ClientSystem τ) : Prop where
  keeps : before.KeepsJobs after
  traffic : after.client.traffic = before.client.traffic
  slot :
    ∀ id, (after.sessions id).inFlightSubscription.isSome = true →
      (before.sessions id).inFlightSubscription.isSome = true

namespace Settles

variable {first second third : ClientSystem τ}

theorem refl (system : ClientSystem τ) : system.Settles system :=
  ⟨.refl system, rfl, fun _ => id⟩

theorem trans
    (early : first.Settles second)
    (late : second.Settles third) :
    first.Settles third :=
  ⟨early.keeps.trans late.keeps, late.traffic.trans early.traffic,
    fun id waits => early.slot id (late.slot id waits)⟩

/-- No job looks at the handles. -/
theorem setSubscription
    (settles : first.Settles second)
    (handle : SubscriptionId)
    (subscription : BacnetPropertySubscription) :
    first.Settles (second.setSubscription handle subscription) :=
  settles.trans
    ⟨⟨rfl, rfl, fun _ => ⟨rfl, rfl, rfl⟩⟩, rfl, fun _ => id⟩

theorem setSession
    (settles : first.Settles second)
    {id : SessionId}
    {session : BacnetDeviceSession}
    (jobs : (second.sessions id).SameJobs session)
    (slot :
      session.inFlightSubscription.isSome = true →
        (second.sessions id).inFlightSubscription.isSome = true) :
    first.Settles (second.setSession id session) := by
  refine settles.trans
    ⟨(KeepsJobs.refl second).setSession jobs, rfl, fun other waits => ?_⟩
  change (Function.update second.sessions id session
    other).inFlightSubscription.isSome = true at waits
  by_cases isSame : other = id
  · rw [isSame, Function.update_self] at waits
    rw [isSame]
    exact slot waits
  · rw [Function.update_of_ne isSame] at waits
    exact waits

theorem releaseSlot
    (settles : first.Settles second)
    (id : SessionId)
    (handle : SubscriptionId) :
    first.Settles (second.releaseSlot id handle) := by
  unfold ClientSystem.releaseSlot
  split
  · exact settles.setSession ⟨rfl, rfl, rfl⟩ nofun
  · exact settles

theorem releaseSubscription
    (settles : first.Settles second)
    (handle : SubscriptionId) :
    first.Settles (second.releaseSubscription handle) := by
  unfold ClientSystem.releaseSubscription
  dsimp only
  split
  · exact settles
  · exact (settles.releaseSlot _ _).setSubscription _ _

theorem stopSubscription
    (settles : first.Settles second)
    (handle : SubscriptionId) :
    first.Settles (second.stopSubscription handle) := by
  unfold ClientSystem.stopSubscription
  dsimp only
  split
  · split
    · exact (settles.releaseSlot _ _).setSubscription _ _
    · exact settles.setSubscription _ _
  · exact settles

/-- The session of a waiting handle waits for it in its new place. -/
theorem moveFrom
    (settles : first.Settles second)
    (handle other : SubscriptionId) :
    first.Settles (second.moveFrom handle other) := by
  have moved :=
    (settles.setSubscription handle
      (second.subscriptions other)).setSubscription other
        (second.subscriptions other).movedFrom
  unfold ClientSystem.moveFrom
  dsimp only
  split
  · exact moved
  · split
    · rename_i waits
      refine moved.setSession ⟨rfl, rfl, rfl⟩ fun _ => ?_
      exact (congrArg Option.isSome waits).trans rfl
    · exact moved

end Settles

variable {system after : ClientSystem τ} {id : SessionId}

theorem Attentive.of_keepsJobs
    (attentive : system.Attentive id)
    (keeps : system.KeepsJobs after)
    (slot :
      (after.sessions id).inFlightSubscription.isSome = true →
        (system.sessions id).inFlightSubscription.isSome = true)
    (receives :
      BacnetClient.OnlyReceives
        (fun datagram =>
          ∀ read ∈ system.inFlightRead? id, ¬read.IsAnsweredBy datagram)
        system.client after.client) :
    after.Attentive id := by
  have jobs := keeps.session id
  refine ⟨⟨fun waits => ?_, fun waits => ?_⟩,
    attentive.unanswered.of_keepsJobs keeps receives⟩
  · have noJob := attentive.exclusive.subscription (slot waits)
    rw [BacnetDeviceSession.jobInFlight, jobs.read, jobs.scan]
    exact noJob
  · rw [jobs.scan] at waits
    rw [jobs.read]
    exact attentive.exclusive.scan waits

theorem Attentive.of_settles
    (attentive : system.Attentive id)
    (settles : system.Settles after) :
    after.Attentive id :=
  attentive.of_keepsJobs settles.keeps (settles.slot id)
    (.of_traffic settles.traffic)

/--
A poll of a handle for notifications leaves the response to a job of its
session alone: it has a notification to look at, or the next datagram is no
response.
-/
def LeavesResponse
    (runtime : ClientRuntime τ)
    (system : ClientSystem τ)
    (id : SessionId)
    (handle : SubscriptionId) : Prop :=
  system.NonePending id handle →
    ∀ datagram ∈ system.client.nextDatagram? runtime,
      ∀ read ∈ system.inFlightRead? id, ¬read.IsAnsweredBy datagram

instance
    (runtime : ClientRuntime τ)
    (system : ClientSystem τ)
    (id : SessionId)
    (handle : SubscriptionId) :
    Decidable (system.LeavesResponse runtime id handle) :=
  inferInstanceAs (Decidable (_ → _))

/-- Only one session is polled, and its handles leave responses alone. -/
def responseGuard
    (runtime : ClientRuntime τ)
    (id : SessionId) : NotificationGuard τ where
  take system other handle :=
    other = id ∧ system.LeavesResponse runtime id handle
  answer _ := True
  polls other := other = id

variable {runtime : ClientRuntime τ}

/-- What a poll takes or puts aside is no matter of the jobs. -/
theorem Attentive.take
    (attentive : system.Attentive id)
    {handle : SubscriptionId}
    {taken : Option BacnetCovNotification}
    (leaves : system.LeavesResponse runtime id handle)
    (takes : system.takeCovNotification runtime id handle = (taken, after)) :
    after.Attentive id := by
  have polled (nonePending : system.NonePending id handle) :
      (system.onClient fun client =>
        client.pollCovNotification runtime false).2.Attentive id := by
    refine attentive.of_keepsJobs ((KeepsJobs.refl system).onClient _)
      (fun waits => waits) ?_
    exact (system.client.onlyReceives_pollCovNotification runtime).imp
      (leaves nonePending)
  cases takes_takeCovNotification takes with
  | pending =>
      exact attentive.of_settles
        ((Settles.refl system).setSession ⟨rfl, rfl, rfl⟩ fun waits => waits)
  | none nonePending => exact polled nonePending
  | wanted nonePending => exact polled nonePending
  | aside nonePending =>
      exact (polled nonePending).of_settles
        ((Settles.refl _).setSession ⟨rfl, rfl, rfl⟩ fun waits => waits)

theorem Attentive.acknowledgeTaken
    (attentive : system.Attentive id)
    {other : SessionId}
    {handle : SubscriptionId}
    {notification : BacnetCovNotification}
    {accepted : Bool}
    (acknowledges :
      system.acknowledgeTaken runtime other handle notification =
        (accepted, after)) :
    after.Attentive id := by
  unfold ClientSystem.acknowledgeTaken at acknowledges
  split at acknowledges
  · obtain ⟨-, rfl⟩ := Prod.mk.inj acknowledges
    exact attentive.of_keepsJobs ⟨rfl, rfl, fun _ => ⟨rfl, rfl, rfl⟩⟩
      (fun waits => waits)
      (BacnetClient.onlyReceives_acknowledgeCovNotification runtime _ _)
  · obtain ⟨-, rfl⟩ := Prod.mk.inj acknowledges
    exact attentive

theorem Attentive.record
    (attentive : system.Attentive id)
    (event : ClientEvent) :
    (system.record event).Attentive id :=
  ⟨attentive.exclusive, attentive.unanswered⟩

/-- A session without a job begins to wait for a handle. -/
theorem Attentive.setInFlight
    (attentive : system.Attentive id)
    {other : SessionId}
    (noJob : (system.sessions other).jobInFlight = false)
    (handle : SubscriptionId)
    (subscription : BacnetPropertySubscription) :
    (system.setInFlight other handle subscription).Attentive id := by
  have keeps :
      system.KeepsJobs (system.setInFlight other handle subscription) := by
    have settles :=
      (Settles.refl system).setSubscription handle subscription
    exact settles.keeps.setSession ⟨rfl, rfl, rfl⟩
  refine ⟨?_, attentive.unanswered.of_keepsJobs keeps (.of_traffic rfl)⟩
  show (Function.update system.sessions other _ id).Exclusive
  by_cases isSame : id = other
  · subst isSame
    rw [Function.update_self]
    exact ⟨fun _ => noJob, attentive.exclusive.scan⟩
  · rw [Function.update_of_ne isSame]
    exact attentive.exclusive

/-- What a call does leaves no job waiting for what was received. -/
theorem Steps.attentive
    (steps : Steps runtime (responseGuard runtime id) system after)
    (attentive : system.Attentive id) :
    after.Attentive id := by
  induction steps with
  | refl => exact attentive
  | trans _ _ early late => exact late (early attentive)
  | quiet quiet _ responses =>
      exact ⟨(quiet.session id).exclusive attentive.exclusive,
        responses id (fun _ polls => polls) attentive.exclusive
          attentive.unanswered⟩
  | turn =>
      exact attentive.of_settles
        ((Settles.refl _).setSession ⟨rfl, rfl, rfl⟩ fun waits => waits)
  | callback => exact attentive.record _
  | callbackReturned => exact attentive.record _
  | adjust => exact attentive.of_settles ((Settles.refl _).setSubscription _ _)
  | start _ _ free => exact attentive.setInFlight free.noJob _ _
  | release _ _ _ inner =>
      exact (inner attentive).of_settles
        (((Settles.refl _).setSubscription _ _).releaseSlot _ _)
  | reactivate _ _ inner =>
      exact (inner attentive).of_settles
        ((Settles.refl _).setSubscription _ _)
  | stop => exact attentive.of_settles ((Settles.refl _).stopSubscription _)
  | subscribe =>
      exact attentive.of_settles ((Settles.refl _).setSubscription _ _)
  | @answer system _ invokeId service peer polls waits =>
      obtain rfl := polls
      have keeps := (KeepsJobs.refl system).onClient fun client =>
        client.pollSubscribeCov runtime invokeId service peer
      exact ⟨attentive.exclusive,
        unanswered_of_subscription attentive.exclusive waits keeps⟩
  | pass _ _ allowed taken =>
      obtain ⟨rfl, leaves⟩ := allowed
      exact attentive.take leaves taken
  | refuse _ _ allowed taken unsent =>
      obtain ⟨rfl, leaves⟩ := allowed
      exact ((attentive.take leaves taken).acknowledgeTaken unsent).of_settles
        ((Settles.refl _).setSession ⟨rfl, rfl, rfl⟩ fun waits => waits)
  | accept _ _ allowed taken sent =>
      obtain ⟨rfl, leaves⟩ := allowed
      exact ((attentive.take leaves taken).acknowledgeTaken sent).record _

/--
A step polls this session only, and a handle of it, if any, where it leaves
responses alone.
-/
def LeavesResponses
    (runtime : ClientRuntime τ)
    (callback : SubscriptionCallback τ)
    (id : SessionId)
    (system : ClientSystem τ) : ClientStep → Prop
  | .call (.pollSingle other handle nowMs) =>
      other = id ∧
        ∀ current ∈ system.pollStage runtime callback id handle nowMs,
          current.LeavesResponse runtime id handle
  | .call call => ∀ other ∈ call.session?, other = id
  | .moveConstruct _ _ | .moveAssign _ _ | .destroy _ | .startClient _
  | .stopClient => True

instance
    (runtime : ClientRuntime τ)
    (callback : SubscriptionCallback τ)
    (id : SessionId)
    (system : ClientSystem τ)
    (step : ClientStep) :
    Decidable (system.LeavesResponses runtime callback id step) := by
  unfold LeavesResponses
  split
  all_goals infer_instance

variable {callback : SubscriptionCallback τ}

theorem LeavesResponses.callAllowed
    {call : ClientCall}
    (leaves : system.LeavesResponses runtime callback id (.call call)) :
    CallAllowed runtime (responseGuard runtime id) callback system call := by
  cases call with
  | pollSingle other handle nowMs =>
      obtain ⟨rfl, allowed⟩ := leaves
      refine ⟨?_, fun _ _ _ _ => trivial, fun _ _ => trivial, ?_⟩
      · rintro _ ⟨⟩
        rfl
      · rintro _ _ _ ⟨⟩ current isMember
        exact ⟨rfl, allowed current isMember⟩
  | _ => exact ⟨leaves, fun _ _ _ _ => trivial, fun _ _ => trivial, nofun⟩

theorem attentive_step
    (callbacks :
      CallbackSteps runtime (responseGuard runtime id) callback)
    (attentive : system.Attentive id)
    {step : ClientStep}
    (leaves : system.LeavesResponses runtime callback id step) :
    (system.step runtime callback step).Attentive id := by
  have here := Settles.refl system
  cases step with
  | call call =>
      exact (steps_call callbacks leaves.callAllowed).attentive attentive
  | moveConstruct handle other =>
      unfold ClientSystem.step
      dsimp only
      split
      · exact attentive.of_settles (here.moveFrom handle other)
      · exact attentive
  | moveAssign handle other =>
      show (system.moveAssign handle other).Attentive id
      unfold moveAssign
      split
      · exact attentive
      · exact attentive.of_settles
          ((here.releaseSubscription handle).moveFrom handle other)
  | destroy handle =>
      exact attentive.of_settles
        ((here.releaseSubscription handle).setSubscription handle {})
  | startClient => exact ⟨attentive.exclusive, attentive.unanswered⟩
  | stopClient => exact ⟨attentive.exclusive, attentive.unanswered⟩

theorem IsInitial.attentive
    (initial : system.IsInitial)
    (id : SessionId) :
    system.Attentive id := by
  refine ⟨⟨fun waits => ?_, fun waits => ?_⟩, .of_none ?_⟩
  · rw [initial.slot id] at waits
    exact nomatch waits
  · rw [initial.scanSlot id] at waits
    exact nomatch waits
  · rw [inFlightRead?, BacnetDeviceSession.inFlightRead?,
      initial.readSlot id, initial.scanSlot id]
    rfl

/--
A job that is still in flight after a run has received no response, if no
handle was polled where it would have read one.
-/
theorem unanswered_run
    (runtime : ClientRuntime τ)
    (callback : SubscriptionCallback τ)
    (id : SessionId)
    (callbacks :
      CallbackSteps runtime (responseGuard runtime id) callback)
    {system : ClientSystem τ}
    (initial : system.IsInitial)
    {steps : List ClientStep}
    (leaves :
      EventRun.Along (step runtime callback)
        (LeavesResponses runtime callback id) system steps) :
    (system.run runtime callback steps).Unanswered id :=
  (EventRun.run_invariant_along (fun current : ClientSystem τ =>
      current.Attentive id)
    (fun _ _ leaves attentive => attentive_step callbacks attentive leaves)
    (initial.attentive id) leaves).unanswered

end ClientSystem

/-- The session that a step may poll. -/
def ClientStep.session? : ClientStep → Option SessionId
  | .call made => made.session?
  | .moveConstruct _ _ | .moveAssign _ _ | .destroy _ | .startClient _
  | .stopClient => none

/-- A handle is subscribed, a read job begins, and the handle is polled. -/
def readBesideSteps : List ClientStep :=
  [.startClient true,
    .call (.subscribe 0 0 { type := 0, instance_ := 1 } .presentValue
      kBacnetNoArrayIndex { preferCov := true } true 0),
    .call (.pollSingle 0 0 0),
    .call (.pollSingle 0 0 1),
    .call (.beginPropertyRead 0 0
      { object := { type := BacnetObjectType.device, instance_ := 123 }
        property := .objectList
        arrayIndex := 1 } 1000 2),
    .call (.pollSingle 0 0 3)]

/-- The subscription is acknowledged, and the handle reads what comes last. -/
def readBesideScript
    (last : Option ReceivedDatagram) : List (Option ReceivedDatagram) :=
  [some (scriptedSimpleAck scriptedPeer 1), none, last]

/-- A poll that finds nothing at the socket does no harm. -/
theorem unanswered_run_silent :
    ((scriptedSystem (readBesideScript none)).run scriptedRuntime
      ((ClientApplication.observer _).callback scriptedRuntime 1)
      readBesideSteps).Unanswered 0 := by
  apply ClientSystem.unanswered_run
  · exact ClientSystem.callbackSteps_observer 1
  · exact isInitial_scriptedSystem _
  · exact ⟨trivial, by decide +kernel, by decide +kernel, by decide +kernel,
      by decide +kernel, by decide +kernel, trivial⟩

/-- A poll that reads the response drops it. -/
theorem unanswered_run_dropped :
    ¬∀ (system : ClientSystem (List (Option ReceivedDatagram)))
      (steps : List ClientStep)
      (id : SessionId),
      system.IsInitial →
        (∀ step ∈ steps, ∀ other ∈ step.session?, other = id) →
          (system.run scriptedRuntime
            ((ClientApplication.observer _).callback scriptedRuntime 1)
            steps).Unanswered id := by
  intro always
  have unanswered := always
    (scriptedSystem
      (readBesideScript (scriptedEntry 2 1 [0xC4, 0, 0, 0, 1])))
    readBesideSteps 0 (isInitial_scriptedSystem _) (by decide)
    { invokeId := 2
      request :=
        { object := { type := BacnetObjectType.device, instance_ := 123 }
          property := .objectList
          arrayIndex := 1 } } (by decide +kernel)
    { source := scriptedPeer
      packet :=
        [0x81, 0x0A, 0, 25, 1, 0, 0x30, 2, 0x0C, 0x0C, 2, 0, 0, 0x7B, 0x19,
          76, 0x29, 1, 0x3E, 0xC4, 0, 0, 0, 1, 0x3F] } (by decide +kernel)
  exact unanswered (by decide +kernel)

end BacnetStack
