import BacnetStack.ClientExclusive

namespace BacnetStack

/-!
# What a stopped handle still does

A stopped handle is inactive, but what it knows about COV stays, and a handle
that is COV-active takes notifications whether it is active or not.  A handle
that was not COV-active when it was stopped is never heard of again, wherever
it is moved.
-/

/-- The event is about a handle: a callback, an acknowledgement, a delivery. -/
def ClientEvent.Concerns
    (handle : SubscriptionId) : ClientEvent → Prop
  | .callback subscription _ => subscription = handle
  | .acknowledged subscription _ _ _ _ => subscription = handle
  | .delivered _ subscription _ => subscription = handle
  | .callbackReturned _ _ => False

instance (handle : SubscriptionId) :
    (event : ClientEvent) → Decidable (event.Concerns handle)
  | .callback subscription _ =>
      inferInstanceAs (Decidable (subscription = handle))
  | .acknowledged subscription _ _ _ _ =>
      inferInstanceAs (Decidable (subscription = handle))
  | .delivered _ subscription _ =>
      inferInstanceAs (Decidable (subscription = handle))
  | .callbackReturned _ _ => inferInstanceAs (Decidable False)

namespace ClientSystem

variable {τ : Type}

/-- A handle of a session that is neither active nor COV-active. -/
structure Stopped
    (system : ClientSystem τ)
    (handle : SubscriptionId) : Prop where
  live : (system.subscriptions handle).session ≠ none
  inactive : (system.subscriptions handle).active = false
  notCovActive : (system.subscriptions handle).covActive = false

/-- Nothing new was recorded about a handle. -/
def NoNews
    (handle : SubscriptionId)
    (before after : ClientSystem τ) : Prop :=
  ∃ new, after.history = new ++ before.history ∧
    ∀ event ∈ new, ¬event.Concerns handle

variable {handle : SubscriptionId} {first second third : ClientSystem τ}

theorem NoNews.of_same
    (same : second.history = first.history) :
    NoNews handle first second :=
  ⟨[], same, fun _ isMember => absurd isMember List.not_mem_nil⟩

theorem NoNews.trans
    (early : NoNews handle first second)
    (late : NoNews handle second third) :
    NoNews handle first third := by
  obtain ⟨earlyNew, earlyHistory, earlyOthers⟩ := early
  obtain ⟨lateNew, lateHistory, lateOthers⟩ := late
  refine ⟨lateNew ++ earlyNew, ?_, fun event isMember => ?_⟩
  · rw [lateHistory, earlyHistory, List.append_assoc]
  · rcases List.mem_append.mp isMember with isLate | isEarly
    · exact lateOthers event isLate
    · exact earlyOthers event isEarly

/-- One event about something else. -/
theorem NoNews.of_record
    {event : ClientEvent}
    (history : second.history = event :: first.history)
    (other : ¬event.Concerns handle) :
    NoNews handle first second := by
  refine ⟨[event], history, fun recorded isMember => ?_⟩
  rw [List.mem_singleton.mp isMember]
  exact other

namespace Stopped

variable {system after : ClientSystem τ}

theorem of_same
    (stopped : system.Stopped handle)
    (same :
      after.subscriptions handle = system.subscriptions handle) :
    after.Stopped handle :=
  ⟨same ▸ stopped.live, same ▸ stopped.inactive, same ▸ stopped.notCovActive⟩

/-- Whatever a change does to a handle, it does not wake a stopped one. -/
theorem setSubscription
    (stopped : system.Stopped handle)
    {changed : SubscriptionId}
    {subscription : BacnetPropertySubscription}
    (kept :
      changed = handle →
        subscription.session = (system.subscriptions handle).session ∧
          subscription.active = false ∧ subscription.covActive = false) :
    (system.setSubscription changed subscription).Stopped handle := by
  by_cases same : changed = handle
  · obtain ⟨session, inactive, notCovActive⟩ := kept same
    subst same
    have self :=
      subscriptions_setSubscription_self system changed subscription
    exact ⟨by rw [self, session]; exact stopped.live,
      by rw [self]; exact inactive, by rw [self]; exact notCovActive⟩
  · exact stopped.of_same (Function.update_of_ne (Ne.symm same) ..)

/-- A COV-active or active handle is another one. -/
theorem ne_of_active
    (stopped : system.Stopped handle)
    {other : SubscriptionId}
    (active : (system.subscriptions other).active = true) :
    other ≠ handle := by
  rintro rfl
  rw [stopped.inactive] at active
  exact nomatch active

theorem ne_of_covActive
    (stopped : system.Stopped handle)
    {other : SubscriptionId}
    (covActive : (system.subscriptions other).covActive = true) :
    other ≠ handle := by
  rintro rfl
  rw [stopped.notCovActive] at covActive
  exact nomatch covActive

end Stopped

theorem noNews_acknowledgeTaken
    {runtime : ClientRuntime τ}
    {system after : ClientSystem τ}
    {id : SessionId}
    {other : SubscriptionId}
    {notification : BacnetCovNotification}
    {accepted : Bool}
    (acknowledges :
      system.acknowledgeTaken runtime id other notification =
        (accepted, after))
    (differs : other ≠ handle) :
    NoNews handle system after := by
  unfold acknowledgeTaken at acknowledges
  split at acknowledges
  · obtain ⟨-, rfl⟩ := Prod.mk.inj acknowledges
    exact .of_record rfl differs
  · obtain ⟨-, rfl⟩ := Prod.mk.inj acknowledges
    exact .of_same rfl

/-- No chain of steps wakes a stopped handle or records anything about it. -/
theorem Steps.noNews
    {runtime : ClientRuntime τ}
    {guard : NotificationGuard τ}
    {system after : ClientSystem τ}
    (steps : Steps runtime guard system after)
    (stopped : system.Stopped handle) :
    after.Stopped handle ∧ NoNews handle system after := by
  induction steps with
  | refl => exact ⟨stopped, .of_same rfl⟩
  | trans _ _ early late =>
      obtain ⟨stillStopped, earlyNews⟩ := early stopped
      obtain ⟨finallyStopped, lateNews⟩ := late stillStopped
      exact ⟨finallyStopped, earlyNews.trans lateNews⟩
  | quiet quiet =>
      exact ⟨stopped.of_same (congrFun quiet.subscriptions handle),
        .of_same quiet.history⟩
  | turn => exact ⟨stopped.of_same rfl, .of_same rfl⟩
  | callback notification live =>
      refine ⟨stopped.of_same rfl, .of_record rfl fun concerns => ?_⟩
      exact live.elim (fun active => stopped.ne_of_active active concerns)
        fun covActive => stopped.ne_of_covActive covActive concerns
  | callbackReturned =>
      exact ⟨stopped.of_same rfl, .of_record rfl fun concerns => concerns⟩
  | adjust adjusts =>
      refine ⟨stopped.setSubscription ?_, .of_same rfl⟩
      rintro rfl
      refine ⟨adjusts.session, ?_, ?_⟩
      · exact Bool.eq_false_iff.mpr fun active =>
          stopped.ne_of_active (adjusts.active active) rfl
      · exact Bool.eq_false_iff.mpr fun covActive =>
          stopped.ne_of_covActive (adjusts.covActive covActive) rfl
  | start _ starts =>
      refine ⟨(stopped.setSubscription fun same => ?_).of_same rfl,
        .of_same rfl⟩
      exact absurd same (stopped.ne_of_active starts.wasActive)
  | release _ _ releases inner =>
      obtain ⟨stillStopped, news⟩ := inner stopped
      refine ⟨(stillStopped.setSubscription ?_).of_same
        (congrFun (subscriptions_releaseSlot _ _ _) handle),
        news.trans (.of_same (history_releaseSlot _ _ _))⟩
      rintro rfl
      refine ⟨releases.session, ?_, ?_⟩
      · exact Bool.eq_false_iff.mpr fun active =>
          stillStopped.ne_of_active (releases.active active) rfl
      · exact Bool.eq_false_iff.mpr fun covActive =>
          (releases.covActive covActive).elim
            (fun wasCovActive =>
              stillStopped.ne_of_covActive wasCovActive rfl)
            fun wasActive => stillStopped.ne_of_active wasActive rfl
  | reactivate covActive _ inner =>
      obtain ⟨stillStopped, news⟩ := inner stopped
      refine ⟨stillStopped.setSubscription fun same => ?_, news⟩
      exact absurd same (stopped.ne_of_covActive covActive)
  | stop system other =>
      refine ⟨?_, .of_same (history_stopSubscription _ _)⟩
      have subscriptions := subscriptions_stopSubscription system other
      split at subscriptions
      · rename_i active
        refine stopped.of_same ?_
        rw [subscriptions,
          Function.update_of_ne (stopped.ne_of_active active).symm]
      · exact stopped.of_same (congrFun subscriptions handle)
  | subscribe unused =>
      refine ⟨stopped.setSubscription fun same => ?_, .of_same rfl⟩
      subst same
      exact absurd unused stopped.live
  | answer => exact ⟨stopped.of_same rfl, .of_same rfl⟩
  | pass _ _ _ taken =>
      obtain ⟨same, history⟩ := sameSubscriptions_takeCovNotification taken
      exact ⟨stopped.of_same (congrFun same.subscriptions handle),
        .of_same history⟩
  | refuse _ covActive _ taken unsent =>
      obtain ⟨same, history⟩ := sameSubscriptions_takeCovNotification taken
      have both := same.trans (sameSubscriptions_acknowledgeTaken unsent).1
      refine ⟨stopped.of_same (congrFun both.subscriptions handle), ?_⟩
      have unsentNews := noNews_acknowledgeTaken unsent
        (stopped.ne_of_covActive covActive)
      exact ((NoNews.of_same history).trans unsentNews).trans (.of_same rfl)
  | accept _ covActive _ taken sent =>
      obtain ⟨same, history⟩ := sameSubscriptions_takeCovNotification taken
      have both := same.trans (sameSubscriptions_acknowledgeTaken sent).1
      have differs := stopped.ne_of_covActive covActive
      refine ⟨stopped.of_same (congrFun both.subscriptions handle), ?_⟩
      exact ((NoNews.of_same history).trans
        (noNews_acknowledgeTaken sent differs)).trans
          (.of_record rfl differs)

/-- Where a handle is after a step, if it still exists. -/
def relocate
    (system : ClientSystem τ)
    (handle : SubscriptionId) : ClientStep → Option SubscriptionId
  | .moveConstruct target other =>
      if other = handle ∧ (system.subscriptions target).session = none ∧
          target ≠ other then
        some target
      else
        some handle
  | .moveAssign target other =>
      if target = other then
        some handle
      else if other = handle then
        some target
      else if target = handle then
        none
      else
        some handle
  | .destroy target => if target = handle then none else some handle
  | .call _ | .startClient _ | .stopClient => some handle

/-- A system together with the place of a handle in it. -/
abbrev Followed (τ : Type) : Type :=
  ClientSystem τ × Option SubscriptionId

section

variable (runtime : ClientRuntime τ) (application : ClientApplication τ)
  (depth : Nat)

def followedStep
    (state : Followed τ)
    (step : ClientStep) : Followed τ :=
  (state.1.step runtime (application.callback runtime depth) step,
    state.2.bind fun handle => state.1.relocate handle step)

/-- A step tells nothing about the handle that is followed. -/
def Undisturbed
    (state : Followed τ)
    (step : ClientStep) : Prop :=
  ∀ handle ∈ state.2,
    NoNews handle state.1
      (state.1.step runtime (application.callback runtime depth) step)

end

namespace Stopped

variable {system : ClientSystem τ}

theorem of_moveFrom
    (stopped : system.Stopped handle)
    {target other : SubscriptionId}
    (differs : target ≠ other)
    (notTarget : target ≠ handle) :
    (system.moveFrom target other).Stopped
      (if other = handle then target else handle) := by
  have subscriptions :
      (system.moveFrom target other).subscriptions =
        Function.update
          (Function.update system.subscriptions target
            (system.subscriptions other))
          other (system.subscriptions other).movedFrom := by
    obtain ⟨_, moved⟩ := system.moveFrom_eq target other
    rw [moved]
  split
  · rename_i same
    subst same
    have arrived :
        (system.moveFrom target other).subscriptions target =
          system.subscriptions other := by
      rw [subscriptions, Function.update_of_ne differs, Function.update_self]
    exact ⟨arrived ▸ stopped.live, arrived ▸ stopped.inactive,
      arrived ▸ stopped.notCovActive⟩
  · rename_i notOther
    refine stopped.of_same ?_
    rw [subscriptions, Function.update_of_ne (Ne.symm notOther),
      Function.update_of_ne notTarget.symm]

/-- A stopped handle stays stopped wherever a step takes it. -/
theorem step
    (stopped : system.Stopped handle)
    (runtime : ClientRuntime τ)
    (application : ClientApplication τ)
    (depth : Nat)
    (step : ClientStep) :
    ∀ location ∈ system.relocate handle step,
      (system.step runtime (application.callback runtime depth)
        step).Stopped location := by
  cases step with
  | call call =>
      rintro location ⟨⟩
      exact ((steps_call (callbackSteps_application application depth)
        (callAllowed_trivial system call)).noNews stopped).1
  | moveConstruct target other =>
      intro location isLocation
      unfold ClientSystem.step
      unfold relocate at isLocation
      dsimp only at isLocation ⊢
      split
      · rename_i allowed
        have notTarget : target ≠ handle := by
          rintro rfl
          exact stopped.live allowed.1
        have moved := stopped.of_moveFrom allowed.2 notTarget
        split at isLocation
        · rename_i isOther
          rw [if_pos isOther.1] at moved
          exact Option.mem_some_iff.mp isLocation ▸ moved
        · rename_i notOther
          rw [if_neg (fun same => notOther ⟨same, allowed⟩)] at moved
          exact Option.mem_some_iff.mp isLocation ▸ moved
      · rename_i refused
        rw [if_neg (fun all => refused all.2)] at isLocation
        exact Option.mem_some_iff.mp isLocation ▸ stopped
  | moveAssign target other =>
      intro location isLocation
      show (system.moveAssign target other).Stopped location
      unfold relocate at isLocation
      unfold moveAssign
      dsimp only at isLocation
      split at isLocation
      · rename_i same
        rw [if_pos same]
        exact Option.mem_some_iff.mp isLocation ▸ stopped
      · rename_i differs
        rw [if_neg differs]
        split at isLocation
        · rename_i isOther
          have notTarget : target ≠ handle := by
            rintro rfl
            exact differs isOther.symm
          have moved := (stopped.of_same
            (system.subscriptions_releaseSubscription
              (Ne.symm notTarget))).of_moveFrom differs notTarget
          rw [if_pos isOther] at moved
          exact Option.mem_some_iff.mp isLocation ▸ moved
        · rename_i notOther
          split at isLocation
          · exact absurd isLocation (Option.not_mem_none location)
          · rename_i notTarget
            have moved := (stopped.of_same
              (system.subscriptions_releaseSubscription
                (Ne.symm notTarget))).of_moveFrom differs notTarget
            rw [if_neg notOther] at moved
            exact Option.mem_some_iff.mp isLocation ▸ moved
  | destroy target =>
      intro location isLocation
      unfold relocate at isLocation
      dsimp only at isLocation
      split at isLocation
      · exact absurd isLocation (Option.not_mem_none location)
      · rename_i differs
        obtain rfl := Option.mem_some_iff.mp isLocation
        refine stopped.of_same ?_
        show Function.update
          (system.releaseSubscription target).subscriptions target _ _ = _
        rw [Function.update_of_ne (Ne.symm differs),
          system.subscriptions_releaseSubscription (Ne.symm differs)]
  | startClient bound =>
      rintro location ⟨⟩
      exact stopped.of_same rfl
  | stopClient =>
      rintro location ⟨⟩
      exact stopped.of_same rfl

end Stopped

/-- A single step tells nothing about a stopped handle. -/
theorem Stopped.noNews_step
    {system : ClientSystem τ}
    (stopped : system.Stopped handle)
    (runtime : ClientRuntime τ)
    (application : ClientApplication τ)
    (depth : Nat)
    (step : ClientStep) :
    NoNews handle system
      (system.step runtime (application.callback runtime depth) step) := by
  by_cases isCall : ∃ call, step = .call call
  · obtain ⟨call, rfl⟩ := isCall
    exact ((steps_call (callbackSteps_application application depth)
      (callAllowed_trivial system call)).noNews stopped).2
  · exact .of_same (keepsHistory_step runtime
      (application.callback runtime depth) system
      (fun call isSame => isCall ⟨call, isSame⟩)).history

/-- A stopped handle is never heard of again. -/
theorem Stopped.undisturbed_run
    (runtime : ClientRuntime τ)
    (application : ClientApplication τ)
    (depth : Nat)
    {state : Followed τ}
    (stopped : ∀ handle ∈ state.2, state.1.Stopped handle)
    (steps : List ClientStep) :
    EventRun.Along (followedStep runtime application depth)
      (Undisturbed runtime application depth) state steps := by
  induction steps generalizing state with
  | nil => trivial
  | cons step rest inductionHypothesis =>
      refine ⟨fun handle isFollowed =>
        (stopped handle isFollowed).noNews_step runtime application depth
          step, inductionHypothesis ?_⟩
      intro location isLocation
      obtain ⟨handle, isFollowed, isNext⟩ :=
        Option.mem_bind_iff.mp isLocation
      exact (stopped handle isFollowed).step runtime application depth step
        location isNext

/--
A handle of a session that was stopped while it was not COV-active is never
called back, acknowledged for or given a notification again, whatever the
application does and wherever the handle is moved.
-/
theorem undisturbed_of_stop
    (runtime : ClientRuntime τ)
    (application : ClientApplication τ)
    (depth : Nat)
    (system : ClientSystem τ)
    (handle : SubscriptionId)
    (live : (system.subscriptions handle).session ≠ none)
    (notCovActive : (system.subscriptions handle).covActive = false)
    (steps : List ClientStep) :
    EventRun.Along (followedStep runtime application depth)
      (Undisturbed runtime application depth)
      (system.stopSubscription handle, some handle) steps := by
  refine Stopped.undisturbed_run runtime application depth ?_ steps
  rintro location ⟨⟩
  have subscriptions := system.subscriptions_stopSubscription handle
  split at subscriptions
  · have stopped := congrFun subscriptions handle
    rw [Function.update_self] at stopped
    exact ⟨stopped ▸ live, stopped ▸ rfl, stopped ▸ notCovActive⟩
  · rename_i inactive
    have unchanged := congrFun subscriptions handle
    exact ⟨unchanged ▸ live,
      unchanged ▸ Bool.eq_false_iff.mpr inactive, unchanged ▸ notCovActive⟩

end ClientSystem

/-- A handle subscribes, and its request is acknowledged. -/
def subscribedSteps (preferCov : Bool) : List ClientStep :=
  [.startClient true,
    .call (.subscribe 0 0 { type := 0, instance_ := 1 } .presentValue
      kBacnetNoArrayIndex { preferCov := preferCov } true 0),
    .call (.pollSingle 0 0 0),
    .call (.pollSingle 0 0 1)]

/-- Then a confirmed notification arrives. -/
def subscribedSystem
    (preferCov : Bool) : ClientSystem (List (Option ReceivedDatagram)) :=
  (scriptedSystem
    [some (scriptedSimpleAck scriptedPeer 1), none,
      some (scriptedNotification scriptedPeer 1 true 7)]).run
    scriptedRuntime
    ((ClientApplication.observer _).callback scriptedRuntime 1)
    (subscribedSteps preferCov)

/-- A handle that only polled is silent after it was stopped. -/
theorem undisturbed_of_stop_polling :
    EventRun.Along
      (ClientSystem.followedStep scriptedRuntime
        (ClientApplication.observer _) 1)
      (ClientSystem.Undisturbed scriptedRuntime
        (ClientApplication.observer _) 1)
      ((subscribedSystem false).stopSubscription 0, some 0)
      [.call (.pollSingle 0 0 2), .moveConstruct 1 0,
        .call (.pollArray 0 [1] 3)] :=
  ClientSystem.undisturbed_of_stop _ _ _ _ 0 (by decide +kernel)
    (by decide +kernel) _

/-- A COV-active handle goes on acknowledging, and its callback is invoked. -/
theorem undisturbed_of_stop_covActive :
    ¬∀ (system : ClientSystem (List (Option ReceivedDatagram)))
      (handle : SubscriptionId)
      (steps : List ClientStep),
      (system.subscriptions handle).session ≠ none →
        EventRun.Along
          (ClientSystem.followedStep scriptedRuntime
            (ClientApplication.observer _) 1)
          (ClientSystem.Undisturbed scriptedRuntime
            (ClientApplication.observer _) 1)
          (system.stopSubscription handle, some handle) steps := by
  intro always
  obtain ⟨undisturbed, -⟩ := always (subscribedSystem true) 0
    [.call (.pollSingle 0 0 2)] (by decide +kernel)
  obtain ⟨new, history, others⟩ := undisturbed 0 rfl
  have nothingBefore :
      ((subscribedSystem true).stopSubscription 0).history = [] := by
    decide +kernel
  have heard :
      ∃ event ∈
        (((subscribedSystem true).stopSubscription 0).step scriptedRuntime
          ((ClientApplication.observer _).callback scriptedRuntime 1)
          (.call (.pollSingle 0 0 2))).history,
        event.Concerns 0 := by
    decide +kernel
  obtain ⟨event, isMember, concerns⟩ := heard
  rw [nothingBefore, List.append_nil] at history
  exact others event (history ▸ isMember) concerns

end BacnetStack
