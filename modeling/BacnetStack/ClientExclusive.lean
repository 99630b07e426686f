import BacnetStack.ClientRuns

namespace BacnetStack

/-!
# A session waits for one thing at a time

The slots of a session and the marks of the handles say the same: a handle is
marked in flight exactly where its session waits for it, and a session waits
for one subscription, one scan or one read.  Starting a subscription does not
look at the slot, so a callback that leaves another handle in flight can break
this; without one it holds in every reachable state.
-/

namespace ClientSystem

variable {τ : Type}

/-- The slots of the sessions and the marks of the handles agree. -/
structure InFlightInvariant (system : ClientSystem τ) : Prop where
  exclusive : ∀ id, (system.sessions id).Exclusive
  slot :
    ∀ id handle,
      (system.sessions id).inFlightSubscription = some handle →
        (system.subscriptions handle).session = some id ∧
          (system.subscriptions handle).inFlight = true
  marked :
    ∀ handle, (system.subscriptions handle).inFlight = true →
      ∃ id,
        (system.subscriptions handle).session = some id ∧
          (system.sessions id).inFlightSubscription = some handle

namespace InFlightInvariant

variable {system : ClientSystem τ}

/-- A change that leaves the handles and the slots alone. -/
theorem of_same
    (holds : system.InFlightInvariant)
    {after : ClientSystem τ}
    (subscriptions : after.subscriptions = system.subscriptions)
    (slot :
      ∀ id,
        (after.sessions id).inFlightSubscription =
          (system.sessions id).inFlightSubscription)
    (exclusive :
      ∀ id, (system.sessions id).Exclusive → (after.sessions id).Exclusive) :
    after.InFlightInvariant := by
  refine ⟨fun id => exclusive id (holds.exclusive id), ?_, ?_⟩
  · intro id handle waits
    rw [slot id] at waits
    rw [subscriptions]
    exact holds.slot id handle waits
  · intro handle inFlight
    rw [subscriptions] at inFlight ⊢
    obtain ⟨id, own, waits⟩ := holds.marked handle inFlight
    exact ⟨id, own, (slot id).trans waits⟩

theorem of_sameSubscriptions
    (holds : system.InFlightInvariant)
    {after : ClientSystem τ}
    (same : system.SameSubscriptions after) :
    after.InFlightInvariant := by
  refine holds.of_same same.subscriptions (fun id => ?_) fun id exclusive => ?_
  · obtain ⟨pending, session⟩ := same.session id
    rw [session]
  · obtain ⟨pending, session⟩ := same.session id
    rw [session]
    exact ⟨exclusive.subscription, exclusive.scan⟩

/-- A handle changes, but neither its session nor its mark. -/
theorem setSubscription
    (holds : system.InFlightInvariant)
    {handle : SubscriptionId}
    {subscription : BacnetPropertySubscription}
    (session :
      subscription.session = (system.subscriptions handle).session)
    (inFlight :
      subscription.inFlight = (system.subscriptions handle).inFlight) :
    (system.setSubscription handle subscription).InFlightInvariant := by
  have same (other : SubscriptionId) :
      ((system.setSubscription handle subscription).subscriptions
          other).session = (system.subscriptions other).session ∧
        ((system.setSubscription handle subscription).subscriptions
          other).inFlight = (system.subscriptions other).inFlight := by
    refine ⟨session_setSubscription session other, ?_⟩
    show (Function.update system.subscriptions handle subscription
      other).inFlight = _
    by_cases isSame : other = handle
    · rw [isSame, Function.update_self]
      exact inFlight
    · rw [Function.update_of_ne isSame]
  refine ⟨holds.exclusive, ?_, ?_⟩
  · intro id other waits
    rw [(same other).1, (same other).2]
    exact holds.slot id other waits
  · intro other isMarked
    rw [(same other).2] at isMarked
    rw [(same other).1]
    exact holds.marked other isMarked

/-- A session without a job begins to wait for an idle handle of its own. -/
theorem setInFlight
    (holds : system.InFlightInvariant)
    {id : SessionId}
    {handle : SubscriptionId}
    {subscription : BacnetPropertySubscription}
    (own : (system.subscriptions handle).session = some id)
    (starts : (system.subscriptions handle).Starts subscription)
    (noJob : (system.sessions id).jobInFlight = false)
    (free : (system.sessions id).inFlightSubscription = none) :
    (system.setInFlight id handle subscription).InFlightInvariant := by
  have ownAfter : subscription.session = some id :=
    starts.session.trans own
  refine ⟨fun other => ?_, fun other started => ?_, fun started => ?_⟩
  · show (Function.update system.sessions id _ other).Exclusive
    by_cases isSame : other = id
    · rw [isSame, Function.update_self]
      exact ⟨fun _ => noJob, (holds.exclusive id).scan⟩
    · rw [Function.update_of_ne isSame]
      exact holds.exclusive other
  · show (Function.update system.sessions id _ other).inFlightSubscription =
        some started →
      (Function.update system.subscriptions handle subscription
          started).session = some other ∧
        (Function.update system.subscriptions handle subscription
          started).inFlight = true
    intro waits
    by_cases isSame : other = id
    · rw [isSame, Function.update_self] at waits
      obtain rfl := Option.some.inj waits
      rw [Function.update_self, isSame]
      exact ⟨ownAfter, starts.inFlight⟩
    · rw [Function.update_of_ne isSame] at waits
      obtain ⟨ownStarted, isMarked⟩ := holds.slot other started waits
      have differs : started ≠ handle := by
        rintro rfl
        rw [starts.wasIdle] at isMarked
        exact nomatch isMarked
      rw [Function.update_of_ne differs]
      exact ⟨ownStarted, isMarked⟩
  · show (Function.update system.subscriptions handle subscription
        started).inFlight = true →
      ∃ other,
        (Function.update system.subscriptions handle subscription
            started).session = some other ∧
          (Function.update system.sessions id _ other).inFlightSubscription =
            some started
    intro isMarked
    by_cases isSame : started = handle
    · rw [isSame]
      exact ⟨id, by rw [Function.update_self]; exact ownAfter,
        by rw [Function.update_self]⟩
    · rw [Function.update_of_ne isSame] at isMarked ⊢
      obtain ⟨other, ownStarted, waits⟩ := holds.marked started isMarked
      have differs : other ≠ id := by
        rintro rfl
        rw [free] at waits
        exact nomatch waits
      exact ⟨other, ownStarted, by
        rw [Function.update_of_ne differs]; exact waits⟩

/-- A handle and its session stop waiting for each other. -/
theorem releaseSlot
    (holds : system.InFlightInvariant)
    {id : SessionId}
    {handle : SubscriptionId}
    {subscription : BacnetPropertySubscription}
    (own : (system.subscriptions handle).session = some id)
    (idle : subscription.inFlight = false) :
    ((system.setSubscription handle subscription).releaseSlot id
      handle).InFlightInvariant := by
  have sessions := sessions_releaseSlot
    (system.setSubscription handle subscription) id handle
  have subscriptions := subscriptions_releaseSlot
    (system.setSubscription handle subscription) id handle
  -- A slot that is still set names another handle.
  have slots {other : SessionId} {waiting : SubscriptionId}
      (waits :
        (((system.setSubscription handle subscription).releaseSlot id
          handle).sessions other).inFlightSubscription = some waiting) :
      (system.sessions other).inFlightSubscription = some waiting ∧
        waiting ≠ handle := by
    rw [sessions other] at waits
    dsimp only at waits
    split at waits
    · exact nomatch waits
    · rename_i notReleased
      refine ⟨waits, ?_⟩
      rintro rfl
      have ownOther := (holds.slot other waiting waits).1
      obtain rfl : id = other :=
        Option.some.inj (own.symm.trans ownOther)
      exact notReleased ⟨rfl, waits⟩
  refine ⟨fun other => ?_, fun other waiting waits => ?_,
    fun waiting isMarked => ?_⟩
  · rw [sessions other]
    have exclusive := holds.exclusive other
    refine ⟨fun waits => ?_, exclusive.scan⟩
    dsimp only at waits
    split at waits
    · exact nomatch waits
    · exact exclusive.subscription waits
  · obtain ⟨waited, differs⟩ := slots waits
    rw [subscriptions]
    show (Function.update system.subscriptions handle subscription
        waiting).session = some other ∧
      (Function.update system.subscriptions handle subscription
        waiting).inFlight = true
    rw [Function.update_of_ne differs]
    exact holds.slot other waiting waited
  · rw [subscriptions] at isMarked ⊢
    replace isMarked :
        (Function.update system.subscriptions handle subscription
          waiting).inFlight = true := isMarked
    show ∃ other,
      (Function.update system.subscriptions handle subscription
        waiting).session = some other ∧ _
    by_cases isSame : waiting = handle
    · rw [isSame, Function.update_self, idle] at isMarked
      exact nomatch isMarked
    · rw [Function.update_of_ne isSame] at isMarked ⊢
      obtain ⟨other, ownWaiting, waits⟩ := holds.marked waiting isMarked
      refine ⟨other, ownWaiting, ?_⟩
      rw [sessions other]
      dsimp only
      rw [if_neg]
      · exact waits
      · rintro ⟨rfl, waited⟩
        exact isSame (Option.some.inj (waits.symm.trans waited))

/-- A handle without a session is not in flight. -/
theorem idle_of_no_session
    (holds : system.InFlightInvariant)
    {handle : SubscriptionId}
    (unused : (system.subscriptions handle).session = none) :
    (system.subscriptions handle).inFlight = false := by
  cases isMarked : (system.subscriptions handle).inFlight with
  | false => rfl
  | true =>
      obtain ⟨id, own, -⟩ := holds.marked handle isMarked
      rw [unused] at own
      exact nomatch own

theorem stopSubscription
    (holds : system.InFlightInvariant)
    (handle : SubscriptionId) :
    (system.stopSubscription handle).InFlightInvariant := by
  unfold ClientSystem.stopSubscription
  dsimp only
  split
  · split
    · rename_i id own
      rw [releaseSlot_setSubscription]
      exact holds.releaseSlot own rfl
    · rename_i unused
      exact holds.setSubscription rfl
        (holds.idle_of_no_session unused).symm
  · exact holds

/-- A new handle waits for nothing. -/
theorem subscribe
    (holds : system.InFlightInvariant)
    {handle : SubscriptionId}
    {subscription : BacnetPropertySubscription}
    (unused : (system.subscriptions handle).session = none)
    (idle : subscription.inFlight = false) :
    (system.setSubscription handle subscription).InFlightInvariant := by
  refine ⟨holds.exclusive, fun id waiting waits => ?_,
    fun waiting isMarked => ?_⟩
  · have waited := holds.slot id waiting waits
    have differs : waiting ≠ handle := by
      rintro rfl
      rw [unused] at waited
      exact nomatch waited.1
    show (Function.update system.subscriptions handle subscription
        waiting).session = some id ∧
      (Function.update system.subscriptions handle subscription
        waiting).inFlight = true
    rw [Function.update_of_ne differs]
    exact waited
  · replace isMarked :
        (Function.update system.subscriptions handle subscription
          waiting).inFlight = true := isMarked
    show ∃ id,
      (Function.update system.subscriptions handle subscription
        waiting).session = some id ∧ _
    by_cases isSame : waiting = handle
    · rw [isSame, Function.update_self, idle] at isMarked
      exact nomatch isMarked
    · rw [Function.update_of_ne isSame] at isMarked ⊢
      exact holds.marked waiting isMarked

end InFlightInvariant

variable {runtime : ClientRuntime τ} {guard : NotificationGuard τ}

/-- A chain of steps in which no callback was overtaken. -/
theorem Steps.inFlightInvariant
    {system after : ClientSystem τ}
    (steps : Steps runtime guard system after)
    (notOvertaken : ¬after.WasOvertaken)
    (holds : system.InFlightInvariant) :
    after.InFlightInvariant := by
  induction steps with
  | refl => exact holds
  | trans _ later early late =>
      exact late notOvertaken
        (early (fun overtaken =>
          notOvertaken (later.wasOvertaken overtaken)) holds)
  | quiet quiet =>
      exact holds.of_same quiet.subscriptions
        (fun id => (quiet.session id).slot)
        (fun id => (quiet.session id).exclusive)
  | turn =>
      refine holds.of_same rfl (fun id => ?_) fun id exclusive => ?_
      · rw [sessions_setTurn]
      · rw [sessions_setTurn]
        exact ⟨exclusive.subscription, exclusive.scan⟩
  | callback => exact holds.of_same rfl (fun _ => rfl) fun _ => id
  | callbackReturned => exact holds.of_same rfl (fun _ => rfl) fun _ => id
  | adjust adjusts =>
      exact holds.setSubscription adjusts.session adjusts.inFlight
  | start own starts free =>
      refine holds.setInFlight own starts free.noJob ?_
      exact free.slot.resolve_right notOvertaken
  | @release system notified id handle subscription owns inner releases
      inductionHypothesis =>
      rw [WasOvertaken, history_releaseSlot] at notOvertaken
      have own : (system.subscriptions handle).session = some id :=
        owns.elim (fun waits => (holds.slot id handle waits).1) fun own => own
      exact (inductionHypothesis notOvertaken holds).releaseSlot
        (inner.session_eq own) releases.inFlight
  | reactivate _ _ inductionHypothesis =>
      exact (inductionHypothesis notOvertaken holds).setSubscription rfl rfl
  | stop _ handle => exact holds.stopSubscription handle
  | subscribe unused _ idle => exact holds.subscribe unused idle
  | answer =>
      exact holds.of_sameSubscriptions (sameSubscriptions_onClient _ _)
  | pass _ _ _ taken =>
      exact holds.of_sameSubscriptions
        (sameSubscriptions_takeCovNotification taken).1
  | refuse _ _ _ taken unsent =>
      exact holds.of_sameSubscriptions
        (((sameSubscriptions_takeCovNotification taken).1.trans
          (sameSubscriptions_acknowledgeTaken unsent).1).setPending _ _)
  | accept _ _ _ taken sent =>
      have accepted := holds.of_sameSubscriptions
        ((sameSubscriptions_takeCovNotification taken).1.trans
          (sameSubscriptions_acknowledgeTaken sent).1)
      exact accepted.of_same rfl (fun _ => rfl) fun _ => id

namespace InFlightInvariant

variable {system : ClientSystem τ}

/-- A handle that is released is in no slot and not marked. -/
theorem releaseSubscription
    (holds : system.InFlightInvariant)
    (handle : SubscriptionId) :
    (system.releaseSubscription handle).InFlightInvariant ∧
      ((system.releaseSubscription handle).subscriptions
        handle).inFlight = false := by
  unfold ClientSystem.releaseSubscription
  dsimp only
  split
  · rename_i unused
    exact ⟨holds, holds.idle_of_no_session unused⟩
  · rename_i id own
    rw [releaseSlot_setSubscription]
    refine ⟨holds.releaseSlot own rfl, ?_⟩
    rw [subscriptions_releaseSlot, subscriptions_setSubscription_self]
    rfl

/-- The session that waits for a handle follows it when it moves. -/
theorem slot_moveFrom
    (holds : system.InFlightInvariant)
    (handle other : SubscriptionId)
    (id : SessionId) :
    (system.moveFrom handle other).sessions id = {
      system.sessions id with
      inFlightSubscription :=
        if (system.sessions id).inFlightSubscription = some other then
          some handle
        else
          (system.sessions id).inFlightSubscription
    } := by
  have unmoved
      (notWaiting :
        (system.sessions id).inFlightSubscription ≠ some other) :
      system.sessions id = {
        system.sessions id with
        inFlightSubscription :=
          if (system.sessions id).inFlightSubscription = some other then
            some handle
          else
            (system.sessions id).inFlightSubscription
      } := by
    rw [if_neg notWaiting]
  unfold ClientSystem.moveFrom
  dsimp only
  split
  · rename_i unused
    refine unmoved fun waits => ?_
    rw [(holds.slot id other waits).1] at unused
    exact nomatch unused
  · rename_i owner own
    split
    · rename_i waits
      show Function.update system.sessions owner _ id = _
      by_cases same : id = owner
      · subst same
        rw [Function.update_self, if_pos waits]
      · rw [Function.update_of_ne same]
        refine unmoved fun waitsToo => ?_
        rw [(holds.slot id other waitsToo).1] at own
        exact same (Option.some.inj own)
    · rename_i notWaiting
      refine unmoved fun waits => ?_
      rw [(holds.slot id other waits).1] at own
      obtain rfl := Option.some.inj own
      exact notWaiting waits

/-- The place of a handle that is not in flight is taken over. -/
theorem moveFrom
    (holds : system.InFlightInvariant)
    {handle other : SubscriptionId}
    (differs : handle ≠ other)
    (idle : (system.subscriptions handle).inFlight = false) :
    (system.moveFrom handle other).InFlightInvariant := by
  have sessions := holds.slot_moveFrom handle other
  have subscriptions :
      (system.moveFrom handle other).subscriptions =
        Function.update
          (Function.update system.subscriptions handle
            (system.subscriptions other))
          other (system.subscriptions other).movedFrom := by
    obtain ⟨_, moved⟩ := system.moveFrom_eq handle other
    rw [moved]
  have atHandle :
      (system.moveFrom handle other).subscriptions handle =
        system.subscriptions other := by
    rw [subscriptions, Function.update_of_ne differs, Function.update_self]
  have atOther :
      ((system.moveFrom handle other).subscriptions other).inFlight =
        false := by
    rw [subscriptions, Function.update_self]
    rfl
  have elsewhere {waiting : SubscriptionId}
      (notHandle : waiting ≠ handle)
      (notOther : waiting ≠ other) :
      (system.moveFrom handle other).subscriptions waiting =
        system.subscriptions waiting := by
    rw [subscriptions, Function.update_of_ne notOther,
      Function.update_of_ne notHandle]
  refine ⟨fun id => ?_, fun id waiting waits => ?_,
    fun waiting isMarked => ?_⟩
  · rw [sessions id]
    have exclusive := holds.exclusive id
    refine ⟨fun waits => exclusive.subscription ?_, exclusive.scan⟩
    dsimp only at waits
    split at waits
    · rename_i waited
      rw [waited]
      rfl
    · exact waits
  · rw [sessions id] at waits
    dsimp only at waits
    split at waits
    · rename_i waited
      obtain rfl := Option.some.inj waits
      rw [atHandle]
      exact holds.slot id other waited
    · rename_i notOther
      have waited := holds.slot id waiting waits
      rw [elsewhere]
      · exact waited
      · rintro rfl
        rw [idle] at waited
        exact nomatch waited.2
      · rintro rfl
        exact notOther waits
  · by_cases isHandle : waiting = handle
    · subst isHandle
      rw [atHandle] at isMarked ⊢
      obtain ⟨id, own, waits⟩ := holds.marked other isMarked
      refine ⟨id, own, ?_⟩
      rw [sessions id]
      exact if_pos waits
    · have notOther : waiting ≠ other := by
        rintro rfl
        rw [atOther] at isMarked
        exact nomatch isMarked
      rw [elsewhere isHandle notOther] at isMarked ⊢
      obtain ⟨id, own, waits⟩ := holds.marked waiting isMarked
      refine ⟨id, own, ?_⟩
      rw [sessions id]
      dsimp only
      rw [if_neg]
      · exact waits
      · intro waitsOther
        exact notOther (Option.some.inj (waits.symm.trans waitsOther))

theorem destroySubscription
    (holds : system.InFlightInvariant)
    (handle : SubscriptionId) :
    (system.destroySubscription handle).InFlightInvariant := by
  obtain ⟨released, idle⟩ := holds.releaseSubscription handle
  unfold ClientSystem.destroySubscription
  generalize system.releaseSubscription handle = current at released idle ⊢
  -- No slot names the handle, so nothing is left that could.
  have unnamed (id : SessionId) :
      (current.sessions id).inFlightSubscription ≠ some handle := by
    intro waits
    rw [(released.slot id handle waits).2] at idle
    exact nomatch idle
  refine ⟨released.exclusive, fun id waiting waits => ?_,
    fun waiting isMarked => ?_⟩
  · have differs : waiting ≠ handle := by
      rintro rfl
      exact unnamed id waits
    show (Function.update current.subscriptions handle {} waiting).session =
        some id ∧
      (Function.update current.subscriptions handle {} waiting).inFlight =
        true
    rw [Function.update_of_ne differs]
    exact released.slot id waiting waits
  · replace isMarked :
        (Function.update current.subscriptions handle {}
          waiting).inFlight = true := isMarked
    show ∃ id,
      (Function.update current.subscriptions handle {}
        waiting).session = some id ∧ _
    by_cases isSame : waiting = handle
    · rw [isSame, Function.update_self] at isMarked
      exact nomatch isMarked
    · rw [Function.update_of_ne isSame] at isMarked ⊢
      exact released.marked waiting isMarked

end InFlightInvariant

section

variable (runtime : ClientRuntime τ) (application : ClientApplication τ)
  (depth : Nat)

/-- What has happened stays recorded over the steps of an application. -/
theorem history_suffix_step
    (system : ClientSystem τ)
    (step : ClientStep) :
    system.history <:+
      (system.step runtime (application.callback runtime depth)
        step).history := by
  by_cases isCall : ∃ call, step = .call call
  · obtain ⟨call, rfl⟩ := isCall
    exact (steps_call (callbackSteps_application application depth)
      (callAllowed_trivial system call)).history_suffix
  · have kept := keepsHistory_step runtime
      (application.callback runtime depth) system
      (fun call isSame => isCall ⟨call, isSame⟩)
    exact kept.history ▸ List.suffix_refl _

theorem wasOvertaken_step
    {system : ClientSystem τ}
    (overtaken : system.WasOvertaken)
    (step : ClientStep) :
    (system.step runtime (application.callback runtime depth)
      step).WasOvertaken := by
  obtain ⟨event, isMember, isOvertaken⟩ := overtaken
  exact ⟨event,
    (history_suffix_step runtime application depth system step).subset
      isMember, isOvertaken⟩

theorem inFlightInvariant_step
    {system : ClientSystem τ}
    (holds : system.InFlightInvariant)
    {step : ClientStep}
    (notOvertaken :
      ¬(system.step runtime (application.callback runtime depth)
        step).WasOvertaken) :
    (system.step runtime (application.callback runtime depth)
      step).InFlightInvariant := by
  cases step with
  | call call =>
      exact (steps_call (callbackSteps_application application depth)
        (callAllowed_trivial system call)).inFlightInvariant notOvertaken
          holds
  | moveConstruct handle other =>
      unfold ClientSystem.step
      dsimp only
      split
      · rename_i unused
        exact holds.moveFrom unused.2 (holds.idle_of_no_session unused.1)
      · exact holds
  | moveAssign handle other =>
      show (system.moveAssign handle other).InFlightInvariant
      unfold moveAssign
      split
      · exact holds
      · rename_i differs
        obtain ⟨released, idle⟩ := holds.releaseSubscription handle
        exact released.moveFrom differs idle
  | destroy handle => exact holds.destroySubscription handle
  | startClient => exact holds.of_same rfl (fun _ => rfl) fun _ => id
  | stopClient => exact holds.of_same rfl (fun _ => rfl) fun _ => id

/-- At first nothing waits for anything. -/
theorem IsInitial.inFlightInvariant
    {system : ClientSystem τ}
    (initial : system.IsInitial) :
    system.InFlightInvariant := by
  refine ⟨fun id => ⟨fun waits => ?_, fun waits => ?_⟩,
    fun id handle waits => ?_, fun handle isMarked => ?_⟩
  · rw [initial.slot id] at waits
    exact nomatch waits
  · rw [initial.scanSlot id] at waits
    exact nomatch waits
  · rw [initial.slot id] at waits
    exact nomatch waits
  · rw [initial.subscriptions handle] at isMarked
    exact nomatch isMarked

theorem inFlightInvariant_run
    {system : ClientSystem τ}
    (holds : system.InFlightInvariant)
    {steps : List ClientStep}
    (notOvertaken :
      ¬(system.run runtime (application.callback runtime depth)
        steps).WasOvertaken) :
    (system.run runtime (application.callback runtime depth)
      steps).InFlightInvariant := by
  induction steps generalizing system with
  | nil => exact holds
  | cons step rest inductionHypothesis =>
      refine inductionHypothesis
        (inFlightInvariant_step runtime application depth holds
          fun overtaken => notOvertaken ?_) notOvertaken
      exact EventRun.run_invariant WasOvertaken
        (fun system step overtaken =>
          wasOvertaken_step runtime application depth overtaken step)
        overtaken rest

end

/-- What an application is promised about the slots and the marks. -/
structure WaitsForOne (system : ClientSystem τ) : Prop where
  atMostOne :
    ∀ id,
      [(system.sessions id).inFlightSubscription.isSome,
        (system.sessions id).inFlightObjectListScan.isSome,
        (system.sessions id).inFlightPropertyRead.isSome].count true ≤ 1
  marked :
    ∀ handle id, (system.subscriptions handle).session = some id →
      ((system.subscriptions handle).inFlight = true ↔
        (system.sessions id).inFlightSubscription = some handle)

theorem InFlightInvariant.waitsForOne
    {system : ClientSystem τ}
    (holds : system.InFlightInvariant) :
    system.WaitsForOne := by
  refine ⟨fun id => ?_, fun handle id own => ⟨fun isMarked => ?_, ?_⟩⟩
  · obtain ⟨subscription, scan⟩ := holds.exclusive id
    cases waits : (system.sessions id).inFlightSubscription with
    | some handle =>
        obtain ⟨noRead, noScan⟩ :=
          BacnetDeviceSession.jobInFlight_eq_false_iff.mp
            (subscription (waits ▸ rfl))
        rw [noRead, noScan]
        exact Nat.le_refl 1
    | none =>
        cases scans : (system.sessions id).inFlightObjectListScan with
        | some scan' =>
            rw [scan (scans ▸ rfl)]
            exact Nat.le_refl 1
        | none =>
            cases (system.sessions id).inFlightPropertyRead with
            | some read => exact Nat.le_refl 1
            | none => exact Nat.zero_le 1
  · obtain ⟨other, ownToo, waits⟩ := holds.marked handle isMarked
    obtain rfl := Option.some.inj (own.symm.trans ownToo)
    exact waits
  · exact fun waits => (holds.slot id handle waits).2

/--
In every state of a run in which no callback for a notification returned with
another handle of its session in flight, while its own handle was active and
due for renewal.
-/
theorem waitsForOne_run
    (runtime : ClientRuntime τ)
    (application : ClientApplication τ)
    (depth : Nat)
    {system : ClientSystem τ}
    (initial : system.IsInitial)
    {steps : List ClientStep}
    (notOvertaken :
      ¬(system.run runtime (application.callback runtime depth)
        steps).WasOvertaken) :
    (system.run runtime (application.callback runtime depth)
      steps).WaitsForOne :=
  (inFlightInvariant_run runtime application depth
    initial.inFlightInvariant notOvertaken).waitsForOne

end ClientSystem

/--
A session that subscribes for analog input 1, polls analog input 2, and is
polled again when the subscription is due for renewal.
-/
def renewalSteps (renewalAtMs : UInt32) : List ClientStep :=
  [.startClient true,
    .call (.subscribe 0 0 { type := 0, instance_ := 1 } .presentValue
      kBacnetNoArrayIndex { preferCov := true } true 0),
    .call (.subscribe 0 1 { type := 0, instance_ := 2 } .presentValue
      kBacnetNoArrayIndex {} false 0),
    .call (.pollSingle 0 0 0),
    .call (.pollSingle 0 0 1),
    .call (.pollSingle 0 0 renewalAtMs)]

/-- The subscribe request is acknowledged, then a notification arrives. -/
def renewalScript : List (Option ReceivedDatagram) :=
  [some (scriptedSimpleAck scriptedPeer 1), none,
    some (scriptedNotification scriptedPeer 1 false 0)]

/-- An application whose callback polls the other handle. -/
def pollingApplication : ClientApplication (List (Option ReceivedDatagram)) :=
  fun _ _ _ => [.pollSingle 0 1 60000]

/-- A notification some time before the renewal does no harm. -/
theorem waitsForOne_run_early :
    ((scriptedSystem renewalScript).run scriptedRuntime
      (pollingApplication.callback scriptedRuntime 1)
      (renewalSteps 2)).WaitsForOne :=
  ClientSystem.waitsForOne_run _ _ _ (isInitial_scriptedSystem renewalScript)
    (by decide +kernel)

/-- At the renewal the polled handle is overwritten and stays in flight. -/
theorem waitsForOne_run_overtaken :
    ¬∀ (system : ClientSystem (List (Option ReceivedDatagram)))
      (application : ClientApplication (List (Option ReceivedDatagram)))
      (steps : List ClientStep),
      system.IsInitial →
        (system.run scriptedRuntime
          (application.callback scriptedRuntime 1) steps).WaitsForOne := by
  intro always
  have promised := (always (scriptedSystem renewalScript) pollingApplication
    (renewalSteps 60000) (isInitial_scriptedSystem renewalScript)).marked 1 0
      (by decide +kernel)
  exact absurd promised (by decide +kernel)

end BacnetStack
