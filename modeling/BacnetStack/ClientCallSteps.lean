import BacnetStack.ClientSteps

namespace BacnetStack

/-!
# Every call is a chain of steps

The functions of a session, from the end of a poll up to the calls of an
application and the callbacks in them, each shown to be a chain of the
changes listed for a call.
-/

/-- The cache belongs to no subscription. -/
theorem BacnetDeviceSession.quiet_cacheResult
    (session : BacnetDeviceSession)
    (subscription : BacnetPropertySubscription)
    (result : SubscriptionResult)
    (nowMs : UInt32) :
    session.QuietStep (session.cacheResult subscription result nowMs) := by
  rw [cacheResult_eq]
  exact ⟨rfl, rfl, rfl, rfl, PropertyCache.followsFrom_replay _ _,
    fun exclusive => ⟨exclusive.subscription, exclusive.scan⟩⟩

theorem BacnetDeviceSession.sameJobs_cacheResult
    (session : BacnetDeviceSession)
    (subscription : BacnetPropertySubscription)
    (result : SubscriptionResult)
    (nowMs : UInt32) :
    session.SameJobs (session.cacheResult subscription result nowMs) := by
  rw [cacheResult_eq]
  exact ⟨rfl, rfl, rfl⟩

namespace BacnetPropertySubscription

variable (subscription : BacnetPropertySubscription)

theorem adjusts_recordResult
    (result : SubscriptionResult)
    (nowMs : UInt32) :
    subscription.Adjusts (subscription.recordResult result nowMs) :=
  ⟨rfl, rfl, id, id⟩

theorem releases_completeResult (nowMs : UInt32) :
    subscription.Releases (subscription.completeResult nowMs) :=
  ⟨rfl, rfl, id, .inl⟩

/-- A subscribe request that was not sent is tried again later. -/
theorem adjusts_sendFailed
    (nowMs : UInt32)
    (rejectReason : UInt8)
    (covStatus : BacnetCovSubscriptionStatus) :
    subscription.Adjusts
      { { subscription.assignProcessId with
          covRejectReason := rejectReason }.scheduleCovRetry nowMs with
        covStatus := covStatus } := by
  unfold assignProcessId
  split
  · exact ⟨rfl, rfl, id, nofun⟩
  · exact ⟨rfl, rfl, id, nofun⟩

/-- A subscribe request leaves the handle waiting. -/
theorem starts_subscribe
    (wasActive : subscription.active = true)
    (wasIdle : subscription.inFlight = false)
    (rejectReason invokeId : UInt8)
    (nowMs : UInt32) :
    subscription.Starts
      { subscription.assignProcessId with
        covRejectReason := rejectReason
        inFlight := true
        inFlightInvokeId := invokeId
        inFlightStartedAt := nowMs
        inFlightOperation := .subscribeCov } := by
  unfold assignProcessId
  split
  · exact ⟨rfl, wasActive, wasIdle, rfl, rfl⟩
  · exact ⟨rfl, wasActive, wasIdle, rfl, rfl⟩

theorem releases_covAcknowledged
    (active : subscription.active = true)
    (nowMs : UInt32) :
    subscription.Releases (subscription.covAcknowledged nowMs) :=
  ⟨rfl, rfl, id, fun _ => .inr active⟩

/-- A handle that is due is active and waits for nothing. -/
theorem of_isDue
    {subscription : BacnetPropertySubscription}
    {nowMs : UInt32}
    (due : subscription.isDue nowMs = true) :
    subscription.active = true ∧ subscription.inFlight = false ∧
      (subscription.covActive = true →
        subscription.renewalReached nowMs = true) := by
  unfold isDue at due
  split at due
  · exact nomatch due
  · rename_i idle
    obtain ⟨active, inFlight⟩ :=
      Bool.or_eq_false_iff.mp (Bool.eq_false_iff.mpr idle)
    refine ⟨Bool.not_eq_eq_eq_not.mp active, inFlight, fun covActive => ?_⟩
    rw [if_pos covActive] at due
    exact due

end BacnetPropertySubscription

namespace ClientSystem

variable {τ : Type}

/-- What a callback must be for its calls to be steps. -/
structure CallbackSteps
    (runtime : ClientRuntime τ)
    (guard : NotificationGuard τ)
    (callback : SubscriptionCallback τ) : Prop where
  steps :
    ∀ handle notification system,
      Steps runtime guard system (callback handle notification system)
  returned :
    ∀ handle notification system,
      BacnetSubscriptionNotification.covProperties notification |>.isSome →
        ∃ current,
          Steps runtime guard system current ∧
          callback handle notification system =
            current.record
              (.callbackReturned handle
                (current.overtaken handle
                  (system.subscriptions handle).lastUpdateMs))

variable {runtime : ClientRuntime τ} {guard : NotificationGuard τ}
  {callback : SubscriptionCallback τ}

theorem CallbackSteps.forget
    (callbacks : CallbackSteps runtime guard callback) :
    CallbackSteps runtime (.trivial τ) callback where
  steps handle notification system :=
    (callbacks.steps handle notification system).forget
  returned handle notification system isCov := by
    obtain ⟨current, steps, returns⟩ :=
      callbacks.returned handle notification system isCov
    exact ⟨current, steps.forget, returns⟩

/-- What a session that is polled does for the only one that is. -/
theorem responses_of_polls
    {system after : ClientSystem τ}
    {id : SessionId}
    (polls : guard.polls id)
    (responses :
      (system.sessions id).Exclusive → system.Unanswered id →
        after.Unanswered id) :
    ∀ other, guard.PollsOnly other →
      (system.sessions other).Exclusive → system.Unanswered other →
        after.Unanswered other := by
  intro other only
  obtain rfl := only id polls
  exact responses

/-- Requests and other changes with which nothing is received. -/
theorem steps_of_exchange
    {system after : ClientSystem τ}
    (exchange : system.ExchangeStep after)
    (receives :
      BacnetClient.OnlyReceives (fun _ => False) system.client
        after.client) :
    Steps runtime guard system after :=
  .quiet exchange.quiet (fun sound => sound.of_same exchange.keeps.scans)
    fun _ _ _ unanswered => unanswered.of_keepsJobs exchange.keeps
      (receives.imp fun _ => False.elim)

/-- A change of a session that leaves its subscriptions and jobs alone. -/
theorem steps_setSession
    {system : ClientSystem τ}
    {id : SessionId}
    {session : BacnetDeviceSession}
    (quiet : (system.sessions id).QuietStep session)
    (jobs : (system.sessions id).SameJobs session) :
    Steps runtime guard system (system.setSession id session) :=
  steps_of_exchange ((ExchangeStep.refl system).setSession quiet jobs)
    (.of_traffic rfl)

theorem steps_resolveNow
    (system : ClientSystem τ)
    (nowMs : UInt32) :
    Steps runtime guard system (system.resolveNow runtime nowMs).2 :=
  .quiet ((QuietStep.refl system).resolveNow runtime nowMs)
    (fun sound => sound.of_same (scans_resolveNow runtime system nowMs))
    fun _ _ _ unanswered => unanswered.resolveNow runtime nowMs

theorem steps_recordResult
    (system : ClientSystem τ)
    (id : SessionId)
    (handle : SubscriptionId)
    (result : SubscriptionResult)
    (nowMs : UInt32) :
    Steps runtime guard system
      (system.recordResult id handle result nowMs) :=
  (steps_setSession
    (BacnetDeviceSession.quiet_cacheResult _ _ _ _)
    (BacnetDeviceSession.sameJobs_cacheResult _ _ _ _)).trans
      (.adjust (BacnetPropertySubscription.adjusts_recordResult _ _ _))

theorem steps_notifyResult
    (callbacks : CallbackSteps runtime guard callback)
    {system : ClientSystem τ}
    {handle : SubscriptionId}
    (live :
      (system.subscriptions handle).active = true ∨
        (system.subscriptions handle).covActive = true)
    (subscription : BacnetPropertySubscription)
    (result : SubscriptionResult) :
    Steps runtime guard system
      (system.notifyResult callback handle subscription result) := by
  unfold notifyResult
  dsimp only
  split
  · exact (Steps.callback _ live).trans (callbacks.steps _ _ _)
  · exact .refl system

/-- The handle whose result was recorded. -/
theorem subscriptions_recordResult
    (system : ClientSystem τ)
    (id : SessionId)
    (handle : SubscriptionId)
    (result : SubscriptionResult)
    (nowMs : UInt32) :
    (system.recordResult id handle result nowMs).subscriptions handle =
      (system.subscriptions handle).recordResult result nowMs :=
  Function.update_self ..

theorem steps_finishSubscriptionPoll
    (callbacks : CallbackSteps runtime guard callback)
    {system : ClientSystem τ}
    {id : SessionId}
    {handle : SubscriptionId}
    (owns : system.Owns id handle)
    (live :
      (system.subscriptions handle).active = true ∨
        (system.subscriptions handle).covActive = true)
    (result : SubscriptionResult)
    (nowMs : UInt32) :
    Steps runtime guard system
      (system.finishSubscriptionPoll callback id handle result nowMs) := by
  have recorded : Steps runtime guard system
      (system.recordResult id handle result nowMs) :=
    steps_recordResult _ _ _ _ _
  have stillLive :
      ((system.recordResult id handle result nowMs).subscriptions
          handle).active = true ∨
        ((system.recordResult id handle result nowMs).subscriptions
          handle).covActive = true := by
    rw [subscriptions_recordResult]
    exact live
  have notified := steps_notifyResult callbacks stillLive
    (system.subscriptions handle) result
  exact .release owns (recorded.trans notified)
    (BacnetPropertySubscription.releases_completeResult _ _)

/-- A session may start something for a handle, or the handle will not. -/
def MayStart
    (system : ClientSystem τ)
    (id : SessionId)
    (handle : SubscriptionId)
    (nowMs : UInt32) : Prop :=
  ((system.sessions id).inFlightSubscription = none ∨
    system.WasOvertaken) ∨
  (system.subscriptions handle).active = false ∨
  ((system.subscriptions handle).covActive = true ∧
    (system.subscriptions handle).renewalReached nowMs = false)

theorem MayStart.slot_of_isDue
    {system : ClientSystem τ}
    {id : SessionId}
    {handle : SubscriptionId}
    {nowMs : UInt32}
    (mayStart : system.MayStart id handle nowMs)
    (due : (system.subscriptions handle).isDue nowMs = true) :
    (system.sessions id).inFlightSubscription = none ∨
      system.WasOvertaken := by
  obtain ⟨active, -, renewal⟩ :=
    BacnetPropertySubscription.of_isDue due
  rcases mayStart with free | inactive | ⟨covActive, early⟩
  · exact free
  · rw [inactive] at active
    exact nomatch active
  · rw [renewal covActive] at early
    exact nomatch early

theorem steps_tryStartSubscriptionPoll
    (callbacks : CallbackSteps runtime guard callback)
    {system : ClientSystem τ}
    {id : SessionId}
    {handle : SubscriptionId}
    {nowMs : UInt32}
    (own : (system.subscriptions handle).session = some id)
    (mayStart : system.MayStart id handle nowMs) :
    Steps runtime guard system
      (system.tryStartSubscriptionPoll runtime callback id handle
        nowMs) := by
  unfold tryStartSubscriptionPoll
  dsimp only
  split
  · exact .refl system
  · rename_i startable
    obtain ⟨notDue, noJob⟩ :=
      Bool.or_eq_false_iff.mp (Bool.eq_false_iff.mpr startable)
    have due : (system.subscriptions handle).isDue nowMs = true :=
      Bool.not_eq_eq_eq_not.mp notDue
    obtain ⟨active, idle, -⟩ := BacnetPropertySubscription.of_isDue due
    have slot := mayStart.slot_of_isDue due
    have allocated :
        (system.allocateInvokeId id).2.sessions id =
          (system.sessions id).allocateInvokeId.2 :=
      Function.update_self ..
    have asked : Steps runtime guard system
        ((system.allocateInvokeId id).2.onClient fun client =>
          client.sendReadProperty runtime
            ((system.allocateInvokeId id).2.sessions id).endpoint
            (system.subscriptions handle).request
            (system.allocateInvokeId id).1).2 :=
      steps_of_exchange
        (((ExchangeStep.refl system).allocateInvokeId id).sendReadProperty
          runtime _ _ _)
        (BacnetClient.onlyReceives_sendReadProperty runtime _ _ _ _)
    split
    · refine asked.trans (.start own ⟨rfl, active, idle, rfl, rfl⟩ ⟨?_, ?_⟩)
      · show ((system.allocateInvokeId id).2.sessions id).jobInFlight = false
        rw [allocated]
        exact noJob
      · show ((system.allocateInvokeId id).2.sessions
          id).inFlightSubscription = none ∨ system.WasOvertaken
        rw [allocated]
        exact slot
    · refine asked.trans ?_
      apply steps_finishSubscriptionPoll callbacks
      · exact .inr own
      · exact .inl active

/-- A subscribe request is started for an active handle that is due for it. -/
theorem of_covStartPossible
    {session : BacnetDeviceSession}
    {subscription : BacnetPropertySubscription}
    {nowMs : UInt32}
    (possible : covStartPossible session subscription nowMs = true) :
    subscription.active = true ∧ subscription.inFlight = false ∧
      session.jobInFlight = false ∧
      (subscription.covActive = true →
        subscription.renewalReached nowMs = true) := by
  unfold covStartPossible at possible
  simp only [Bool.and_eq_true, Bool.not_eq_eq_eq_not, Bool.not_true,
    Bool.and_eq_false_imp, Bool.not_false] at possible
  obtain ⟨⟨⟨⟨⟨active, idle⟩, noJob⟩, -⟩, -⟩, renewal⟩ := possible
  exact ⟨active, idle, noJob, renewal⟩

/--
A subscribe request is started or not; where it is not, a poll of the handle
may still be.
-/
theorem steps_tryStartCovSubscription
    {system after : ClientSystem τ}
    {id : SessionId}
    {handle : SubscriptionId}
    {nowMs : UInt32}
    {started : Bool}
    (own : (system.subscriptions handle).session = some id)
    (mayStart : system.MayStart id handle nowMs)
    (tries :
      system.tryStartCovSubscription runtime id handle nowMs =
        (started, after)) :
    Steps runtime guard system after ∧
      (started = false → after.MayStart id handle nowMs) := by
  unfold tryStartCovSubscription at tries
  split at tries
  · rename_i possible
    obtain ⟨active, idle, noJob, renewal⟩ := of_covStartPossible possible
    have slot :
        (system.sessions id).inFlightSubscription = none ∨
          system.WasOvertaken := by
      rcases mayStart with free | inactive | ⟨covActive, early⟩
      · exact free
      · rw [inactive] at active
        exact nomatch active
      · rw [renewal covActive] at early
        exact nomatch early
    dsimp only at tries
    generalize counts :
      (system.allocateInvokeId id).2.setSession id _ = counted at tries
    have allocated :
        (system.allocateInvokeId id).2.sessions id =
          (system.sessions id).allocateInvokeId.2 :=
      Function.update_self ..
    have asksOnce : system.ExchangeStep counted := by
      rw [← counts]
      exact ((ExchangeStep.refl system).allocateInvokeId id).setSession
        ⟨rfl, rfl, rfl, rfl, .refl _, fun exclusive =>
          ⟨exclusive.subscription, exclusive.scan⟩⟩ ⟨rfl, rfl, rfl⟩
    have stillNoJob : (counted.sessions id).jobInFlight = false := by
      rw [← counts, sessions_setSession_self]
      exact (congrArg BacnetDeviceSession.jobInFlight allocated).trans noJob
    have traffic : counted.client.traffic = system.client.traffic := by
      rw [← counts]
      rfl
    generalize (system.allocateInvokeId id).1 = invokeId at tries
    generalize ((system.allocateInvokeId id).2.sessions id).endpoint =
      endpoint at tries
    have exchange := asksOnce.sendSubscription runtime endpoint
      { (counted.subscriptions handle).assignProcessId with
        covRejectReason := 0xFF } invokeId
    have sameSessions :
        (counted.sendSubscription runtime endpoint
          { (counted.subscriptions handle).assignProcessId with
            covRejectReason := 0xFF } invokeId).2.sessions =
          counted.sessions := rfl
    have sends := counted.onlyReceives_sendSubscription runtime endpoint
      { (counted.subscriptions handle).assignProcessId with
        covRejectReason := 0xFF } invokeId
    rw [asksOnce.quiet.subscriptions]
      at tries exchange sameSessions sends
    generalize counted.sendSubscription runtime endpoint _ invokeId = answer
      at tries exchange sameSessions sends
    obtain ⟨sent, current⟩ := answer
    dsimp only at tries exchange sameSessions sends
    have steps : Steps runtime guard system current :=
      steps_of_exchange exchange
        ((BacnetClient.OnlyReceives.of_traffic traffic).trans sends)
    have asked := exchange.quiet
    split at tries
    · obtain ⟨rfl, rfl⟩ := Prod.mk.inj tries
      refine ⟨steps.trans (.start ?_ ?_ ⟨?_, ?_⟩), nofun⟩
      · rw [asked.subscriptions]
        exact own
      · rw [asked.subscriptions]
        exact BacnetPropertySubscription.starts_subscribe _ active idle
          0xFF invokeId nowMs
      · rw [sameSessions]
        exact stillNoJob
      · rw [(asked.session id).slot]
        exact slot.imp_right fun overtaken =>
          overtaken.of_history asked.history
    · obtain ⟨rfl, rfl⟩ := Prod.mk.inj tries
      have counted : (current.sessions id).QuietStep
          { current.sessions id with
            covSendFailureCount :=
              (current.sessions id).covSendFailureCount + 1 } :=
        ⟨rfl, rfl, rfl, rfl, .refl _, fun exclusive =>
          ⟨exclusive.subscription, exclusive.scan⟩⟩
      refine ⟨(steps.trans (steps_setSession counted ⟨rfl, rfl, rfl⟩)).trans
        (.adjust ?_), fun _ => .inl ?_⟩
      · show (current.subscriptions handle).Adjusts _
        rw [asked.subscriptions]
        exact BacnetPropertySubscription.adjusts_sendFailed _ nowMs 0xFF _
      · show (Function.update current.sessions id _
          id).inFlightSubscription = none ∨ current.WasOvertaken
        rw [Function.update_self]
        show (current.sessions id).inFlightSubscription = none ∨ _
        rw [(asked.session id).slot]
        exact slot.imp_right fun overtaken =>
          overtaken.of_history asked.history
  · obtain ⟨-, rfl⟩ := Prod.mk.inj tries
    exact ⟨.refl system, fun _ => mayStart⟩

theorem steps_startSubscriptionWork
    (callbacks : CallbackSteps runtime guard callback)
    {system : ClientSystem τ}
    {id : SessionId}
    {handle : SubscriptionId}
    {nowMs : UInt32}
    (own : (system.subscriptions handle).session = some id)
    (mayStart : system.MayStart id handle nowMs) :
    Steps runtime guard system
      (system.startSubscriptionWork runtime callback id handle nowMs) := by
  unfold startSubscriptionWork
  split
  · rename_i tries
    exact (steps_tryStartCovSubscription own mayStart tries).1
  · rename_i tries
    obtain ⟨(steps : Steps runtime guard _ _), still⟩ :=
      steps_tryStartCovSubscription own mayStart tries
    exact steps.trans
      (steps_tryStartSubscriptionPoll callbacks (steps.session_eq own)
        (still rfl))

/-- The session that waits for a handle stops waiting for it. -/
theorem steps_endWait
    {system : ClientSystem τ}
    {id : SessionId}
    {handle : SubscriptionId}
    {subscription : BacnetPropertySubscription}
    {session : BacnetDeviceSession}
    (waits : (system.sessions id).inFlightSubscription = some handle)
    (releases :
      (system.subscriptions handle).Releases subscription)
    (quiet :
      BacnetDeviceSession.QuietStep
        { system.sessions id with inFlightSubscription := none } session)
    (jobs :
      BacnetDeviceSession.SameJobs
        { system.sessions id with inFlightSubscription := none } session) :
    Steps runtime guard system
      ((system.setSubscription handle subscription).setSession id
        session) := by
  have released :
      (system.setSubscription handle subscription).releaseSlot id handle =
        (system.setSubscription handle subscription).setSession id
          { system.sessions id with inFlightSubscription := none } :=
    if_pos waits
  rw [← setSession_setSession _ id
    { system.sessions id with inFlightSubscription := none }, ← released]
  refine (Steps.release (.inl waits) (.refl system) releases).trans
    (steps_setSession ?_ ?_)
  · rw [released, sessions_setSession_self]
    exact quiet
  · rw [released, sessions_setSession_self]
    exact jobs

theorem steps_failCovSubscription
    {system : ClientSystem τ}
    {id : SessionId}
    {handle : SubscriptionId}
    (waits : (system.sessions id).inFlightSubscription = some handle)
    (kind : BacnetSubscribeCovResponseKind)
    (rejectReason : UInt8)
    (nowMs : UInt32) :
    Steps runtime guard system
      (system.failCovSubscription id handle kind rejectReason nowMs) := by
  refine steps_endWait waits
    ⟨rfl, rfl, fun active => active, nofun⟩
    ⟨rfl, rfl, rfl, rfl, .refl _, ?_⟩
    ⟨rfl, rfl, rfl⟩
  exact fun exclusive => ⟨exclusive.subscription, exclusive.scan⟩

theorem steps_pollCovResponse
    {system : ClientSystem τ}
    {id : SessionId}
    {handle : SubscriptionId}
    (waits : (system.sessions id).inFlightSubscription = some handle)
    (active : (system.subscriptions handle).active = true)
    (subscribing :
      (system.subscriptions handle).inFlightOperation = .subscribeCov)
    (polls : guard.polls id)
    (allowed : guard.answer system)
    (nowMs : UInt32) :
    Steps runtime guard system
      (system.pollCovResponse runtime id handle nowMs) := by
  unfold pollCovResponse
  dsimp only
  generalize (if (system.subscriptions handle).options.usePropertyCov = true
    then kServiceSubscribeCovProperty else kServiceSubscribeCov) = service
  have answered : Steps runtime guard system
      (system.onClient fun client =>
        client.pollSubscribeCov runtime
          (system.subscriptions handle).inFlightInvokeId service
          (some (system.sessions id).endpoint)).2 :=
    .answer _ _ _ polls (waits ▸ rfl) ⟨id, handle, waits, subscribing⟩
      allowed
  split
  · refine answered.trans ?_
    apply steps_endWait
    · exact waits
    · exact BacnetPropertySubscription.releases_covAcknowledged _ active
        nowMs
    · exact .refl _
    · exact ⟨rfl, rfl, rfl⟩
  · split
    · refine answered.trans ?_
      apply steps_failCovSubscription
      exact waits
    · exact answered

theorem steps_pollReadResponse
    (callbacks : CallbackSteps runtime guard callback)
    {system : ClientSystem τ}
    {id : SessionId}
    {handle : SubscriptionId}
    (waits : (system.sessions id).inFlightSubscription = some handle)
    (active : (system.subscriptions handle).active = true)
    (polls : guard.polls id)
    (nowMs : UInt32) :
    Steps runtime guard system
      (system.pollReadResponse runtime callback id handle nowMs) := by
  unfold pollReadResponse
  dsimp only
  have polled : Steps runtime guard system
      (system.onClient fun client =>
        client.pollReadPropertyStatus runtime
          (system.subscriptions handle).inFlightInvokeId
          (system.subscriptions handle).request).2 :=
    .quiet ((QuietStep.refl system).pollRead runtime _ _)
      (fun sound => sound.of_same rfl)
      (responses_of_polls polls fun exclusive _ =>
        unanswered_of_subscription exclusive (waits ▸ rfl)
          ((KeepsJobs.refl system).onClient _))
  split
  · refine polled.trans ?_
    apply steps_finishSubscriptionPoll callbacks
    · exact .inl waits
    · exact .inl active
  · split
    · refine polled.trans ?_
      apply steps_finishSubscriptionPoll callbacks
      · exact .inl waits
      · exact .inl active
    · exact polled

theorem steps_pollInFlightSubscription
    (callbacks : CallbackSteps runtime guard callback)
    {system : ClientSystem τ}
    (allowed : guard.answer system)
    {id : SessionId}
    (polls : guard.polls id)
    (nowMs : UInt32) :
    Steps runtime guard system
      (system.pollInFlightSubscription runtime callback id nowMs) := by
  unfold pollInFlightSubscription
  split
  · exact .refl system
  · rename_i handle waits
    dsimp only
    split
    · exact steps_endWait waits ⟨rfl, rfl, fun active => active, .inl⟩
        (.refl _) ⟨rfl, rfl, rfl⟩
    · rename_i isActive
      have active : (system.subscriptions handle).active = true :=
        Bool.not_eq_eq_eq_not.mp (Bool.eq_false_iff.mpr isActive)
      split
      · rename_i subscribing
        exact steps_pollCovResponse waits active subscribing polls allowed
          nowMs
      · exact steps_pollReadResponse callbacks waits active polls nowMs

/-- What a completed poll and the flag of a delivery leave in the slot. -/
theorem slot_completeSubscriptionPoll
    (system : ClientSystem τ)
    (id : SessionId)
    (handle : SubscriptionId)
    (nowMs : UInt32)
    (free :
      ∀ other, (system.sessions id).inFlightSubscription = some other →
        other = handle) :
    ((system.completeSubscriptionPoll id handle nowMs).sessions
      id).inFlightSubscription = none := by
  unfold completeSubscriptionPoll
  rw [sessions_releaseSlot]
  show (if id = id ∧ (system.sessions id).inFlightSubscription = some handle
    then none else (system.sessions id).inFlightSubscription) = none
  split
  · rfl
  · rename_i differs
    cases slot : (system.sessions id).inFlightSubscription with
    | none => rfl
    | some other =>
        obtain rfl := free other slot
        exact absurd ⟨rfl, slot⟩ differs

theorem history_completeSubscriptionPoll
    (system : ClientSystem τ)
    (id : SessionId)
    (handle : SubscriptionId)
    (nowMs : UInt32) :
    (system.completeSubscriptionPoll id handle nowMs).history =
      system.history :=
  history_releaseSlot ..

theorem subscriptions_completeSubscriptionPoll
    (system : ClientSystem τ)
    (id : SessionId)
    (handle : SubscriptionId)
    (nowMs : UInt32) :
    (system.completeSubscriptionPoll id handle nowMs).subscriptions handle =
      (system.subscriptions handle).completeResult nowMs := by
  unfold completeSubscriptionPoll
  rw [subscriptions_releaseSlot]
  exact Function.update_self ..

/-- After a delivery the session is free, or its handle is not started. -/
theorem mayStart_of_delivery
    (callbacks : CallbackSteps runtime guard callback)
    {system : ClientSystem τ}
    {id : SessionId}
    {handle : SubscriptionId}
    {nowMs : UInt32}
    (own : (system.subscriptions handle).session = some id)
    (free : (system.sessions id).inFlightSubscription = none)
    {result : SubscriptionResult}
    (notified : result.covNotification.isSome = true)
    {finished : ClientSystem τ}
    (finishes :
      system.finishSubscriptionPoll callback id handle result nowMs =
        finished) :
    (finished.setSubscription handle
      { finished.subscriptions handle with
        covActive := true }).MayStart id handle nowMs := by
  subst finishes
  unfold finishSubscriptionPoll
  dsimp only
  have recordedSlot :
      ((system.recordResult id handle result nowMs).sessions
        id).inFlightSubscription = none := by
    show (Function.update system.sessions id _ id).inFlightSubscription = _
    rw [Function.update_self,
      (BacnetDeviceSession.quiet_cacheResult _ _ _ _).slot]
    exact free
  have recorded := subscriptions_recordResult system id handle result nowMs
  generalize system.recordResult id handle result nowMs = current
    at recordedSlot recorded ⊢
  unfold notifyResult
  dsimp only
  split
  · have isCov :
        (((system.subscriptions handle).resultNotification result
          (current.subscriptions handle)).covProperties).isSome = true := by
      rw [← notified]
      exact Option.isSome_map ..
    obtain ⟨returned, steps, isReturned⟩ :=
      callbacks.returned handle _
        (current.record (.callback handle
          ((system.subscriptions handle).resultNotification result
            (current.subscriptions handle)))) isCov
    rw [isReturned]
    have updated :
        ((current.record (.callback handle
          ((system.subscriptions handle).resultNotification result
            (current.subscriptions handle)))).subscriptions
              handle).lastUpdateMs = nowMs := by
      show (current.subscriptions handle).lastUpdateMs = nowMs
      rw [recorded]
      rfl
    rw [updated]
    have stillOwn : (returned.subscriptions handle).session = some id := by
      refine steps.session_eq ?_
      show (current.subscriptions handle).session = some id
      rw [recorded]
      exact own
    cases overtaken : returned.overtaken handle nowMs with
    | true =>
        refine .inl (.inr ⟨.callbackReturned handle true, ?_, rfl⟩)
        show _ ∈ (completeSubscriptionPoll _ id handle nowMs).history
        rw [history_completeSubscriptionPoll]
        exact List.mem_cons_self
    | false =>
        unfold ClientSystem.overtaken at overtaken
        rw [Bool.and_eq_false_iff, Bool.and_eq_false_iff] at overtaken
        rcases overtaken with (noOther | inactive) | early
        · refine .inl (.inl ?_)
          apply slot_completeSubscriptionPoll
          intro other waits
          unfold otherInFlight at noOther
          rw [stillOwn] at noOther
          have same :
              (returned.sessions id).inFlightSubscription = some other :=
            waits
          rw [Option.any_some, same, Option.any_some] at noOther
          exact bne_eq_false_iff_eq.mp noOther
        · refine .inr (.inl ?_)
          rw [subscriptions_setSubscription_self,
            subscriptions_completeSubscriptionPoll]
          exact inactive
        · refine .inr (.inr ⟨?_, ?_⟩)
          · rw [subscriptions_setSubscription_self]
          · rw [subscriptions_setSubscription_self,
              subscriptions_completeSubscriptionPoll]
            exact early
  · refine .inl (.inl ?_)
    apply slot_completeSubscriptionPoll
    intro other waits
    rw [recordedSlot] at waits
    exact nomatch waits

theorem steps_deliverCovNotification
    (callbacks : CallbackSteps runtime guard callback)
    {system : ClientSystem τ}
    {id : SessionId}
    {handle : SubscriptionId}
    (own : (system.subscriptions handle).session = some id)
    (covActive : (system.subscriptions handle).covActive = true)
    (notification : BacnetCovNotification)
    (nowMs : UInt32) :
    Steps runtime guard
      (system.record (.delivered id handle notification))
      (system.deliverCovNotification callback id handle notification
        nowMs) := by
  unfold deliverCovNotification
  dsimp only
  apply Steps.reactivate
  · exact covActive
  · apply steps_finishSubscriptionPoll callbacks
    · exact .inr own
    · exact .inr covActive

/--
The notification part of a poll.  Where the poll goes on, the session may
start something for the handle.
-/
theorem steps_pollCovNotification
    (callbacks : CallbackSteps runtime guard callback)
    {system after : ClientSystem τ}
    {id : SessionId}
    {handle : SubscriptionId}
    {nowMs : UInt32}
    {continues : Bool}
    (own : (system.subscriptions handle).session = some id)
    (free : (system.sessions id).inFlightSubscription = none)
    (allowed :
      (system.subscriptions handle).covActive = true →
        guard.take system id handle)
    (polls :
      system.pollCovNotification runtime callback id handle nowMs =
        (continues, after)) :
    Steps runtime guard system after ∧
      (continues = true → after.MayStart id handle nowMs) := by
  unfold pollCovNotification at polls
  split at polls
  · rename_i covActive
    have take := allowed covActive
    split at polls
    · rename_i taken takes
      obtain ⟨-, rfl⟩ := Prod.mk.inj polls
      refine ⟨.pass own covActive take takes, fun _ => .inl (.inl ?_)⟩
      obtain ⟨pending, session⟩ :=
        (sameSubscriptions_takeCovNotification takes).1.session id
      rw [session]
      exact free
    · rename_i notification taken takes
      have same := (sameSubscriptions_takeCovNotification takes).1
      split at polls
      · rename_i refused acknowledges
        obtain ⟨rfl, rfl⟩ := Prod.mk.inj polls
        exact ⟨.refuse own covActive take takes acknowledges, nofun⟩
      · rename_i accepted acknowledges
        obtain ⟨-, rfl⟩ := Prod.mk.inj polls
        have both :=
          same.trans (sameSubscriptions_acknowledgeTaken acknowledges).1
        have stillOwn :
            (accepted.subscriptions handle).session = some id := by
          rw [both.subscriptions]
          exact own
        have stillActive :
            (accepted.subscriptions handle).covActive = true := by
          rw [both.subscriptions]
          exact covActive
        refine ⟨(Steps.accept own covActive take takes acknowledges).trans
          (steps_deliverCovNotification callbacks stillOwn stillActive _ _),
          fun _ => ?_⟩
        unfold deliverCovNotification
        dsimp only
        refine mayStart_of_delivery callbacks ?_ ?_ ?_ rfl
        · exact stillOwn
        · obtain ⟨pending, session⟩ := both.session id
          show (accepted.sessions id).inFlightSubscription = none
          rw [session]
          exact free
        · rfl
  · obtain ⟨-, rfl⟩ := Prod.mk.inj polls
    exact ⟨.refl system, fun _ => .inl (.inl free)⟩

/-! Polls, calls and callbacks as chains of steps. -/

/-- The guard allows a poll for an answer wherever a poll begins. -/
def AnswersAllowed
    (guard : NotificationGuard τ)
    (system : ClientSystem τ) : Prop :=
  ∀ current, system.QuietStep current → guard.answer current

theorem steps_beginPoll
    (callbacks : CallbackSteps runtime guard callback)
    {system : ClientSystem τ}
    (allowed : AnswersAllowed guard system)
    {id : SessionId}
    (polls : guard.polls id)
    (nowMs : UInt32) :
    Steps runtime guard system
      (system.beginPoll runtime callback id nowMs) := by
  have noted : (system.sessions id).QuietStep
      { system.sessions id with lastCovPollMs := nowMs } :=
    ⟨rfl, rfl, rfl, rfl, .refl _, fun exclusive =>
      ⟨exclusive.subscription, exclusive.scan⟩⟩
  exact (steps_setSession noted ⟨rfl, rfl, rfl⟩).trans
    (steps_pollInFlightSubscription callbacks
      (allowed _ ((QuietStep.refl system).setSession noted)) polls nowMs)

/--
The system in which a poll of a handle looks for notifications, if it comes
that far.
-/
def notificationStage
    (runtime : ClientRuntime τ)
    (callback : SubscriptionCallback τ)
    (system : ClientSystem τ)
    (id : SessionId)
    (handle : SubscriptionId)
    (nowMs : UInt32) : Option (ClientSystem τ) :=
  if (system.subscriptions handle).session ≠ some id then
    none
  else
    let current := system.beginPoll runtime callback id nowMs
    if (current.sessions id).inFlightSubscription.isSome ||
        !(current.subscriptions handle).covActive then
      none
    else
      some current

/-- The system in which a poll of a handle looks for notifications. -/
def pollStage
    (runtime : ClientRuntime τ)
    (callback : SubscriptionCallback τ)
    (system : ClientSystem τ)
    (id : SessionId)
    (handle : SubscriptionId)
    (nowMs : UInt32) : Option (ClientSystem τ) :=
  (system.resolveNow runtime nowMs).2.notificationStage runtime callback id
    handle (system.resolveNow runtime nowMs).1

theorem steps_pollSingleAt
    (callbacks : CallbackSteps runtime guard callback)
    {system : ClientSystem τ}
    (allowed : AnswersAllowed guard system)
    {id : SessionId}
    (polls : guard.polls id)
    {handle : SubscriptionId}
    {nowMs : UInt32}
    (takes :
      ∀ current ∈
        system.notificationStage runtime callback id handle nowMs,
        guard.take current id handle) :
    Steps runtime guard system
      (system.pollSingleAt runtime callback id handle nowMs) := by
  unfold pollSingleAt
  unfold notificationStage at takes
  split
  · exact .refl system
  · rename_i isOwn
    rw [if_neg isOwn] at takes
    dsimp only at takes ⊢
    have begun := steps_beginPoll callbacks allowed polls nowMs
    have own := begun.session_eq (not_not.mp isOwn)
    generalize system.beginPoll runtime callback id nowMs = current
      at takes begun own ⊢
    split
    · exact begun
    · rename_i waits
      have free : (current.sessions id).inFlightSubscription = none :=
        Option.not_isSome_iff_eq_none.mp waits
      have allowedTake :
          (current.subscriptions handle).covActive = true →
            guard.take current id handle := by
        intro covActive
        apply takes
        rw [free, covActive]
        exact rfl
      split
      · rename_i shape
        exact begun.trans
          (steps_pollCovNotification callbacks own free allowedTake
            shape).1
      · rename_i shape
        obtain ⟨polled, mayStart⟩ :=
          steps_pollCovNotification callbacks own free allowedTake shape
        exact (begun.trans polled).trans
          (steps_startSubscriptionWork callbacks (polled.session_eq own)
            (mayStart rfl))

theorem AnswersAllowed.of_quiet
    {system current : ClientSystem τ}
    (allowed : AnswersAllowed guard system)
    (quiet : system.QuietStep current) :
    AnswersAllowed guard current :=
  fun later after => allowed later (quiet.trans after)

theorem steps_pollArrayAt
    (callbacks : CallbackSteps runtime guard callback)
    {system : ClientSystem τ}
    (allowed : AnswersAllowed guard system)
    {id : SessionId}
    (polls : guard.polls id)
    (moves : guard.turns id)
    (handles : List SubscriptionId)
    (nowMs : UInt32) :
    Steps runtime guard system
      (system.pollArrayAt runtime callback id handles nowMs) := by
  have begun := steps_beginPoll callbacks allowed polls nowMs
  unfold pollArrayAt
  dsimp only
  generalize system.beginPoll runtime callback id nowMs = current
    at begun ⊢
  split
  · exact begun
  · rename_i waits
    have free : (current.sessions id).inFlightSubscription = none := by
      rw [Bool.not_eq_true, Bool.or_eq_false_iff, Bool.or_eq_false_iff]
        at waits
      exact Option.isNone_iff_eq_none.mp
        (Option.isSome_eq_false_iff.mp waits.1.1)
    split
    · exact begun.trans (.turn _ moves)
    · rename_i index handle found
      have isDue := List.find?_some found
      have own : (current.subscriptions handle).session = some id :=
        of_decide_eq_true (Bool.and_eq_true_iff.mp isDue).1
      rw [setSession_setSession]
      refine (begun.trans (.turn _ moves)).trans
        (steps_startSubscriptionWork callbacks own (.inl (.inl ?_)))
      rw [sessions_setSession_self]
      exact free

theorem steps_pollInFlight
    (callbacks : CallbackSteps runtime guard callback)
    {system : ClientSystem τ}
    (allowed : AnswersAllowed guard system)
    {id : SessionId}
    (polls : guard.polls id)
    (nowMs : UInt32) :
    Steps runtime guard system
      (system.pollInFlight runtime callback id nowMs) := by
  have resolved := (QuietStep.refl system).resolveNow runtime nowMs
  have resolves : Steps runtime guard system
      (system.resolveNow runtime nowMs).2 :=
    steps_resolveNow system nowMs
  unfold pollInFlight
  dsimp only
  generalize system.resolveNow runtime nowMs = now at resolved resolves ⊢
  obtain ⟨now, current⟩ := now
  dsimp only at resolved resolves ⊢
  split
  · exact resolves.trans
      (.quiet ((QuietStep.refl _).pollInFlightPropertyRead runtime id now)
        (fun sound => sound.of_same
          (scans_pollInFlightPropertyRead runtime current id now))
        (responses_of_polls polls fun exclusive unanswered =>
          unanswered.pollInFlightPropertyRead runtime exclusive now))
  · split
    · exact resolves.trans
        (.quiet
          ((QuietStep.refl _).pollInFlightObjectListScan runtime id now)
          (fun sound => sound.pollInFlightObjectListScan runtime id now)
          (responses_of_polls polls fun exclusive unanswered =>
            unanswered.pollInFlightObjectListScan runtime exclusive now))
    · split
      · exact resolves.trans
          (steps_pollInFlightSubscription callbacks
            (allowed _ resolved) polls now)
      · exact resolves

theorem steps_subscribe
    (system : ClientSystem τ)
    (id : SessionId)
    (handle : SubscriptionId)
    (objectId : BacnetObjectId)
    (propertyId : BacnetPropertyId)
    (arrayIndex : UInt32)
    (options : BacnetSubscribeOptions)
    (hasCallback : Bool)
    (userData : Nat) :
    Steps runtime guard system
      (system.subscribe runtime id handle objectId propertyId arrayIndex
        options hasCallback userData) := by
  unfold subscribe
  dsimp only
  split
  · rename_i unused
    split
    · exact (steps_of_exchange ((ExchangeStep.refl system).nowMs runtime)
        (.of_traffic rfl)).trans (.subscribe unused rfl rfl)
    · exact .subscribe unused rfl rfl
  · exact .refl system

theorem steps_requestRefresh
    (system : ClientSystem τ)
    (handle : SubscriptionId) :
    Steps runtime guard system (system.requestRefresh handle) := by
  unfold requestRefresh
  dsimp only
  split
  · exact .adjust ⟨rfl, rfl, fun active => active, fun covActive => covActive⟩
  · exact .refl system

/-- What a guard asks of the state in which a call is made. -/
structure CallAllowed
    (runtime : ClientRuntime τ)
    (guard : NotificationGuard τ)
    (callback : SubscriptionCallback τ)
    (system : ClientSystem τ)
    (call : ClientCall) : Prop where
  polls : ∀ id ∈ call.session?, guard.polls id
  turns :
    ∀ id handles nowMs, call = .pollArray id handles nowMs → guard.turns id
  answers : AnswersAllowed guard system
  takes :
    ∀ id handle nowMs, call = .pollSingle id handle nowMs →
      ∀ current ∈ system.pollStage runtime callback id handle nowMs,
        guard.take current id handle

/-- Every call is a chain of steps. -/
theorem steps_call
    (callbacks : CallbackSteps runtime guard callback)
    {system : ClientSystem τ}
    {call : ClientCall}
    (allowed : CallAllowed runtime guard callback system call) :
    Steps runtime guard system (system.call runtime callback call) := by
  have here := QuietStep.refl system
  have polls := allowed.polls
  cases call with
  | subscribe => exact steps_subscribe _ _ _ _ _ _ _ _ _
  | pollSingle id handle nowMs =>
      exact (steps_resolveNow system nowMs).trans
        (steps_pollSingleAt callbacks
          (allowed.answers.of_quiet (here.resolveNow runtime nowMs))
          (polls id rfl) (allowed.takes id handle nowMs rfl))
  | pollArray id handles nowMs =>
      exact (steps_resolveNow system nowMs).trans
        (steps_pollArrayAt callbacks
          (allowed.answers.of_quiet (here.resolveNow runtime nowMs))
          (polls id rfl) (allowed.turns id handles nowMs rfl) _ _)
  | pollInFlight id nowMs =>
      exact steps_pollInFlight callbacks allowed.answers (polls id rfl) _
  | stop handle => exact .stop system handle
  | requestRefresh handle => exact steps_requestRefresh system handle
  | beginObjectListScan id scan options hasResults resultCapacity nowMs =>
      exact .quiet
        (here.beginObjectListScan runtime id scan options hasResults
          resultCapacity nowMs)
        (fun sound => sound.beginObjectListScan runtime id scan options
          hasResults resultCapacity nowMs)
        (responses_of_polls (polls id rfl) fun _ unanswered =>
          unanswered.beginObjectListScan runtime _ _ _ _ _)
  | pollObjectListScan id scan nowMs =>
      exact .quiet (here.pollObjectListScan runtime id scan nowMs)
        (fun sound => sound.pollObjectListScan runtime id scan nowMs)
        (responses_of_polls (polls id rfl) fun exclusive unanswered =>
          unanswered.pollObjectListScan runtime exclusive _ _)
  | cancelObjectListScan id scan =>
      exact .quiet (here.cancelObjectListScan id scan)
        (fun sound => sound.cancelObjectListScan id scan)
        (responses_of_polls (polls id rfl) fun _ unanswered =>
          unanswered.cancelObjectListScan _)
  | scanObjectList id scan options hasResults resultCapacity rounds =>
      exact .quiet
        (here.scanObjectList runtime id scan options hasResults
          resultCapacity rounds)
        (fun sound => sound.scanObjectList runtime id scan options
          hasResults resultCapacity rounds)
        (responses_of_polls (polls id rfl) fun exclusive unanswered =>
          unanswered.scanObjectList runtime exclusive _ _ _ _ _)
  | beginPropertyRead id read request timeoutMs nowMs =>
      exact .quiet
        (here.beginPropertyRead runtime id read request timeoutMs nowMs)
        (fun sound => sound.of_same
          (scans_beginPropertyRead runtime system id read request timeoutMs
            nowMs))
        (responses_of_polls (polls id rfl) fun _ unanswered =>
          unanswered.beginPropertyRead runtime _ _ _ _)
  | pollPropertyRead id read nowMs =>
      exact .quiet (here.pollPropertyRead runtime id read nowMs)
        (fun sound => sound.of_same
          (scans_pollPropertyRead runtime system id read nowMs))
        (responses_of_polls (polls id rfl) fun exclusive unanswered =>
          unanswered.pollPropertyRead runtime exclusive _ _)
  | cancelPropertyRead id read =>
      exact .quiet (here.cancelPropertyRead id read)
        (fun sound => sound.of_same (scans_cancelPropertyRead system id read))
        (responses_of_polls (polls id rfl) fun exclusive unanswered =>
          unanswered.cancelPropertyRead exclusive _)
  | readProperty id request timeoutMs rounds =>
      have exchanges := (ExchangeStep.refl system).readPropertyDetailed runtime
        id request timeoutMs rounds
      exact .quiet exchanges.quiet
        (fun sound => sound.of_same exchanges.keeps.scans)
        (responses_of_polls (polls id rfl) fun _ unanswered =>
          unanswered.readPropertyDetailed runtime _ _ _)
  | readPriorityArray id object timeoutMs rounds =>
      have exchanges := (ExchangeStep.refl system).readPriorityArray runtime
        id object timeoutMs rounds
      exact .quiet exchanges.quiet
        (fun sound => sound.of_same exchanges.keeps.scans)
        (responses_of_polls (polls id rfl) fun _ unanswered =>
          unanswered.readPriorityArray runtime _ _ _)
  | writeProperty id request value timeoutMs rounds =>
      have exchanges := (ExchangeStep.refl system).writeProperty runtime
        id request value timeoutMs rounds
      exact .quiet exchanges.quiet
        (fun sound => sound.of_same exchanges.keeps.scans)
        (responses_of_polls (polls id rfl) fun _ unanswered =>
          unanswered.writeProperty runtime _ _ _ _)
  | writePropertyWithOptions id object property value options timeoutMs
      rounds =>
      have exchanges := (ExchangeStep.refl system).writePropertyWithOptions
        runtime id object property value options timeoutMs rounds
      exact .quiet exchanges.quiet
        (fun sound => sound.of_same exchanges.keeps.scans)
        (responses_of_polls (polls id rfl) fun _ unanswered =>
          unanswered.writePropertyWithOptions runtime _ _ _ _ _ _)

/-- Without a guard every call is allowed. -/
theorem callAllowed_trivial
    (system : ClientSystem τ)
    (call : ClientCall) :
    CallAllowed runtime (.trivial τ) callback system call :=
  ⟨fun _ _ => trivial, fun _ _ _ _ => trivial, fun _ _ => trivial,
    fun _ _ _ _ _ _ => trivial⟩

theorem steps_callbackReturns
    (system : ClientSystem τ)
    (handle : SubscriptionId)
    (notification : BacnetSubscriptionNotification)
    (nowMs : UInt32) :
    Steps runtime guard system
      (system.callbackReturns handle notification nowMs) := by
  unfold callbackReturns
  split
  · exact .callbackReturned _ _ _
  · exact .refl system

/-- A callback whose calls are steps is a chain of steps itself. -/
theorem callbackSteps_of_calls
    {body : SubscriptionCallback τ}
    (calls :
      ∀ handle notification system,
        Steps runtime guard system (body handle notification system)) :
    CallbackSteps runtime guard fun handle notification system =>
      (body handle notification system).callbackReturns handle notification
        (system.subscriptions handle).lastUpdateMs where
  steps handle notification system :=
    (calls handle notification system).trans
      (steps_callbackReturns _ _ _ _)
  returned handle notification system isCov :=
    ⟨body handle notification system, calls handle notification system,
      if_pos isCov⟩

/-- The callbacks of any application, to any depth, are chains of steps. -/
theorem callbackSteps_application
    (application : ClientApplication τ)
    (depth : Nat) :
    CallbackSteps runtime (.trivial τ)
      (application.callback runtime depth) := by
  induction depth with
  | zero => exact callbackSteps_of_calls fun _ _ system => .refl system
  | succ depth inductionHypothesis =>
      apply callbackSteps_of_calls
      intro handle notification system
      generalize application handle notification system = calls
      induction calls generalizing system with
      | nil => exact .refl system
      | cons call rest following =>
          exact (steps_call inductionHypothesis
            (callAllowed_trivial system call)).trans (following _)

/-- Callbacks that make no calls are allowed by every guard. -/
theorem callbackSteps_observer
    (depth : Nat) :
    CallbackSteps runtime guard
      ((ClientApplication.observer τ).callback runtime depth) := by
  cases depth with
  | zero => exact callbackSteps_of_calls fun _ _ system => .refl system
  | succ depth => exact callbackSteps_of_calls fun _ _ system => .refl system

end ClientSystem

end BacnetStack
