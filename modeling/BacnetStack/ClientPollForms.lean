import BacnetStack.ClientResponses
import BacnetStack.ClientStop

namespace BacnetStack

/-!
# The two forms of poll

A poll of a single handle and a poll of an array of that handle begin alike.
They part where nothing is in flight: the single form looks for a notification
and then for work, and the array looks whether the handle is due.
-/

/-- A session whose rotation over arrays stands elsewhere. -/
def BacnetDeviceSession.withTurn
    (session : BacnetDeviceSession)
    (turn : Nat) : BacnetDeviceSession :=
  { session with roundRobinSubscriptionIndex := turn }

theorem BacnetDeviceSession.endpoint_withTurn
    (session : BacnetDeviceSession)
    (turn : Nat) :
    (session.withTurn turn).endpoint = session.endpoint :=
  rfl

theorem BacnetDeviceSession.updatePropertyCache_withTurn
    (session : BacnetDeviceSession)
    (turn : Nat)
    (request : BacnetPropertyRequest)
    (status : BacnetPropertyReadStatus)
    (value : Option BacnetValue)
    (attemptAtMs errorClass errorCode : UInt32) :
    (session.withTurn turn).updatePropertyCache request status value
        attemptAtMs errorClass errorCode =
      (session.updatePropertyCache request status value attemptAtMs
        errorClass errorCode).withTurn turn :=
  rfl

namespace ClientSystem

variable {τ : Type}

/-- A session's rotation stands elsewhere. -/
def withTurn
    (system : ClientSystem τ)
    (id : SessionId)
    (turn : Nat) : ClientSystem τ :=
  system.setSession id ((system.sessions id).withTurn turn)

/-- A session was last polled at another time. -/
def polledAt
    (system : ClientSystem τ)
    (id : SessionId)
    (nowMs : UInt32) : ClientSystem τ :=
  system.setSession id { system.sessions id with lastCovPollMs := nowMs }

/-- A callback that does not look at the rotation of a session. -/
def IgnoresTurn
    (id : SessionId)
    (callback : SubscriptionCallback τ) : Prop :=
  ∀ handle notification system turn,
    callback handle notification (withTurn system id turn) =
      (callback handle notification system).withTurn id turn

section

variable (system : ClientSystem τ) (id : SessionId) (turn : Nat)

@[simp] theorem sessions_withTurn :
    (system.withTurn id turn).sessions id =
      (system.sessions id).withTurn turn :=
  Function.update_self ..

@[simp] theorem subscriptions_withTurn :
    (system.withTurn id turn).subscriptions = system.subscriptions :=
  rfl

@[simp] theorem client_withTurn :
    (system.withTurn id turn).client = system.client :=
  rfl

/-- A change of the session that leaves its rotation alone. -/
theorem setSession_withTurn
    {changed session : BacnetDeviceSession}
    (same : changed = session.withTurn turn) :
    (system.withTurn id turn).setSession id changed =
      (system.setSession id session).withTurn id turn := by
  subst same
  unfold withTurn setSession
  dsimp only
  rw [Function.update_idem, Function.update_self, Function.update_idem]

@[simp] theorem setSubscription_withTurn
    (handle : SubscriptionId)
    (subscription : BacnetPropertySubscription) :
    (system.withTurn id turn).setSubscription handle subscription =
      (system.setSubscription handle subscription).withTurn id turn :=
  rfl

@[simp] theorem record_withTurn
    (event : ClientEvent) :
    (system.withTurn id turn).record event =
      (system.record event).withTurn id turn :=
  rfl

@[simp] theorem onClient_withTurn
    {Result : Type}
    (operation : BacnetClient τ → Result × BacnetClient τ) :
    (system.withTurn id turn).onClient operation =
      ((system.onClient operation).1,
        (system.onClient operation).2.withTurn id turn) :=
  rfl

@[simp] theorem resolveNow_withTurn
    (runtime : ClientRuntime τ)
    (nowMs : UInt32) :
    (system.withTurn id turn).resolveNow runtime nowMs =
      ((system.resolveNow runtime nowMs).1,
        (system.resolveNow runtime nowMs).2.withTurn id turn) := by
  unfold resolveNow
  split <;> rfl

@[simp] theorem allocateInvokeId_withTurn :
    (system.withTurn id turn).allocateInvokeId id =
      ((system.allocateInvokeId id).1,
        (system.allocateInvokeId id).2.withTurn id turn) := by
  unfold allocateInvokeId
  rw [sessions_withTurn]
  exact congrArg (Prod.mk _)
    (setSession_withTurn system id turn rfl)

@[simp] theorem releaseSlot_withTurn
    (handle : SubscriptionId) :
    (system.withTurn id turn).releaseSlot id handle =
      (system.releaseSlot id handle).withTurn id turn := by
  unfold releaseSlot
  rw [sessions_withTurn]
  change
    (if (system.sessions id).inFlightSubscription = some handle then _
      else _) = _
  split
  · exact setSession_withTurn system id turn rfl
  · rfl

@[simp] theorem setInFlight_withTurn
    (handle : SubscriptionId)
    (subscription : BacnetPropertySubscription) :
    (system.withTurn id turn).setInFlight id handle subscription =
      (system.setInFlight id handle subscription).withTurn id turn := by
  unfold setInFlight
  rw [setSubscription_withTurn, sessions_withTurn]
  exact setSession_withTurn _ id turn rfl

end

section

variable (runtime : ClientRuntime τ) {callback : SubscriptionCallback τ}
  {id : SessionId} (system : ClientSystem τ) (turn : Nat)
  (handle : SubscriptionId)

theorem recordResult_withTurn
    (result : SubscriptionResult)
    (nowMs : UInt32) :
    (system.withTurn id turn).recordResult id handle result nowMs =
      (system.recordResult id handle result nowMs).withTurn id turn := by
  have cached :
      ((system.sessions id).withTurn turn).cacheResult
          (system.subscriptions handle) result nowMs =
        ((system.sessions id).cacheResult (system.subscriptions handle) result
          nowMs).withTurn turn := by
    unfold BacnetDeviceSession.cacheResult
    dsimp only
    split
    · rfl
    · rw [BacnetDeviceSession.updatePropertyCache_withTurn]
      apply List.foldl_hom (BacnetDeviceSession.withTurn · turn)
      intro session reported
      rfl
  unfold recordResult
  dsimp only
  rw [sessions_withTurn, subscriptions_withTurn, cached,
    setSession_withTurn _ _ _ rfl, setSubscription_withTurn]

theorem tryStartCovSubscription_withTurn
    (nowMs : UInt32) :
    (system.withTurn id turn).tryStartCovSubscription runtime id handle
        nowMs =
      ((system.tryStartCovSubscription runtime id handle nowMs).1,
        (system.tryStartCovSubscription runtime id handle nowMs).2.withTurn
          id turn) := by
  have sends (system : ClientSystem τ)
      (endpoint : BacnetIpEndpoint)
      (subscription : BacnetPropertySubscription)
      (invokeId : UInt8) :
      (system.withTurn id turn).sendSubscription runtime endpoint subscription
          invokeId =
        ((system.sendSubscription runtime endpoint subscription invokeId).1,
          (system.sendSubscription runtime endpoint subscription
            invokeId).2.withTurn id turn) := rfl
  have counts (system : ClientSystem τ) (session : BacnetDeviceSession) :
      (system.withTurn id turn).setSession id
          { session.withTurn turn with
            covSubscribeAttemptCount :=
              (session.withTurn turn).covSubscribeAttemptCount + 1 } =
        (system.setSession id
          { session with
            covSubscribeAttemptCount :=
              session.covSubscribeAttemptCount + 1 }).withTurn id turn :=
    setSession_withTurn system id turn rfl
  have failures (system : ClientSystem τ) (session : BacnetDeviceSession) :
      (system.withTurn id turn).setSession id
          { session.withTurn turn with
            covSendFailureCount :=
              (session.withTurn turn).covSendFailureCount + 1 } =
        (system.setSession id
          { session with
            covSendFailureCount :=
              session.covSendFailureCount + 1 }).withTurn id turn :=
    setSession_withTurn system id turn rfl
  unfold tryStartCovSubscription
  rw [subscriptions_withTurn, sessions_withTurn, allocateInvokeId_withTurn]
  change (if covStartPossible (system.sessions id) _ _ = true then _
    else _) = _
  split
  · rcases system.allocateInvokeId id with ⟨invokeId, allocated⟩
    dsimp only
    rw [sessions_withTurn, counts, subscriptions_withTurn, sends]
    generalize allocated.setSession id
      { allocated.sessions id with
        covSubscribeAttemptCount :=
          (allocated.sessions id).covSubscribeAttemptCount + 1 } = counted
    rw [BacnetDeviceSession.endpoint_withTurn]
    rcases counted.sendSubscription runtime (allocated.sessions id).endpoint
      { (counted.subscriptions handle).assignProcessId with
        covRejectReason := 0xFF } invokeId with ⟨sent, after⟩
    cases sent with
    | true =>
        exact congrArg (Prod.mk true) (setInFlight_withTurn ..)
    | false =>
        dsimp only
        rw [sessions_withTurn, failures]
        rfl
  · rfl

variable (ignores : IgnoresTurn id callback)

include ignores

theorem finishSubscriptionPoll_withTurn
    (result : SubscriptionResult)
    (nowMs : UInt32) :
    (system.withTurn id turn).finishSubscriptionPoll callback id handle
        result nowMs =
      (system.finishSubscriptionPoll callback id handle result nowMs
        ).withTurn id turn := by
  have notifies (system : ClientSystem τ)
      (subscription : BacnetPropertySubscription) :
      (system.withTurn id turn).notifyResult callback handle subscription
          result =
        (system.notifyResult callback handle subscription result).withTurn id
          turn := by
    unfold notifyResult
    dsimp only
    split
    · rw [subscriptions_withTurn, record_withTurn, ignores]
    · rfl
  unfold finishSubscriptionPoll completeSubscriptionPoll
  dsimp only
  rw [subscriptions_withTurn, recordResult_withTurn, notifies,
    subscriptions_withTurn, setSubscription_withTurn, releaseSlot_withTurn]

theorem tryStartSubscriptionPoll_withTurn
    (nowMs : UInt32) :
    (system.withTurn id turn).tryStartSubscriptionPoll runtime callback id
        handle nowMs =
      (system.tryStartSubscriptionPoll runtime callback id handle nowMs
        ).withTurn id turn := by
  unfold tryStartSubscriptionPoll
  rw [subscriptions_withTurn, sessions_withTurn, allocateInvokeId_withTurn]
  dsimp only
  rw [sessions_withTurn, onClient_withTurn]
  dsimp only
  change (if (_ || (system.sessions id).jobInFlight) = true then _ else _) = _
  split
  · rfl
  · rw [setInFlight_withTurn, finishSubscriptionPoll_withTurn _ _ _ ignores]
    exact (apply_ite (withTurn · id turn) _ _ _).symm

theorem startSubscriptionWork_withTurn
    (nowMs : UInt32) :
    (system.withTurn id turn).startSubscriptionWork runtime callback id handle
        nowMs =
      (system.startSubscriptionWork runtime callback id handle nowMs
        ).withTurn id turn := by
  unfold startSubscriptionWork
  rw [tryStartCovSubscription_withTurn]
  rcases system.tryStartCovSubscription runtime id handle nowMs with
    ⟨started, after⟩
  cases started with
  | true => rfl
  | false =>
      exact tryStartSubscriptionPoll_withTurn runtime after turn handle ignores
        nowMs

theorem pollReadResponse_withTurn
    (nowMs : UInt32) :
    (system.withTurn id turn).pollReadResponse runtime callback id handle
        nowMs =
      (system.pollReadResponse runtime callback id handle nowMs).withTurn id
        turn := by
  unfold pollReadResponse
  dsimp only
  rw [subscriptions_withTurn, onClient_withTurn]
  split
  · exact finishSubscriptionPoll_withTurn _ turn handle ignores _ nowMs
  · split
    · exact finishSubscriptionPoll_withTurn _ turn handle ignores _ nowMs
    · rfl

omit ignores in
theorem pollCovResponse_withTurn
    (nowMs : UInt32) :
    (system.withTurn id turn).pollCovResponse runtime id handle nowMs =
      (system.pollCovResponse runtime id handle nowMs).withTurn id turn := by
  unfold pollCovResponse
  dsimp only
  rw [subscriptions_withTurn, sessions_withTurn,
    BacnetDeviceSession.endpoint_withTurn, onClient_withTurn]
  generalize
    (if (system.subscriptions handle).options.usePropertyCov = true then
      kServiceSubscribeCovProperty
    else kServiceSubscribeCov) = service
  rcases system.onClient fun client =>
      client.pollSubscribeCov runtime
        (system.subscriptions handle).inFlightInvokeId service
        (some (system.sessions id).endpoint) with
    ⟨⟨kind, rejectReason⟩, polled⟩
  dsimp only
  split
  · rw [setSubscription_withTurn, sessions_withTurn]
    exact setSession_withTurn _ id turn rfl
  · split
    · unfold failCovSubscription
      dsimp only
      rw [subscriptions_withTurn, setSubscription_withTurn,
        sessions_withTurn]
      exact setSession_withTurn _ id turn rfl
    · rfl

theorem pollInFlightSubscription_withTurn
    (nowMs : UInt32) :
    (system.withTurn id turn).pollInFlightSubscription runtime callback id
        nowMs =
      (system.pollInFlightSubscription runtime callback id nowMs).withTurn id
        turn := by
  unfold pollInFlightSubscription
  have kept :
      ((system.sessions id).withTurn turn).inFlightSubscription =
        (system.sessions id).inFlightSubscription :=
    rfl
  rw [sessions_withTurn, kept]
  cases (system.sessions id).inFlightSubscription with
  | none => rfl
  | some handle =>
      dsimp only
      rw [subscriptions_withTurn]
      split
      · rw [setSubscription_withTurn]
        exact setSession_withTurn _ id turn rfl
      · split
        · exact pollCovResponse_withTurn runtime system turn handle nowMs
        · exact pollReadResponse_withTurn runtime system turn handle ignores
            nowMs

end

section

variable (runtime : ClientRuntime τ) {callback : SubscriptionCallback τ}
  {id : SessionId} {system : ClientSystem τ} {handle : SubscriptionId}
  {nowMs : UInt32}

theorem beginPoll_withTurn
    (ignores : IgnoresTurn id callback)
    (system : ClientSystem τ)
    (turn : Nat)
    (nowMs : UInt32) :
    (system.withTurn id turn).beginPoll runtime callback id nowMs =
      (system.beginPoll runtime callback id nowMs).withTurn id turn := by
  unfold beginPoll
  rw [sessions_withTurn]
  have noted := @setSession_withTurn _ system id turn _
    { system.sessions id with lastCovPollMs := nowMs } rfl
  exact (congrArg
    (pollInFlightSubscription runtime callback · id nowMs) noted).trans
      (pollInFlightSubscription_withTurn runtime _ turn ignores nowMs)

/-- When a session was last polled is overwritten first. -/
theorem beginPoll_polledAt
    (callback : SubscriptionCallback τ)
    (system : ClientSystem τ)
    (id : SessionId)
    (pollMs nowMs : UInt32) :
    (system.polledAt id pollMs).beginPoll runtime callback id nowMs =
      system.beginPoll runtime callback id nowMs := by
  unfold beginPoll polledAt setSession
  dsimp only
  rw [Function.update_self, Function.update_idem]

/-- An array of one handle is polled where the handle is due. -/
theorem pollArrayAt_singleton
    (callback : SubscriptionCallback τ)
    (system : ClientSystem τ)
    (id : SessionId)
    (handle : SubscriptionId)
    (nowMs : UInt32) :
    system.pollArrayAt runtime callback id [handle] nowMs =
      let polled := system.beginPoll runtime callback id nowMs
      if (polled.sessions id).inFlightSubscription.isSome ||
          (polled.sessions id).inFlightPropertyRead.isSome then
        polled
      else if (polled.subscriptions handle).session = some id ∧
          (polled.subscriptions handle).isDue nowMs = true then
        (polled.withTurn id 0).startSubscriptionWork runtime callback id
          handle nowMs
      else
        polled.withTurn id 0 := by
  unfold pollArrayAt
  dsimp only
  generalize system.beginPoll runtime callback id nowMs = polled
  have start :
      (if [handle].length ≤ (polled.sessions id).roundRobinSubscriptionIndex
        then 0 else (polled.sessions id).roundRobinSubscriptionIndex) = 0 := by
    rw [List.length_singleton]
    split <;> omega
  have order : pollOrder 0 [handle] = [(0, handle)] := rfl
  rw [start, order, List.isEmpty_cons, Bool.or_false]
  split
  · rfl
  · by_cases due :
        (polled.subscriptions handle).session = some id ∧
          (polled.subscriptions handle).isDue nowMs = true
    · have found :
          (decide ((polled.subscriptions handle).session = some id) &&
            (polled.subscriptions handle).isDue nowMs) = true := by
        rw [Bool.and_eq_true, decide_eq_true_eq]
        exact due
      have wraps : (0 + 1) % [handle].length = 0 := Nat.mod_self 1
      rw [if_pos due, List.find?_cons_of_pos (by exact found)]
      dsimp only
      rw [wraps, setSession_setSession]
      rfl
    · have passed :
          ¬(decide ((polled.subscriptions handle).session = some id) &&
            (polled.subscriptions handle).isDue nowMs) = true := by
        rw [Bool.and_eq_true, decide_eq_true_eq]
        exact due
      rw [if_neg due, List.find?_cons_of_neg (by exact passed)]
      rfl

/-- A handle that is not due and may not subscribe starts nothing. -/
theorem startSubscriptionWork_idle
    (callback : SubscriptionCallback τ)
    (noStart :
      covStartPossible (system.sessions id) (system.subscriptions handle)
        nowMs = false)
    (notDue :
      (system.subscriptions handle).isDue nowMs = false ∨
        (system.sessions id).jobInFlight = true) :
    system.startSubscriptionWork runtime callback id handle nowMs =
      system := by
  have waits :
      (!(system.subscriptions handle).isDue nowMs ||
        (system.sessions id).jobInFlight) = true := by
    rcases notDue with notDue | job
    · rw [notDue]
      rfl
    · rw [job, Bool.or_true]
  rw [startSubscriptionWork, tryStartCovSubscription, noStart]
  simp only [Bool.false_eq_true, if_false]
  rw [tryStartSubscriptionPoll]
  exact if_pos waits

/-! The states in which the two forms of a poll differ. -/

variable (id system handle nowMs)

/-- Nothing that a look for a notification would find waits for a handle. -/
structure NothingWaits : Prop where
  session :
    ∀ notification ∈
        (system.sessions id).pendingCovNotifications.entries,
      ¬notification.IsFor (system.sessions id).endpoint
        (system.subscriptions handle)
  client :
    system.client.running = true →
      system.client.queuedCovNotifications.entries = [] ∧
        runtime.receive system.client.transport =
          (none, system.client.transport)

/--
With nothing in flight the two forms go on alike: a handle that is not
COV-active is due if it may subscribe, and nothing waits for a COV-active one.
-/
inductive GoesOnAlike : Prop where
  | polling
      (inactive : (system.subscriptions handle).covActive = false)
      (due :
        (system.subscriptions handle).isDue nowMs = true ∨
          covStartPossible (system.sessions id) (system.subscriptions handle)
            nowMs = false)
  | quiet
      (active : (system.subscriptions handle).covActive = true)
      (nothing : system.NothingWaits runtime id handle)

/-- The two forms meet at a poll of a handle of the session. -/
inductive FormsMeetAt
    (callback : SubscriptionCallback τ) : Prop where
  | foreign
      (other : (system.subscriptions handle).session ≠ some id)
      (idle : (system.sessions id).inFlightSubscription = none)
  | waits
      (own : (system.subscriptions handle).session = some id)
      (inFlight :
        ((system.beginPoll runtime callback id nowMs).sessions
          id).inFlightSubscription.isSome = true)
  | goesOn
      (own : (system.subscriptions handle).session = some id)
      (stillOwn :
        ((system.beginPoll runtime callback id nowMs).subscriptions
          handle).session = some id)
      (alike :
        (system.beginPoll runtime callback id nowMs).GoesOnAlike runtime id
          handle nowMs)

/-- The forms go the same way at a poll whose time may be the client's. -/
def FormsMeet
    (callback : SubscriptionCallback τ) : Prop :=
  (system.resolveNow runtime nowMs).2.FormsMeetAt runtime id handle
    (system.resolveNow runtime nowMs).1 callback

variable {id system handle nowMs}

/-- Where nothing waits, the look for a notification changes nothing. -/
theorem pollCovNotification_of_nothingWaits
    (callback : SubscriptionCallback τ)
    (nothing : system.NothingWaits runtime id handle) :
    system.pollCovNotification runtime callback id handle nowMs =
      (true, system) := by
  have nonePending :
      (system.sessions id).pendingCovNotifications.takeMatching
          (fun notification =>
            decide (notification.IsFor (system.sessions id).endpoint
              (system.subscriptions handle))) = none := by
    rw [BoundedQueue.takeMatching, Option.map_eq_none_iff,
      List.find?_eq_none]
    intro notification isMember
    rw [decide_eq_true_iff]
    exact nothing.session notification isMember
  have noneArrives :
      system.client.pollCovNotification runtime false =
        (none, system.client) := by
    unfold BacnetClient.pollCovNotification BacnetClient.nextCovNotification
    cases running : system.client.running with
    | false => rfl
    | true =>
        obtain ⟨noneQueued, silent⟩ := nothing.client running
        have noneFirst :
            system.client.queuedCovNotifications.takeFirst = none := by
          unfold BoundedQueue.takeFirst
          split
          · rfl
          · rename_i shape
            rw [noneQueued] at shape
            cases shape
        rw [noneFirst, BacnetClient.receive, silent]
        rfl
  unfold pollCovNotification takeCovNotification
  dsimp only
  rw [nonePending]
  split
  · rw [onClient, noneArrives]
  · rfl

namespace GoesOnAlike

/-- The single form finds no notification. -/
theorem pollCovNotification
    (callback : SubscriptionCallback τ)
    (alike : system.GoesOnAlike runtime id handle nowMs) :
    system.pollCovNotification runtime callback id handle nowMs =
      (true, system) := by
  cases alike with
  | polling inactive due =>
      rw [ClientSystem.pollCovNotification, inactive]
      rfl
  | quiet active nothing =>
      exact pollCovNotification_of_nothingWaits runtime callback nothing

/-- A handle that is not due may not subscribe either. -/
theorem noStart
    (alike : system.GoesOnAlike runtime id handle nowMs)
    (notDue : (system.subscriptions handle).isDue nowMs = false) :
    covStartPossible (system.sessions id) (system.subscriptions handle)
      nowMs = false := by
  cases alike with
  | polling inactive due =>
      exact due.resolve_left (by rw [notDue]; exact Bool.false_ne_true)
  | quiet active nothing =>
      rw [BacnetPropertySubscription.isDue, active] at notDue
      rw [covStartPossible, active]
      cases isActive : (system.subscriptions handle).active with
      | false => rfl
      | true =>
          cases inFlight : (system.subscriptions handle).inFlight with
          | true => rfl
          | false =>
              rw [isActive, inFlight] at notDue
              have early :
                  (system.subscriptions handle).renewalReached nowMs =
                    false := notDue
              rw [early]
              exact Bool.and_false _

end GoesOnAlike

/-- Two systems apart from the rotation of a session and its last poll. -/
def Alike
    (id : SessionId)
    (first second : ClientSystem τ) : Prop :=
  ∃ turn pollMs, second = (first.withTurn id turn).polledAt id pollMs

theorem alike_refl
    (id : SessionId)
    (system : ClientSystem τ) :
    Alike id system system := by
  refine ⟨(system.sessions id).roundRobinSubscriptionIndex,
    (system.sessions id).lastCovPollMs, ?_⟩
  unfold polledAt withTurn setSession
  dsimp only
  rw [Function.update_self, Function.update_idem]
  exact congrArg (fun sessions => { system with sessions := sessions })
    (Function.update_eq_self id system.sessions).symm

theorem alike_withTurn
    (id : SessionId)
    (system : ClientSystem τ)
    (turn : Nat) :
    Alike id system (system.withTurn id turn) := by
  refine ⟨turn, (system.sessions id).lastCovPollMs, ?_⟩
  unfold polledAt withTurn
  rw [setSession_setSession, sessions_setSession_self]
  rfl

theorem alike_polledAt
    (id : SessionId)
    (system : ClientSystem τ)
    (turn : Nat)
    (pollMs : UInt32) :
    Alike id system ((system.polledAt id pollMs).withTurn id turn) := by
  refine ⟨turn, pollMs, ?_⟩
  unfold polledAt withTurn
  rw [setSession_setSession, setSession_setSession,
    sessions_setSession_self, sessions_setSession_self]
  rfl

/-- An array of one handle is polled the same apart from the rotation. -/
theorem pollArrayAt_alike
    (ignores : IgnoresTurn id callback)
    {polled : ClientSystem τ}
    (isPolled : system.beginPoll runtime callback id nowMs = polled)
    (turn : Nat)
    (pollMs : UInt32) :
    ((system.withTurn id turn).polledAt id pollMs).pollArrayAt runtime
        callback id [handle] nowMs =
      if (polled.sessions id).inFlightSubscription.isSome ||
          (polled.sessions id).inFlightPropertyRead.isSome then
        polled.withTurn id turn
      else if (polled.subscriptions handle).session = some id ∧
          (polled.subscriptions handle).isDue nowMs = true then
        (polled.startSubscriptionWork runtime callback id handle nowMs
          ).withTurn id 0
      else
        polled.withTurn id 0 := by
  rw [pollArrayAt_singleton, beginPoll_polledAt,
    beginPoll_withTurn runtime ignores, isPolled]
  dsimp only
  have again :
      (polled.withTurn id turn).withTurn id 0 = polled.withTurn id 0 := by
    unfold withTurn
    rw [setSession_setSession, sessions_setSession_self]
    rfl
  rw [sessions_withTurn, subscriptions_withTurn, again,
    startSubscriptionWork_withTurn runtime polled 0 handle ignores]
  rfl

/-- A poll of either form keeps two systems alike where the forms meet. -/
theorem alike_poll
    (ignores : IgnoresTurn id callback)
    (meets : system.FormsMeetAt runtime id handle nowMs callback)
    {other : ClientSystem τ}
    (alike : Alike id system other) :
    Alike id (system.pollSingleAt runtime callback id handle nowMs)
      (other.pollArrayAt runtime callback id [handle] nowMs) := by
  obtain ⟨turn, pollMs, rfl⟩ := alike
  generalize isPolled : system.beginPoll runtime callback id nowMs = polled
  rw [pollArrayAt_alike runtime ignores isPolled, pollSingleAt]
  cases meets with
  | foreign other idle =>
      rw [if_pos other]
      have noneWaits :
          ((system.polledAt id nowMs).sessions id).inFlightSubscription =
            none := by
        rw [polledAt, sessions_setSession_self]
        exact idle
      have isNoted : polled = system.polledAt id nowMs := by
        rw [← isPolled]
        change pollInFlightSubscription runtime callback
          (system.polledAt id nowMs) id nowMs = _
        rw [pollInFlightSubscription, noneWaits]
      subst isNoted
      split
      · exact alike_polledAt id system turn nowMs
      · rw [if_neg (fun own => other own.1)]
        exact alike_polledAt id system 0 nowMs
  | waits own inFlight =>
      rw [isPolled] at inFlight
      rw [if_neg (not_not.mpr own)]
      dsimp only
      rw [isPolled, inFlight, if_pos rfl, Bool.true_or, if_pos rfl]
      exact alike_withTurn id polled turn
  | goesOn own stillOwn goesOn =>
      rw [isPolled] at stillOwn goesOn
      rw [if_neg (not_not.mpr own)]
      dsimp only
      rw [isPolled, goesOn.pollCovNotification runtime callback]
      dsimp only
      cases (polled.sessions id).inFlightSubscription.isSome with
      | true => exact alike_withTurn id polled turn
      | false =>
          rw [Bool.false_or, if_neg Bool.false_ne_true]
          split
          · rename_i reads
            have job : (polled.sessions id).jobInFlight = true := by
              rw [BacnetDeviceSession.jobInFlight, reads, Bool.true_or]
            have noStart :
                covStartPossible (polled.sessions id)
                  (polled.subscriptions handle) nowMs = false := by
              rw [covStartPossible, job]
              simp
            rw [startSubscriptionWork_idle runtime callback noStart
              (.inr job)]
            exact alike_withTurn id polled turn
          · split
            · exact alike_withTurn id _ 0
            · rename_i notDue
              have early :
                  (polled.subscriptions handle).isDue nowMs = false :=
                Bool.eq_false_iff.mpr fun due => notDue ⟨stillOwn, due⟩
              rw [startSubscriptionWork_idle runtime callback
                (goesOn.noStart runtime early) (.inl early)]
              exact alike_withTurn id polled 0

end

end ClientSystem

/-- What arrives before a poll, and the time of the poll. -/
structure PollEvent (τ : Type) where
  arrivals : τ → τ := id
  nowMs : UInt32

namespace ClientSystem

variable {τ : Type} (runtime : ClientRuntime τ)
  (callback : SubscriptionCallback τ) (id : SessionId)
  (handle : SubscriptionId)

def arrive
    (system : ClientSystem τ)
    (arrivals : τ → τ) : ClientSystem τ :=
  { system with
    client :=
      { system.client with transport := arrivals system.client.transport } }

/-- A poll of a handle by itself. -/
def pollSingleStep
    (system : ClientSystem τ)
    (event : PollEvent τ) : ClientSystem τ :=
  (system.arrive event.arrivals).pollSingle runtime callback id handle
    event.nowMs

/-- A poll of a handle in an array of its own. -/
def pollArrayStep
    (system : ClientSystem τ)
    (event : PollEvent τ) : ClientSystem τ :=
  (system.arrive event.arrivals).pollArray runtime callback id [handle]
    event.nowMs

/-- The same packets, callbacks and handles. -/
structure SameOutcome (first second : ClientSystem τ) : Prop where
  traffic : second.client.traffic = first.client.traffic
  history : second.history = first.history
  subscriptions : second.subscriptions = first.subscriptions

/-- As long as the forms meet at every poll, they have the same outcome. -/
theorem pollForms_agree
    {callback : SubscriptionCallback τ}
    {id : SessionId}
    (ignores : IgnoresTurn id callback)
    (handle : SubscriptionId)
    {system : ClientSystem τ}
    {events : List (PollEvent τ)}
    (meets :
      EventRun.Along (pollSingleStep runtime callback id handle)
        (fun system event =>
          (system.arrive event.arrivals).FormsMeet runtime id handle
            event.nowMs callback)
        system events) :
    SameOutcome
      (EventRun.run (pollSingleStep runtime callback id handle) system
        events)
      (EventRun.run (pollArrayStep runtime callback id handle) system
        events) := by
  have alike :
      Alike id
        (EventRun.run (pollSingleStep runtime callback id handle) system
          events)
        (EventRun.run (pollArrayStep runtime callback id handle) system
          events) := by
    refine EventRun.run_related_along (Alike id) ?_ (alike_refl id system)
      meets
    rintro system other event meets ⟨turn, pollMs, rfl⟩
    have resolves :
        (((system.withTurn id turn).polledAt id pollMs).arrive
            event.arrivals).resolveNow runtime event.nowMs =
          (((system.arrive event.arrivals).resolveNow runtime event.nowMs).1,
            (((system.arrive event.arrivals).resolveNow runtime
              event.nowMs).2.withTurn id turn).polledAt id pollMs) := by
      unfold resolveNow
      split <;> rfl
    unfold pollSingleStep pollArrayStep pollSingle pollArray
    rw [resolves]
    exact alike_poll runtime ignores meets ⟨turn, pollMs, rfl⟩
  obtain ⟨turn, pollMs, isAlike⟩ := alike
  rw [isAlike]
  exact ⟨rfl, rfl, rfl⟩

/-- Callbacks that make no calls do not look at a rotation. -/
theorem ignoresTurn_observer
    (runtime : ClientRuntime τ)
    (id : SessionId)
    (depth : Nat) :
    IgnoresTurn id
      ((ClientApplication.observer τ).callback runtime depth) := by
  have returns
      (handle : SubscriptionId)
      (notification : BacnetSubscriptionNotification)
      (system : ClientSystem τ)
      (turn : Nat)
      (nowMs : UInt32) :
      (system.withTurn id turn).callbackReturns handle notification nowMs =
        (system.callbackReturns handle notification nowMs).withTurn id
          turn := by
    have sameSlot (other : SessionId) :
        ((system.withTurn id turn).sessions other).inFlightSubscription =
          (system.sessions other).inFlightSubscription := by
      by_cases same : other = id
      · rw [same, sessions_withTurn]
        rfl
      · exact congrArg BacnetDeviceSession.inFlightSubscription
          (Function.update_of_ne same _ _)
    have overtaken :
        (system.withTurn id turn).overtaken handle nowMs =
          system.overtaken handle nowMs := by
      unfold overtaken otherInFlight
      simp only [sameSlot, subscriptions_withTurn]
    unfold callbackReturns
    rw [overtaken, record_withTurn]
    split <;> rfl
  intro handle notification system turn
  cases depth with
  | zero => exact returns ..
  | succ depth => exact returns ..

/-- A handle starts to subscribe, is acknowledged and hears nothing. -/
def quietPolls : List (PollEvent (List (Option ReceivedDatagram))) :=
  [{ nowMs := 0 },
    { arrivals := fun script =>
        script ++ [some (scriptedSimpleAck scriptedPeer 1)]
      nowMs := 1 },
    { nowMs := 2 }]

/-- The polls of either form have the same outcome. -/
theorem pollForms_agree_quiet :
    SameOutcome
      (EventRun.run
        (pollSingleStep scriptedRuntime
          ((ClientApplication.observer _).callback scriptedRuntime 1) 0 0)
        ((scriptedSystem []).run scriptedRuntime
          ((ClientApplication.observer _).callback scriptedRuntime 1)
          ((subscribedSteps true).take 2))
        quietPolls)
      (EventRun.run
        (pollArrayStep scriptedRuntime
          ((ClientApplication.observer _).callback scriptedRuntime 1) 0 0)
        ((scriptedSystem []).run scriptedRuntime
          ((ClientApplication.observer _).callback scriptedRuntime 1)
          ((subscribedSteps true).take 2))
        quietPolls) := by
  refine pollForms_agree scriptedRuntime
    (ignoresTurn_observer scriptedRuntime 0 1) 0 ⟨?_, ?_, ?_, trivial⟩
  · exact .goesOn (by decide +kernel) (by decide +kernel)
      (.polling (by decide +kernel) (.inl (by decide +kernel)))
  · exact .goesOn (by decide +kernel) (by decide +kernel)
      (.quiet (by decide +kernel)
        ⟨by decide +kernel, fun _ => by decide +kernel⟩)
  · exact .goesOn (by decide +kernel) (by decide +kernel)
      (.quiet (by decide +kernel)
        ⟨by decide +kernel, fun _ => by decide +kernel⟩)

/-- A notification for a COV-active handle is only found by the single form. -/
theorem pollForms_disagree :
    ¬∀ (system : ClientSystem (List (Option ReceivedDatagram)))
      (events : List (PollEvent (List (Option ReceivedDatagram)))),
      (system.subscriptions 0).session = some 0 →
        (system.sessions 0).jobInFlight = false →
          SameOutcome
            (EventRun.run
              (pollSingleStep scriptedRuntime
                ((ClientApplication.observer _).callback scriptedRuntime 1)
                0 0)
              system events)
            (EventRun.run
              (pollArrayStep scriptedRuntime
                ((ClientApplication.observer _).callback scriptedRuntime 1)
                0 0)
              system events) := by
  intro agree
  have same :=
    (agree (subscribedSystem true) [{ nowMs := 2 }] (by decide +kernel)
      (by decide +kernel)).history
  exact absurd same (by decide +kernel)

end ClientSystem

end BacnetStack
