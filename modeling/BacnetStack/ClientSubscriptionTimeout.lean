import BacnetStack.ClientCallSteps
import BacnetStack.ClientRuns

namespace BacnetStack

/-!
# When a pending subscription request is given up

A poll compares the time since a request was sent with the timeout of its
handle.  The clock has 32 bits, the time of sending is kept in an
`unsigned long`, and the difference is taken in the wider of the two types.
With 32 bits it is the time that passed, modulo a turn of the clock.  With 64
bits a clock that has wrapped since makes the difference huge.
-/

/-- More time than the timeout passed on the clock, counted modulo a turn. -/
def TimeoutElapsed (nowMs startedAt timeoutMs : UInt32) : Prop :=
  timeoutMs.toNat ≤
    (nowMs.toNat + 2 ^ 32 - startedAt.toNat) % 2 ^ 32

instance (nowMs startedAt timeoutMs : UInt32) :
    Decidable (TimeoutElapsed nowMs startedAt timeoutMs) :=
  inferInstanceAs (Decidable (_ ≤ _))

/-- A difference of 32 bits measures what passed. -/
theorem subscriptionTimedOut_narrow (nowMs startedAt timeoutMs : UInt32) :
    subscriptionTimedOut false nowMs startedAt timeoutMs = true ↔
      TimeoutElapsed nowMs startedAt timeoutMs := by
  have nowBound := nowMs.toNat_lt
  have startBound := startedAt.toNat_lt
  unfold subscriptionTimedOut TimeoutElapsed
  rw [if_neg Bool.false_ne_true, decide_eq_true_eq, UInt32.le_iff_toNat_le,
    UInt32.toNat_sub]
  have same :
      2 ^ 32 - startedAt.toNat + nowMs.toNat =
        nowMs.toNat + 2 ^ 32 - startedAt.toNat := by
    omega
  rw [same]

/-- A difference of 64 bits does while the clock has not wrapped. -/
theorem subscriptionTimedOut_wide
    {nowMs startedAt : UInt32}
    (ordered : startedAt ≤ nowMs)
    (timeoutMs : UInt32) :
    subscriptionTimedOut true nowMs startedAt timeoutMs = true ↔
      TimeoutElapsed nowMs startedAt timeoutMs := by
  have nowBound := nowMs.toNat_lt
  rw [UInt32.le_iff_toNat_le] at ordered
  unfold subscriptionTimedOut TimeoutElapsed
  rw [if_pos rfl, decide_eq_true_eq, UInt64.le_iff_toNat_le,
    UInt64.toNat_sub, UInt32.toNat_toUInt64, UInt32.toNat_toUInt64,
    UInt32.toNat_toUInt64]
  omega

/-- After a wrap it exceeds every timeout. -/
theorem subscriptionTimedOut_wrapped
    {nowMs startedAt : UInt32}
    (wrapped : ¬startedAt ≤ nowMs)
    (timeoutMs : UInt32) :
    subscriptionTimedOut true nowMs startedAt timeoutMs = true := by
  have startBound := startedAt.toNat_lt
  have timeoutBound := timeoutMs.toNat_lt
  rw [UInt32.le_iff_toNat_le] at wrapped
  unfold subscriptionTimedOut
  rw [if_pos rfl, decide_eq_true_eq, UInt64.le_iff_toNat_le,
    UInt64.toNat_sub, UInt32.toNat_toUInt64, UInt32.toNat_toUInt64,
    UInt32.toNat_toUInt64]
  omega

/--
Both widths measure what passed, unless the wide one meets a clock that has
wrapped before the timeout is over.
-/
theorem subscriptionTimedOut_iff_elapsed_iff
    (wide : Bool)
    (nowMs startedAt timeoutMs : UInt32) :
    (subscriptionTimedOut wide nowMs startedAt timeoutMs = true ↔
        TimeoutElapsed nowMs startedAt timeoutMs) ↔
      ¬(wide = true ∧ nowMs < startedAt ∧
        ¬TimeoutElapsed nowMs startedAt timeoutMs) := by
  cases wide with
  | false =>
      exact iff_of_true (subscriptionTimedOut_narrow ..) nofun
  | true =>
      by_cases ordered : startedAt ≤ nowMs
      · exact iff_of_true (subscriptionTimedOut_wide ordered timeoutMs)
          fun early => UInt32.not_le.mpr early.2.1 ordered
      · have always := subscriptionTimedOut_wrapped ordered timeoutMs
        simp only [always, true_iff, UInt32.not_le.mp ordered, true_and,
          not_not]

namespace ClientSystem

variable {τ : Type}
  (runtime : ClientRuntime τ)
  (callback : SubscriptionCallback τ)

/-- What the next poll of the client finds does not answer a handle. -/
def NoResponse
    (system : ClientSystem τ)
    (id : SessionId)
    (handle : SubscriptionId) : Prop :=
  let subscription := system.subscriptions handle
  if subscription.inFlightOperation = .subscribeCov then
    (system.client.pollSubscribeCov runtime subscription.inFlightInvokeId
      (if subscription.options.usePropertyCov then
        kServiceSubscribeCovProperty
      else
        kServiceSubscribeCov)
      (some (system.sessions id).endpoint)).1.1 = .none
  else
    (system.client.pollReadPropertyStatus runtime
      subscription.inFlightInvokeId subscription.request).1.status = .none

/-- A session waits for a request of a handle, and nothing answers it. -/
structure PendingWithoutResponse
    (system : ClientSystem τ)
    (id : SessionId)
    (handle : SubscriptionId) : Prop where
  waits : (system.sessions id).inFlightSubscription = some handle
  active : (system.subscriptions handle).active = true
  inFlight : (system.subscriptions handle).inFlight = true
  noResponse : system.NoResponse runtime id handle

/-- A poll at a given time ends the request of a handle. -/
def TimesOut
    (system : ClientSystem τ)
    (id : SessionId)
    (handle : SubscriptionId)
    (nowMs : UInt32) : Prop :=
  ((system.pollInFlightSubscription runtime callback id
    nowMs).subscriptions handle).inFlight = false

/-- A subscribe request without a response ends exactly by its timeout. -/
theorem inFlight_pollCovResponse
    {system : ClientSystem τ}
    {id : SessionId}
    {handle : SubscriptionId}
    (inFlight : (system.subscriptions handle).inFlight = true)
    (silent :
      (system.client.pollSubscribeCov runtime
        (system.subscriptions handle).inFlightInvokeId
        (if (system.subscriptions handle).options.usePropertyCov then
          kServiceSubscribeCovProperty
        else
          kServiceSubscribeCov)
        (some (system.sessions id).endpoint)).1.1 = .none)
    (nowMs : UInt32) :
    ((system.pollCovResponse runtime id handle nowMs).subscriptions
        handle).inFlight =
      !subscriptionTimedOut runtime.unsignedLongIs64Bit nowMs
        (system.subscriptions handle).inFlightStartedAt
        (system.subscriptions handle).options.timeoutMs := by
  unfold pollCovResponse onClient
  dsimp only
  rw [silent, if_neg nofun]
  split
  · rename_i ended
    have timedOut := ended.resolve_left (fun answered => answered rfl)
    rw [timedOut]
    unfold failCovSubscription
    exact congrArg BacnetPropertySubscription.inFlight
      (subscriptions_setSubscription_self ..)
  · rename_i inTime
    rw [Bool.eq_false_iff.mpr fun timedOut => inTime (.inr timedOut)]
    exact inFlight

/-- So does a read without a response, whatever its callback does. -/
theorem inFlight_pollReadResponse
    {system : ClientSystem τ}
    {id : SessionId}
    {handle : SubscriptionId}
    (inFlight : (system.subscriptions handle).inFlight = true)
    (silent :
      (system.client.pollReadPropertyStatus runtime
        (system.subscriptions handle).inFlightInvokeId
        (system.subscriptions handle).request).1.status = .none)
    (nowMs : UInt32) :
    ((system.pollReadResponse runtime callback id handle
        nowMs).subscriptions handle).inFlight =
      !subscriptionTimedOut runtime.unsignedLongIs64Bit nowMs
        (system.subscriptions handle).inFlightStartedAt
        (system.subscriptions handle).options.timeoutMs := by
  unfold pollReadResponse onClient
  dsimp only
  rw [if_neg (not_not.mpr silent)]
  split
  · rename_i timedOut
    rw [timedOut]
    unfold finishSubscriptionPoll
    exact congrArg BacnetPropertySubscription.inFlight
      (subscriptions_completeSubscriptionPoll ..)
  · rename_i inTime
    rw [Bool.eq_false_iff.mpr inTime]
    exact inFlight

/-- A poll gives a silent request up when the comparison says so. -/
theorem timesOut_iff
    {system : ClientSystem τ}
    {id : SessionId}
    {handle : SubscriptionId}
    (pending : system.PendingWithoutResponse runtime id handle)
    (nowMs : UInt32) :
    system.TimesOut runtime callback id handle nowMs ↔
      subscriptionTimedOut runtime.unsignedLongIs64Bit nowMs
        (system.subscriptions handle).inFlightStartedAt
        (system.subscriptions handle).options.timeoutMs = true := by
  obtain ⟨waits, active, inFlight, noResponse⟩ := pending
  unfold NoResponse at noResponse
  unfold TimesOut pollInFlightSubscription
  rw [waits]
  dsimp only at noResponse ⊢
  rw [active, if_neg (by decide)]
  split
  · rename_i subscribing
    rw [if_pos subscribing] at noResponse
    rw [inFlight_pollCovResponse runtime inFlight noResponse,
      Bool.not_eq_false']
  · rename_i reading
    rw [if_neg reading] at noResponse
    rw [inFlight_pollReadResponse runtime callback inFlight noResponse,
      Bool.not_eq_false']

/--
A pending request without a response is given up exactly when its timeout has
passed on the clock, except where `unsigned long` has 64 bits, the clock has
wrapped since the request was sent and the timeout has not passed.
-/
theorem timesOut_elapsed_iff
    {system : ClientSystem τ}
    {id : SessionId}
    {handle : SubscriptionId}
    (pending : system.PendingWithoutResponse runtime id handle)
    (nowMs : UInt32) :
    (system.TimesOut runtime callback id handle nowMs ↔
        TimeoutElapsed nowMs (system.subscriptions handle).inFlightStartedAt
          (system.subscriptions handle).options.timeoutMs) ↔
      ¬(runtime.unsignedLongIs64Bit = true ∧
        nowMs < (system.subscriptions handle).inFlightStartedAt ∧
        ¬TimeoutElapsed nowMs (system.subscriptions handle).inFlightStartedAt
          (system.subscriptions handle).options.timeoutMs) := by
  rw [timesOut_iff runtime callback pending nowMs]
  exact subscriptionTimedOut_iff_elapsed_iff ..

end ClientSystem

/-- The scripted transport on a platform where `unsigned long` has 64 bits. -/
def wideRuntime : ClientRuntime (List (Option ReceivedDatagram)) :=
  { scriptedRuntime with unsignedLongIs64Bit := true }

/-- A handle sends its first request at a given time; nothing answers. -/
def silentSystem
    (options : BacnetSubscribeOptions)
    (startedAt : UInt32) :
    ClientSystem (List (Option ReceivedDatagram)) :=
  (scriptedSystem []).run wideRuntime
    ((ClientApplication.observer _).callback wideRuntime 0)
    [.startClient true,
      .call (.subscribe 0 0 { type := 0, instance_ := 1 } .presentValue
        kBacnetNoArrayIndex options true 0),
      .call (.pollSingle 0 0 startedAt)]

/-- Its session waits for the reply to a read, or to a subscribe request. -/
theorem pending_silentSystem (preferCov : Bool) :
    (silentSystem { preferCov := preferCov } 0xFFFFFFFE
      ).PendingWithoutResponse wideRuntime 0 0 := by
  cases preferCov <;>
    exact ⟨by decide +kernel, by decide +kernel, by decide +kernel,
      by unfold ClientSystem.NoResponse; decide +kernel⟩

/-- A second after such a request it is given up, as its timeout asks. -/
theorem timesOut_elapsed_iff_silent :
    (silentSystem {} 0xFFFFFFFE).TimesOut wideRuntime
        ((ClientApplication.observer _).callback wideRuntime 0) 0 0 998 ↔
      TimeoutElapsed 998
        ((silentSystem {} 0xFFFFFFFE).subscriptions 0).inFlightStartedAt
        ((silentSystem {} 0xFFFFFFFE).subscriptions 0).options.timeoutMs :=
  (ClientSystem.timesOut_elapsed_iff wideRuntime _
    (pending_silentSystem false) 998).mpr (by decide +kernel)

/-- Seven milliseconds after it was sent it is given up as well. -/
theorem not_timesOut_elapsed :
    ¬∀ (runtime : ClientRuntime (List (Option ReceivedDatagram)))
      (callback : SubscriptionCallback (List (Option ReceivedDatagram)))
      (system : ClientSystem (List (Option ReceivedDatagram)))
      (id : SessionId)
      (handle : SubscriptionId)
      (nowMs : UInt32),
      system.PendingWithoutResponse runtime id handle →
        (system.TimesOut runtime callback id handle nowMs ↔
          TimeoutElapsed nowMs
            (system.subscriptions handle).inFlightStartedAt
            (system.subscriptions handle).options.timeoutMs) := by
  intro always
  have sameTime :=
    always wideRuntime ((ClientApplication.observer _).callback wideRuntime 0)
      (silentSystem {} 0xFFFFFFFE) 0 0 5 (pending_silentSystem false)
  have givenUp :
      (silentSystem {} 0xFFFFFFFE).TimesOut wideRuntime
        ((ClientApplication.observer _).callback wideRuntime 0) 0 0 5 := by
    unfold ClientSystem.TimesOut
    decide +kernel
  exact absurd (sameTime.mp givenUp) (by decide +kernel)

end BacnetStack
