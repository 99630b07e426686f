import BacnetStack.ClientRuns

namespace BacnetStack

/-!
# When a subscription is renewed

The deadline of a renewal is computed in seconds from two settings, converted
to milliseconds in a 32-bit counter and compared as a signed difference.  A
renewal is in time when the handle becomes due after its acknowledgement and
before the lifetime the request asked for has passed.
-/

/-- The interval from an acknowledgement to the renewal, without wrapping. -/
def BacnetSubscribeOptions.renewalAfterMs
    (options : BacnetSubscribeOptions) : Nat :=
  1000 *
    if options.covRenewBeforeSeconds < options.covLifetimeSeconds then
      options.covLifetimeSeconds.toNat - options.covRenewBeforeSeconds.toNat
    else
      options.covLifetimeSeconds.toNat

/-- The settings of a handle that is renewed in time. -/
structure BacnetSubscribeOptions.RenewInTime
    (options : BacnetSubscribeOptions) : Prop where
  /-- The interval is no multiple of a turn of the counter. -/
  later : 0 < options.renewalAfterMs % 2 ^ 32
  /-- What the counter holds of it is no more than half a turn. -/
  near : options.renewalAfterMs % 2 ^ 32 ≤ 2 ^ 31
  /-- What the counter holds of it is less than the lifetime. -/
  beforeExpiry :
    options.renewalAfterMs % 2 ^ 32 <
      1000 * options.covLifetimeSeconds.toNat

namespace BacnetPropertySubscription

/-- The interval a handle uses is the one of its settings, wrapped. -/
theorem toNat_renewalIntervalMs (options : BacnetSubscribeOptions) :
    (renewalIntervalMs options).toNat = options.renewalAfterMs % 2 ^ 32 := by
  have thousand : (1000 : UInt32).toNat = 1000 := rfl
  unfold renewalIntervalMs BacnetSubscribeOptions.renewalAfterMs
  rw [UInt32.toNat_mul, thousand, Nat.mul_comm]
  split
  · rename_i shorter
    rw [UInt32.toNat_sub_of_le _ _ (UInt32.le_of_lt shorter)]
  · rfl

/-- A handle becomes due at some time after `sinceMs`, and not earlier. -/
def BecomesDueAfter
    (subscription : BacnetPropertySubscription)
    (sinceMs elapsed : Nat) : Prop :=
  subscription.isDue (WrappingClock.reading (sinceMs + elapsed)) = true ∧
    ∀ earlier, earlier < elapsed →
      subscription.isDue (WrappingClock.reading (sinceMs + earlier)) = false

/--
A handle whose subscription was acknowledged at `acknowledgedAt` becomes due
later, and before its lifetime ends.
-/
def RenewedInTime
    (subscription : BacnetPropertySubscription)
    (acknowledgedAt : Nat) : Prop :=
  ∃ elapsed,
    0 < elapsed ∧
      elapsed < 1000 * subscription.options.covLifetimeSeconds.toNat ∧
      subscription.BecomesDueAfter acknowledgedAt elapsed

/-- A handle that was just acknowledged is due when its renewal is. -/
theorem isDue_covAcknowledged
    {subscription : BacnetPropertySubscription}
    (active : subscription.active = true)
    (acknowledgedAt elapsed : Nat) :
    (subscription.covAcknowledged
        (WrappingClock.reading acknowledgedAt)).isDue
          (WrappingClock.reading (acknowledgedAt + elapsed)) =
      WrappingClock.reached
        (WrappingClock.reading (acknowledgedAt + elapsed))
        (WrappingClock.reading (acknowledgedAt +
          subscription.options.renewalAfterMs % 2 ^ 32)) := by
  have deadline :
      (subscription.covAcknowledged
          (WrappingClock.reading acknowledgedAt)).covRenewAtMs =
        WrappingClock.reading (acknowledgedAt +
          subscription.options.renewalAfterMs % 2 ^ 32) := by
    rw [← toNat_renewalIntervalMs, ← WrappingClock.reading_add]
    show WrappingClock.reading acknowledgedAt +
      renewalIntervalMs subscription.options = _
    unfold WrappingClock.reading
    rw [UInt32.ofNat_toNat]
  rw [← deadline]
  unfold isDue
  rw [if_neg]
  · rfl
  · show ¬((!subscription.active || false) = true)
    rw [active]
    exact Bool.false_ne_true

/-- The renewal of an active handle is in time with these settings only. -/
theorem renewedInTime_covAcknowledged_iff
    {subscription : BacnetPropertySubscription}
    (active : subscription.active = true)
    (acknowledgedAt : Nat) :
    (subscription.covAcknowledged
        (WrappingClock.reading acknowledgedAt)).RenewedInTime
          acknowledgedAt ↔
      subscription.options.RenewInTime := by
  have isDue := isDue_covAcknowledged active acknowledgedAt
  have wrapped : subscription.options.renewalAfterMs % 2 ^ 32 < 2 ^ 32 :=
    Nat.mod_lt _ (Nat.two_pow_pos 32)
  -- At the end of the interval the renewal is due, whatever was before.
  have dueAtEnd := isDue (subscription.options.renewalAfterMs % 2 ^ 32)
  rw [WrappingClock.reached_self] at dueAtEnd
  have early
      (near : subscription.options.renewalAfterMs % 2 ^ 32 ≤ 2 ^ 31)
      {elapsed : Nat}
      (before :
        elapsed < subscription.options.renewalAfterMs % 2 ^ 32) :
      (subscription.covAcknowledged
        (WrappingClock.reading acknowledgedAt)).isDue
          (WrappingClock.reading (acknowledgedAt + elapsed)) = false := by
    rw [isDue]
    exact WrappingClock.not_reached_of_near (by omega) (by omega)
  constructor
  · rintro ⟨elapsed, positive, inLifetime, due, notEarlier⟩
    -- An interval of none or more than half a turn is over at once.
    have notAtOnce := notEarlier 0 positive
    rw [isDue, Bool.eq_false_iff, Ne, WrappingClock.reached_eq_true_iff]
      at notAtOnce
    have ahead :
        0 < subscription.options.renewalAfterMs % 2 ^ 32 := by
      apply Nat.pos_of_ne_zero
      intro none
      rw [none, UInt32.sub_self] at notAtOnce
      exact notAtOnce (Nat.two_pow_pos 31)
    have near :
        subscription.options.renewalAfterMs % 2 ^ 32 ≤ 2 ^ 31 := by
      rw [WrappingClock.toNat_reading_sub_of_lt
        (show acknowledgedAt + 0 < _ by omega)] at notAtOnce
      omega
    refine ⟨ahead, near, ?_⟩
    apply Nat.lt_of_le_of_lt _ inLifetime
    apply Nat.le_of_not_lt
    intro before
    rw [early near before] at due
    exact nomatch due
  · rintro ⟨later, near, beforeExpiry⟩
    exact ⟨subscription.options.renewalAfterMs % 2 ^ 32, later,
      beforeExpiry, dueAtEnd, fun earlier before => early near before⟩

end BacnetPropertySubscription

/--
Where the lifetime is at most half a turn of the counter, the renewal has to be
asked for before its end, and after its beginning.
-/
theorem BacnetSubscribeOptions.renewInTime_iff_of_short
    {options : BacnetSubscribeOptions}
    (short : 1000 * options.covLifetimeSeconds.toNat ≤ 2 ^ 31) :
    options.RenewInTime ↔
      0 < options.covRenewBeforeSeconds ∧
        options.covRenewBeforeSeconds < options.covLifetimeSeconds := by
  rw [UInt32.lt_iff_toNat_lt, UInt32.lt_iff_toNat_lt]
  have zero : (0 : UInt32).toNat = 0 := rfl
  constructor
  · rintro ⟨later, -, beforeExpiry⟩
    unfold renewalAfterMs at later beforeExpiry
    split at beforeExpiry
    · rename_i shorter
      rw [if_pos shorter] at later
      rw [UInt32.lt_iff_toNat_lt] at shorter
      omega
    · rw [Nat.mod_eq_of_lt (by omega)] at beforeExpiry
      omega
  · rintro ⟨positive, shorter⟩
    have interval :
        options.renewalAfterMs =
          1000 * (options.covLifetimeSeconds.toNat -
            options.covRenewBeforeSeconds.toNat) := by
      unfold renewalAfterMs
      rw [if_pos (UInt32.lt_iff_toNat_lt.mpr shorter)]
    have small : options.renewalAfterMs < 2 ^ 32 := by omega
    refine ⟨?_, ?_, ?_⟩
    all_goals
      rw [Nat.mod_eq_of_lt small]
      omega

namespace ClientSystem

variable {τ : Type}
  (runtime : ClientRuntime τ)
  (callback : SubscriptionCallback τ)

/-- A session is polled where the subscribe request is acknowledged. -/
structure SubscribeAcknowledged
    (system : ClientSystem τ)
    (id : SessionId)
    (handle : SubscriptionId) : Prop where
  waits : (system.sessions id).inFlightSubscription = some handle
  active : (system.subscriptions handle).active = true
  subscribing :
    (system.subscriptions handle).inFlightOperation = .subscribeCov
  acknowledged :
    (system.client.pollSubscribeCov runtime
      (system.subscriptions handle).inFlightInvokeId
      (if (system.subscriptions handle).options.usePropertyCov then
        kServiceSubscribeCovProperty
      else
        kServiceSubscribeCov)
      (some (system.sessions id).endpoint)).1.1 = .ack

/-- The poll that finds the acknowledgement sets the deadline. -/
theorem subscriptions_pollInFlightSubscription_acknowledged
    {system : ClientSystem τ}
    {id : SessionId}
    {handle : SubscriptionId}
    (acknowledges : system.SubscribeAcknowledged runtime id handle)
    (nowMs : UInt32) :
    (system.pollInFlightSubscription runtime callback id
        nowMs).subscriptions handle =
      (system.subscriptions handle).covAcknowledged nowMs := by
  obtain ⟨waits, active, subscribing, acknowledged⟩ := acknowledges
  unfold pollInFlightSubscription
  rw [waits]
  dsimp only
  rw [if_neg (by rw [active]; exact Bool.false_ne_true), if_pos subscribing]
  unfold pollCovResponse
  dsimp only
  refine (congrArg (fun after : ClientSystem τ =>
    after.subscriptions handle) (if_pos acknowledged)).trans ?_
  exact subscriptions_setSubscription_self _ handle _

/--
A handle is renewed in time, whenever its subscription is acknowledged, with
these settings and with no others.
-/
theorem renewedInTime_iff
    {system : ClientSystem τ}
    {id : SessionId}
    {handle : SubscriptionId}
    (acknowledges : system.SubscribeAcknowledged runtime id handle)
    (acknowledgedAt : Nat) :
    ((system.pollInFlightSubscription runtime callback id
        (WrappingClock.reading acknowledgedAt)).subscriptions
          handle).RenewedInTime acknowledgedAt ↔
      (system.subscriptions handle).options.RenewInTime := by
  rw [subscriptions_pollInFlightSubscription_acknowledged runtime callback
    acknowledges]
  exact BacnetPropertySubscription.renewedInTime_covAcknowledged_iff
    acknowledges.active acknowledgedAt

end ClientSystem

/-- A session that waits for the answer to a subscribe request. -/
def awaitingSystem
    (options : BacnetSubscribeOptions) :
    ClientSystem (List (Option ReceivedDatagram)) :=
  (scriptedSystem [some (scriptedSimpleAck scriptedPeer 1)]).run
    scriptedRuntime ((ClientApplication.observer _).callback scriptedRuntime 0)
    [.startClient true,
      .call (.subscribe 0 0 { type := 0, instance_ := 1 } .presentValue
        kBacnetNoArrayIndex options true 0),
      .call (.pollSingle 0 0 0)]

/-- The default settings renew a handle in time. -/
theorem renewedInTime_default :
    (((awaitingSystem { preferCov := true }).pollInFlightSubscription
      scriptedRuntime
      ((ClientApplication.observer _).callback scriptedRuntime 0) 0
        (WrappingClock.reading 10)).subscriptions 0).RenewedInTime 10 :=
  (ClientSystem.renewedInTime_iff scriptedRuntime _
    ⟨by decide +kernel, by decide +kernel, by decide +kernel,
      by decide +kernel⟩ 10).mpr
    ⟨by decide +kernel, by decide +kernel, by decide +kernel⟩

/-- After half a turn of the counter a new subscription is due at once. -/
theorem renewedInTime_long :
    ¬∀ (options : BacnetSubscribeOptions) (acknowledgedAt : Nat),
      0 < options.covLifetimeSeconds →
        (((awaitingSystem options).pollInFlightSubscription scriptedRuntime
          ((ClientApplication.observer _).callback scriptedRuntime 0) 0
            (WrappingClock.reading acknowledgedAt)).subscriptions
              0).RenewedInTime acknowledgedAt := by
  intro always
  obtain ⟨elapsed, positive, -, -, notEarlier⟩ :=
    always { preferCov := true, covLifetimeSeconds := 2147489 } 0
      (by decide)
  exact absurd (notEarlier 0 positive) (by decide +kernel)

end BacnetStack
