import BacnetStack.ServerCovRetransmission

namespace BacnetStack

/-!
# The number of retransmissions

The retry counter of a slot is an octet, the configured limit a 32-bit
number.  While the limit fits into the counter, the counter says how often
the outstanding notification was repeated; above that the counter wraps
before it reaches the limit, and nothing ends the exchange.
-/

/--
The outstanding exchange: the retransmissions since the last original, and
that original.
-/
def exchange : List CovTransmission → List CovTransmission
  | [] => []
  | transmission :: earlier =>
      if transmission.isRetransmission then
        transmission :: exchange earlier
      else
        [transmission]

@[simp] theorem exchange_cons_retransmission
    {transmission : CovTransmission}
    (retransmits : transmission.isRetransmission = true)
    (history : List CovTransmission) :
    exchange (transmission :: history) =
      transmission :: exchange history := by
  simp [exchange, retransmits]

@[simp] theorem exchange_cons_original
    {transmission : CovTransmission}
    (starts : transmission.isRetransmission = false)
    (history : List CovTransmission) :
    exchange (transmission :: history) = [transmission] := by
  simp [exchange, starts]

/-- The counter of a slot against its exchange, for a limit on retries. -/
structure RetryLedger
    (limit : UInt32)
    (slot : CovSlot)
    (history : List CovTransmission) : Prop where
  counted :
    slot.subscription.state = .awaitingConfirmedAck →
      (exchange history).length = 1 + slot.confirmedRetryCount.toNat
  bounded :
    slot.subscription.state ≠ .inactive →
      (exchange history).length ≤ 1 + limit.toNat

/-- The limit fits into the counter. -/
def LimitFits (limit : UInt32) : Prop :=
  limit.toNat ≤ 255

instance (limit : UInt32) : Decidable (LimitFits limit) :=
  inferInstanceAs (Decidable (limit.toNat ≤ 255))

/-- Below a limit that fits, one more retry does not wrap the counter. -/
theorem LimitFits.toNat_succ
    {limit : UInt32}
    (fits : LimitFits limit)
    {count : UInt8}
    (below : count.toNat < limit.toNat) :
    (count + 1).toNat = count.toNat + 1 := by
  unfold LimitFits at fits
  have one : (1 : UInt8).toNat = 1 := rfl
  rw [UInt8.toNat_add]
  omega

/-- Retries are left exactly below the limit. -/
theorem retriesExhausted_eq_true_iff
    (device : BacnetServerDevice)
    (slot : CovSlot) :
    retriesExhausted device slot = true ↔
      device.numberOfApduRetries.toNat ≤
        slot.confirmedRetryCount.toNat := by
  simp [retriesExhausted, UInt32.le_iff_toNat_le]

/-- A limit beyond the counter is never reached. -/
theorem retriesExhausted_eq_false
    {device : BacnetServerDevice}
    (tooLarge : ¬LimitFits device.numberOfApduRetries)
    (slot : CovSlot) :
    retriesExhausted device slot = false := by
  rw [← Bool.not_eq_true, retriesExhausted_eq_true_iff]
  have counterBound := slot.confirmedRetryCount.toNat_lt
  unfold LimitFits at tooLarge
  omega

namespace RetryLedger

/-- A slot without a subscription keeps any ledger. -/
theorem of_inactive
    {slot : CovSlot}
    (inactive : slot.subscription.state = .inactive)
    (limit : UInt32)
    (history : List CovTransmission) :
    RetryLedger limit slot history :=
  ⟨fun awaiting => by simp [inactive] at awaiting,
    fun inUse => (inUse inactive).elim⟩

/-- An active slot only has to keep the bound. -/
theorem of_active
    {limit : UInt32}
    {slot : CovSlot}
    {history : List CovTransmission}
    (active : slot.subscription.state = .active)
    (bounded : (exchange history).length ≤ 1 + limit.toNat) :
    RetryLedger limit slot history :=
  ⟨fun awaiting => by simp [active] at awaiting, fun _ => bounded⟩

/-- The outcome of a send does not touch the retry counter. -/
theorem confirmedRetryCount_sentSlot
    (server : BacnetServer)
    (sendSucceeds : Bool)
    (now : UInt32)
    (slot : CovSlot)
    (values : List BacnetCovPropertyValue) :
    (server.sentSlot sendSucceeds now slot values).confirmedRetryCount =
      slot.confirmedRetryCount := by
  unfold BacnetServer.sentSlot
  split <;> rfl

/-- No step of a server with a fitting limit breaks the ledger. -/
theorem step
    {server : BacnetServer}
    {event : ServerEvent}
    {index : CovIndex}
    {slot slot' : CovSlot}
    {history history' : List CovTransmission}
    (fits : LimitFits server.device.numberOfApduRetries)
    (ledger :
      RetryLedger server.device.numberOfApduRetries slot history)
    (change :
      RecordStep server event index slot history slot' history') :
    RetryLedger server.device.numberOfApduRetries slot' history' := by
  cases change with
  | kept =>
      exact ledger
  | dropped cause =>
      exact of_inactive rfl _ history
  | activated input request isPoll parsed accepted subscribes target =>
      exact of_active rfl (by simp [exchange])
  | completed input isPoll awaiting samePeer answers =>
      exact of_active rfl (ledger.bounded (by simp [awaiting]))
  | passed input after isPoll idle visited =>
      rcases visitSlot_next_cases visited
        with rfl | ⟨_, _, rfl⟩ | ⟨awaiting, _, _, _, _, rfl⟩
      · exact ledger
      · exact of_inactive rfl _ history
      · exact of_active rfl (ledger.bounded (by simp [awaiting]))
  | sent input after transmission isPoll idle visited built place
      invokeId delivered =>
      obtain ⟨_, _, resent | fresh⟩ := visitSlot_send_cases visited
      · obtain ⟨retransmits, awaiting, _, retriesLeft, _, rfl⟩ := resent
        have counted := ledger.counted awaiting
        have below :
            slot.confirmedRetryCount.toNat <
              server.device.numberOfApduRetries.toNat := by
          rw [← Bool.not_eq_true,
            retriesExhausted_eq_true_iff] at retriesLeft
          omega
        have incremented := fits.toNat_succ below
        refine ⟨fun _ => ?_, fun _ => ?_⟩
        · rw [exchange_cons_retransmission retransmits,
            List.length_cons, confirmedRetryCount_sentSlot]
          simp only [incremented]
          omega
        · rw [exchange_cons_retransmission retransmits,
            List.length_cons]
          omega
      · obtain ⟨starts, active, _, _, rfl⟩ := fresh
        refine ⟨fun _ => ?_, fun _ => ?_⟩
        · rw [exchange_cons_original starts,
            confirmedRetryCount_sentSlot]
          rfl
        · rw [exchange_cons_original starts]
          exact Nat.le_add_right 1 _

end RetryLedger

/-- A step keeps the device record or drops every subscription. -/
theorem BacnetServer.device_step
    (server : BacnetServer)
    (event : ServerEvent)
    (index : CovIndex) :
    (server.step event).device = server.device ∨
      ((server.step event).covSlots index).subscription.state =
        .inactive := by
  cases event with
  | poll input =>
      left
      rw [BacnetServer.step, poll_configuration]
  | start device localPort bound =>
      simp only [BacnetServer.step, start]
      split
      · exact .inr rfl
      · exact .inl rfl
  | stop =>
      exact .inr rfl
  | setTransport =>
      left
      simp only [BacnetServer.step, setTransport]
      split <;> rfl
  | setLocalWritePriority priority =>
      left
      simp only [BacnetServer.step, setLocalWritePriority]
      split <;> rfl
  | setObjects objects =>
      exact .inl rfl
  | setClock hasClock =>
      exact .inl rfl

/-- The retry ledger of every slot in every reachable state. -/
theorem TrackedServer.Reachable.retryLedger
    {tracked : TrackedServer}
    (reachable : tracked.Reachable)
    (fits : LimitFits tracked.server.device.numberOfApduRetries)
    (index : CovIndex) :
    RetryLedger tracked.server.device.numberOfApduRetries
      (tracked.slot index) (tracked.history index) := by
  obtain ⟨events, rfl⟩ := reachable
  revert fits
  refine TrackedServer.after_invariant
    (fun tracked =>
      LimitFits tracked.server.device.numberOfApduRetries →
        RetryLedger tracked.server.device.numberOfApduRetries
          (tracked.slot index) (tracked.history index))
    ?_ ?_ events
  · intro _
    exact .of_inactive rfl _ []
  · intro tracked event ledger fits
    rcases tracked.server.device_step event index with same | inactive
    · rw [step_server, same] at fits ⊢
      exact (ledger fits).step fits (tracked.recordStep event index)
    · rw [← step_server] at inactive
      exact .of_inactive inactive _ _

/-- An exhausted exchange is only looked at by its timeout. -/
theorem visitSlot_exhausted
    {objects : ServerObjects}
    {device : BacnetServerDevice}
    {hasClock : Bool}
    {now : UInt32}
    {slot : CovSlot}
    (awaiting : slot.subscription.state = .awaitingConfirmedAck)
    (exhausted : retriesExhausted device slot = true) :
    visitSlot objects device hasClock now slot =
      .next
        (if lifetimeOver hasClock now slot.subscription then
          slot.expire
        else if backoffPending now slot then
          slot
        else if acknowledgementOverdue device hasClock now
            slot.subscription then
          slot.giveUp
        else
          slot) := by
  simp only [visitSlot, awaiting, exhausted, reduceCtorEq, ↓reduceIte]
  split
  · rfl
  · split
    · rfl
    · split <;> rfl

/--
An unanswered exchange of a device whose limit fits never has more than the
permitted transmissions.  After the last of them, an idle poll reactivates the
subscription exactly when it reaches the slot, the subscription has not
expired, no failed attempt has to be waited out and the timeout has passed.
-/
theorem confirmedRetries_bounded
    {tracked : TrackedServer}
    (reachable : tracked.Reachable)
    (fits : LimitFits tracked.server.device.numberOfApduRetries)
    {index : CovIndex}
    (awaiting :
      (tracked.slot index).subscription.state = .awaitingConfirmedAck) :
    (exchange (tracked.history index)).length ≤
        1 + tracked.server.device.numberOfApduRetries.toNat ∧
      ∀ input : PollInput,
        tracked.server.Ready →
        input.packet = [] →
        (exchange (tracked.history index)).length =
          1 + tracked.server.device.numberOfApduRetries.toNat →
        let now := tracked.server.nowMs input.clockMs
        let slot := tracked.slot index
        (((tracked.step (.poll input)).slot index).subscription.state =
            .active ↔
          tracked.server.shadowed now index = false ∧
            lifetimeOver tracked.server.hasClock now
              slot.subscription = false ∧
            backoffPending now slot = false ∧
            acknowledgementOverdue tracked.server.device
              tracked.server.hasClock now slot.subscription = true) := by
  have ledger := reachable.retryLedger fits index
  refine ⟨ledger.bounded (by simp [awaiting]), ?_⟩
  intro input ready idle allUsed now slot
  have exhausted :
      retriesExhausted tracked.server.device (tracked.slot index) =
        true := by
    rw [retriesExhausted_eq_true_iff]
    have counted := ledger.counted awaiting
    omega
  rw [tracked.slot_step_idle ready idle, BacnetServer.visitedSlot,
    BacnetServer.visit,
    visitSlot_exhausted awaiting exhausted]
  have waits : ¬slot.subscription.state = .active := by simp [slot, awaiting]
  have expires : ¬slot.expire.subscription.state = .active := by
    simp [CovSlot.expire, CovSlot.drop]
  have reactivates : slot.giveUp.subscription.state = .active := rfl
  cases tracked.server.shadowed now index <;>
    cases lifetimeOver tracked.server.hasClock now slot.subscription <;>
    cases backoffPending now slot <;>
    cases acknowledgementOverdue tracked.server.device
      tracked.server.hasClock now slot.subscription <;>
    simp [slot] at * <;>
    assumption

/-- Three retries at the default timeout, all unanswered. -/
def exhaustedRun : List ServerEvent :=
  unansweredRun .presentValue ++
    [.poll { clockMs := 3000 }, .poll { clockMs := 6000 },
      .poll { clockMs := 9000 }]

/-- The exchange of that run ends at the next timeout. -/
theorem exhaustedRun_reactivated :
    (exchange ((TrackedServer.after exhaustedRun).history 0)).length ≤ 4 ∧
      (((TrackedServer.after exhaustedRun).step
        (.poll { clockMs := 12000 })).slot 0).subscription.state =
          .active := by
  obtain ⟨bounded, reactivated⟩ :=
    @confirmedRetries_bounded (TrackedServer.after exhaustedRun)
      (TrackedServer.reachable_after exhaustedRun) (by decide) 0 rfl
  refine ⟨bounded, ?_⟩
  exact (reactivated { clockMs := 12000 } ⟨rfl, rfl⟩ rfl rfl).mpr
    ⟨rfl, rfl, rfl, rfl⟩

/-- The configuration allows 256 retries, one more than the counter holds. -/
def endlessDevice : BacnetServerDevice :=
  { numberOfApduRetries := 256, apduTimeout := 0 }

/-- A confirmed subscription, and idle polls without any reply. -/
def endlessRun (idlePolls : Nat) : List ServerEvent :=
  [.setTransport, .setClock true, .setObjects (oneAnalogValue .one),
    .start endlessDevice 47808 true,
    .poll { packet := subscribeToProperty .presentValue true }] ++
    List.replicate idlePolls (.poll {})

/-- The slot of that run, up to the invoke id and the counter. -/
def endlessSlot (invokeId retries : UInt8) : CovSlot :=
  { subscription := {
      state := .awaitingConfirmedAck
      processId := 1
      object := ⟨BacnetObjectType.analogValue, 1⟩
      isPropertySubscription := true
      confirmed := true
      lifetimeSeconds := 60
      expiresAtMs := 60000
      pendingInvokeId := invokeId }
    snapshots := fun index =>
      if index = 0 then snapshotOf (realValue .one) else {}
    confirmedRetryCount := retries }

/-- What the first idle poll of the run leaves behind. -/
structure Endless
    (tracked : TrackedServer)
    (transmissions : Nat) : Prop where
  ready : tracked.server.Ready
  clock : tracked.server.hasClock = true
  device : tracked.server.device = endlessDevice
  slot : ∃ invokeId retries, tracked.slot 0 = endlessSlot invokeId retries
  exchange : (exchange (tracked.history 0)).length = transmissions

/-- The present value can be notified with every invoke id. -/
theorem presentValue_packet_built
    (invokeId : UInt8) :
    (buildCovNotification kMaxDatagramSize 1
      ⟨BacnetObjectType.device, 0⟩ ⟨BacnetObjectType.analogValue, 1⟩ 60
      (presentValueReport .one) true invokeId).isSome = true := by
  have capacity : kMaxDatagramSize = 1476 := rfl
  have value :
      encodeApplicationValue 1446 (realValue .one) =
        some [0x44, 0x3F, 0x80, 0x00, 0x00] := by
    decide
  have process : contextUnsigned 0 1 = [0x09, 1] := by decide
  have remaining : contextUnsigned 3 60 = [0x39, 60] := by decide
  have property : contextUnsigned 0 85 = [0x09, 85] := by decide
  rw [capacity]
  simp [buildCovNotification, writeCovNotification, PacketWriter.build_eq,
    PacketWriter.exec_bind, putHeaders, putCovPropertyValues,
    putCovPropertyValue, presentValueReport, contextObjectIdentifier,
    bigEndianOctets, sizeSub, kObjectInstanceMask, value, process,
    remaining, property]

/-- The slot is due again at once, whatever its counter says. -/
private theorem endless_visit
    (objects : ServerObjects)
    (invokeId retries : UInt8) :
    visitSlot objects endlessDevice true 0
        (endlessSlot invokeId retries) =
      .send (endlessSlot invokeId (retries + 1))
        (presentValueReport .one) true := by
  have retriesLeft :
      retriesExhausted endlessDevice (endlessSlot invokeId retries) =
        false :=
    retriesExhausted_eq_false (by decide) _
  have overdue :
      acknowledgementOverdue endlessDevice true 0
        (endlessSlot invokeId retries).subscription = true := rfl
  have alive :
      lifetimeOver true 0 (endlessSlot invokeId retries).subscription =
        false := rfl
  have noBackoff :
      backoffPending 0 (endlessSlot invokeId retries) = false := rfl
  have awaiting :
      (endlessSlot invokeId retries).subscription.state =
        .awaitingConfirmedAck := rfl
  have values :
      retryValues (endlessSlot invokeId retries) =
        presentValueReport .one := rfl
  simp only [visitSlot, awaiting, alive, noBackoff, overdue, retriesLeft,
    values, reduceCtorEq, ↓reduceIte, Bool.false_eq_true]
  rfl

/-- Every idle poll adds a transmission to the exchange. -/
private theorem endless_step
    {tracked : TrackedServer}
    {transmissions : Nat}
    (endless : Endless tracked transmissions) :
    Endless (tracked.step (.poll {})) (transmissions + 1) := by
  obtain ⟨invokeId, retries, slot⟩ := endless.slot
  have now : tracked.server.nowMs ({} : PollInput).clockMs = 0 := by
    simp [BacnetServer.nowMs]
  have visited :
      tracked.server.visit 0 0 =
        .send (endlessSlot invokeId (retries + 1))
          (presentValueReport .one) true := by
    rw [BacnetServer.visit, endless.clock, endless.device]
    exact (congrArg _ slot).trans
      (endless_visit tracked.server.objects invokeId retries)
  have reached : tracked.server.shadowed 0 0 = false :=
    tracked.server.shadowed_eq_false_iff.mpr fun earlier smaller =>
      (Fin.not_lt_zero earlier smaller).elim
  have remaining :
      tracked.server.timeRemaining
        (endlessSlot invokeId (retries + 1)).subscription 0 = 60 := by
    simp [BacnetServer.timeRemaining, endless.clock, endlessSlot]
  have delivers :
      tracked.server.delivers true 0
        (endlessSlot invokeId (retries + 1)).subscription
        (presentValueReport .one) = true := by
    rw [BacnetServer.delivers, BacnetServer.covNotificationPacket,
      remaining, BacnetServer.deviceObject, endless.device, Bool.and_true]
    exact presentValue_packet_built tracked.server.nextCovInvokeId
  have configuration := tracked.server.poll_configuration {}
  refine ⟨⟨?_, ?_⟩, ?_, ?_,
    ⟨tracked.server.nextCovInvokeId, retries + 1, ?_⟩, ?_⟩
  · rw [TrackedServer.step_server, BacnetServer.step, configuration]
    exact endless.ready.running
  · rw [TrackedServer.step_server, BacnetServer.step, configuration]
    exact endless.ready.transport
  · rw [TrackedServer.step_server, BacnetServer.step, configuration]
    exact endless.clock
  · rw [TrackedServer.step_server, BacnetServer.step, configuration]
    exact endless.device
  · rw [tracked.slot_step_idle endless.ready rfl, now, reached]
    simp only [Bool.false_eq_true, ↓reduceIte, BacnetServer.visitedSlot,
      now, visited, BacnetServer.sentSlot, delivers]
    unfold completedSend storeCovValues
    congr 1
    funext position
    refine Fin.cases rfl (fun second => ?_) position
    rw [Subsingleton.elim second 0]
    rfl
  · rw [tracked.history_step_idle endless.ready rfl, now, reached]
    simp only [Bool.false_eq_true, ↓reduceIte,
      BacnetServer.visitTransmission, now, visited, Option.toList_some,
      List.singleton_append]
    rw [exchange_cons_retransmission rfl, List.length_cons,
      endless.exchange]

/-- The exchange of this run has as many transmissions as idle polls. -/
private theorem endless_after
    (furtherPolls : Nat) :
    Endless (TrackedServer.after (endlessRun (1 + furtherPolls)))
      (1 + furtherPolls) := by
  induction furtherPolls with
  | zero =>
      have snapshots :
          ((TrackedServer.after (endlessRun 1)).slot 0).snapshots =
            (endlessSlot 1 0).snapshots := by
        funext position
        match position with
        | 0 => rfl
        | 1 => rfl
      have subscription :
          ((TrackedServer.after (endlessRun 1)).slot 0).subscription =
            (endlessSlot 1 0).subscription := by
        decide
      refine ⟨⟨rfl, rfl⟩, rfl, rfl, ⟨1, 0, ?_⟩, rfl⟩
      exact CovSlot.ext subscription snapshots rfl rfl rfl
  | succ furtherPolls inductionHypothesis =>
      have last :
          endlessRun (1 + (furtherPolls + 1)) =
            endlessRun (1 + furtherPolls) ++ [.poll {}] := by
        rw [← Nat.add_assoc]
        simp [endlessRun, List.replicate_succ']
      rw [last, TrackedServer.after_concat]
      exact endless_step inductionHypothesis

/--
More than the permitted transmissions are made while the acknowledgement is
still awaited.
-/
theorem endlessRun_exceeds_limit :
    ((TrackedServer.after (endlessRun 258)).slot 0).subscription.state =
        .awaitingConfirmedAck ∧
      (TrackedServer.after (endlessRun
        258)).server.device.numberOfApduRetries = 256 ∧
      (exchange
        ((TrackedServer.after (endlessRun 258)).history 0)).length =
        258 := by
  have endless :
      Endless (TrackedServer.after (endlessRun 258)) 258 :=
    endless_after 257
  obtain ⟨invokeId, retries, slot⟩ := endless.slot
  refine ⟨?_, ?_, endless.exchange⟩
  · rw [slot]
    rfl
  · rw [endless.device]
    rfl

end BacnetStack
