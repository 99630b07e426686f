import BacnetStack.ServerCovHistory

namespace BacnetStack

/-!
# Slots against their histories

What the table of the source remembers about a subscription, related to the
notifications that were really built for it: the snapshots belong to the last
one that was delivered, and while an acknowledgement is awaited also to the
one that started the exchange.
-/

/-- The last notification that reached the transport. -/
def lastSent (history : List CovTransmission) : Option CovTransmission :=
  history.find? fun transmission => transmission.delivered

/-- The notification that started the current exchange. -/
def lastOriginal
    (history : List CovTransmission) : Option CovTransmission :=
  history.find? fun transmission => !transmission.isRetransmission

/-- Reference part of a reported value. -/
def BacnetCovPropertyValue.reference
    (reported : BacnetCovPropertyValue) : BacnetPropertyId × UInt32 :=
  (reported.property, reported.arrayIndex)

/-- The snapshots of a slot are those of the given values. -/
structure Stores
    (slot : CovSlot)
    (values : List BacnetCovPropertyValue) : Prop where
  references :
    values.map BacnetCovPropertyValue.reference =
      slot.subscription.reported
  snapshots :
    ∀ (index : Fin kCovObjectPropertyCount)
      (reported : BacnetCovPropertyValue),
      values[index.val]? = some reported →
        slot.snapshots index = snapshotOf reported.value

/-- What a slot keeps about its notifications. -/
structure CovLedger
    (slot : CovSlot)
    (history : List CovTransmission) : Prop where
  stored :
    slot.subscription.state ≠ .inactive →
      ∀ sent, lastSent history = some sent → Stores slot sent.values
  original :
    slot.subscription.state = .awaitingConfirmedAck →
      ∃ original,
        lastOriginal history = some original ∧
        original.delivered = true ∧
        Stores slot original.values
  pending :
    slot.subscription.state = .awaitingConfirmedAck →
      ∃ sent,
        lastSent history = some sent ∧
        slot.subscription.pendingInvokeId = sent.invokeId
  confirmed :
    slot.subscription.state = .awaitingConfirmedAck →
      slot.subscription.confirmed = true

/-- A subscription reports at most two values. -/
theorem length_reported_le
    (subscription : BacnetServerCovSubscription) :
    subscription.reported.length ≤ kCovObjectPropertyCount := by
  unfold BacnetServerCovSubscription.reported
  split <;> simp [kCovObjectPropertyCount]

/-- The collected values carry the reported references, in order. -/
theorem references_of_collectCovValues
    {objects : ServerObjects}
    {subscription : BacnetServerCovSubscription}
    {values : List BacnetCovPropertyValue}
    (collected : collectCovValues objects subscription = some values) :
    values.map BacnetCovPropertyValue.reference =
      subscription.reported := by
  unfold collectCovValues at collected
  generalize subscription.reported = references at collected
  induction references generalizing values with
  | nil =>
      simp only [List.mapM_nil, Option.pure_def,
        Option.some.injEq] at collected
      subst collected
      rfl
  | cons reference rest inductionHypothesis =>
      simp only [List.mapM_cons, Option.bind_eq_bind,
        Option.bind_eq_some_iff, Option.pure_def,
        Option.some.injEq] at collected
      obtain ⟨head, ⟨value, _, headShape⟩, tail, tailCollected, shape⟩ :=
        collected
      subst shape
      subst headShape
      simp [BacnetCovPropertyValue.reference,
        inductionHypothesis tailCollected]

/-- The references of a retransmission are the reported ones. -/
theorem references_retryValues
    (slot : CovSlot) :
    (retryValues slot).map BacnetCovPropertyValue.reference =
      slot.subscription.reported := by
  unfold retryValues
  simp only [List.map_map]
  exact List.zipIdx_map_fst 0 slot.subscription.reported

/-- What a retransmission carries at an index is the snapshot there. -/
theorem getElem?_retryValues
    (slot : CovSlot)
    {index : Fin kCovObjectPropertyCount}
    {reported : BacnetCovPropertyValue}
    (present : (retryValues slot)[index.val]? = some reported) :
    reported.value = snapshotValue (slot.snapshots index) := by
  simp only [retryValues, List.getElem?_map, List.getElem?_zipIdx,
    Option.map_map, Option.map_eq_some_iff, Function.comp_apply] at present
  obtain ⟨reference, _, shape⟩ := present
  subst shape
  match index with
  | ⟨0, _⟩ => rfl
  | ⟨1, _⟩ => rfl

/-- Storing a value rebuilt from a valid snapshot gives the snapshot back. -/
theorem snapshotOf_snapshotValue
    {snapshot : CovSnapshot}
    (valid : snapshot.valid = true) :
    snapshotOf (snapshotValue snapshot) = snapshot := by
  cases snapshot
  simp_all [snapshotOf, snapshotValue]

/-- What is stored depends on the reported references and snapshots only. -/
theorem Stores.congr
    {slot other : CovSlot}
    {values : List BacnetCovPropertyValue}
    (stores : Stores slot values)
    (references :
      other.subscription.reported = slot.subscription.reported)
    (snapshots : other.snapshots = slot.snapshots) :
    Stores other values :=
  ⟨stores.references.trans references.symm,
    fun index reported present => by
      rw [snapshots]
      exact stores.snapshots index reported present⟩

/-- A completed send stores the values it carried. -/
theorem stores_completedSend
    {slot : CovSlot}
    {values : List BacnetCovPropertyValue}
    (references :
      values.map BacnetCovPropertyValue.reference =
        slot.subscription.reported)
    (now : UInt32)
    (invokeId : UInt8) :
    Stores (completedSend now invokeId values slot) values := by
  refine ⟨references, ?_⟩
  intro index reported present
  simp [completedSend, storeCovValues, present]

/-- A retransmission leaves the snapshots of the original in place. -/
theorem stores_completedSend_retryValues
    {slot : CovSlot}
    {values : List BacnetCovPropertyValue}
    (stores : Stores slot values)
    (now : UInt32)
    (invokeId : UInt8) :
    Stores
      (completedSend now invokeId (retryValues slot) slot) values := by
  refine ⟨stores.references, ?_⟩
  intro index reported present
  have snapshot := stores.snapshots index reported present
  have sameLength :
      (retryValues slot).length = values.length := by
    have lengths := congrArg List.length
      ((references_retryValues slot).trans stores.references.symm)
    simpa using lengths
  obtain ⟨inRange, _⟩ := List.getElem?_eq_some_iff.mp present
  have retried :
      (retryValues slot)[index.val]? =
        some (retryValues slot)[index.val] :=
    List.getElem?_eq_getElem (by omega)
  have restored := getElem?_retryValues slot retried
  have valid : (slot.snapshots index).valid = true := by
    rw [snapshot]
    rfl
  simp only [completedSend, storeCovValues, retried, restored,
    snapshotOf_snapshotValue valid]
  exact snapshot

@[simp] theorem lastSent_cons_failed
    {transmission : CovTransmission}
    (failed : transmission.delivered = false)
    (history : List CovTransmission) :
    lastSent (transmission :: history) = lastSent history := by
  simp [lastSent, failed]

@[simp] theorem lastSent_cons_delivered
    {transmission : CovTransmission}
    (delivered : transmission.delivered = true)
    (history : List CovTransmission) :
    lastSent (transmission :: history) = some transmission := by
  simp [lastSent, delivered]

@[simp] theorem lastOriginal_cons_retransmission
    {transmission : CovTransmission}
    (retransmits : transmission.isRetransmission = true)
    (history : List CovTransmission) :
    lastOriginal (transmission :: history) = lastOriginal history := by
  simp [lastOriginal, retransmits]

@[simp] theorem lastOriginal_cons_original
    {transmission : CovTransmission}
    (starts : transmission.isRetransmission = false)
    (history : List CovTransmission) :
    lastOriginal (transmission :: history) = some transmission := by
  simp [lastOriginal, starts]

namespace CovLedger

/-- A slot without a subscription keeps any ledger. -/
theorem of_inactive
    {slot : CovSlot}
    (inactive : slot.subscription.state = .inactive)
    (history : List CovTransmission) :
    CovLedger slot history :=
  ⟨fun inUse => (inUse inactive).elim,
    fun awaiting => by simp [inactive] at awaiting,
    fun awaiting => by simp [inactive] at awaiting,
    fun awaiting => by simp [inactive] at awaiting⟩

/-- An active slot only has to keep what was sent last. -/
theorem of_active
    {slot : CovSlot}
    {history : List CovTransmission}
    (active : slot.subscription.state = .active)
    (stored :
      ∀ sent, lastSent history = some sent → Stores slot sent.values) :
    CovLedger slot history :=
  ⟨fun _ => stored,
    fun awaiting => by simp [active] at awaiting,
    fun awaiting => by simp [active] at awaiting,
    fun awaiting => by simp [active] at awaiting⟩

/-- Changes outside the ledger's fields keep it. -/
theorem congr
    {slot other : CovSlot}
    {history : List CovTransmission}
    (ledger : CovLedger slot history)
    (subscription : other.subscription = slot.subscription)
    (snapshots : other.snapshots = slot.snapshots) :
    CovLedger other history := by
  have references :
      other.subscription.reported = slot.subscription.reported := by
    rw [subscription]
  refine ⟨?_, ?_, ?_, ?_⟩
  · intro inUse sent found
    rw [subscription] at inUse
    exact (ledger.stored inUse sent found).congr references snapshots
  · intro awaiting
    rw [subscription] at awaiting
    obtain ⟨original, found, delivered, stores⟩ :=
      ledger.original awaiting
    exact ⟨original, found, delivered,
      stores.congr references snapshots⟩
  · intro awaiting
    rw [subscription] at awaiting ⊢
    exact ledger.pending awaiting
  · intro awaiting
    rw [subscription] at awaiting ⊢
    exact ledger.confirmed awaiting

/-- A failed send is not recorded in the slot. -/
theorem failed
    {slot : CovSlot}
    {history : List CovTransmission}
    {transmission : CovTransmission}
    (ledger : CovLedger slot history)
    (undelivered : transmission.delivered = false)
    (continues :
      slot.subscription.state = .awaitingConfirmedAck →
        transmission.isRetransmission = true)
    (device : BacnetServerDevice)
    (now : UInt32) :
    CovLedger (failedSend device now slot)
      (transmission :: history) := by
  have base : CovLedger (failedSend device now slot) history :=
    ledger.congr rfl rfl
  refine ⟨?_, ?_, ?_, base.confirmed⟩
  · intro inUse sent found
    rw [lastSent_cons_failed undelivered] at found
    exact base.stored inUse sent found
  · intro awaiting
    rw [lastOriginal_cons_retransmission (continues awaiting)]
    exact base.original awaiting
  · intro awaiting
    rw [lastSent_cons_failed undelivered]
    exact base.pending awaiting

/-- The state after a completed send. -/
theorem state_completedSend
    (now : UInt32)
    (invokeId : UInt8)
    (values : List BacnetCovPropertyValue)
    (slot : CovSlot) :
    (completedSend now invokeId values slot).subscription.state =
      if slot.subscription.confirmed then
        .awaitingConfirmedAck
      else
        .active :=
  rfl

/-- A completed send is the last one delivered. -/
theorem delivered
    {slot : CovSlot}
    {history : List CovTransmission}
    (transmission : CovTransmission)
    {now : UInt32}
    (reached : transmission.delivered = true)
    (references :
      transmission.values.map BacnetCovPropertyValue.reference =
        slot.subscription.reported)
    (original :
      ∃ original,
        lastOriginal (transmission :: history) = some original ∧
        original.delivered = true ∧
        Stores
          (completedSend now transmission.invokeId
            transmission.values slot) original.values) :
    CovLedger
      (completedSend now transmission.invokeId transmission.values slot)
      (transmission :: history) := by
  refine ⟨?_, fun _ => original, ?_, ?_⟩
  · intro _ sent found
    rw [lastSent_cons_delivered reached] at found
    obtain rfl := Option.some.inj found
    exact stores_completedSend references now _
  · intro _
    exact ⟨transmission, lastSent_cons_delivered reached history, rfl⟩
  · intro awaiting
    rw [state_completedSend] at awaiting
    split at awaiting
    · assumption
    · cases awaiting

/-- No step breaks the ledger of a slot. -/
theorem step
    {server : BacnetServer}
    {event : ServerEvent}
    {index : CovIndex}
    {slot slot' : CovSlot}
    {history history' : List CovTransmission}
    (ledger : CovLedger slot history)
    (change :
      RecordStep server event index slot history slot' history') :
    CovLedger slot' history' := by
  cases change with
  | kept =>
      exact ledger
  | dropped cause =>
      exact of_inactive rfl history
  | activated input request isPoll parsed accepted subscribes target =>
      exact of_active rfl fun sent found => by simp [lastSent] at found
  | completed input isPoll awaiting samePeer answers =>
      refine of_active rfl fun sent found => ?_
      have inUse : slot.subscription.state ≠ .inactive := by
        simp [awaiting]
      exact (ledger.stored inUse sent found).congr rfl rfl
  | passed input after isPoll idle visited =>
      rcases visitSlot_next_cases visited
        with rfl | ⟨_, _, rfl⟩ | ⟨awaiting, _, _, _, _, rfl⟩
      · exact ledger
      · exact of_inactive rfl history
      · refine of_active rfl fun sent found => ?_
        have inUse : slot.subscription.state ≠ .inactive := by
          simp [awaiting]
        exact (ledger.stored inUse sent found).congr rfl rfl
  | sent input after transmission isPoll idle visited built place
      invokeId reaches =>
      obtain ⟨_, _, cases⟩ := visitSlot_send_cases visited
      have counted : CovLedger after history := by
        rcases cases with ⟨_, _, _, _, _, rfl⟩ | ⟨_, _, _, _, rfl⟩
        all_goals exact ledger.congr rfl rfl
      have references :
          transmission.values.map BacnetCovPropertyValue.reference =
            after.subscription.reported := by
        rcases cases with ⟨_, _, _, _, values, rfl⟩ |
          ⟨_, _, collected, _, rfl⟩
        · rw [values]
          exact references_retryValues slot
        · exact references_of_collectCovValues collected
      rw [BacnetServer.sentSlot, ← invokeId, ← reaches]
      split
      · rename_i isDelivered
        refine delivered transmission isDelivered references ?_
        rcases cases with ⟨retransmits, awaiting, _, _, values, rfl⟩ |
          ⟨starts, _, _, _, rfl⟩
        · obtain ⟨original, found, reached, stores⟩ :=
            counted.original awaiting
          refine ⟨original, ?_, reached, ?_⟩
          · rw [lastOriginal_cons_retransmission retransmits]
            exact found
          · rw [values]
            exact stores_completedSend_retryValues stores _ _
        · exact ⟨_, lastOriginal_cons_original starts history,
            isDelivered, stores_completedSend references _ _⟩
      · rename_i undelivered
        refine counted.failed (by simpa using undelivered) ?_ _ _
        intro awaiting
        rcases cases with ⟨retransmits, _⟩ | ⟨_, active, _, _, rfl⟩
        · exact retransmits
        · simp [active] at awaiting

end CovLedger

/-- The ledger of every slot is right in every reachable state. -/
theorem TrackedServer.Reachable.covLedger
    {tracked : TrackedServer}
    (reachable : tracked.Reachable)
    (index : CovIndex) :
    CovLedger (tracked.slot index) (tracked.history index) := by
  obtain ⟨events, rfl⟩ := reachable
  refine TrackedServer.after_invariant
    (fun tracked =>
      CovLedger (tracked.slot index) (tracked.history index))
    ?_ ?_ events
  · exact .of_inactive rfl []
  · intro tracked event ledger
    exact ledger.step (tracked.recordStep event index)

end BacnetStack
