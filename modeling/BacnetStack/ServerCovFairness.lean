import BacnetStack.ServerCovAcknowledgement
import BacnetStack.ServerCovTable

namespace BacnetStack

open EventRun

/-!
# Which subscription is served

An idle poll sends at most one notification, and the scan always starts at
slot 0.  A slot that has something to send whenever it is looked at therefore
keeps every later slot waiting.
-/

namespace BacnetServer

variable (server : BacnetServer)

/--
The subscription is due: active, readable, changed since its last
notification, and no failed attempt is pending.
-/
structure Due (index : CovIndex) : Prop where
  active : (server.covSlots index).subscription.state = .active
  noRetry : (server.covSlots index).retryAtMs = 0
  changed :
    ∃ values,
      collectCovValues server.objects
          (server.covSlots index).subscription = some values ∧
        covValuesChanged (server.covSlots index) values = true

/-- The poll delivers a notification for the subscription. -/
def Notifies
    (input : PollInput)
    (index : CovIndex) : Prop :=
  ∃ transmission,
    (server.poll input).transmission = some transmission ∧
      transmission.index = index ∧
      transmission.delivered = true

/-- The lifetime of the subscription is over when the poll looks at it. -/
def LifetimeOverAt
    (input : PollInput)
    (index : CovIndex) : Prop :=
  lifetimeOver server.hasClock (server.nowMs input.clockMs)
    (server.covSlots index).subscription = true

/-- The slot is the first with something to send, and it can be delivered. -/
structure FirstToSend
    (input : PollInput)
    (index : CovIndex) : Prop where
  ready : server.Ready
  idle : input.packet = []
  first : server.shadowed (server.nowMs input.clockMs) index = false
  sends :
    ∃ slot values isRetransmission,
      server.visit (server.nowMs input.clockMs) index =
          .send slot values isRetransmission ∧
        server.delivers input.sendSucceeds
          (server.nowMs input.clockMs) slot.subscription values = true

variable {server}

/-- A due subscription has something to send when it is looked at. -/
theorem Due.isSend
    {index : CovIndex}
    (due : server.Due index)
    {now : UInt32}
    (alive :
      lifetimeOver server.hasClock now
        (server.covSlots index).subscription = false) :
    (server.visit now index).isSend = true := by
  obtain ⟨values, collected, changed⟩ := due.changed
  have noBackoff :
      backoffPending now (server.covSlots index) = false := by
    simp [backoffPending, due.noRetry]
  rw [visit, visitSlot_active due.active alive noBackoff collected,
    changed]
  rfl

/-- A slot is notified when it is the first with something to send. -/
theorem notifies_iff
    {input : PollInput}
    {index : CovIndex} :
    server.Notifies input index ↔ server.FirstToSend input index := by
  constructor
  · rintro ⟨transmission, built, rfl, delivered⟩
    obtain ⟨ready, idle, reached, slot, visited, _, delivers⟩ :=
      server.poll_transmission built
    exact ⟨ready, idle, reached, slot, transmission.values,
      transmission.isRetransmission, visited, delivers ▸ delivered⟩
  · rintro ⟨ready, idle, reached, slot, values, isRetransmission, visited,
      delivers⟩
    rw [Notifies, server.poll_send ready idle reached visited]
    exact ⟨_, rfl, rfl, by simpa [sendCovNotification] using delivers⟩

/-- What a run admits while a subscription stays due. -/
private theorem due_of_along
    {waiting : CovIndex}
    {admissible : BacnetServer → ServerEvent → Prop}
    {between : List ServerEvent}
    (waits :
      Along step
        (fun server event => server.Due waiting ∧ admissible server event)
        server between)
    (stillDue : (run step server between).Due waiting) :
    server.Due waiting := by
  cases between with
  | nil =>
      exact stillDue
  | cons event rest =>
      exact waits.1.1

/--
Between two notifications of one subscription another one is due all the time
and gets none.
-/
structure Overtaken
    (server : BacnetServer)
    (first second : PollInput)
    (between : List ServerEvent)
    (index waiting : CovIndex) : Prop where
  other : waiting ≠ index
  notifiedFirst : server.Notifies first index
  waits :
    Along step
      (fun server event =>
        server.Due waiting ∧ server.Silent waiting event)
      (server.step (.poll first)) between
  stillDue :
    (run step (server.step (.poll first)) between).Due waiting
  notifiedSecond :
    (run step (server.step (.poll first)) between).Notifies second index

/-- A due slot before the first with something to send has expired. -/
theorem FirstToSend.lifetimeOver_of_lt
    {input : PollInput}
    {index waiting : CovIndex}
    (serves : server.FirstToSend input index)
    (due : server.Due waiting)
    (earlier : waiting < index) :
    server.LifetimeOverAt input waiting := by
  have quiet :=
    (shadowed_eq_false_iff _).mp serves.first waiting earlier
  by_contra alive
  rw [LifetimeOverAt, Bool.not_eq_true] at alive
  rw [due.isSend alive] at quiet
  cases quiet

variable (server)

/-- The slot has nothing to send, whenever it is looked at. -/
def Rests (index : CovIndex) : Prop :=
  ∀ now, (server.visit now index).isSend = false

/--
The event gives no slot something to send while a later one waits, neither
the slot that it serves nor one that rests; and it serves no slot after one
that expires with its change unsent.
-/
structure GivesWay (event : ServerEvent) : Prop where
  served :
    ∀ input index waiting,
      event = .poll input →
      server.FirstToSend input index →
      index < waiting →
      (server.step event).Due waiting →
        (server.step event).Rests index
  resting :
    ∀ index waiting,
      server.Rests index →
      index < waiting →
      server.Due waiting →
      (server.step event).Due waiting →
        (server.step event).Rests index
  expiring :
    ∀ input index waiting,
      event = .poll input →
      server.FirstToSend input index →
      waiting < index →
      server.Due waiting →
        ¬server.LifetimeOverAt input waiting

variable {server}

/-- A slot that has nothing to send is not served. -/
theorem Rests.not_firstToSend
    {index : CovIndex}
    (rests : server.Rests index)
    (input : PollInput) :
    ¬server.FirstToSend input index := by
  rintro ⟨_, _, _, slot, values, isRetransmission, visited, _⟩
  have quiet := rests (server.nowMs input.clockMs)
  rw [visited] at quiet
  cases quiet

/-- A slot at rest stays so for as long as a later one waits. -/
theorem Rests.kept
    {index waiting : CovIndex}
    {between : List ServerEvent}
    (rests : server.Rests index)
    (later : index < waiting)
    (givesWay : Along step GivesWay server between)
    (waits :
      Along step
        (fun server event =>
          server.Due waiting ∧ server.Silent waiting event)
        server between)
    (stillDue : (run step server between).Due waiting) :
    (run step server between).Rests index := by
  induction between generalizing server with
  | nil =>
      exact rests
  | cons event rest inductionHypothesis =>
      have next := due_of_along waits.2 stillDue
      exact inductionHypothesis
        (givesWay.1.resting index waiting rests later waits.1.1 next)
        givesWay.2 waits.2 stillDue

/-- No subscription is overtaken in a run whose events all give way. -/
theorem fair_of_givesWay
    {events : List ServerEvent}
    (givesWay : Along step GivesWay {} events)
    {before : List ServerEvent}
    {first : PollInput}
    {between : List ServerEvent}
    {second : PollInput}
    {after : List ServerEvent}
    (split :
      events = before ++ .poll first :: (between ++ .poll second :: after))
    (index waiting : CovIndex) :
    ¬Overtaken (run step {} before) first second between index waiting := by
  rintro ⟨other, notifiedFirst, waits, stillDue, notifiedSecond⟩
  subst split
  obtain ⟨givesWayFirst, givesWayLater⟩ := (along_append.mp givesWay).2
  obtain ⟨givesWayBetween, givesWaySecond, _⟩ :=
    along_append.mp givesWayLater
  have servedSecond := notifies_iff.mp notifiedSecond
  rcases lt_or_gt_of_ne other with earlier | later
  · exact givesWaySecond.expiring second index waiting rfl servedSecond
      earlier stillDue (servedSecond.lifetimeOver_of_lt stillDue earlier)
  · have rests :=
      givesWayFirst.served first index waiting rfl
        (notifies_iff.mp notifiedFirst) later (due_of_along waits stillDue)
    have restsStill := rests.kept later givesWayBetween waits stillDue
    exact restsStill.not_firstToSend second servedSecond

end BacnetServer

end BacnetStack
