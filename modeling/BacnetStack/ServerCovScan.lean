import BacnetStack.ServerPoll

namespace BacnetStack

/-!
# The scan, slot by slot

The scan visits the slots in order and stops at the first one with something
to send.  Since a visit depends on no other slot, the loop can be described
by what each visit would do in the state before the poll: slots in front of
the sending one are passed, later ones are not looked at.
-/

namespace SlotVisit

/-- The visit sends a notification. -/
def isSend : SlotVisit → Bool
  | .next _ => false
  | .send _ _ _ => true

/-- The slot after a visit that sends nothing. -/
def passed
    (slot : CovSlot) : SlotVisit → CovSlot
  | .next after => after
  | .send _ _ _ => slot

theorem isSend_eq_false_iff
    {visit : SlotVisit} :
    visit.isSend = false ↔ ∃ slot, visit = .next slot := by
  cases visit <;> simp [isSend]

end SlotVisit

namespace BacnetServer

variable (server : BacnetServer)

/-- The server after the given slots were passed. -/
def passSlots
    (now : UInt32)
    (indices : List CovIndex) : BacnetServer :=
  { server with
    covSlots := fun index =>
      if index ∈ indices then
        (server.visit now index).passed (server.covSlots index)
      else
        server.covSlots index }

/-- A delivered notification completes its slot. -/
theorem sentSlot_of_delivers
    {sendSucceeds : Bool}
    {now : UInt32}
    {slot : CovSlot}
    {values : List BacnetCovPropertyValue}
    (delivers :
      server.delivers sendSucceeds now slot.subscription values = true) :
    server.sentSlot sendSucceeds now slot values =
      completedSend now (server.drawInvokeId slot.subscription.confirmed)
        values slot :=
  if_pos delivers

/-- A notification that did not leave the server delays its slot. -/
theorem sentSlot_of_fails
    {sendSucceeds : Bool}
    {now : UInt32}
    {slot : CovSlot}
    {values : List BacnetCovPropertyValue}
    (fails :
      server.delivers sendSucceeds now slot.subscription values = false) :
    server.sentSlot sendSucceeds now slot values =
      failedSend server.device now slot :=
  if_neg (by simp [fails])

/-- What a send does with its slot does not depend on the other slots. -/
@[simp] theorem sentSlot_passSlots
    (now sendTime : UInt32)
    (indices : List CovIndex)
    (sendSucceeds : Bool)
    (slot : CovSlot)
    (values : List BacnetCovPropertyValue) :
    (server.passSlots now indices).sentSlot
        sendSucceeds sendTime slot values =
      server.sentSlot sendSucceeds sendTime slot values :=
  rfl

@[simp] theorem delivers_passSlots
    (now sendTime : UInt32)
    (indices : List CovIndex)
    (sendSucceeds : Bool)
    (subscription : BacnetServerCovSubscription)
    (values : List BacnetCovPropertyValue) :
    (server.passSlots now indices).delivers
        sendSucceeds sendTime subscription values =
      server.delivers sendSucceeds sendTime subscription values :=
  rfl

@[simp] theorem drawInvokeId_passSlots
    (now : UInt32)
    (indices : List CovIndex)
    (confirmed : Bool) :
    (server.passSlots now indices).drawInvokeId confirmed =
      server.drawInvokeId confirmed :=
  rfl

/-- A visit sees only its own slot. -/
theorem visit_setSlot_of_ne
    {now : UInt32}
    {index other : CovIndex}
    (different : other ≠ index)
    (slot : CovSlot) :
    (server.setSlot index slot).visit now other =
      server.visit now other := by
  simp [visit, different]

/-- Passing one slot and then others is passing all of them. -/
theorem passSlots_setSlot
    {now : UInt32}
    {index : CovIndex}
    {rest : List CovIndex}
    {slot : CovSlot}
    (fresh : index ∉ rest)
    (visited : server.visit now index = .next slot) :
    (server.setSlot index slot).passSlots now rest =
      server.passSlots now (index :: rest) := by
  have slots :
      ((server.setSlot index slot).passSlots now rest).covSlots =
        (server.passSlots now (index :: rest)).covSlots := by
    funext other
    by_cases same : other = index
    · subst same
      simp [passSlots, fresh, visited, SlotVisit.passed]
    · simp [passSlots, same, visit_setSlot_of_ne server same]
  simpa [passSlots, setSlot] using slots

/-- The loop passes every slot, or stops at the first one that sends. -/
theorem scanSlots_cases
    (sendSucceeds : Bool)
    (now : UInt32)
    {indices : List CovIndex}
    (noDuplicates : indices.Nodup) :
    ((∀ index ∈ indices, (server.visit now index).isSend = false) ∧
      scanSlots sendSucceeds now indices server =
        { server := server.passSlots now indices
          result := .noDatagram }) ∨
    ∃ before index after slot values isRetransmission,
      indices = before ++ index :: after ∧
      (∀ earlier ∈ before, (server.visit now earlier).isSend = false) ∧
      server.visit now index = .send slot values isRetransmission ∧
      scanSlots sendSucceeds now indices server =
        (server.passSlots now before).sendCovNotification
          sendSucceeds now index slot values isRetransmission := by
  induction indices generalizing server with
  | nil =>
      left
      simp [scanSlots, passSlots]
  | cons head rest inductionHypothesis =>
      obtain ⟨fresh, restNodup⟩ := List.nodup_cons.mp noDuplicates
      cases visited : server.visit now head with
      | send slot values isRetransmission =>
          right
          refine ⟨[], head, rest, slot, values, isRetransmission,
            rfl, by simp, visited, ?_⟩
          simp [scanSlots, visited, passSlots]
      | next slot =>
          have step :
              scanSlots sendSucceeds now (head :: rest) server =
                scanSlots sendSucceeds now rest
                  (server.setSlot head slot) := by
            simp [scanSlots, visited]
          have sameVisit
              {other : CovIndex}
              (member : other ∈ rest) :
              (server.setSlot head slot).visit now other =
                server.visit now other :=
            visit_setSlot_of_ne server
              (fun same => fresh (by simpa [same] using member)) slot
          have headQuiet : (server.visit now head).isSend = false := by
            simp [visited, SlotVisit.isSend]
          rw [step]
          rcases inductionHypothesis (server.setSlot head slot) restNodup
            with ⟨quiet, passed⟩ |
              ⟨before, index, after, sentSlot, values, isRetransmission,
                shape, quiet, sends, sent⟩
          · left
            refine ⟨?_, ?_⟩
            · intro other member
              rcases List.mem_cons.mp member with rfl | later
              · exact headQuiet
              · rw [← sameVisit later]
                exact quiet other later
            · rw [passed, passSlots_setSlot server fresh visited]
          · right
            have indexMember : index ∈ rest := by simp [shape]
            have beforeMember
                {other : CovIndex}
                (member : other ∈ before) : other ∈ rest := by
              simp [shape, member]
            refine ⟨head :: before, index, after, sentSlot, values,
              isRetransmission, by simp [shape], ?_, ?_, ?_⟩
            · intro other member
              rcases List.mem_cons.mp member with rfl | later
              · exact headQuiet
              · rw [← sameVisit (beforeMember later)]
                exact quiet other later
            · rw [← sameVisit indexMember]
              exact sends
            · have freshBefore : head ∉ before := fun member =>
                fresh (beforeMember member)
              rw [sent, passSlots_setSlot server freshBefore visited]

/-- The slots in front of a slot, in table order. -/
def slotsBefore (index : CovIndex) : List CovIndex :=
  (List.finRange kMaxCovSubscriptions).filter (· < index)

@[simp] theorem mem_slotsBefore
    {index other : CovIndex} :
    other ∈ slotsBefore index ↔ other < index := by
  simp [slotsBefore]

/-- In the full table, being scanned earlier means a smaller index. -/
private theorem mem_before_iff
    {before after : List CovIndex}
    {index other : CovIndex}
    (shape :
      List.finRange kMaxCovSubscriptions = before ++ index :: after) :
    other ∈ before ↔ other < index := by
  have sorted := List.pairwise_lt_finRange kMaxCovSubscriptions
  rw [shape, List.pairwise_append] at sorted
  obtain ⟨_, tailSorted, ordered⟩ := sorted
  constructor
  · intro member
    exact ordered other member index (by simp)
  · intro smaller
    have member : other ∈ before ++ index :: after := by
      rw [← shape]
      exact List.mem_finRange other
    rcases List.mem_append.mp member with early | late
    · exact early
    · rcases List.mem_cons.mp late with rfl | later
      · exact (lt_irrefl _ smaller).elim
      · have larger := (List.pairwise_cons.mp tailSorted).1 other later
        exact (lt_asymm smaller larger).elim

/-- The two outcomes of an idle poll's scan. -/
theorem processCovSubscriptions_cases
    (input : PollInput) :
    ((∀ index, (server.visit (server.nowMs input.clockMs) index).isSend =
        false) ∧
      server.processCovSubscriptions input =
        { server :=
            server.passSlots (server.nowMs input.clockMs)
              (List.finRange kMaxCovSubscriptions)
          result := .noDatagram }) ∨
    ∃ index slot values isRetransmission,
      (∀ earlier, earlier < index →
        (server.visit (server.nowMs input.clockMs) earlier).isSend =
          false) ∧
      server.visit (server.nowMs input.clockMs) index =
        .send slot values isRetransmission ∧
      server.processCovSubscriptions input =
        (server.passSlots (server.nowMs input.clockMs)
          (slotsBefore index)).sendCovNotification input.sendSucceeds
          (server.nowMs input.clockMs) index slot values
          isRetransmission := by
  rcases server.scanSlots_cases input.sendSucceeds
      (server.nowMs input.clockMs)
      (List.nodup_finRange kMaxCovSubscriptions)
    with ⟨quiet, passed⟩ |
      ⟨before, index, after, slot, values, isRetransmission,
        shape, quiet, sends, sent⟩
  · left
    exact ⟨fun index => quiet index (List.mem_finRange index), passed⟩
  · right
    refine ⟨index, slot, values, isRetransmission, ?_, sends, ?_⟩
    · intro earlier smaller
      exact quiet earlier ((mem_before_iff shape).mpr smaller)
    · have samePassed :
          server.passSlots (server.nowMs input.clockMs) before =
            server.passSlots (server.nowMs input.clockMs)
              (slotsBefore index) := by
        simp [passSlots, mem_before_iff shape]
      rw [← samePassed]
      exact sent

end BacnetServer

end BacnetStack
