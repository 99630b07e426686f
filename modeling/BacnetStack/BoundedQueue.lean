import Mathlib.Algebra.Ring.Nat
import Mathlib.Data.List.Basic
import Mathlib.Data.List.Count
import Mathlib.Data.List.Perm.Basic

/-!
# Bounded queues

A queue of limited capacity that makes room for a new entry by dropping its
oldest one.  Entries leave either in order or by a search for the first one
that meets a condition.  The bound is part of the type, so no operation can
exceed it.
-/

/-- At most `capacity` entries, oldest first. -/
structure BoundedQueue (α : Type) (capacity : Nat) where
  entries : List α
  bounded : entries.length ≤ capacity
  deriving DecidableEq

namespace BoundedQueue

variable {α : Type} {capacity : Nat}

def empty : BoundedQueue α capacity :=
  ⟨[], Nat.zero_le capacity⟩

instance : Inhabited (BoundedQueue α capacity) :=
  ⟨empty⟩

@[simp] theorem entries_empty :
    (empty : BoundedQueue α capacity).entries = [] :=
  rfl

/-- The queue can take one more entry without dropping another. -/
def HasRoom (queue : BoundedQueue α capacity) : Prop :=
  queue.entries.length < capacity

instance (queue : BoundedQueue α capacity) : Decidable queue.HasRoom :=
  inferInstanceAs (Decidable (_ < _))

/-- Append an entry; a full queue drops its oldest one first. -/
def push [NeZero capacity]
    (queue : BoundedQueue α capacity)
    (entry : α) : BoundedQueue α capacity :=
  if room : queue.HasRoom then
    ⟨queue.entries ++ [entry], by
      rw [List.length_append, List.length_singleton]
      exact room⟩
  else
    ⟨queue.entries.tail ++ [entry], by
      have positive := Nat.pos_of_ne_zero (NeZero.ne capacity)
      have bounded := queue.bounded
      rw [List.length_append, List.length_tail, List.length_singleton]
      omega⟩

/-- Take the oldest entry. -/
def takeFirst
    (queue : BoundedQueue α capacity) :
    Option (α × BoundedQueue α capacity) :=
  match shape : queue.entries with
  | [] => none
  | entry :: rest =>
      some (entry, ⟨rest, by
        have bounded := queue.bounded
        rw [shape, List.length_cons] at bounded
        exact Nat.le_of_succ_le bounded⟩)

/-- Take the oldest entry that meets a condition. -/
def takeMatching
    (queue : BoundedQueue α capacity)
    (matching : α → Bool) :
    Option (α × BoundedQueue α capacity) :=
  (queue.entries.find? matching).map fun entry =>
    (entry, ⟨queue.entries.eraseP matching,
      Nat.le_trans List.length_eraseP_le queue.bounded⟩)

/-- With room, nothing is dropped. -/
theorem push_of_room [NeZero capacity]
    {queue : BoundedQueue α capacity}
    (room : queue.HasRoom)
    (entry : α) :
    (queue.push entry).entries = queue.entries ++ [entry] := by
  rw [push, dif_pos room]

/-- What a push drops: nothing, or the oldest entry of a full queue. -/
def displaced (queue : BoundedQueue α capacity) : List α :=
  if queue.HasRoom then [] else queue.entries.take 1

theorem displaced_of_room
    {queue : BoundedQueue α capacity}
    (room : queue.HasRoom) :
    queue.displaced = [] :=
  if_pos room

/-- Every entry is kept, is the new one, or is dropped. -/
theorem count_push [NeZero capacity] [DecidableEq α]
    (queue : BoundedQueue α capacity)
    (entry other : α) :
    (queue.push entry).entries.count other +
        queue.displaced.count other =
      queue.entries.count other + [entry].count other := by
  unfold push displaced
  split
  · exact List.count_append
  · show (queue.entries.tail ++ [entry]).count other + _ = _
    cases queue.entries with
    | nil => exact Nat.add_comm _ _
    | cons first rest =>
        show (rest ++ [entry]).count other + [first].count other =
          ([first] ++ rest).count other + _
        rw [List.count_append, List.count_append]
        omega

theorem count_push_le [NeZero capacity] [DecidableEq α]
    (queue : BoundedQueue α capacity)
    (entry other : α) :
    (queue.push entry).entries.count other ≤
      queue.entries.count other + [entry].count other := by
  rw [← queue.count_push entry other]
  exact Nat.le_add_right _ _

/-- The oldest entry is the head. -/
theorem takeFirst_eq_some_iff
    {queue rest : BoundedQueue α capacity}
    {entry : α} :
    queue.takeFirst = some (entry, rest) ↔
      queue.entries = entry :: rest.entries := by
  obtain ⟨entries, bounded⟩ := queue
  obtain ⟨restEntries, restBounded⟩ := rest
  cases entries with
  | nil => simp [takeFirst]
  | cons first others => simp [takeFirst]

theorem takeFirst_eq_none_iff
    {queue : BoundedQueue α capacity} :
    queue.takeFirst = none ↔ queue.entries = [] := by
  obtain ⟨entries, bounded⟩ := queue
  cases entries with
  | nil => simp [takeFirst]
  | cons first others => simp [takeFirst]

theorem takeMatching_eq_none_iff
    {queue : BoundedQueue α capacity}
    {matching : α → Bool} :
    queue.takeMatching matching = none ↔
      ∀ entry ∈ queue.entries, matching entry = false := by
  simp [takeMatching]

/-- What a search returns meets the condition. -/
theorem matching_of_takeMatching
    {queue rest : BoundedQueue α capacity}
    {matching : α → Bool}
    {entry : α}
    (taken : queue.takeMatching matching = some (entry, rest)) :
    matching entry = true := by
  obtain ⟨found, isFound, shape⟩ := Option.map_eq_some_iff.mp taken
  obtain ⟨rfl, -⟩ := Prod.mk.inj shape
  exact List.find?_some isFound

/-- A search takes one entry and keeps all others. -/
theorem perm_of_takeMatching [DecidableEq α]
    {queue rest : BoundedQueue α capacity}
    {matching : α → Bool}
    {entry : α}
    (taken : queue.takeMatching matching = some (entry, rest)) :
    queue.entries.Perm (entry :: rest.entries) := by
  obtain ⟨found, isFound, shape⟩ := Option.map_eq_some_iff.mp taken
  obtain ⟨rfl, rfl⟩ := Prod.mk.inj shape
  obtain ⟨matched, before, after, split, earlier⟩ :=
    List.find?_eq_some_iff_append.mp isFound
  have erased :
      queue.entries.eraseP matching = before ++ after := by
    have unmatched : ∀ other ∈ before, ¬matching other = true :=
      fun other isEarlier => by simpa using earlier other isEarlier
    rw [split, List.eraseP_append_right _ unmatched,
      List.eraseP_cons_of_pos matched]
  show queue.entries.Perm (found :: queue.entries.eraseP matching)
  rw [erased, split]
  exact List.perm_middle

/-- A search that succeeds makes room. -/
theorem room_of_takeMatching [DecidableEq α]
    {queue rest : BoundedQueue α capacity}
    {matching : α → Bool}
    {entry : α}
    (taken : queue.takeMatching matching = some (entry, rest)) :
    rest.HasRoom := by
  have shorter := (perm_of_takeMatching taken).length_eq
  have bounded := queue.bounded
  rw [shorter, List.length_cons] at bounded
  exact bounded

theorem count_takeMatching [DecidableEq α]
    {queue rest : BoundedQueue α capacity}
    {matching : α → Bool}
    {entry : α}
    (taken : queue.takeMatching matching = some (entry, rest))
    (other : α) :
    queue.entries.count other =
      rest.entries.count other + [entry].count other := by
  rw [(perm_of_takeMatching taken).count_eq, Nat.add_comm,
    ← List.count_append]
  rfl

end BoundedQueue
