import Mathlib.Algebra.Ring.Nat
import Mathlib.Data.List.Nodup
import Mathlib.Data.Nat.Basic

/-!
# Service in rotation

Places stand in a circle.  In each round a server looks at them in turn, from
where it stopped, and serves the first one that waits; it goes on behind that
one.  A place that waits is then passed over by every other place at most once.
-/

namespace RoundRobin

/-- The places of a circle in the order a round looks at them. -/
def order (size start : Nat) : List Nat :=
  (List.range size).map fun step => (start + step) % size

/-- How many places a round looks at before this one. -/
def distance (size start place : Nat) : Nat :=
  if start ≤ place then place - start else place + size - start

/-- The first place that waits. -/
def next?
    (size start : Nat)
    (waits : Nat → Bool) : Option Nat :=
  (order size start).find? waits

/-- The places served in rounds that each see who waits then. -/
def served (size : Nat) : Nat → List (Nat → Bool) → List Nat
  | _, [] => []
  | start, waits :: rounds =>
      match next? size start waits with
      | none => served size start rounds
      | some place => place :: served size ((place + 1) % size) rounds

section

variable {size start place other : Nat}

theorem distance_lt
    (isStart : start < size)
    (isPlace : place < size) :
    distance size start place < size := by
  unfold distance
  split <;> omega

/-- A round looks at a place after as many others as its distance. -/
theorem distance_step
    (isStart : start < size)
    {step : Nat}
    (isStep : step < size) :
    distance size start ((start + step) % size) = step := by
  rcases Nat.lt_or_ge (start + step) size with inside | outside
  · rw [Nat.mod_eq_of_lt inside, distance, if_pos (Nat.le_add_right ..)]
    exact Nat.add_sub_cancel_left start step
  · have wrapped : (start + step) % size = start + step - size := by
      rw [Nat.mod_eq_sub_mod outside, Nat.mod_eq_of_lt (by omega)]
    rw [wrapped, distance, if_neg (by omega)]
    omega

theorem step_distance
    (isStart : start < size)
    (isPlace : place < size) :
    (start + distance size start place) % size = place := by
  unfold distance
  split
  · rename_i ahead
    rw [Nat.add_sub_of_le ahead, Nat.mod_eq_of_lt isPlace]
  · have turned : start + (place + size - start) = place + size := by omega
    rw [turned, Nat.add_mod_right, Nat.mod_eq_of_lt isPlace]

/-- Two places of one distance are the same. -/
theorem eq_of_distance_eq
    (isStart : start < size)
    (isPlace : place < size)
    (isOther : other < size)
    (same : distance size start place = distance size start other) :
    place = other := by
  rw [← step_distance isStart isPlace, same, step_distance isStart isOther]

theorem mem_order_iff
    (isStart : start < size) :
    place ∈ order size start ↔ place < size := by
  rw [order, List.mem_map]
  constructor
  · rintro ⟨step, _, rfl⟩
    exact Nat.mod_lt _ (Nat.zero_lt_of_lt isStart)
  · intro isPlace
    exact ⟨distance size start place,
      List.mem_range.mpr (distance_lt isStart isPlace),
      step_distance isStart isPlace⟩

/-- Who is served waits, and nobody nearer does. -/
theorem next?_eq_some
    (isStart : start < size)
    {waits : Nat → Bool}
    (isNext : next? size start waits = some place) :
    waits place = true ∧ place < size ∧
      ∀ other < size, waits other = true →
        distance size start place ≤ distance size start other := by
  rw [next?, order, List.find?_map, Option.map_eq_some_iff] at isNext
  obtain ⟨step, isFirst, rfl⟩ := isNext
  have isStep : step < size :=
    List.mem_range.mp (List.mem_of_find?_eq_some isFirst)
  have stepWaits : waits ((start + step) % size) = true :=
    @List.find?_some _ (waits ∘ fun step => (start + step) % size) _ _
      isFirst
  refine ⟨stepWaits, Nat.mod_lt _ (Nat.zero_lt_of_lt isStart), ?_⟩
  intro other isOther otherWaits
  rw [distance_step isStart isStep]
  by_contra nearer
  rw [Nat.not_le] at nearer
  have passed :=
    (List.find?_range_eq_some.mp isFirst).2.2 _ nearer
  rw [Function.comp_apply, step_distance isStart isOther, otherWaits]
    at passed
  cases passed

/-- If anybody waits, somebody is served. -/
theorem exists_next?
    (isStart : start < size)
    {waits : Nat → Bool}
    (isPlace : place < size)
    (isWaiting : waits place = true) :
    ∃ first, next? size start waits = some first := by
  rw [← Option.isSome_iff_exists, next?, List.find?_isSome]
  exact ⟨place, (mem_order_iff isStart).mpr isPlace, isWaiting⟩

/-- The way to a place is the way around another one, up to a turn. -/
theorem distance_around
    (isStart : start < size)
    (isPlace : place < size) :
    distance size start place + 1 +
          distance size ((place + 1) % size) other =
        distance size start other ∨
      distance size start place + 1 +
          distance size ((place + 1) % size) other =
        distance size start other + size := by
  rcases Nat.lt_or_ge (place + 1) size with inside | outside
  · rw [Nat.mod_eq_of_lt inside]
    unfold distance
    split_ifs <;> omega
  · have isLast : place + 1 = size := Nat.le_antisymm isPlace outside
    rw [isLast, Nat.mod_self]
    unfold distance
    split_ifs <;> omega

end

/-- A round that may not take place, in front of others. -/
theorem served_toList
    (size start : Nat)
    (round : Option (Nat → Bool))
    (rounds : List (Nat → Bool)) :
    served size start (round.toList ++ rounds) =
      (round.bind (next? size start)).toList ++
        served size
          (((round.bind (next? size start)).map fun place =>
            (place + 1) % size).getD start)
          rounds := by
  rcases round with _ | waits
  · rfl
  · rw [Option.toList_some, List.singleton_append, served,
      Option.bind_some]
    rcases next? size start waits with _ | place
    · rfl
    · rfl

theorem served_lt
    {size start : Nat}
    (isStart : start < size)
    {rounds : List (Nat → Bool)} :
    ∀ place ∈ served size start rounds, place < size := by
  induction rounds generalizing start with
  | nil =>
      intro place isServed
      cases isServed
  | cons round rounds inductionHypothesis =>
      intro place isServed
      unfold served at isServed
      split at isServed
      · exact inductionHypothesis isStart place isServed
      · rename_i first isNext
        have isFirst := (next?_eq_some isStart isNext).2.1
        rcases List.mem_cons.mp isServed with rfl | isLater
        · exact isFirst
        · exact inductionHypothesis
            (Nat.mod_lt _ (Nat.zero_lt_of_lt isStart)) place isLater

/--
Who is served while a place waits in vain stands in front of it, each one
behind those served before.
-/
theorem served_ahead
    {size : Nat}
    {place : Nat}
    (isPlace : place < size)
    {rounds : List (Nat → Bool)}
    (waits : ∀ round ∈ rounds, round place = true)
    {start : Nat}
    (isStart : start < size)
    (inVain : place ∉ served size start rounds) :
    (served size start rounds).Pairwise
        (fun first second =>
          distance size start first < distance size start second) ∧
      (∀ other ∈ served size start rounds,
        distance size start other < distance size start place) ∧
      rounds.length ≤ distance size start place := by
  induction rounds generalizing start with
  | nil =>
      exact ⟨List.Pairwise.nil, by simp [served], Nat.zero_le _⟩
  | cons round rounds inductionHypothesis =>
      obtain ⟨first, isNext⟩ :=
        exists_next? isStart isPlace (waits round List.mem_cons_self)
      obtain ⟨_, isFirst, nearest⟩ := next?_eq_some isStart isNext
      have shape :
          served size start (round :: rounds) =
            first :: served size ((first + 1) % size) rounds := by
        rw [served, isNext]
      rw [shape] at inVain ⊢
      rw [List.mem_cons, not_or] at inVain
      have nearer :
          distance size start first < distance size start place := by
        refine Nat.lt_of_le_of_ne
          (nearest place isPlace (waits round List.mem_cons_self)) ?_
        intro same
        exact inVain.1 (eq_of_distance_eq isStart isFirst isPlace same).symm
      have isBehind : (first + 1) % size < size :=
        Nat.mod_lt _ (Nat.zero_lt_of_lt isStart)
      obtain ⟨ordered, inFront, few⟩ :=
        inductionHypothesis
          (fun later isLater => waits later (List.mem_cons_of_mem _ isLater))
          isBehind inVain.2
      have around : _ ∨ _ := @distance_around _ _ _ place isStart isFirst
      have bound := distance_lt isBehind isPlace
      have inReach := distance_lt isStart isPlace
      have behind :
          ∀ other ∈ served size ((first + 1) % size) rounds,
            distance size start other =
              distance size start first + 1 +
                distance size ((first + 1) % size) other := by
        intro other isOther
        have before := inFront other isOther
        have otherAround := @distance_around _ _ _ other isStart isFirst
        have otherInReach :=
          distance_lt isStart (served_lt isBehind other isOther)
        omega
      refine ⟨?_, ?_, ?_⟩
      · refine List.pairwise_cons.mpr ⟨?_, ?_⟩
        · intro other isOther
          rw [behind other isOther]
          omega
        · refine ordered.imp_of_mem ?_
          intro earlier later isEarlier isLater before
          rw [behind earlier isEarlier, behind later isLater]
          omega
      · rintro other isOther
        rcases List.mem_cons.mp isOther with rfl | isLater
        · exact nearer
        · have before := inFront other isLater
          rw [behind other isLater]
          omega
      · rw [List.length_cons]
        omega

/-- Nobody is served twice while a place waits in vain. -/
theorem nodup_served
    {size place start : Nat}
    (isPlace : place < size)
    (isStart : start < size)
    {rounds : List (Nat → Bool)}
    (waits : ∀ round ∈ rounds, round place = true)
    (inVain : place ∉ served size start rounds) :
    (served size start rounds).Nodup := by
  refine (served_ahead isPlace waits isStart inVain).1.imp ?_
  rintro first second nearer rfl
  exact Nat.lt_irrefl _ nearer

/-- A place waits in vain in fewer rounds than there are places. -/
theorem length_lt_of_inVain
    {size place start : Nat}
    (isPlace : place < size)
    (isStart : start < size)
    {rounds : List (Nat → Bool)}
    (waits : ∀ round ∈ rounds, round place = true)
    (inVain : place ∉ served size start rounds) :
    rounds.length < size :=
  Nat.lt_of_le_of_lt (served_ahead isPlace waits isStart inVain).2.2
    (distance_lt isStart isPlace)

end RoundRobin
