import Mathlib.Data.List.FinRange
import Mathlib.Logic.Function.Basic

/-!
# Ranked commands over a default

A fixed number of ranks, each with at most one command.  The value is the
command of the first rank that has one, and the default when none has.
-/

/-- Searching all indices in order finds the first with the property. -/
theorem List.find?_finRange_eq_some_iff
    {count : Nat}
    {holds : Fin count → Bool}
    {index : Fin count} :
    (List.finRange count).find? holds = some index ↔
      holds index = true ∧
        ∀ earlier, earlier < index → holds earlier = false := by
  rw [List.find?_eq_some_iff_getElem]
  constructor
  · rintro ⟨found, position, inside, here, before⟩
    refine ⟨found, fun earlier smaller => ?_⟩
    have place : position = index.val := by
      rw [← here]
      simp
    have skipped := before earlier.val (by omega)
    simpa using skipped
  · rintro ⟨found, before⟩
    refine ⟨found, index.val, by simp, by simp, fun position smaller => ?_⟩
    have skipped := before ⟨position, by omega⟩ smaller
    simpa using skipped

/-- Commands by rank, and the value in force without any. -/
@[ext] structure PriorityMap (count : Nat) (Value : Type) where
  default : Value
  command : Fin count → Option Value

namespace PriorityMap

variable {count : Nat} {Value : Type} (map : PriorityMap count Value)

/-- The first rank with a command. -/
def first? : Option (Fin count) :=
  (List.finRange count).find? fun rank => (map.command rank).isSome

/-- The value in force. -/
def value : Value :=
  (map.first?.bind map.command).getD map.default

/-- Set the command of one rank, or release it. -/
def assign
    (rank : Fin count)
    (entry : Option Value) : PriorityMap count Value :=
  { map with command := Function.update map.command rank entry }

/-- Replace the default. -/
def setDefault (value : Value) : PriorityMap count Value :=
  { map with default := value }

/-- Release some ranks. -/
def release (ranks : List (Fin count)) : PriorityMap count Value :=
  { map with
    command := fun rank => if rank ∈ ranks then none else map.command rank }

/-- The commands in the order of their ranks. -/
def entries : List (Option Value) :=
  (List.finRange count).map map.command

variable {map}

/-- The first command is the value in force. -/
theorem value_of_first
    {rank : Fin count}
    {value : Value}
    (commanded : map.command rank = some value)
    (before : ∀ earlier, earlier < rank → map.command earlier = none) :
    map.value = value := by
  have found : map.first? = some rank :=
    List.find?_finRange_eq_some_iff.mpr
      ⟨by simp [commanded],
        fun earlier smaller => by simp [before earlier smaller]⟩
  simp [PriorityMap.value, found, commanded]

/-- Without a command the default is in force. -/
theorem value_of_free
    (free : ∀ rank, map.command rank = none) :
    map.value = map.default := by
  have missing : map.first? = none := by
    simp [first?, free]
  simp [value, missing]

@[simp] theorem release_nil : map.release [] = map := by
  simp [release]

/-- Ranks are released one after another. -/
theorem release_cons
    (rank : Fin count)
    (rest : List (Fin count)) :
    map.release (rank :: rest) = (map.assign rank none).release rest := by
  refine PriorityMap.ext rfl (funext fun other => ?_)
  by_cases isFirst : other = rank
  · simp [release, assign, isFirst]
  · simp [release, assign, isFirst]

/-- A single command that is left is in force, or else the default. -/
theorem value_of_single
    (rank : Fin count)
    (free : ∀ other, other ≠ rank → map.command other = none) :
    map.value = (map.command rank).getD map.default := by
  cases commanded : map.command rank with
  | none =>
      refine value_of_free fun other => ?_
      by_cases isRank : other = rank
      · rw [isRank, commanded]
      · exact free other isRank
  | some value =>
      exact value_of_first commanded fun earlier smaller =>
        free earlier (Fin.ne_of_lt smaller)

end PriorityMap
