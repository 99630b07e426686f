import Mathlib.Logic.Function.Basic

/-!
# Histories of changes

A history reports changes of one value as pairs of the old and the new one,
and assignments to entries of a table.  Values are compared by a test that
tells when they differ; values that do not differ count as the same.
-/

namespace ChangeHistory

variable {Value Index : Type} {differs : Value → Value → Bool}

/-- Not to differ is symmetric and transitive; not all values are reflexive. -/
structure Comparison (differs : Value → Value → Bool) : Prop where
  symm :
    ∀ {left right},
      differs left right = false → differs right left = false
  trans :
    ∀ {first second third},
      differs first second = false → differs second third = false →
      differs first third = false

/--
Every change is one, the first starts from `start`, each later one from where
the one before ended, and the last ends at `current`.
-/
def Chain
    (differs : Value → Value → Bool)
    (start : Value)
    (changes : List (Value × Value))
    (current : Value) : Prop :=
  match changes with
  | [] => differs start current = false
  | (old, new) :: rest =>
      differs start old = false ∧ differs old new = true ∧
        Chain differs new rest current

/-- The last value may be exchanged for the same one. -/
theorem Chain.move
    (comparison : Comparison differs)
    {start current next : Value}
    {changes : List (Value × Value)}
    (chain : Chain differs start changes current)
    (same : differs current next = false) :
    Chain differs start changes next := by
  induction changes generalizing start with
  | nil => exact comparison.trans chain same
  | cons change rest inductionHypothesis =>
      exact ⟨chain.1, chain.2.1, inductionHypothesis chain.2.2⟩

/-- A change of the last value is added at the end. -/
theorem Chain.extend
    {start current next : Value}
    {changes : List (Value × Value)}
    (chain : Chain differs start changes current)
    (changed : differs current next = true)
    (ordinary : differs next next = false) :
    Chain differs start (changes ++ [(current, next)]) next := by
  induction changes generalizing start with
  | nil => exact ⟨chain, changed, ordinary⟩
  | cons change rest inductionHypothesis =>
      exact ⟨chain.1, chain.2.1, inductionHypothesis chain.2.2⟩

/-- Both entries are free, or hold the same value. -/
def SameEntry
    (differs : Value → Value → Bool) : Option Value → Option Value → Prop
  | none, none => True
  | some left, some right => differs left right = false
  | _, _ => False

theorem SameEntry.trans
    (comparison : Comparison differs)
    {first second third : Option Value}
    (left : SameEntry differs first second)
    (right : SameEntry differs second third) :
    SameEntry differs first third := by
  cases first <;> cases second <;> cases third <;>
    first
      | trivial
      | exact left.elim
      | exact right.elim
      | exact comparison.trans left right

/-- Assign the entries of a table, one after another. -/
def replay
    [DecidableEq Index]
    (table : Index → Option Value)
    (assignments : List (Index × Option Value)) : Index → Option Value :=
  assignments.foldl
    (fun table assignment =>
      Function.update table assignment.1 assignment.2) table

/-- The last assignment decides its entry, the others are as before. -/
theorem replay_concat
    [DecidableEq Index]
    (table : Index → Option Value)
    (assignments : List (Index × Option Value))
    (assigned : Index)
    (entry : Option Value) :
    replay table (assignments ++ [(assigned, entry)]) =
      Function.update (replay table assignments) assigned entry := by
  rw [replay, List.foldl_append]
  rfl

end ChangeHistory
