import Mathlib.Logic.Basic

namespace BacnetStack

/-!
# Programs that avoid a fault

A program over a state may stop with one of several faults.  A triple states
that one of them is avoided: from every state that satisfies the precondition
the program either returns, and then its postcondition holds, or stops with
another fault.
-/

variable {σ ε α β : Type}

/-- The program never stops with `fault`, and where it returns, `post` holds. -/
def Avoids
    (fault : ε)
    (pre : σ → Prop)
    (program : StateT σ (Except ε) α)
    (post : α → σ → Prop) : Prop :=
  ∀ state, pre state →
    match program.run state with
    | .ok (value, next) => post value next
    | .error raised => raised ≠ fault

namespace Avoids

variable {fault raised : ε} {pre : σ → Prop}
  {program : StateT σ (Except ε) α} {post : α → σ → Prop}

/-- Returning a value changes nothing. -/
theorem pure
    (value : α)
    (holds : ∀ state, pre state → post value state) :
    Avoids fault pre (Pure.pure value) post :=
  fun state start => holds state start

/-- Another fault may be raised at any time. -/
theorem throw
    (other : raised ≠ fault) :
    Avoids fault pre
      (MonadExcept.throw raised : StateT σ (Except ε) α) post :=
  fun _ _ => other

/-- The second program starts where the first one returned. -/
theorem bind
    {middle : α → σ → Prop}
    {continuation : α → StateT σ (Except ε) β}
    {post : β → σ → Prop}
    (first : Avoids fault pre program middle)
    (second :
      ∀ value, Avoids fault (middle value) (continuation value) post) :
    Avoids fault pre (program >>= continuation) post := by
  intro state start
  have reached := first state start
  rw [StateT.run_bind]
  cases ran : program.run state with
  | error raised =>
      rw [ran] at reached
      exact reached
  | ok outcome =>
      rw [ran] at reached
      exact second outcome.1 outcome.2 reached

/-- A triple holds under stronger preconditions and weaker postconditions. -/
theorem weaken
    {pre' : σ → Prop}
    {post' : α → σ → Prop}
    (avoids : Avoids fault pre program post)
    (stronger : ∀ state, pre' state → pre state)
    (weaker : ∀ value state, post value state → post' value state) :
    Avoids fault pre' program post' := by
  intro state start
  have reached := avoids state (stronger state start)
  cases ran : program.run state with
  | error raised =>
      rw [ran] at reached
      exact reached
  | ok outcome =>
      rw [ran] at reached
      exact weaker outcome.1 outcome.2 reached

/-- A program that avoids a fault does not stop with it. -/
theorem run_ne
    (avoids : Avoids fault pre program post)
    {state : σ}
    (start : pre state) :
    program.run state ≠ .error fault := by
  intro faulted
  have reached := avoids state start
  rw [faulted] at reached
  exact reached rfl

end Avoids

end BacnetStack
