import Mathlib.Data.Option.Basic

/-!
# Programs that agree under an invariant

Two programs on a shared state need not be equal to do the same wherever they
are used.  They agree under an invariant when, from every state that has it,
they return the same and leave the same state, which has it again.  Agreement
is kept by sequencing, so it is proved for the parts that differ.
-/

namespace ProgramAgreement

variable {State α β : Type}

/-- Programs that may stop without a result. -/
abbrev Program (State α : Type) : Type :=
  OptionT (StateM State) α

/-- What a program returns from a state, and the state it leaves. -/
def Program.exec
    (program : Program State α)
    (state : State) : Option α × State :=
  program.run.run state

@[simp] theorem exec_mk
    (step : State → Option α × State)
    (state : State) :
    Program.exec (OptionT.mk step : Program State α) state = step state :=
  rfl

@[simp] theorem exec_pure
    (value : α)
    (state : State) :
    Program.exec (pure value : Program State α) state =
      (some value, state) :=
  rfl

/-- The same result and the same state, from every state of an invariant. -/
def Agree
    (invariant : State → Prop)
    (first second : Program State α) : Prop :=
  ∀ state, invariant state →
    first.exec state = second.exec state ∧ invariant (first.exec state).2

variable {invariant : State → Prop}

theorem agree_pure (value : α) :
    Agree invariant (pure value) (pure value) :=
  fun _ holds => ⟨rfl, holds⟩

/-- A program without a result is followed by nothing. -/
theorem exec_bind
    (program : Program State α)
    (next : α → Program State β)
    (state : State) :
    (program >>= next).exec state =
      match program.exec state with
      | (some value, after) => (next value).exec after
      | (none, after) => (none, after) := by
  unfold Program.exec
  rw [OptionT.run_bind, Option.elimM, StateT.run_bind]
  rcases (program.run).run state with ⟨_ | value, after⟩ <;> rfl

/-- A function of the result changes no state. -/
theorem exec_map
    (convert : α → β)
    (program : Program State α)
    (state : State) :
    Program.exec (convert <$> program : Program State β) state =
      ((program.exec state).1.map convert, (program.exec state).2) := by
  rw [← bind_pure_comp, exec_bind]
  rcases program.exec state with ⟨_ | value, after⟩ <;> rfl

/-- Programs that agree are followed by programs that agree. -/
theorem Agree.bind
    {first second : Program State α}
    {next following : α → Program State β}
    (agree : Agree invariant first second)
    (nextAgree : ∀ value, Agree invariant (next value) (following value)) :
    Agree invariant (first >>= next) (second >>= following) := by
  intro state holds
  obtain ⟨same, kept⟩ := agree state holds
  rw [exec_bind, exec_bind, ← same]
  rcases outcome : first.exec state with ⟨_ | value, after⟩
  · rw [outcome] at kept
    exact ⟨rfl, kept⟩
  · rw [outcome] at kept
    exact nextAgree value after kept

end ProgramAgreement
