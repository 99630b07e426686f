import BacnetStack.EventRun
import Mathlib.Data.List.Induction

/-!
# Facts that stand until they are withdrawn

A step grants a fact, withdraws it or leaves it alone.  After a run the fact
stands exactly if some step of the run granted it and no step behind that one
withdrew it.
-/

namespace StandingFacts

open EventRun

variable {State Event : Type} {step : State → Event → State}
  {grants withdraws : State → Event → Prop}

/-- A step of the run granted the fact, and no later one withdrew it. -/
def GrantedIn
    (step : State → Event → State)
    (grants withdraws : State → Event → Prop)
    (state : State)
    (events : List Event) : Prop :=
  ∃ earlier event later,
    events = earlier ++ event :: later ∧
      grants (run step state earlier) event ∧
      Along step (fun state event => ¬withdraws state event)
        (run step state (earlier ++ [event])) later

theorem not_grantedIn_nil
    (state : State) :
    ¬GrantedIn step grants withdraws state [] := by
  rintro ⟨earlier, event, later, split, _⟩
  cases earlier <;> cases split

/-- The last step of a run grants a fact, or does not withdraw it. -/
theorem grantedIn_concat
    {state : State}
    {events : List Event}
    {event : Event} :
    GrantedIn step grants withdraws state (events ++ [event]) ↔
      grants (run step state events) event ∨
        GrantedIn step grants withdraws state events ∧
          ¬withdraws (run step state events) event := by
  constructor
  · rintro ⟨earlier, granting, later, split, granted, kept⟩
    rcases List.eq_nil_or_concat later with rfl | ⟨front, last, rfl⟩
    · obtain ⟨rfl, same⟩ := List.append_inj' split rfl
      obtain rfl := List.singleton_inj.mp same
      exact .inl granted
    · rw [List.concat_eq_append] at split kept
      rw [← List.cons_append, ← List.append_assoc] at split
      obtain ⟨rfl, same⟩ := List.append_inj' split rfl
      obtain rfl := List.singleton_inj.mp same
      obtain ⟨keptFront, keptLast, _⟩ := along_append.mp kept
      rw [← run_append, List.append_assoc] at keptLast
      exact .inr ⟨⟨earlier, granting, front, rfl, granted, keptFront⟩,
        keptLast⟩
  · rintro (granted | ⟨⟨earlier, granting, later, rfl, granted, kept⟩, last⟩)
    · exact ⟨events, event, [], rfl, granted, trivial⟩
    · refine ⟨earlier, granting, later ++ [event], ?_, granted, ?_⟩
      · rw [List.append_assoc, List.cons_append]
      · refine along_append.mpr ⟨kept, ?_, trivial⟩
        rw [← run_append, List.append_assoc]
        exact last

/--
A fact that holds after a step precisely if the step grants it, or does not
withdraw it, holds after a run precisely if it was granted there and not
withdrawn since.
-/
theorem standing_run_iff
    {standing invariant : State → Prop}
    (preserved :
      ∀ state event, invariant state → invariant (step state event))
    (next :
      ∀ state event, invariant state →
        (standing (step state event) ↔
          grants state event ∨ standing state ∧ ¬withdraws state event))
    {state : State}
    (initial : invariant state)
    (absent : ¬standing state)
    (events : List Event) :
    standing (run step state events) ↔
      GrantedIn step grants withdraws state events := by
  induction events using List.reverseRecOn with
  | nil =>
      exact iff_of_false absent (not_grantedIn_nil state)
  | append_singleton events event inductionHypothesis =>
      have reached : invariant (run step state events) :=
        run_invariant invariant preserved initial events
      rw [run_concat, next _ event reached, grantedIn_concat,
        inductionHypothesis]

end StandingFacts
