import Mathlib.Data.List.Basic

/-!
# Runs of an event-driven system

A system is a total step function on states and events, a run is a list of
events.  An invariant is proved once for a single step and then holds along
every run; where only some steps are admissible, the run carries that
condition for each of its steps.
-/

namespace EventRun

variable {State Event : Type} (step : State → Event → State)

/-- The state after a list of events. -/
def run (state : State) (events : List Event) : State :=
  events.foldl step state

@[simp] theorem run_nil
    (state : State) :
    run step state [] = state :=
  rfl

@[simp] theorem run_cons
    (state : State)
    (event : Event)
    (rest : List Event) :
    run step state (event :: rest) = run step (step state event) rest :=
  rfl

/-- Runs compose. -/
theorem run_append
    (state : State)
    (first second : List Event) :
    run step state (first ++ second) =
      run step (run step state first) second :=
  List.foldl_append

/-- The last event of a run is one more step. -/
theorem run_concat
    (state : State)
    (events : List Event)
    (event : Event) :
    run step state (events ++ [event]) =
      step (run step state events) event := by
  rw [run_append, run_cons, run_nil]

variable {step}

/-- A property every step preserves holds after every run. -/
theorem run_invariant
    (invariant : State → Prop)
    (preserved :
      ∀ state event, invariant state → invariant (step state event))
    {state : State}
    (initial : invariant state)
    (events : List Event) :
    invariant (run step state events) := by
  induction events generalizing state with
  | nil =>
      exact initial
  | cons event rest inductionHypothesis =>
      exact inductionHypothesis (preserved state event initial)

variable (step)

/-- Every step of the run is admissible in the state it starts from. -/
def Along
    (admissible : State → Event → Prop)
    (state : State) : List Event → Prop
  | [] => True
  | event :: rest =>
      admissible state event ∧ Along admissible (step state event) rest

variable {step}

/-- A property admissible steps preserve holds after admissible runs. -/
theorem run_invariant_along
    {admissible : State → Event → Prop}
    (invariant : State → Prop)
    (preserved :
      ∀ state event, admissible state event →
        invariant state → invariant (step state event))
    {state : State}
    (initial : invariant state)
    {events : List Event}
    (along : Along step admissible state events) :
    invariant (run step state events) := by
  induction events generalizing state with
  | nil =>
      exact initial
  | cons event rest inductionHypothesis =>
      exact inductionHypothesis
        (preserved state event along.1 initial) along.2

/-- Admissibility of a composed run splits at the seam. -/
theorem along_append
    {admissible : State → Event → Prop}
    {state : State}
    {first second : List Event} :
    Along step admissible state (first ++ second) ↔
      Along step admissible state first ∧
        Along step admissible (run step state first) second := by
  induction first generalizing state with
  | nil =>
      simp [Along]
  | cons event rest inductionHypothesis =>
      simp only [List.cons_append, Along, run_cons,
        inductionHypothesis, and_assoc]

/-- Two conditions hold along a run where both of them do. -/
theorem along_and
    {left right : State → Event → Prop}
    {state : State}
    {events : List Event} :
    Along step (fun state event => left state event ∧ right state event)
        state events ↔
      Along step left state events ∧ Along step right state events := by
  induction events generalizing state with
  | nil =>
      exact (and_self_iff).symm
  | cons event rest inductionHypothesis =>
      rw [Along, Along, Along, inductionHypothesis, and_and_and_comm]

/-- Admissibility may be replaced by an equivalent one. -/
theorem along_congr
    {left right : State → Event → Prop}
    (same : ∀ state event, left state event ↔ right state event)
    {state : State}
    {events : List Event} :
    Along step left state events ↔ Along step right state events := by
  induction events generalizing state with
  | nil =>
      rfl
  | cons event rest inductionHypothesis =>
      exact and_congr (same state event) inductionHypothesis

/-- In reachable states admissibility may be replaced by another one. -/
theorem along_iff_of_invariant
    {left right : State → Event → Prop}
    (invariant : State → Prop)
    (same :
      ∀ state event, invariant state →
        (left state event ↔ right state event))
    (preserved :
      ∀ state event, left state event →
        invariant state → invariant (step state event))
    {state : State}
    (initial : invariant state)
    {events : List Event} :
    Along step left state events ↔ Along step right state events := by
  induction events generalizing state with
  | nil =>
      rfl
  | cons event rest inductionHypothesis =>
      rw [Along, Along, ← same state event initial]
      exact and_congr_right fun admissible =>
        inductionHypothesis (preserved state event admissible initial)

/-- Steps that only depend on a projection commute with it along runs. -/
theorem run_map
    {Image : Type}
    {project : State → Image}
    {imageStep : Image → Event → Image}
    (commutes :
      ∀ state event,
        project (step state event) = imageStep (project state) event)
    (state : State)
    (events : List Event) :
    project (run step state events) =
      run imageStep (project state) events := by
  induction events generalizing state with
  | nil =>
      rfl
  | cons event rest inductionHypothesis =>
      rw [run_cons, run_cons, inductionHypothesis, commutes]

/--
Two step functions keep their states related, if they do so at every event
that is admissible in the first of the two.
-/
theorem run_related_along
    {Other : Type}
    {otherStep : Other → Event → Other}
    {admissible : State → Event → Prop}
    (related : State → Other → Prop)
    (preserved :
      ∀ state other event, admissible state event →
        related state other →
          related (step state event) (otherStep other event))
    {state : State}
    {other : Other}
    (initial : related state other)
    {events : List Event}
    (along : Along step admissible state events) :
    related (run step state events) (run otherStep other events) := by
  induction events generalizing state other with
  | nil =>
      exact initial
  | cons event rest inductionHypothesis =>
      exact inductionHypothesis
        (preserved state other event along.1 initial) along.2

/-- Two systems stay related over events that are related one by one. -/
theorem run_related_of_forall₂
    {Other OtherEvent : Type}
    {otherStep : Other → OtherEvent → Other}
    (related : State → Other → Prop)
    {alike : Event → OtherEvent → Prop}
    (preserved :
      ∀ state other event otherEvent,
        related state other → alike event otherEvent →
          related (step state event) (otherStep other otherEvent))
    {state : State}
    {other : Other}
    (initial : related state other)
    {events : List Event}
    {others : List OtherEvent}
    (pairs : List.Forall₂ alike events others) :
    related (run step state events) (run otherStep other others) := by
  induction pairs generalizing state other with
  | nil =>
      exact initial
  | cons pair _ inductionHypothesis =>
      exact inductionHypothesis (preserved _ _ _ _ initial pair)

section Trace

variable {Output : Type} {observe : State → Event → Output}

variable (step observe) in
/-- What each event of a run shows, in order. -/
def trace (state : State) : List Event → List Output
  | [] => []
  | event :: rest => observe state event :: trace (step state event) rest

/--
Two states show the same along all runs if a relation between them lets
every event show the same and survives it.
-/
theorem trace_eq_of_related
    {related : State → State → Prop}
    (shows :
      ∀ first second event, related first second →
        observe first event = observe second event)
    (preserved :
      ∀ first second event, related first second →
        related (step first event) (step second event))
    {first second : State}
    (initial : related first second)
    (events : List Event) :
    trace step observe first events = trace step observe second events := by
  induction events generalizing first second with
  | nil =>
      rfl
  | cons event rest inductionHypothesis =>
      rw [trace, trace, shows first second event initial,
        inductionHypothesis (preserved first second event initial)]

end Trace

end EventRun
