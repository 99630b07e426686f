import BacnetStack.Binary32Rounding

namespace BacnetStack

open Binary32

/-!
# Limits of an Analog Value

The limits map a value to a state with a hysteresis around the warning
limits.  The hysteresis moves a warning limit away from the normal range, so
a value between the two limits enters a warning and leaves it again.
-/

inductive BacnetAnalogValueLimitState where
  | normal
  | lowWarning
  | highWarning
  | lowFault
  | highFault
  | sensorFault
  deriving Repr, DecidableEq, Inhabited

structure BacnetAnalogValueLimitConfig where
  errorMinimum : Binary32 := zero
  warningMinimum : Binary32 := zero
  warningMaximum : Binary32 := zero
  errorMaximum : Binary32 := zero
  hysteresis : Binary32 := zero
  deriving Repr, DecidableEq, Inhabited

structure BacnetAnalogValueLimitResult where
  state : BacnetAnalogValueLimitState := .normal
  eventState : UInt8 := 0
  reliability : UInt8 := 0
  inAlarm : Bool := false
  fault : Bool := false
  deriving Repr, DecidableEq, Inhabited

def bacnetAnalogValueLimitConfigIsValid
    (config : BacnetAnalogValueLimitConfig) : Bool :=
  config.errorMinimum.isFinite && config.warningMinimum.isFinite &&
    config.warningMaximum.isFinite && config.errorMaximum.isFinite &&
    config.hysteresis.isFinite && fle zero config.hysteresis &&
    fle config.errorMinimum config.warningMinimum &&
    flt config.warningMinimum config.warningMaximum &&
    fle config.warningMaximum config.errorMaximum

namespace BacnetAnalogValueLimitState

/-- The states that widen the low warning limit. -/
def isLow (previous : BacnetAnalogValueLimitState) : Bool :=
  previous == .lowWarning || previous == .lowFault

/-- The states that widen the high warning limit. -/
def isHigh (previous : BacnetAnalogValueLimitState) : Bool :=
  previous == .highWarning || previous == .highFault

end BacnetAnalogValueLimitState

namespace BacnetAnalogValueLimitConfig

variable (config : BacnetAnalogValueLimitConfig)
  (previous : BacnetAnalogValueLimitState)

def lowWarning : Binary32 :=
  sub config.warningMinimum
    (if previous.isLow then config.hysteresis else zero)

def highWarning : Binary32 :=
  add config.warningMaximum
    (if previous.isHigh then config.hysteresis else zero)

end BacnetAnalogValueLimitConfig

def bacnetAnalogValueLimitEvaluate
    (value : Binary32)
    (sensorValid : Bool)
    (config : BacnetAnalogValueLimitConfig)
    (previous : BacnetAnalogValueLimitState := .normal) :
    BacnetAnalogValueLimitResult :=
  if !sensorValid || !value.isFinite then
    ⟨.sensorFault, 1, 1, false, true⟩
  else if flt value config.errorMinimum then
    ⟨.lowFault, 4, 3, false, true⟩
  else if flt config.errorMaximum value then
    ⟨.highFault, 3, 2, false, true⟩
  else if flt value (config.lowWarning previous) then
    ⟨.lowWarning, 4, 0, true, false⟩
  else if flt (config.highWarning previous) value then
    ⟨.highWarning, 3, 0, true, false⟩
  else
    {}

namespace BacnetAnalogValueLimitConfig

variable {config : BacnetAnalogValueLimitConfig}

/-- A valid configuration has finite limits in ascending order. -/
structure Ordered (config : BacnetAnalogValueLimitConfig) : Prop where
  errorMinimum : config.errorMinimum.isFinite = true
  warningMinimum : config.warningMinimum.isFinite = true
  warningMaximum : config.warningMaximum.isFinite = true
  errorMaximum : config.errorMaximum.isFinite = true
  hysteresis : config.hysteresis.isFinite = true
  notNegative : 0 ≤ config.hysteresis.grid
  low : config.errorMinimum.grid ≤ config.warningMinimum.grid
  apart : config.warningMinimum.grid < config.warningMaximum.grid
  high : config.warningMaximum.grid ≤ config.errorMaximum.grid

theorem ordered_of_valid
    (valid : bacnetAnalogValueLimitConfigIsValid config = true) :
    config.Ordered := by
  simp only [bacnetAnalogValueLimitConfigIsValid, Bool.and_eq_true, fle,
    flt, decide_eq_true_eq] at valid
  obtain ⟨⟨⟨⟨⟨⟨⟨⟨errorMinimum, warningMinimum⟩, warningMaximum⟩,
    errorMaximum⟩, hysteresis⟩, notNegative⟩, low⟩, apart⟩, high⟩ := valid
  exact ⟨errorMinimum, warningMinimum, warningMaximum, errorMaximum,
    hysteresis, notNegative.2, low.2, apart.2, high.2⟩

namespace Ordered

variable (ordered : config.Ordered)
  (previous : BacnetAnalogValueLimitState)

include ordered

/-- The summand of a limit is finite and not negative. -/
theorem widening (wide : Bool) :
    (if wide then config.hysteresis else zero).isFinite = true ∧
      0 ≤ (if wide then config.hysteresis else zero).grid := by
  cases wide with
  | true => exact ⟨ordered.hysteresis, ordered.notNegative⟩
  | false =>
      rw [if_neg Bool.false_ne_true]
      decide

/-- The low warning limit is only ever moved down. -/
theorem lowWarning_le :
    (config.lowWarning previous).isNaN = false ∧
      (config.lowWarning previous).grid ≤ config.warningMinimum.grid := by
  obtain ⟨finite, notNegative⟩ := ordered.widening previous.isLow
  refine ⟨(add_of_isFinite ordered.warningMinimum
    (isFinite_neg finite)).1, ?_⟩
  refine grid_add_le ordered.warningMinimum (isFinite_neg finite) ?_
  rw [grid_neg]
  omega

/-- The high warning limit is only ever moved up. -/
theorem le_highWarning :
    (config.highWarning previous).isNaN = false ∧
      config.warningMaximum.grid ≤ (config.highWarning previous).grid := by
  obtain ⟨finite, notNegative⟩ := ordered.widening previous.isHigh
  exact ⟨(add_of_isFinite ordered.warningMaximum finite).1,
    le_grid_add ordered.warningMaximum finite notNegative⟩

/-- Without hysteresis the low warning limit is the configured one. -/
theorem lowWarning_eq (notLow : previous.isLow = false) :
    (config.lowWarning previous).grid = config.warningMinimum.grid := by
  refine le_antisymm (ordered.lowWarning_le previous).2 ?_
  rw [lowWarning, notLow, if_neg Bool.false_ne_true]
  exact le_grid_add ordered.warningMinimum (by decide) (by decide)

/-- Without hysteresis the high warning limit is the configured one. -/
theorem highWarning_eq (notHigh : previous.isHigh = false) :
    (config.highWarning previous).grid = config.warningMaximum.grid := by
  refine le_antisymm ?_ (ordered.le_highWarning previous).2
  rw [highWarning, notHigh, if_neg Bool.false_ne_true]
  exact grid_add_le ordered.warningMaximum (by decide) (by decide)

/-- The state of a value that was measured. -/
theorem state_evaluate
    {value : Binary32}
    (finite : value.isFinite = true) :
    (bacnetAnalogValueLimitEvaluate value true config previous).state =
      if value.grid < config.errorMinimum.grid then .lowFault
      else if config.errorMaximum.grid < value.grid then .highFault
      else if value.grid < (config.lowWarning previous).grid then
        .lowWarning
      else if (config.highWarning previous).grid < value.grid then
        .highWarning
      else .normal := by
  unfold bacnetAnalogValueLimitEvaluate
  simp only [flt, finite, isNaN_of_isFinite finite,
    isNaN_of_isFinite ordered.errorMinimum,
    isNaN_of_isFinite ordered.errorMaximum,
    (ordered.lowWarning_le previous).1,
    (ordered.le_highWarning previous).1, Bool.not_true, Bool.not_false,
    Bool.or_self, Bool.true_and, Bool.false_eq_true, ↓reduceIte,
    decide_eq_true_eq]
  repeat' split
  all_goals rfl

/-- A low state moves the low warning limit, whichever it is. -/
theorem lowWarning_grid :
    (config.lowWarning previous).grid =
      if previous.isLow then (config.lowWarning .lowWarning).grid
      else config.warningMinimum.grid := by
  cases low : previous.isLow with
  | true =>
      rw [if_pos rfl, lowWarning, low]
      rfl
  | false => exact ordered.lowWarning_eq previous low

/-- A high state moves the high warning limit, whichever it is. -/
theorem highWarning_grid :
    (config.highWarning previous).grid =
      if previous.isHigh then (config.highWarning .highWarning).grid
      else config.warningMaximum.grid := by
  cases high : previous.isHigh with
  | true =>
      rw [if_pos rfl, highWarning, high]
      rfl
  | false => exact ordered.highWarning_eq previous high

end Ordered

/-- Evaluating the same value again from the resulting state keeps it. -/
def Settles
    (config : BacnetAnalogValueLimitConfig)
    (value : Binary32)
    (sensorValid : Bool)
    (previous : BacnetAnalogValueLimitState) : Prop :=
  (bacnetAnalogValueLimitEvaluate value sensorValid config
    (bacnetAnalogValueLimitEvaluate value sensorValid config
      previous).state).state =
    (bacnetAnalogValueLimitEvaluate value sensorValid config previous).state

/--
A value within the error limits is outside a warning limit, but not beyond
the limit that applies once the warning is active.
-/
structure WithinHysteresis
    (config : BacnetAnalogValueLimitConfig)
    (value : Binary32) : Prop where
  finite : value.isFinite = true
  noLowFault : fle config.errorMinimum value = true
  noHighFault : fle value config.errorMaximum = true
  outside :
    (flt value config.warningMinimum = true ∧
        fle (config.lowWarning .lowWarning) value = true) ∨
      (flt config.warningMaximum value = true ∧
        fle value (config.highWarning .highWarning) = true)

/-- The band of the hysteresis, as an order of the values. -/
theorem withinHysteresis_iff
    {value : Binary32}
    (ordered : config.Ordered)
    (finite : value.isFinite = true) :
    config.WithinHysteresis value ↔
      config.errorMinimum.grid ≤ value.grid ∧
        value.grid ≤ config.errorMaximum.grid ∧
        ((value.grid < config.warningMinimum.grid ∧
            (config.lowWarning .lowWarning).grid ≤ value.grid) ∨
          (config.warningMaximum.grid < value.grid ∧
            value.grid ≤ (config.highWarning .highWarning).grid)) := by
  have number := isNaN_of_isFinite finite
  have low := (ordered.lowWarning_le .lowWarning).1
  have high := (ordered.le_highWarning .highWarning).1
  have minima := And.intro (isNaN_of_isFinite ordered.errorMinimum)
    (isNaN_of_isFinite ordered.warningMinimum)
  have maxima := And.intro (isNaN_of_isFinite ordered.errorMaximum)
    (isNaN_of_isFinite ordered.warningMaximum)
  constructor
  · rintro ⟨_, noLowFault, noHighFault, outside⟩
    simpa [fle, flt, number, low, high, minima, maxima] using
      And.intro noLowFault (And.intro noHighFault outside)
  · rintro ⟨noLowFault, noHighFault, outside⟩
    exact ⟨finite, by simpa [fle, number, minima] using noLowFault,
      by simpa [fle, number, maxima] using noHighFault,
      by simpa [fle, flt, number, low, high, minima, maxima] using outside⟩

/-- A state that does not depend on the previous one is kept. -/
theorem settles_of_constant
    {value : Binary32}
    {sensorValid : Bool}
    (state : BacnetAnalogValueLimitState)
    (constant :
      ∀ previous,
        (bacnetAnalogValueLimitEvaluate value sensorValid config
          previous).state = state)
    (previous : BacnetAnalogValueLimitState) :
    config.Settles value sensorValid previous := by
  rw [Settles, constant, constant]

/-- A warning that is only raised where it is not active goes on and off. -/
theorem not_settles_of_alternating
    {value : Binary32}
    {sensorValid : Bool}
    (warning : BacnetAnalogValueLimitState)
    (isActive : BacnetAnalogValueLimitState → Bool)
    (active : isActive warning = true)
    (normal : isActive .normal = false)
    (alternating :
      ∀ previous,
        (bacnetAnalogValueLimitEvaluate value sensorValid config
          previous).state = if isActive previous then .normal else warning)
    (previous : BacnetAnalogValueLimitState) :
    ¬config.Settles value sensorValid previous := by
  have differ : warning ≠ .normal := by
    rintro rfl
    rw [active] at normal
    cases normal
  rw [Settles, alternating previous]
  cases isActive previous with
  | true =>
      rw [if_pos rfl, alternating, normal]
      exact differ
  | false =>
      rw [if_neg Bool.false_ne_true, alternating, active]
      exact differ.symm

section Regions

variable {value : Binary32}
  (ordered : config.Ordered)
  (finite : value.isFinite = true)
  (previous : BacnetAnalogValueLimitState)

include ordered finite

/-- Below the low warning limit, a value settles beyond the moved limit. -/
theorem settles_below_iff
    (noFault : config.errorMinimum.grid ≤ value.grid)
    (below : value.grid < config.warningMinimum.grid) :
    config.Settles value true previous ↔
      value.grid < (config.lowWarning .lowWarning).grid := by
  have moved := (ordered.lowWarning_le .lowWarning).2
  have apart := ordered.apart
  have high := ordered.high
  have state (other : BacnetAnalogValueLimitState) :
      (bacnetAnalogValueLimitEvaluate value true config other).state =
        if value.grid < (config.lowWarning other).grid then .lowWarning
        else .normal := by
    have above := (ordered.le_highWarning other).2
    rw [ordered.state_evaluate other finite, if_neg (by omega),
      if_neg (by omega)]
    split
    · rfl
    · rw [if_neg (by omega)]
  by_cases beyond : value.grid < (config.lowWarning .lowWarning).grid
  · refine iff_of_true
      (settles_of_constant .lowWarning (fun other => ?_) _) beyond
    rw [state, if_pos]
    rw [ordered.lowWarning_grid]
    split <;> omega
  · refine iff_of_false
      (not_settles_of_alternating .lowWarning
        BacnetAnalogValueLimitState.isLow rfl rfl (fun other => ?_) _) beyond
    rw [state, ordered.lowWarning_grid]
    cases other.isLow with
    | true => rw [if_pos rfl, if_neg beyond, if_pos rfl]
    | false =>
        rw [if_neg Bool.false_ne_true, if_pos below,
          if_neg Bool.false_ne_true]

/-- Above the high warning limit, a value settles beyond the moved limit. -/
theorem settles_above_iff
    (noFault : value.grid ≤ config.errorMaximum.grid)
    (above : config.warningMaximum.grid < value.grid) :
    config.Settles value true previous ↔
      (config.highWarning .highWarning).grid < value.grid := by
  have moved := (ordered.le_highWarning .highWarning).2
  have apart := ordered.apart
  have low := ordered.low
  have state (other : BacnetAnalogValueLimitState) :
      (bacnetAnalogValueLimitEvaluate value true config other).state =
        if (config.highWarning other).grid < value.grid then .highWarning
        else .normal := by
    have below := (ordered.lowWarning_le other).2
    rw [ordered.state_evaluate other finite, if_neg (by omega),
      if_neg (by omega), if_neg (by omega)]
  by_cases beyond : (config.highWarning .highWarning).grid < value.grid
  · refine iff_of_true
      (settles_of_constant .highWarning (fun other => ?_) _) beyond
    rw [state, if_pos]
    rw [ordered.highWarning_grid]
    split <;> omega
  · refine iff_of_false
      (not_settles_of_alternating .highWarning
        BacnetAnalogValueLimitState.isHigh rfl rfl (fun other => ?_) _) beyond
    rw [state, ordered.highWarning_grid]
    cases other.isHigh with
    | true => rw [if_pos rfl, if_neg beyond, if_pos rfl]
    | false =>
        rw [if_neg Bool.false_ne_true, if_pos above,
          if_neg Bool.false_ne_true]

/-- A value between the warning limits is normal. -/
theorem settles_between
    (notBelow : config.warningMinimum.grid ≤ value.grid)
    (notAbove : value.grid ≤ config.warningMaximum.grid) :
    config.Settles value true previous := by
  refine settles_of_constant .normal (fun other => ?_) previous
  have below := (ordered.lowWarning_le other).2
  have above := (ordered.le_highWarning other).2
  have low := ordered.low
  have high := ordered.high
  rw [ordered.state_evaluate other finite, if_neg (by omega),
    if_neg (by omega), if_neg (by omega), if_neg (by omega)]

/-- A value outside the error limits is a fault. -/
theorem settles_outside
    (outside :
      value.grid < config.errorMinimum.grid ∨
        config.errorMaximum.grid < value.grid) :
    config.Settles value true previous := by
  by_cases low : value.grid < config.errorMinimum.grid
  · refine settles_of_constant .lowFault (fun other => ?_) previous
    rw [ordered.state_evaluate other finite, if_pos low]
  · refine settles_of_constant .highFault (fun other => ?_) previous
    rw [ordered.state_evaluate other finite, if_neg low,
      if_pos (outside.resolve_left low)]

end Regions

/-- A constant value settles exactly outside the band of the hysteresis. -/
theorem settles_iff
    (valid : bacnetAnalogValueLimitConfigIsValid config = true)
    (value : Binary32)
    (sensorValid : Bool)
    (previous : BacnetAnalogValueLimitState) :
    config.Settles value sensorValid previous ↔
      ¬(sensorValid = true ∧ config.WithinHysteresis value) := by
  have ordered := ordered_of_valid valid
  by_cases measured : sensorValid = true ∧ value.isFinite = true
  · obtain ⟨rfl, finite⟩ := measured
    have low := ordered.low
    have apart := ordered.apart
    have high := ordered.high
    rw [withinHysteresis_iff ordered finite, eq_self, true_and]
    by_cases outside :
        value.grid < config.errorMinimum.grid ∨
          config.errorMaximum.grid < value.grid
    · exact iff_of_true
        (settles_outside ordered finite previous outside) (by omega)
    by_cases below : value.grid < config.warningMinimum.grid
    · rw [settles_below_iff ordered finite previous (by omega) below]
      omega
    by_cases above : config.warningMaximum.grid < value.grid
    · rw [settles_above_iff ordered finite previous (by omega) above]
      omega
    · exact iff_of_true
        (settles_between ordered finite previous (by omega) (by omega))
        (by omega)
  · have fault (state : BacnetAnalogValueLimitState) :
        (bacnetAnalogValueLimitEvaluate value sensorValid config
          state).state = .sensorFault := by
      rw [bacnetAnalogValueLimitEvaluate, if_pos]
      cases sensorValid with
      | false => rfl
      | true => simpa using measured
    refine iff_of_true (settles_of_constant .sensorFault fault _) ?_
    exact fun within => measured ⟨within.1, within.2.finite⟩

/-- Warnings below -5 and above 25 degrees, with half a degree to return. -/
def dewPointLimits : BacnetAnalogValueLimitConfig where
  errorMinimum := ⟨0xC2200000⟩
  warningMinimum := ⟨0xC0A00000⟩
  warningMaximum := ⟨0x41C80000⟩
  errorMaximum := ⟨0x42200000⟩
  hysteresis := ⟨0x3F000000⟩

/-- At a constant -5.25 degrees the low warning goes on and off. -/
theorem not_settles_dewPoint :
    ¬∀ (config : BacnetAnalogValueLimitConfig)
      (value : Binary32)
      (sensorValid : Bool)
      (previous : BacnetAnalogValueLimitState),
      bacnetAnalogValueLimitConfigIsValid config = true →
      config.Settles value sensorValid previous := by
  intro always
  have settled :=
    always dewPointLimits ⟨0xC0A80000⟩ true .normal (by decide)
  revert settled
  unfold Settles
  decide

/-- At a constant -6 degrees the low warning stays. -/
theorem settles_dewPoint :
    dewPointLimits.Settles ⟨0xC0C00000⟩ true .normal ↔
      ¬(true = true ∧ dewPointLimits.WithinHysteresis ⟨0xC0C00000⟩) :=
  settles_iff (by decide) _ _ _

end BacnetAnalogValueLimitConfig

end BacnetStack
