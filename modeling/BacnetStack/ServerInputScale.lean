import BacnetStack.ServerObjects
import BacnetStack.Binary32Order

namespace BacnetStack

open Binary32

/-!
# The scale of an Analog Input

A scale maps the raw values of an input to engineering values in single
precision, so every step of it rounds and may overflow.  The ranges may be
reversed, and so the values are compared on the way from the first to the
last one of a range.
-/

/-- A ratio that is cut off at its ends. -/
def clampedRatio (ratio : Binary32) : Binary32 :=
  if flt ratio .zero then
    .zero
  else if flt .one ratio then
    .one
  else
    ratio

/-- A ratio that is no number is not clamped. -/
theorem clampedRatio_of_isNaN
    {ratio : Binary32}
    (notNumber : ratio.isNaN = true) :
    clampedRatio ratio = ratio := by
  unfold clampedRatio flt
  simp only [notNumber, Bool.not_true, Bool.false_and, Bool.and_false,
    Bool.false_eq_true, ↓reduceIte]

section Clamped

variable {ratio : Binary32} (number : ratio.isNaN = false)

include number

/-- The clamp keeps a ratio between zero and one. -/
theorem grid_clampedRatio :
    (clampedRatio ratio).grid = max 0 (min ratio.grid one.grid) := by
  have zeroGrid : zero.grid = 0 := by decide
  have oneGrid : 0 < one.grid := by decide
  have below := flt_iff number (y := zero) (by decide)
  have above := @flt_iff one ratio (by decide) number
  rw [zeroGrid] at below
  unfold clampedRatio
  split
  · rename_i isBelow
    have negative := below.mp isBelow
    omega
  · rename_i notBelow
    rw [below] at notBelow
    split
    · rename_i isAbove
      have beyond := above.mp isAbove
      omega
    · rename_i notAbove
      rw [above] at notAbove
      omega

theorem isFinite_clampedRatio : (clampedRatio ratio).isFinite = true := by
  have isGrid := grid_clampedRatio number
  have oneFinite := @grid_of_isFinite one (by decide)
  have oneGrid : 0 < one.grid := by decide
  refine isFinite_of_grid ?_ (by omega) (by omega)
  unfold clampedRatio
  split
  · decide
  · split
    · decide
    · exact number

end Clamped

namespace BacnetLinearScale

variable (scale : BacnetLinearScale)

/-- How far a raw value lies between the raw limits. -/
def ratio (rawValue : Binary32) : Binary32 :=
  (rawValue.sub scale.rawMin).div (scale.rawMax.sub scale.rawMin)

/-- The value of a raw value before it is checked. -/
def scaled (rawValue : Binary32) : Binary32 :=
  scale.valueMin.add
    ((clampedRatio (scale.ratio rawValue)).mul
      (scale.valueMax.sub scale.valueMin))

/-- A value is given where the scale is valid and all is finite. -/
theorem apply_eq_some_iff
    {rawValue value : Binary32} :
    scale.apply rawValue = some value ↔
      scale.isValid = true ∧ rawValue.isFinite = true ∧
        (scale.scaled rawValue).isFinite = true ∧
        scale.scaled rawValue = value := by
  have isApply :
      scale.apply rawValue =
        if !scale.isValid || !rawValue.isFinite then
          none
        else if (scale.scaled rawValue).isFinite then
          some (scale.scaled rawValue)
        else
          none :=
    rfl
  rw [isApply]
  cases scale.isValid <;> cases rawValue.isFinite <;>
    cases (scale.scaled rawValue).isFinite <;> simp

/-- The ranges of a scale and their lengths are finite. -/
structure Usable : Prop where
  rawMin : scale.rawMin.isFinite = true
  rawMax : scale.rawMax.isFinite = true
  valueMin : scale.valueMin.isFinite = true
  valueMax : scale.valueMax.isFinite = true
  apart : scale.rawMin.grid ≠ scale.rawMax.grid
  rawSpan : (scale.rawMax.sub scale.rawMin).isFinite = true
  valueSpan : (scale.valueMax.sub scale.valueMin).isFinite = true

variable {scale}

/-- A scale is usable where it gives a value at the end of its range. -/
theorem usable_of_apply
    {high : Binary32}
    (last : scale.apply scale.rawMax = some high) :
    scale.Usable := by
  obtain ⟨valid, -, finite, -⟩ := scale.apply_eq_some_iff.mp last
  simp only [isValid, Bool.and_eq_true, Bool.not_eq_true'] at valid
  obtain ⟨⟨⟨⟨rawMin, rawMax⟩, valueMin⟩, valueMax⟩, differ⟩ := valid
  have productFinite :
      ((clampedRatio (scale.ratio scale.rawMax)).mul
        (scale.valueMax.sub scale.valueMin)).isFinite = true := by
    by_contra notFinite
    have unusable :=
      isFinite_add_right_eq_false valueMin (Bool.eq_false_iff.mpr notFinite)
    exact absurd finite (Bool.eq_false_iff.mp unusable)
  refine ⟨rawMin, rawMax, valueMin, valueMax, ?_, ?_, ?_⟩
  · intro same
    have equal : feq scale.rawMin scale.rawMax = true := by
      rw [feq, isNaN_of_isFinite rawMin, isNaN_of_isFinite rawMax]
      exact decide_eq_true same
    rw [equal] at differ
    cases differ
  · refine isFinite_of_isNaN (isNaN_sub rawMax rawMin) fun infinite => ?_
    have notNumber := isNaN_div_infinite infinite infinite
    rw [ratio, clampedRatio_of_isNaN notNumber,
      mul_of_isNaN notNumber, isFinite_quietNaN] at productFinite
    cases productFinite
  · refine isFinite_of_isNaN (isNaN_sub valueMax valueMin)
      fun infinite => ?_
    exact absurd productFinite
      (Bool.eq_false_iff.mp (isFinite_mul_infinite infinite))

/-- The place of a raw value in its range, from zero to one. -/
def place (scale : BacnetLinearScale) (rawValue : Binary32) : Int :=
  (clampedRatio (scale.ratio rawValue)).grid

/-- The value at a place, as a number of grid steps. -/
def valueAt (scale : BacnetLinearScale) (place : Int) : Int :=
  roundedFraction
    (scale.valueMin.grid +
      roundedFraction
        (place * (scale.valueMax.sub scale.valueMin).grid) (2 ^ 149))
    1

namespace Usable

variable (usable : scale.Usable)

include usable

/-- The length of the raw range has the direction of the range. -/
theorem rawSpan_sign :
    (scale.rawMax.sub scale.rawMin).grid.sign =
      (scale.rawMax.grid - scale.rawMin.grid).sign := by
  rw [grid_sub usable.rawMax usable.rawMin]
  rcases lt_or_gt_of_ne usable.apart with rising | falling
  · have positive := @roundedFraction_pos
      (scale.rawMax.grid - scale.rawMin.grid) (by omega)
    rw [Int.sign_eq_one_iff_pos.mpr positive,
      Int.sign_eq_one_iff_pos.mpr (by omega)]
  · have positive := @roundedFraction_pos
      (-(scale.rawMax.grid - scale.rawMin.grid)) (by omega)
    rw [roundedFraction_neg] at positive
    rw [Int.sign_eq_neg_one_iff_neg.mpr (by omega),
      Int.sign_eq_neg_one_iff_neg.mpr (by omega)]

/-- The raw limits of a valid scale differ after rounding as well. -/
theorem rawSpan_ne_zero : (scale.rawMax.sub scale.rawMin).grid ≠ 0 := by
  intro isZero
  have isSign := usable.rawSpan_sign
  rw [isZero, Int.sign_zero] at isSign
  have same := Int.sign_eq_zero_iff_zero.mp isSign.symm
  exact usable.apart (by omega)

section Raw

variable {rawValue : Binary32} (finite : rawValue.isFinite = true)

include finite

theorem isNaN_ratio : (scale.ratio rawValue).isNaN = false :=
  isNaN_div (isNaN_sub finite usable.rawMin) usable.rawSpan
    usable.rawSpan_ne_zero

/-- The place of the ratio on the grid. -/
theorem grid_ratio :
    (scale.ratio rawValue).grid =
      dividedGrid (scale.rawMax.sub scale.rawMin).grid.natAbs
        (roundedFraction (rawValue.grid - scale.rawMin.grid) 1 *
          (scale.rawMax.grid - scale.rawMin.grid).sign) := by
  rw [ratio,
    grid_div (isNaN_sub finite usable.rawMin) usable.rawSpan
      usable.rawSpan_ne_zero,
    grid_sub finite usable.rawMin, usable.rawSpan_sign]

theorem place_eq :
    scale.place rawValue =
      max 0 (min (scale.ratio rawValue).grid one.grid) :=
  grid_clampedRatio (usable.isNaN_ratio finite)

/-- The clamped ratio lies between zero and one. -/
theorem place_bounds :
    0 ≤ scale.place rawValue ∧ scale.place rawValue ≤ one.grid := by
  have oneGrid : 0 < one.grid := by decide
  rw [usable.place_eq finite]
  omega

end Raw

/-- The place does not go back while the raw value moves on. -/
theorem place_mono
    {rawValue other : Binary32}
    (finite : rawValue.isFinite = true)
    (otherFinite : other.isFinite = true)
    (ordered : Toward scale.rawMin scale.rawMax rawValue other) :
    scale.place rawValue ≤ scale.place other := by
  rw [toward_iff usable.rawMin usable.rawMax finite otherFinite] at ordered
  have ratios :
      (scale.ratio rawValue).grid ≤ (scale.ratio other).grid := by
    rw [usable.grid_ratio finite, usable.grid_ratio otherFinite]
    apply dividedGrid_mono
    rcases lt_or_gt_of_ne usable.apart with rising | falling
    · have moved := ordered.1 rising.le
      have rounded :=
        roundedFraction_mono 1 (Int.sub_le_sub_right moved scale.rawMin.grid)
      rw [Int.sign_eq_one_iff_pos.mpr (by omega)]
      exact mul_le_mul_of_nonneg_right rounded (by decide)
    · have moved := ordered.2 falling.le
      have rounded :=
        roundedFraction_mono 1 (Int.sub_le_sub_right moved scale.rawMin.grid)
      rw [Int.sign_eq_neg_one_iff_neg.mpr (by omega)]
      exact mul_le_mul_of_nonpos_right rounded (by decide)
  rw [usable.place_eq finite, usable.place_eq otherFinite]
  omega

/-- The first raw limit has the ratio zero. -/
theorem place_rawMin : scale.place scale.rawMin = 0 := by
  have oneGrid : 0 < one.grid := by decide
  have overflow := kOverflow_pos
  rw [usable.place_eq usable.rawMin, usable.grid_ratio usable.rawMin,
    Int.sub_self, roundedFraction_zero, Int.zero_mul, dividedGrid,
    if_neg (by omega), if_neg (by omega), Int.zero_mul,
    roundedFraction_zero]
  omega

/-- The last raw limit has the ratio one. -/
theorem place_rawMax : scale.place scale.rawMax = one.grid := by
  have oneGrid : one.grid = 2 ^ 149 := by decide
  have isSpan := grid_sub usable.rawMax usable.rawMin
  have bounds := grid_of_isFinite usable.rawSpan
  have nonzero := usable.rawSpan_ne_zero
  have isOne : (scale.ratio scale.rawMax).grid = one.grid := by
    rw [usable.grid_ratio usable.rawMax, ← isSpan, ← usable.rawSpan_sign,
      Int.mul_sign_self, dividedGrid, if_neg (by omega), if_neg (by omega),
      Int.mul_comm, roundedFraction_mul _ (by omega), ← oneGrid]
    exact roundedFraction_grid (by decide)
  rw [usable.place_eq usable.rawMax, isOne]
  omega

theorem valueSpan_nonneg (rising : scale.valueMin.grid ≤ scale.valueMax.grid) :
    0 ≤ (scale.valueMax.sub scale.valueMin).grid := by
  have rounded :
      roundedFraction 0 1 ≤
        roundedFraction (scale.valueMax.grid - scale.valueMin.grid) 1 :=
    roundedFraction_mono 1 (by omega)
  rwa [grid_sub usable.valueMax usable.valueMin, ← roundedFraction_zero 1]

theorem valueSpan_nonpos
    (falling : scale.valueMax.grid ≤ scale.valueMin.grid) :
    (scale.valueMax.sub scale.valueMin).grid ≤ 0 := by
  have rounded :
      roundedFraction (scale.valueMax.grid - scale.valueMin.grid) 1 ≤
        roundedFraction 0 1 :=
    roundedFraction_mono 1 (by omega)
  rwa [grid_sub usable.valueMax usable.valueMin, ← roundedFraction_zero 1]

/-- The ratio zero gives the first limit. -/
theorem valueAt_zero : scale.valueAt 0 = scale.valueMin.grid := by
  rw [valueAt, Int.zero_mul, roundedFraction_zero, Int.add_zero,
    roundedFraction_grid usable.valueMin]

/-- The share of the length of the value range is not past its end. -/
theorem share_one :
    roundedFraction
        (one.grid * (scale.valueMax.sub scale.valueMin).grid) (2 ^ 149) =
      (scale.valueMax.sub scale.valueMin).grid := by
  have oneGrid : one.grid = (2 ^ 149 : Nat) := by decide
  rw [oneGrid, Int.mul_comm, roundedFraction_mul _ (by positivity),
    roundedFraction_grid usable.valueSpan]

/-- The share of the span lies between nothing and the span. -/
theorem share_bounds
    {place : Int}
    (low : 0 ≤ place)
    (high : place ≤ one.grid) :
    min 0 (scale.valueMax.sub scale.valueMin).grid ≤
        roundedFraction
          (place * (scale.valueMax.sub scale.valueMin).grid) (2 ^ 149) ∧
      roundedFraction
          (place * (scale.valueMax.sub scale.valueMin).grid) (2 ^ 149) ≤
        max 0 (scale.valueMax.sub scale.valueMin).grid := by
  have atEnd := usable.share_one
  have atStart :
      roundedFraction
          (0 * (scale.valueMax.sub scale.valueMin).grid) (2 ^ 149) = 0 := by
    rw [Int.zero_mul, roundedFraction_zero]
  have shares := roundedFraction_mono (2 ^ 149)
  rcases le_total 0 (scale.valueMax.sub scale.valueMin).grid
    with rising | falling
  · have above := shares (mul_le_mul_of_nonneg_right low rising)
    have below := shares (mul_le_mul_of_nonneg_right high rising)
    dsimp only at above below
    omega
  · have above := shares (mul_le_mul_of_nonpos_right high falling)
    have below := shares (mul_le_mul_of_nonpos_right low falling)
    dsimp only at above below
    omega

/-- A later place has a later value. -/
theorem valueAt_mono
    {before after : Int}
    (ordered : before ≤ after) :
    (scale.valueMin.grid ≤ scale.valueMax.grid →
        scale.valueAt before ≤ scale.valueAt after) ∧
      (scale.valueMax.grid ≤ scale.valueMin.grid →
        scale.valueAt after ≤ scale.valueAt before) := by
  constructor
  · intro rising
    have products :=
      mul_le_mul_of_nonneg_right ordered (usable.valueSpan_nonneg rising)
    exact roundedFraction_mono 1
      (Int.add_le_add_left (roundedFraction_mono _ products) _)
  · intro falling
    have products :=
      mul_le_mul_of_nonpos_right ordered (usable.valueSpan_nonpos falling)
    exact roundedFraction_mono 1
      (Int.add_le_add_left (roundedFraction_mono _ products) _)

section Raw

variable {rawValue : Binary32} (finite : rawValue.isFinite = true)

include finite

/-- The share of a place is between nothing and the whole length. -/
theorem isFinite_share :
    ((clampedRatio (scale.ratio rawValue)).mul
      (scale.valueMax.sub scale.valueMin)).isFinite = true := by
  have clampedFinite :=
    isFinite_clampedRatio (usable.isNaN_ratio finite)
  have isShare := grid_mul clampedFinite usable.valueSpan
  have bounds := grid_of_isFinite usable.valueSpan
  have overflow := kOverflow_pos
  obtain ⟨low, high⟩ := usable.place_bounds finite
  obtain ⟨above, below⟩ := usable.share_bounds low high
  rw [place, ← isShare] at above below
  exact isFinite_of_grid (isNaN_mul clampedFinite usable.valueSpan)
    (by omega) (by omega)

theorem isNaN_scaled : (scale.scaled rawValue).isNaN = false :=
  (add_of_isFinite usable.valueMin (usable.isFinite_share finite)).1

/-- The scaled value is that of the clamped ratio. -/
theorem grid_scaled :
    (scale.scaled rawValue).grid = scale.valueAt (scale.place rawValue) := by
  rw [scaled, grid_add usable.valueMin (usable.isFinite_share finite),
    grid_mul (isFinite_clampedRatio (usable.isNaN_ratio finite))
      usable.valueSpan]
  rfl

end Raw

/-- The value of the last raw value is that of the last place. -/
theorem valueAt_one
    {high : Binary32}
    (last : scale.apply scale.rawMax = some high) :
    high.isFinite = true ∧ high.grid = scale.valueAt one.grid := by
  obtain ⟨-, -, highFinite, rfl⟩ := scale.apply_eq_some_iff.mp last
  refine ⟨highFinite, ?_⟩
  rw [usable.grid_scaled usable.rawMax, usable.place_rawMax]

end Usable

/-- How a scale maps the raw values, where `high` ends its values. -/
structure Interpolates
    (scale : BacnetLinearScale)
    (high : Binary32) : Prop where
  /-- Every finite raw value has a value, between the ends. -/
  between :
    ∀ rawValue : Binary32,
      rawValue.isFinite = true →
        ∃ value,
          scale.apply rawValue = some value ∧
            Toward scale.valueMin scale.valueMax scale.valueMin value ∧
            Toward scale.valueMin scale.valueMax value high
  /-- Raw values in the order of their range have values in order. -/
  ordered :
    ∀ rawValue other value otherValue : Binary32,
      Toward scale.rawMin scale.rawMax rawValue other →
        scale.apply rawValue = some value →
        scale.apply other = some otherValue →
        Toward scale.valueMin scale.valueMax value otherValue
  /-- Up to the first raw value there is the first value. -/
  before :
    ∀ rawValue value : Binary32,
      Toward scale.rawMin scale.rawMax rawValue scale.rawMin →
        scale.apply rawValue = some value →
        feq value scale.valueMin = true
  /-- From the last raw value on there is the last value. -/
  after :
    ∀ rawValue value : Binary32,
      Toward scale.rawMin scale.rawMax scale.rawMax rawValue →
        scale.apply rawValue = some value →
        feq value high = true

/--
A scale that gives a value at the end of its raw range gives every finite raw
value one, between the ends and in order, and beyond the range the values of
the ends.
-/
theorem apply_interpolates
    {high : Binary32}
    (last : scale.apply scale.rawMax = some high) :
    scale.Interpolates high := by
  have usable := usable_of_apply last
  obtain ⟨highFinite, isHigh⟩ := usable.valueAt_one last
  obtain ⟨valid, -, -, -⟩ := scale.apply_eq_some_iff.mp last
  have valueOf
      {rawValue value : Binary32}
      (applied : scale.apply rawValue = some value) :
      rawValue.isFinite = true ∧ value.isFinite = true ∧
        value.grid = scale.valueAt (scale.place rawValue) := by
    obtain ⟨-, finite, valueFinite, rfl⟩ :=
      scale.apply_eq_some_iff.mp applied
    exact ⟨finite, valueFinite, usable.grid_scaled finite⟩
  refine ⟨?_, ?_, ?_, ?_⟩
  · intro rawValue finite
    obtain ⟨low, high⟩ := usable.place_bounds finite
    have fromStart := usable.valueAt_mono low
    have toEnd := usable.valueAt_mono high
    rw [usable.valueAt_zero, ← usable.grid_scaled finite] at fromStart
    rw [← isHigh, ← usable.grid_scaled finite] at toEnd
    have scaledFinite : (scale.scaled rawValue).isFinite = true := by
      have startBounds := grid_of_isFinite usable.valueMin
      have endBounds := grid_of_isFinite highFinite
      refine isFinite_of_grid (usable.isNaN_scaled finite) ?_ ?_
      all_goals omega
    refine ⟨scale.scaled rawValue,
      scale.apply_eq_some_iff.mpr ⟨valid, finite, scaledFinite, rfl⟩, ?_, ?_⟩
    · exact (toward_iff usable.valueMin usable.valueMax usable.valueMin
        scaledFinite).mpr fromStart
    · exact (toward_iff usable.valueMin usable.valueMax scaledFinite
        highFinite).mpr toEnd
  · intro rawValue other value otherValue ordered applied otherApplied
    obtain ⟨finite, valueFinite, isValue⟩ := valueOf applied
    obtain ⟨otherFinite, otherValueFinite, isOther⟩ := valueOf otherApplied
    have moves :=
      usable.valueAt_mono (usable.place_mono finite otherFinite ordered)
    rw [← isValue, ← isOther] at moves
    exact (toward_iff usable.valueMin usable.valueMax valueFinite
      otherValueFinite).mpr moves
  · intro rawValue value early applied
    obtain ⟨finite, valueFinite, isValue⟩ := valueOf applied
    have places := usable.place_mono finite usable.rawMin early
    rw [usable.place_rawMin] at places
    have isStart : scale.place rawValue = 0 :=
      le_antisymm places (usable.place_bounds finite).1
    rw [feq_iff (isNaN_of_isFinite valueFinite)
      (isNaN_of_isFinite usable.valueMin), isValue, isStart,
      usable.valueAt_zero]
  · intro rawValue value late applied
    obtain ⟨finite, valueFinite, isValue⟩ := valueOf applied
    have places := usable.place_mono usable.rawMax finite late
    rw [usable.place_rawMax] at places
    have isEnd : scale.place rawValue = one.grid :=
      le_antisymm (usable.place_bounds finite).2 places
    rw [feq_iff (isNaN_of_isFinite valueFinite)
      (isNaN_of_isFinite highFinite), isValue, isEnd, isHigh]

/-- A reversed range, from four to twenty, onto a hundred to zero. -/
theorem apply_interpolates_reversed :
    (⟨⟨0x41A00000⟩, ⟨0x40800000⟩, zero, ⟨0x42C80000⟩⟩ :
      BacnetLinearScale).Interpolates ⟨0x42C80000⟩ :=
  apply_interpolates (by decide)

end BacnetLinearScale

end BacnetStack
