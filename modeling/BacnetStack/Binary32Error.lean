import BacnetStack.Binary32Rounding
import Mathlib.Algebra.Order.Floor.Ring
import Mathlib.Data.Rat.Floor
import Mathlib.Tactic.Linarith

/-!
# How far rounding goes

A rounded magnitude is at most half a unit in the last place away from what
was rounded, which is at most a part in `2 ^ 24` of it.  So a value that is
scaled by an integer and moved by another value stands for the exact result,
up to that part of it, as long as nothing overflows.
-/

namespace Binary32

/-- The number a finite value stands for. -/
def toRat (x : Binary32) : ℚ :=
  x.grid / 2 ^ 149

theorem abs_toRat (x : Binary32) :
    |x.toRat| = x.gridMagnitude / 2 ^ 149 := by
  have magnitude : |(x.grid : ℚ)| = x.gridMagnitude := by
    unfold grid
    split
    · push_cast
      rw [abs_neg, Nat.abs_cast]
    · push_cast
      rw [Nat.abs_cast]
  rw [toRat, abs_div, magnitude, abs_of_pos (by positivity)]

/-- A finite value is below zero where its number is. -/
theorem flt_zero_iff
    {x : Binary32}
    (finite : x.isFinite = true) :
    flt x zero = true ↔ x.toRat < 0 := by
  have zeroGrid : zero.grid = 0 := by decide
  have zeroNumber : zero.isNaN = false := by decide
  have unit : (0 : ℚ) < 2 ^ 149 := by positivity
  rw [flt, isNaN_of_isFinite finite, zeroNumber, zeroGrid, toRat,
    div_lt_iff₀ unit, zero_mul, Int.cast_lt_zero]
  exact decide_eq_true_iff

section Magnitude

variable (magnitude : Nat)

/-- Rounding moves a magnitude by at most half a unit in the last place. -/
theorem roundedMagnitude_near :
    2 * roundedMagnitude magnitude ≤
        2 * magnitude + 2 ^ roundingShift magnitude ∧
      2 * magnitude ≤
        2 * roundedMagnitude magnitude + 2 ^ roundingShift magnitude := by
  have parts :=
    Nat.div_add_mod' magnitude (2 ^ roundingShift magnitude)
  have below : magnitude % 2 ^ roundingShift magnitude <
      2 ^ roundingShift magnitude :=
    Nat.mod_lt _ (by positivity)
  unfold roundedMagnitude roundedSignificand
  dsimp only
  split
  · rename_i roundsUp
    rw [Nat.succ_mul (magnitude / 2 ^ roundingShift magnitude)]
    omega
  · omega

/-- A unit in the last place is a part in `2 ^ 23`, where it matters. -/
theorem roundingUnit_le :
    roundingShift magnitude = 0 ∨
      2 ^ 23 * 2 ^ roundingShift magnitude ≤ magnitude :=
  (quotient_bounds magnitude).1.imp_right
    (Nat.le_div_iff_mul_le (by positivity)).mp

/-- A magnitude that fits is not rounded. -/
theorem roundedMagnitude_of_unshifted
    (unshifted : roundingShift magnitude = 0) :
    roundedMagnitude magnitude = magnitude := by
  have near := roundedMagnitude_near magnitude
  rw [unshifted, pow_zero] at near
  omega

/-- The relative error of a rounded magnitude. -/
theorem roundedMagnitude_relative :
    2 ^ 24 * roundedMagnitude magnitude ≤ (2 ^ 24 + 1) * magnitude ∧
      2 ^ 24 * magnitude ≤
        2 ^ 24 * roundedMagnitude magnitude + magnitude := by
  rcases roundingUnit_le magnitude with unshifted | unit
  · rw [roundedMagnitude_of_unshifted magnitude unshifted]
    omega
  · have near := roundedMagnitude_near magnitude
    omega

end Magnitude

/-- The error of a magnitude that is rounded, moved and rounded again. -/
theorem abs_roundedMagnitude_add_sub_le (magnitude moved : Nat) :
    |(roundedMagnitude (roundedMagnitude magnitude + moved) : ℚ) -
        (magnitude + moved)| ≤
      ((1 + 1 / 2 ^ 24) ^ 2 - 1) * (magnitude + moved) := by
  obtain ⟨firstLe, firstGe⟩ := roundedMagnitude_relative magnitude
  obtain ⟨secondLe, secondGe⟩ :=
    roundedMagnitude_relative (roundedMagnitude magnitude + moved)
  have notNegative : (0 : ℚ) ≤ magnitude := Nat.cast_nonneg _
  have movedNotNegative : (0 : ℚ) ≤ moved := Nat.cast_nonneg _
  generalize roundedMagnitude (roundedMagnitude magnitude + moved) =
    result at *
  generalize roundedMagnitude magnitude = first at *
  have firstLe : (2 ^ 24 * first : ℚ) ≤ (2 ^ 24 + 1) * magnitude := by
    exact_mod_cast firstLe
  have firstGe : (2 ^ 24 * magnitude : ℚ) ≤ 2 ^ 24 * first + magnitude := by
    exact_mod_cast firstGe
  have secondLe :
      (2 ^ 24 * result : ℚ) ≤ (2 ^ 24 + 1) * (first + moved) := by
    exact_mod_cast secondLe
  have secondGe :
      (2 ^ 24 * (first + moved) : ℚ) ≤ 2 ^ 24 * result + (first + moved) := by
    exact_mod_cast secondGe
  rw [abs_le]
  constructor <;> linarith

/-- What a magnitude is rounded to, where it does not overflow. -/
theorem roundRatio_one_of_lt
    {magnitude : Nat}
    (fits : roundedMagnitude magnitude < kOverflow)
    (sign : Bool) :
    (roundRatio sign magnitude 1).isFinite = true ∧
      (roundRatio sign magnitude 1).negative = sign ∧
      (roundRatio sign magnitude 1).gridMagnitude =
        roundedMagnitude magnitude := by
  have small :
      ¬255 * 2 ^ 23 ≤
        roundingShift magnitude * 2 ^ 23 + roundedSignificand magnitude :=
    fun overflow =>
      absurd (overflow_le_roundedMagnitude overflow) (Nat.not_le.mpr fits)
  obtain ⟨normal, bounded⟩ := roundedSignificand_bounds magnitude
  rw [roundRatio_one, if_neg small]
  refine ⟨?_, negative_withSign_of_lt (by omega) sign, ?_⟩
  · rw [isFinite, magnitudeBits_withSign_of_lt (by omega)]
    exact decide_eq_true (Nat.not_le.mp small)
  · rw [gridMagnitude_eq, magnitudeBits_withSign_of_lt (by omega),
      patternMagnitude_shift normal bounded, roundedMagnitude]

theorem negative_roundRatio_one
    (sign : Bool)
    (magnitude : Nat) :
    (roundRatio sign magnitude 1).negative = sign := by
  rw [roundRatio_one]
  split
  · exact negative_withSign_of_lt (by decide) sign
  · exact negative_withSign_of_lt (by omega) sign

/-- A finite result is the rounded magnitude. -/
theorem gridMagnitude_of_isFinite_roundRatio
    {magnitude : Nat}
    {sign : Bool}
    (finite : (roundRatio sign magnitude 1).isFinite = true) :
    (roundRatio sign magnitude 1).gridMagnitude =
      roundedMagnitude magnitude := by
  rw [roundRatio_one] at finite ⊢
  split at finite
  · rw [infinity, isFinite,
      magnitudeBits_withSign_of_lt (by decide)] at finite
    exact absurd finite (by decide)
  · rename_i small
    obtain ⟨normal, bounded⟩ := roundedSignificand_bounds magnitude
    rw [if_neg small, gridMagnitude_eq,
      magnitudeBits_withSign_of_lt (by omega),
      patternMagnitude_shift normal bounded, roundedMagnitude]

/-- An integer number of steps may be rounded at any scale. -/
theorem roundRatio_mul
    {den : Nat}
    (positive : 0 < den)
    (sign : Bool)
    (magnitude : Nat) :
    roundRatio sign (magnitude * den) den = roundRatio sign magnitude 1 := by
  unfold roundRatio
  dsimp only
  rw [Nat.mul_div_cancel _ positive, Nat.div_one, Nat.one_mul]
  generalize 2 ^ (Nat.log2 magnitude - 23) = unit
  have quotient :
      magnitude * den / (den * unit) = magnitude / unit := by
    rw [Nat.mul_comm den unit, Nat.mul_div_mul_right _ _ positive]
  have remainder :
      magnitude * den % (den * unit) = magnitude % unit * den := by
    rw [Nat.mul_comm den unit, Nat.mul_mod_mul_right]
  have above :
      den * unit < 2 * (magnitude % unit * den) ↔
        unit < 2 * (magnitude % unit) := by
    rw [← Nat.mul_assoc, Nat.mul_comm den unit,
      Nat.mul_lt_mul_right positive]
  have tie :
      den * unit = 2 * (magnitude % unit * den) ↔
        unit = 2 * (magnitude % unit) := by
    rw [← Nat.mul_assoc, Nat.mul_comm den unit,
      Nat.mul_left_inj positive.ne']
  rw [quotient, remainder]
  simp only [above, tie]

section Operations

variable {x y : Binary32}

/-- Where there is no sign to lose, a value is its magnitude. -/
theorem grid_of_negative_imp
    (signless : x.negative = true → x.gridMagnitude = 0) :
    x.grid = x.gridMagnitude := by
  unfold grid
  split
  · rename_i negative
    rw [signless negative]
    rfl
  · rfl

/-- Scaling by an integer is one rounding. -/
theorem mul_of_integer
    (xFinite : x.isFinite = true)
    (yFinite : y.isFinite = true)
    {scale : Nat}
    (isScale : y.gridMagnitude = scale * 2 ^ 149) :
    mul x y =
      roundRatio (x.negative != y.negative) (x.gridMagnitude * scale) 1 := by
  unfold mul
  rw [isNaN_of_isFinite xFinite, isNaN_of_isFinite yFinite,
    isInfinite_of_isFinite xFinite, isInfinite_of_isFinite yFinite, isScale,
    ← Nat.mul_assoc]
  simp only [Bool.or_self, Bool.false_eq_true, if_false]
  rw [roundRatio_mul (by positivity)]

/-- So is moving a magnitude away from zero. -/
theorem add_of_magnitudes
    (xFinite : x.isFinite = true)
    (yFinite : y.isFinite = true)
    (xGrid : x.grid = x.gridMagnitude)
    (yGrid : y.grid = y.gridMagnitude)
    (moves : 0 < y.gridMagnitude) :
    add x y = roundRatio false (x.gridMagnitude + y.gridMagnitude) 1 := by
  have sum :
      (x.gridMagnitude : ℤ) + y.gridMagnitude =
        (x.gridMagnitude + y.gridMagnitude : Nat) :=
    (Nat.cast_add ..).symm
  have positive : 0 < x.gridMagnitude + y.gridMagnitude := by
    omega
  unfold add
  rw [isNaN_of_isFinite xFinite, isNaN_of_isFinite yFinite,
    isInfinite_of_isFinite xFinite, isInfinite_of_isFinite yFinite, xGrid,
    yGrid, sum, roundGrid, Int.natAbs_natCast, decide_eq_false (by omega)]
  simp only [Bool.or_self, Bool.false_eq_true, if_false]
  rw [if_neg (by omega)]

theorem isFinite_eq_false_iff :
    x.isFinite = false ↔ x.isNaN = true ∨ x.isInfinite = true := by
  unfold isFinite isNaN isInfinite
  rw [decide_eq_false_iff_not, decide_eq_true_iff, decide_eq_true_iff]
  omega

theorem isFinite_quietNaN : quietNaN.isFinite = false := by
  decide

theorem isFinite_infinity (sign : Bool) :
    (infinity sign).isFinite = false := by
  cases sign <;> decide

/-- What is not finite stays so when it is scaled by a finite value. -/
theorem isFinite_mul_eq_false
    (notFinite : x.isFinite = false)
    (yFinite : y.isFinite = true) :
    (mul x y).isFinite = false := by
  unfold mul
  rw [isNaN_of_isFinite yFinite, isInfinite_of_isFinite yFinite,
    Bool.or_false, Bool.or_false]
  dsimp only
  split
  · exact isFinite_quietNaN
  · rename_i number
    have infinite :=
      (isFinite_eq_false_iff.mp notFinite).resolve_left number
    rw [if_pos infinite]
    split
    · exact isFinite_quietNaN
    · exact isFinite_infinity _

/-- So does what is moved by a finite value. -/
theorem isFinite_add_eq_false
    (notFinite : x.isFinite = false)
    (yFinite : y.isFinite = true) :
    (add x y).isFinite = false := by
  unfold add
  rw [isNaN_of_isFinite yFinite, isInfinite_of_isFinite yFinite,
    Bool.or_false, Bool.false_and]
  split
  · exact isFinite_quietNaN
  · rename_i number
    have infinite :=
      (isFinite_eq_false_iff.mp notFinite).resolve_left number
    rw [if_pos infinite, if_neg (by decide)]
    exact notFinite

end Operations

/-- The conversion of a magnitude is defined below `2 ^ 32`. -/
theorem toUInt32?_of_magnitude
    {x : Binary32}
    (positive : x.negative = false) :
    x.toUInt32? =
      if x.isFinite = true ∧ x.gridMagnitude < 2 ^ 181 then
        some (UInt32.ofNat (x.gridMagnitude / 2 ^ 149))
      else
        none := by
  have limit :
      2 ^ 32 ≤ x.gridMagnitude / 2 ^ 149 ↔ ¬x.gridMagnitude < 2 ^ 181 := by
    rw [Nat.le_div_iff_mul_le (by positivity), ← pow_add, Nat.not_lt]
  unfold toUInt32?
  dsimp only
  rw [positive]
  by_cases finite : x.isFinite = true
  · rw [if_pos finite]
    by_cases small : x.gridMagnitude < 2 ^ 181
    · have defined :
          ¬(false = true ∧ x.gridMagnitude / 2 ^ 149 ≠ 0 ∨
            2 ^ 32 ≤ x.gridMagnitude / 2 ^ 149) := by
        rintro (⟨negative, -⟩ | large)
        · cases negative
        · exact limit.mp large small
      rw [if_neg defined, if_pos (And.intro finite small)]
    · rw [if_pos (.inr (limit.mpr small)), if_neg fun both => small both.2]
  · rw [if_neg finite, if_neg fun both => finite both.1]

theorem toUInt32?_of_not_isFinite
    {x : Binary32}
    (notFinite : x.isFinite = false) :
    x.toUInt32? = none := by
  unfold toUInt32?
  rw [if_neg (Bool.eq_false_iff.mp notFinite)]

end Binary32
