import BacnetStack.Binary32Error
import Mathlib.Data.Int.ConditionallyCompleteOrder

/-!
# Operations and the order

Rounding a fraction does not reverse the order of the numerators, also where
the significand carries into the exponent or a value overflows.  An infinity
reads as the first magnitude past the finite ones, so sums, products and
quotients keep the order of the values they are made of.
-/

namespace Binary32

/-- The integer nearest to a fraction, ties to even. -/
def roundedQuotient (num unit : Nat) : Nat :=
  if unit < 2 * (num % unit) ∨
      (unit = 2 * (num % unit) ∧ num / unit % 2 = 1) then
    num / unit + 1
  else
    num / unit

/-- The pattern a fraction is rounded to where the exponent has no bound. -/
def ratioPattern (num den : Nat) : Nat :=
  roundingShift (num / den) * 2 ^ 23 +
    roundedQuotient num (den * 2 ^ roundingShift (num / den))

/-- The magnitude a fraction is rounded to. -/
def roundedRatio (num den : Nat) : Nat :=
  patternMagnitude (min (ratioPattern num den) (255 * 2 ^ 23))

/-- A rounded quotient is its pattern, or an infinity. -/
theorem roundRatio_eq
    (sign : Bool)
    (num den : Nat) :
    roundRatio sign num den =
      withSign sign (min (ratioPattern num den) (255 * 2 ^ 23)) := by
  have isPattern :
      roundRatio sign num den =
        if 255 * 2 ^ 23 ≤ ratioPattern num den then
          infinity sign
        else
          withSign sign (ratioPattern num den) :=
    rfl
  rw [isPattern]
  split
  · rename_i overflow
    rw [min_eq_right overflow]
    rfl
  · rename_i fits
    rw [min_eq_left (Nat.not_le.mp fits).le]

/-- Its place on the grid. -/
theorem grid_roundRatio
    (sign : Bool)
    (num den : Nat) :
    (roundRatio sign num den).grid =
      if sign then -(roundedRatio num den : Int) else roundedRatio num den := by
  have small : min (ratioPattern num den) (255 * 2 ^ 23) < 2 ^ 31 :=
    (min_le_right _ _).trans_lt (by decide)
  rw [roundRatio_eq, grid_withSign_of_lt small]
  rfl

/-- It is a number. -/
theorem isNaN_roundRatio
    (sign : Bool)
    (num den : Nat) :
    (roundRatio sign num den).isNaN = false := by
  have notNaN : min (ratioPattern num den) (255 * 2 ^ 23) ≤ 255 * 2 ^ 23 :=
    min_le_right _ _
  rw [roundRatio_eq, isNaN, magnitudeBits_withSign_of_lt (by omega)]
  exact decide_eq_false (Nat.not_lt.mpr notNaN)

/-- A quotient is rounded to a neighbour. -/
theorem roundedQuotient_bounds (num unit : Nat) :
    num / unit ≤ roundedQuotient num unit ∧
      roundedQuotient num unit ≤ num / unit + 1 := by
  unfold roundedQuotient
  split
  · exact ⟨Nat.le_succ _, le_rfl⟩
  · exact ⟨le_rfl, Nat.le_succ _⟩

/-- The nearest integer does not decrease with the numerator. -/
theorem roundedQuotient_mono (unit : Nat) :
    Monotone (roundedQuotient · unit) := by
  intro low high less
  rcases (Nat.div_le_div_right less : low / unit ≤ high / unit).eq_or_lt
    with same | smaller
  · have lowParts := Nat.div_add_mod low unit
    have highParts := Nat.div_add_mod high unit
    rw [same] at lowParts
    have remainders : low % unit ≤ high % unit := by omega
    dsimp only
    unfold roundedQuotient
    rw [same]
    split
    · rename_i roundsUp
      rw [if_pos]
      omega
    · split
      · exact Nat.le_succ _
      · exact le_rfl
  · calc roundedQuotient low unit
        ≤ low / unit + 1 := (roundedQuotient_bounds low unit).2
      _ ≤ high / unit := smaller
      _ ≤ roundedQuotient high unit := (roundedQuotient_bounds high unit).1

/-- The significand of a fraction has 24 bits, or it was not shifted. -/
theorem roundedQuotient_significand (num den : Nat) :
    (roundingShift (num / den) = 0 ∨
        2 ^ 23 ≤
          roundedQuotient num (den * 2 ^ roundingShift (num / den))) ∧
      roundedQuotient num (den * 2 ^ roundingShift (num / den)) ≤
        2 ^ 24 := by
  obtain ⟨normal, bounded⟩ := quotient_bounds (num / den)
  rw [Nat.div_div_eq_div_mul] at normal bounded
  obtain ⟨low, high⟩ :=
    roundedQuotient_bounds num (den * 2 ^ roundingShift (num / den))
  exact ⟨normal.imp_right low.trans', high.trans bounded⟩

/-- A larger number is not rounded more finely. -/
theorem roundingShift_mono : Monotone roundingShift := by
  intro low high less
  unfold roundingShift
  rw [Nat.log2_eq_log_two, Nat.log2_eq_log_two]
  exact Nat.sub_le_sub_right (Nat.log_mono_right less) 23

/-- A carry into the exponent is not past the next exponent. -/
theorem ratioPattern_mono (den : Nat) :
    Monotone (ratioPattern · den) := by
  intro low high less
  have shifts := roundingShift_mono (Nat.div_le_div_right (c := den) less)
  dsimp only
  unfold ratioPattern
  rcases shifts.eq_or_lt with same | smaller
  · rw [same]
    exact Nat.add_le_add_left (roundedQuotient_mono _ less) _
  · have carried := (roundedQuotient_significand low den).2
    have normal :=
      (roundedQuotient_significand high den).1.resolve_left
        (Nat.ne_zero_of_lt smaller)
    omega

/-- Rounding keeps the order of numerators. -/
theorem roundedRatio_mono (den : Nat) :
    Monotone (roundedRatio · den) := by
  intro low high less
  exact patternMagnitude_strictMono.monotone
    (min_le_min_right _ (ratioPattern_mono den less))

theorem roundedRatio_zero (den : Nat) : roundedRatio 0 den = 0 := by
  have pattern : ratioPattern 0 den = 0 := by
    have bounds :=
      roundedQuotient_bounds 0 (den * 2 ^ roundingShift (0 / den))
    unfold ratioPattern roundedQuotient
    rw [Nat.zero_div, Nat.zero_div, Nat.zero_mod]
    have shift : roundingShift 0 = 0 := by decide
    rw [shift]
    split
    · omega
    · rfl
  rw [roundedRatio, pattern]
  rfl

theorem patternMagnitude_overflow :
    patternMagnitude (255 * 2 ^ 23) = kOverflow := by
  have field : 255 * 2 ^ 23 / 2 ^ 23 - 1 = 254 := by decide
  have fraction : 255 * 2 ^ 23 % 2 ^ 23 = 0 := by decide
  rw [patternMagnitude, if_neg (by decide), field, fraction, kOverflow,
    Nat.add_zero]

/-- Nothing is rounded beyond the overflow. -/
theorem roundedRatio_le (num den : Nat) :
    roundedRatio num den ≤ kOverflow := by
  rw [← patternMagnitude_overflow]
  exact patternMagnitude_strictMono.monotone (min_le_right _ _)

/-- What a fraction is rounded to, as a number of grid steps. -/
def roundedFraction (num : Int) (den : Nat) : Int :=
  if num < 0 then -(roundedRatio num.natAbs den : Int)
  else roundedRatio num.natAbs den

/-- Rounding keeps the order, signs included. -/
theorem roundedFraction_mono (den : Nat) :
    Monotone (roundedFraction · den) := by
  intro low high less
  dsimp only
  unfold roundedFraction
  split
  · rename_i lowNegative
    split
    · have magnitudes :=
        @roundedRatio_mono den high.natAbs low.natAbs (by omega)
      dsimp only at magnitudes
      omega
    · omega
  · rw [if_neg (by omega)]
    have magnitudes :=
      @roundedRatio_mono den low.natAbs high.natAbs (by omega)
    dsimp only at magnitudes
    omega

theorem roundedFraction_zero (den : Nat) : roundedFraction 0 den = 0 := by
  rw [roundedFraction, if_neg (lt_irrefl 0), Int.natAbs_zero,
    roundedRatio_zero]
  rfl

/-- Rounding does not look at the sign. -/
theorem roundedFraction_neg
    (num : Int)
    (den : Nat) :
    roundedFraction (-num) den = -roundedFraction num den := by
  rcases lt_trichotomy num 0 with negative | rfl | positive
  · rw [roundedFraction, roundedFraction, if_neg (by omega),
      if_pos negative, Int.natAbs_neg, neg_neg]
  · rw [neg_zero, roundedFraction_zero, neg_zero]
  · rw [roundedFraction, roundedFraction, if_pos (by omega),
      if_neg (by omega), Int.natAbs_neg]

/-- A sign may be given apart from the fraction where that is not zero. -/
theorem grid_roundRatio_natAbs
    {sign : Bool}
    {num : Int}
    (signed : num ≠ 0 → sign = decide (num < 0))
    (den : Nat) :
    (roundRatio sign num.natAbs den).grid = roundedFraction num den := by
  rw [grid_roundRatio]
  rcases eq_or_ne num 0 with rfl | nonzero
  · rw [roundedFraction_zero, Int.natAbs_zero, roundedRatio_zero]
    cases sign <;> rfl
  · rw [signed nonzero, roundedFraction]
    simp only [decide_eq_true_eq]

/-- The distance from zero on the grid. -/
theorem natAbs_grid (x : Binary32) : x.grid.natAbs = x.gridMagnitude := by
  unfold grid
  split
  · rw [Int.natAbs_neg, Int.natAbs_natCast]
  · exact Int.natAbs_natCast _

/-- The sign of a value that is not zero is that of its grid value. -/
theorem negative_of_grid
    {x : Binary32}
    (nonzero : x.grid ≠ 0) :
    x.negative = decide (x.grid < 0) := by
  revert nonzero
  unfold grid
  cases x.negative with
  | true =>
      intro nonzero
      rw [if_pos rfl] at nonzero ⊢
      exact (decide_eq_true (by omega)).symm
  | false =>
      intro nonzero
      rw [if_neg Bool.false_ne_true]
      exact (decide_eq_false (by omega)).symm

/-- An infinity is past the finite values, on the side of its sign. -/
theorem grid_of_isInfinite
    {x : Binary32}
    (infinite : x.isInfinite = true) :
    x.grid = if x.negative then -(kOverflow : Int) else kOverflow := by
  rw [grid, gridMagnitude_eq, of_decide_eq_true infinite,
    patternMagnitude_overflow]

/-- An infinity lies at the overflow. -/
theorem grid_infinity (sign : Bool) :
    (infinity sign).grid = if sign then -(kOverflow : Int) else kOverflow := by
  rw [infinity, grid_withSign_of_lt (by decide), patternMagnitude_overflow]

/-- A finite value is strictly between the infinities. -/
theorem grid_of_isFinite
    {x : Binary32}
    (finite : x.isFinite = true) :
    -(kOverflow : Int) < x.grid ∧ x.grid < kOverflow := by
  have below := gridMagnitude_lt_of_isFinite finite
  rw [← natAbs_grid] at below
  omega

/-- Values of different signs have a negative product. -/
theorem decide_mul_neg
    {first second : Int}
    (nonzero : first * second ≠ 0) :
    (decide (first < 0) != decide (second < 0)) =
      decide (first * second < 0) := by
  rcases lt_or_gt_of_ne (left_ne_zero_of_mul nonzero) with below | above <;>
    rcases lt_or_gt_of_ne (right_ne_zero_of_mul nonzero)
      with otherBelow | otherAbove
  · rw [decide_eq_true below, decide_eq_true otherBelow,
      decide_eq_false (mul_pos_of_neg_of_neg below otherBelow).not_gt]
    rfl
  · rw [decide_eq_true below, decide_eq_false otherAbove.not_gt,
      decide_eq_true (mul_neg_of_neg_of_pos below otherAbove)]
    rfl
  · rw [decide_eq_false above.not_gt, decide_eq_true otherBelow,
      decide_eq_true (mul_neg_of_pos_of_neg above otherBelow)]
    rfl
  · rw [decide_eq_false above.not_gt, decide_eq_false otherAbove.not_gt,
      decide_eq_false (mul_pos above otherAbove).not_gt]
    rfl

/-- The sign of a product or a quotient. -/
theorem negative_bne_negative
    {left right : Binary32}
    (nonzero : left.grid * right.grid ≠ 0) :
    (left.negative != right.negative) =
      decide (left.grid * right.grid < 0) := by
  rw [negative_of_grid (left_ne_zero_of_mul nonzero),
    negative_of_grid (right_ne_zero_of_mul nonzero),
    decide_mul_neg nonzero]

theorem isNaN_infinity (sign : Bool) : (infinity sign).isNaN = false := by
  cases sign <;> decide

section Finite

variable {left right : Binary32}
  (leftFinite : left.isFinite = true)
  (rightFinite : right.isFinite = true)

include leftFinite rightFinite

/-- A sum is the rounded sum of the places. -/
theorem grid_add :
    (add left right).grid = roundedFraction (left.grid + right.grid) 1 := by
  obtain ⟨-, isSum | ⟨isZero, sum⟩⟩ := add_of_isFinite leftFinite rightFinite
  · rw [isSum, roundGrid]
    exact grid_roundRatio_natAbs (fun _ => rfl) 1
  · rw [isZero, sum, roundedFraction_zero]

/-- A difference is the rounded difference of the places. -/
theorem grid_sub :
    (sub left right).grid = roundedFraction (left.grid - right.grid) 1 := by
  rw [sub, grid_add leftFinite (isFinite_neg rightFinite), grid_neg,
    ← sub_eq_add_neg]

theorem isNaN_sub : (sub left right).isNaN = false :=
  (add_of_isFinite leftFinite (isFinite_neg rightFinite)).1

/-- A product is the rounded product of the places. -/
theorem grid_mul :
    (mul left right).grid =
      roundedFraction (left.grid * right.grid) (2 ^ 149) := by
  unfold mul
  rw [isNaN_of_isFinite leftFinite, isNaN_of_isFinite rightFinite,
    isInfinite_of_isFinite leftFinite, isInfinite_of_isFinite rightFinite]
  simp only [Bool.or_self, Bool.false_eq_true, ↓reduceIte]
  rw [← natAbs_grid, ← natAbs_grid, ← Int.natAbs_mul]
  exact grid_roundRatio_natAbs negative_bne_negative _

theorem isNaN_mul : (mul left right).isNaN = false := by
  unfold mul
  rw [isNaN_of_isFinite leftFinite, isNaN_of_isFinite rightFinite,
    isInfinite_of_isFinite leftFinite, isInfinite_of_isFinite rightFinite]
  simp only [Bool.or_self, Bool.false_eq_true, ↓reduceIte]
  exact isNaN_roundRatio _ _ _

end Finite

/-- A quotient with an infinite numerator is infinite. -/
def dividedGrid (den : Nat) (num : Int) : Int :=
  if num ≤ -(kOverflow : Int) then
    -(kOverflow : Int)
  else if (kOverflow : Int) ≤ num then
    kOverflow
  else
    roundedFraction (num * 2 ^ 149) den

theorem abs_roundedFraction_le
    (num : Int)
    (den : Nat) :
    -(kOverflow : Int) ≤ roundedFraction num den ∧
      roundedFraction num den ≤ kOverflow := by
  have bounded := roundedRatio_le num.natAbs den
  unfold roundedFraction
  split <;> omega

theorem dividedGrid_mono (den : Nat) : Monotone (dividedGrid den) := by
  intro low high less
  have lowBounds := abs_roundedFraction_le (low * 2 ^ 149) den
  have highBounds := abs_roundedFraction_le (high * 2 ^ 149) den
  have rounded :
      roundedFraction (low * 2 ^ 149) den ≤
        roundedFraction (high * 2 ^ 149) den :=
    roundedFraction_mono den (by omega)
  unfold dividedGrid
  split_ifs <;> omega

/-- The sign of a quotient with a numerator that is not zero. -/
theorem negative_div
    {left right : Binary32}
    (leftNonzero : left.grid ≠ 0)
    (rightNonzero : right.grid ≠ 0) :
    (left.negative != right.negative) =
      decide (left.grid * right.grid.sign < 0) := by
  have isProduct : left.grid * right.grid.sign ≠ 0 :=
    mul_ne_zero leftNonzero (mt Int.sign_eq_zero_iff_zero.mp rightNonzero)
  have sameSign : right.grid < 0 ↔ right.grid.sign < 0 :=
    Int.sign_neg_iff.symm
  rw [negative_of_grid leftNonzero, negative_of_grid rightNonzero,
    ← decide_mul_neg isProduct, decide_eq_decide.mpr sameSign]

theorem kOverflow_pos : (0 : Int) < kOverflow := by
  have positive : 0 < kOverflow := by decide
  exact Int.natCast_pos.mpr positive

/-- A number that is not infinite is finite. -/
theorem isFinite_of_isNaN
    {x : Binary32}
    (number : x.isNaN = false)
    (notInfinite : ¬x.isInfinite = true) :
    x.isFinite = true := by
  by_contra notFinite
  rcases isFinite_eq_false_iff.mp (Bool.eq_false_iff.mpr notFinite)
    with notNumber | infinite
  · rw [number] at notNumber
    cases notNumber
  · exact notInfinite infinite

section Quotient

variable {left right : Binary32}
  (leftNumber : left.isNaN = false)
  (rightFinite : right.isFinite = true)
  (nonzero : right.grid ≠ 0)

include leftNumber rightFinite nonzero

theorem isNaN_div : (div left right).isNaN = false := by
  have divides : right.gridMagnitude ≠ 0 := by
    rw [← natAbs_grid]
    omega
  unfold div
  rw [leftNumber, isNaN_of_isFinite rightFinite,
    isInfinite_of_isFinite rightFinite]
  simp only [Bool.or_self, Bool.false_eq_true, ↓reduceIte, if_neg divides]
  split
  · exact isNaN_infinity _
  · exact isNaN_roundRatio _ _ _

/-- A quotient is the rounded quotient of the places. -/
theorem grid_div :
    (div left right).grid =
      dividedGrid right.grid.natAbs (left.grid * right.grid.sign) := by
  have divides : right.gridMagnitude ≠ 0 := by
    rw [← natAbs_grid]
    omega
  have overflow := kOverflow_pos
  unfold div
  rw [leftNumber, isNaN_of_isFinite rightFinite,
    isInfinite_of_isFinite rightFinite]
  simp only [Bool.or_self, Bool.false_eq_true, ↓reduceIte, if_neg divides]
  split
  · rename_i infinite
    have isGrid := grid_of_isInfinite infinite
    have leftNonzero : left.grid ≠ 0 := by
      split at isGrid <;> omega
    rw [grid_infinity, negative_div leftNonzero nonzero, dividedGrid]
    rcases lt_or_gt_of_ne nonzero with below | above
    · rw [Int.sign_eq_neg_one_iff_neg.mpr below]
      split at isGrid <;> simp only [decide_eq_true_eq] <;> split_ifs <;> omega
    · rw [Int.sign_eq_one_iff_pos.mpr above]
      split at isGrid <;> simp only [decide_eq_true_eq] <;> split_ifs <;> omega
  · rename_i notInfinite
    have leftFinite := isFinite_of_isNaN leftNumber notInfinite
    have bounded := grid_of_isFinite leftFinite
    have magnitude :
        left.gridMagnitude * 2 ^ 149 =
          (left.grid * right.grid.sign * 2 ^ 149).natAbs := by
      rw [Int.natAbs_mul, Int.natAbs_mul, natAbs_grid,
        Int.natAbs_sign_of_ne_zero nonzero, Nat.mul_one]
      rfl
    have signed
        (isProduct : left.grid * right.grid.sign * 2 ^ 149 ≠ 0) :
        (left.negative != right.negative) =
          decide (left.grid * right.grid.sign * 2 ^ 149 < 0) := by
      have leftNonzero :=
        left_ne_zero_of_mul (left_ne_zero_of_mul isProduct)
      rw [negative_div leftNonzero nonzero]
      exact decide_eq_decide.mpr (by omega)
    rw [magnitude, ← natAbs_grid, grid_roundRatio_natAbs signed,
      dividedGrid]
    rcases lt_or_gt_of_ne nonzero with below | above
    · rw [Int.sign_eq_neg_one_iff_neg.mpr below, if_neg (by omega),
        if_neg (by omega)]
    · rw [Int.sign_eq_one_iff_pos.mpr above, if_neg (by omega),
        if_neg (by omega)]

end Quotient

/-- A finite value is not rounded. -/
theorem roundedFraction_grid
    {x : Binary32}
    (finite : x.isFinite = true) :
    roundedFraction x.grid 1 = x.grid := by
  have isRounded : (roundGrid x.grid).grid = roundedFraction x.grid 1 :=
    grid_roundRatio_natAbs (fun _ => rfl) 1
  rw [← isRounded]
  exact le_antisymm (grid_roundGrid_le finite le_rfl)
    (le_grid_roundGrid finite le_rfl)

/-- A fraction that is an integer is rounded as one. -/
theorem roundedFraction_mul
    (num : Int)
    {den : Nat}
    (positive : 0 < den) :
    roundedFraction (num * den) den = roundedFraction num 1 := by
  have signed : num * den < 0 ↔ num < 0 := by
    refine ⟨fun below => ?_, fun below =>
      mul_neg_of_neg_of_pos below (Int.natCast_pos.mpr positive)⟩
    by_contra notBelow
    have product : 0 ≤ num * den :=
      mul_nonneg (not_lt.mp notBelow) (Int.natCast_nonneg den)
    exact product.not_gt below
  have unscaled :
      (roundRatio (decide (num < 0)) num.natAbs 1).grid =
        roundedFraction num 1 :=
    grid_roundRatio_natAbs (fun _ => rfl) 1
  have scaled :
      (roundRatio (decide (num * den < 0)) (num * den).natAbs den).grid =
        roundedFraction (num * den) den :=
    grid_roundRatio_natAbs (fun _ => rfl) den
  rw [← scaled, ← unscaled, Int.natAbs_mul, Int.natAbs_natCast,
    roundRatio_mul positive, decide_eq_decide.mpr signed]

/-- Rounding to the grid does not make anything vanish. -/
theorem roundedFraction_pos
    {num : Int}
    (positive : 0 < num) :
    0 < roundedFraction num 1 := by
  have least : roundedFraction 1 1 = 1 :=
    @roundedFraction_grid ⟨1⟩ (by decide)
  have rounded : roundedFraction 1 1 ≤ roundedFraction num 1 :=
    roundedFraction_mono 1 (by omega)
  omega

/-- A number is finite where it is between the infinities. -/
theorem isFinite_of_grid
    {x : Binary32}
    (number : x.isNaN = false)
    (above : -(kOverflow : Int) < x.grid)
    (below : x.grid < kOverflow) :
    x.isFinite = true := by
  refine isFinite_of_isNaN number fun infinite => ?_
  have isGrid := grid_of_isInfinite infinite
  split at isGrid <;> omega

theorem mul_of_isNaN
    {left : Binary32}
    (notNumber : left.isNaN = true)
    (right : Binary32) :
    mul left right = quietNaN := by
  rw [mul, notNumber]
  rfl

/-- A finite value times an infinity is not finite. -/
theorem isFinite_mul_infinite
    {left right : Binary32}
    (infinite : right.isInfinite = true) :
    (mul left right).isFinite = false := by
  unfold mul
  rw [infinite, Bool.or_true]
  dsimp only
  split
  · exact isFinite_quietNaN
  · rw [if_pos rfl]
    split
    · exact isFinite_quietNaN
    · exact isFinite_infinity _

/-- A finite value does not make a sum finite. -/
theorem isFinite_add_right_eq_false
    {left right : Binary32}
    (leftFinite : left.isFinite = true)
    (notFinite : right.isFinite = false) :
    (add left right).isFinite = false := by
  unfold add
  rw [isNaN_of_isFinite leftFinite, isInfinite_of_isFinite leftFinite,
    Bool.false_or]
  split
  · exact isFinite_quietNaN
  · rename_i number
    have infinite := (isFinite_eq_false_iff.mp notFinite).resolve_left number
    rw [if_neg Bool.false_ne_true, if_pos infinite]
    exact notFinite

/-- Dividing infinities gives no number. -/
theorem isNaN_div_infinite
    {left right : Binary32}
    (leftInfinite : left.isInfinite = true)
    (rightInfinite : right.isInfinite = true) :
    (div left right).isNaN = true := by
  unfold div
  rw [leftInfinite, rightInfinite]
  dsimp only
  split
  · decide
  · rw [if_pos rfl, if_pos rfl]
    decide

/-- Numbers are equal where their places are. -/
theorem feq_iff
    {x y : Binary32}
    (xNumber : x.isNaN = false)
    (yNumber : y.isNaN = false) :
    feq x y = true ↔ x.grid = y.grid := by
  rw [feq, xNumber, yNumber]
  exact decide_eq_true_iff

/-- The order of numbers is that of their places. -/
theorem fle_iff
    {x y : Binary32}
    (xNumber : x.isNaN = false)
    (yNumber : y.isNaN = false) :
    fle x y = true ↔ x.grid ≤ y.grid := by
  rw [fle, xNumber, yNumber]
  exact decide_eq_true_iff

/-- And so is the strict order. -/
theorem flt_iff
    {x y : Binary32}
    (xNumber : x.isNaN = false)
    (yNumber : y.isNaN = false) :
    flt x y = true ↔ x.grid < y.grid := by
  rw [flt, xNumber, yNumber]
  exact decide_eq_true_iff

/-- On the way from the first to the last value, `x` is not after `y`. -/
def Toward (first last x y : Binary32) : Prop :=
  (fle first last = true → fle x y = true) ∧
    (fle last first = true → fle y x = true)

theorem toward_iff
    {first last x y : Binary32}
    (firstFinite : first.isFinite = true)
    (lastFinite : last.isFinite = true)
    (xFinite : x.isFinite = true)
    (yFinite : y.isFinite = true) :
    Toward first last x y ↔
      (first.grid ≤ last.grid → x.grid ≤ y.grid) ∧
        (last.grid ≤ first.grid → y.grid ≤ x.grid) := by
  have firstNumber := isNaN_of_isFinite firstFinite
  have lastNumber := isNaN_of_isFinite lastFinite
  have xNumber := isNaN_of_isFinite xFinite
  have yNumber := isNaN_of_isFinite yFinite
  rw [Toward, fle_iff firstNumber lastNumber, fle_iff xNumber yNumber,
    fle_iff lastNumber firstNumber, fle_iff yNumber xNumber]

end Binary32
