import BacnetStack.Binary32
import Mathlib.Tactic.NormNum
import Mathlib.Tactic.Positivity
import Mathlib.Tactic.Ring

/-!
# Rounding keeps the order

Rounding never crosses a representable value.  So a sum of finite values with
a non-negative summand is not below the other one, whatever is lost in the
rounding, and subtracting a zero changes nothing.
-/

namespace Binary32

/-- The magnitude a pattern without a sign stands for. -/
def patternMagnitude (pattern : Nat) : Nat :=
  if pattern / 2 ^ 23 = 0 then
    pattern % 2 ^ 23
  else
    (2 ^ 23 + pattern % 2 ^ 23) * 2 ^ (pattern / 2 ^ 23 - 1)

theorem gridMagnitude_eq (x : Binary32) :
    x.gridMagnitude = patternMagnitude x.magnitudeBits :=
  rfl

section Pattern

variable {pattern : Nat} (small : pattern < 2 ^ 31)

include small

theorem magnitudeBits_withSign_of_lt (sign : Bool) :
    (withSign sign pattern).magnitudeBits = pattern := by
  cases sign <;>
    simp only [withSign, magnitudeBits, UInt32.toNat_ofNat',
      Bool.false_eq_true, ↓reduceIte] <;>
    omega

theorem negative_withSign_of_lt (sign : Bool) :
    (withSign sign pattern).negative = sign := by
  cases sign <;>
    simp only [withSign, negative, UInt32.toNat_ofNat',
      Bool.false_eq_true, ↓reduceIte, decide_eq_true_eq,
      decide_eq_false_iff_not] <;>
    omega

theorem grid_withSign_of_lt (sign : Bool) :
    (withSign sign pattern).grid =
      if sign then -(patternMagnitude pattern : Int)
      else patternMagnitude pattern := by
  rw [grid, negative_withSign_of_lt small, gridMagnitude_eq,
    magnitudeBits_withSign_of_lt small]

end Pattern

/-- The pattern of a shifted significand; a carry moves into the exponent. -/
theorem patternMagnitude_shift
    {shift rounded : Nat}
    (normal : shift = 0 ∨ 2 ^ 23 ≤ rounded)
    (bounded : rounded ≤ 2 ^ 24) :
    patternMagnitude (shift * 2 ^ 23 + rounded) = rounded * 2 ^ shift := by
  unfold patternMagnitude
  by_cases subnormal : rounded < 2 ^ 23
  · obtain rfl := normal.resolve_right (Nat.not_le.mpr subnormal)
    rw [if_pos (by omega), pow_zero]
    omega
  · rw [if_neg (by omega)]
    by_cases carry : rounded = 2 ^ 24
    · have field :
          (shift * 2 ^ 23 + rounded) / 2 ^ 23 - 1 = shift + 1 := by
        omega
      have fraction : (shift * 2 ^ 23 + rounded) % 2 ^ 23 = 0 := by
        omega
      rw [field, fraction, carry, pow_succ]
      ring
    · have field : (shift * 2 ^ 23 + rounded) / 2 ^ 23 - 1 = shift := by
        omega
      have fraction :
          2 ^ 23 + (shift * 2 ^ 23 + rounded) % 2 ^ 23 = rounded := by
        omega
      rw [field, fraction]

/-- A magnitude with 24 significant bits. -/
def IsRepresentable (magnitude : Nat) : Prop :=
  ∃ significand exponent,
    significand < 2 ^ 24 ∧ magnitude = significand * 2 ^ exponent

theorem isRepresentable_gridMagnitude (x : Binary32) :
    IsRepresentable x.gridMagnitude := by
  have fraction : x.fractionField < 2 ^ 23 := Nat.mod_lt _ (by decide)
  unfold gridMagnitude
  split
  · exact ⟨x.fractionField, 0, by omega, by rw [pow_zero, Nat.mul_one]⟩
  · exact ⟨2 ^ 23 + x.fractionField, _, by omega, rfl⟩

/-- The magnitude of an infinity. -/
def kOverflow : Nat := 2 ^ 23 * 2 ^ 254

/-- Finite magnitudes are below that of an infinity. -/
theorem gridMagnitude_lt_of_isFinite
    {x : Binary32}
    (finite : x.isFinite = true) :
    x.gridMagnitude < kOverflow := by
  have below : x.magnitudeBits < 255 * 2 ^ 23 := of_decide_eq_true finite
  have field : x.exponentField ≤ 254 := by
    unfold exponentField
    omega
  have fraction : x.fractionField < 2 ^ 23 := Nat.mod_lt _ (by decide)
  unfold gridMagnitude
  split
  · refine fraction.trans_le ?_
    exact Nat.le_mul_of_pos_right _ (by positivity)
  · calc
      (2 ^ 23 + x.fractionField) * 2 ^ (x.exponentField - 1)
          < 2 ^ 24 * 2 ^ (x.exponentField - 1) :=
            Nat.mul_lt_mul_of_pos_right (by omega) (by positivity)
      _ ≤ 2 ^ 24 * 2 ^ 253 :=
            Nat.mul_le_mul_left _
              (Nat.pow_le_pow_right (by decide) (by omega))
      _ = kOverflow := by rw [kOverflow, ← pow_add, ← pow_add]

/-- How far a magnitude is shifted to have 24 significant bits. -/
def roundingShift (magnitude : Nat) : Nat :=
  Nat.log2 magnitude - 23

/-- The significand a magnitude is rounded to, ties to even. -/
def roundedSignificand (magnitude : Nat) : Nat :=
  let scaled := 2 ^ roundingShift magnitude
  let quotient := magnitude / scaled
  let remainder := magnitude % scaled
  if scaled < 2 * remainder ∨
      (scaled = 2 * remainder ∧ quotient % 2 = 1) then
    quotient + 1
  else
    quotient

/-- What a magnitude is rounded to where the exponent has no bound. -/
def roundedMagnitude (magnitude : Nat) : Nat :=
  roundedSignificand magnitude * 2 ^ roundingShift magnitude

theorem roundRatio_one
    (sign : Bool)
    (magnitude : Nat) :
    roundRatio sign magnitude 1 =
      if 255 * 2 ^ 23 ≤
          roundingShift magnitude * 2 ^ 23 + roundedSignificand magnitude
      then
        infinity sign
      else
        withSign sign
          (roundingShift magnitude * 2 ^ 23 +
            roundedSignificand magnitude) := by
  unfold roundRatio roundedSignificand roundingShift
  dsimp only
  rw [Nat.div_one, Nat.one_mul]

/-- The shifted magnitude has 24 bits, or it was not shifted. -/
theorem quotient_bounds (magnitude : Nat) :
    (roundingShift magnitude = 0 ∨
        2 ^ 23 ≤ magnitude / 2 ^ roundingShift magnitude) ∧
      magnitude / 2 ^ roundingShift magnitude < 2 ^ 24 := by
  unfold roundingShift
  have upper : magnitude < 2 ^ (Nat.log2 magnitude + 1) := Nat.lt_log2_self
  by_cases short : Nat.log2 magnitude ≤ 23
  · rw [Nat.sub_eq_zero_of_le short, pow_zero, Nat.div_one]
    refine ⟨.inl rfl, upper.trans_le ?_⟩
    exact Nat.pow_le_pow_right (by decide) (by omega)
  · have nonzero : magnitude ≠ 0 := by
      rintro rfl
      exact short (by decide)
    have lower : 2 ^ Nat.log2 magnitude ≤ magnitude :=
      Nat.log2_self_le nonzero
    obtain ⟨shift, isShift⟩ : ∃ shift, Nat.log2 magnitude = 23 + shift :=
      ⟨Nat.log2 magnitude - 23, by omega⟩
    rw [isShift, Nat.add_sub_cancel_left]
    rw [isShift, pow_add] at lower
    rw [isShift, show 23 + shift + 1 = 24 + shift by omega,
      pow_add] at upper
    exact ⟨.inr ((Nat.le_div_iff_mul_le (by positivity)).mpr lower),
      (Nat.div_lt_iff_lt_mul (by positivity)).mpr upper⟩

theorem roundedSignificand_bounds (magnitude : Nat) :
    (roundingShift magnitude = 0 ∨
        2 ^ 23 ≤ roundedSignificand magnitude) ∧
      roundedSignificand magnitude ≤ 2 ^ 24 := by
  have bounds := quotient_bounds magnitude
  unfold roundedSignificand
  dsimp only
  split
  · exact ⟨bounds.1.imp_right fun low => low.trans (Nat.le_succ _), bounds.2⟩
  · exact ⟨bounds.1, bounds.2.le⟩

/-- Rounding down at most takes the remainder away. -/
theorem quotient_mul_le_roundedMagnitude (magnitude : Nat) :
    magnitude / 2 ^ roundingShift magnitude * 2 ^ roundingShift magnitude ≤
      roundedMagnitude magnitude := by
  unfold roundedMagnitude roundedSignificand
  refine Nat.mul_le_mul_right _ ?_
  dsimp only
  split
  · exact Nat.le_succ _
  · exact le_rfl

/--
A representable magnitude is a multiple of the rounding unit, or it has too
few bits to matter.
-/
theorem representable_cases
    {magnitude other : Nat}
    (representable : IsRepresentable other) :
    (∃ steps, other = steps * 2 ^ roundingShift magnitude) ∨
      (roundingShift magnitude ≠ 0 ∧
        other < 2 ^ 23 * 2 ^ roundingShift magnitude) := by
  obtain ⟨significand, exponent, small, rfl⟩ := representable
  by_cases coarse : roundingShift magnitude ≤ exponent
  · refine .inl
      ⟨significand * 2 ^ (exponent - roundingShift magnitude), ?_⟩
    rw [Nat.mul_assoc, ← pow_add, Nat.sub_add_cancel coarse]
  · refine .inr ⟨by omega, ?_⟩
    have power : 2 ^ 24 * 2 ^ exponent ≤
        2 ^ 23 * 2 ^ roundingShift magnitude := by
      rw [← pow_add, ← pow_add]
      exact Nat.pow_le_pow_right (by decide) (by omega)
    exact (Nat.mul_lt_mul_of_pos_right small (by positivity)).trans_le power

/-- Rounding does not fall below a representable magnitude. -/
theorem le_roundedMagnitude
    {magnitude other : Nat}
    (representable : IsRepresentable other)
    (below : other ≤ magnitude) :
    other ≤ roundedMagnitude magnitude := by
  refine le_trans ?_ (quotient_mul_le_roundedMagnitude magnitude)
  rcases @representable_cases magnitude other representable
    with ⟨steps, rfl⟩ | ⟨shifted, small⟩
  · exact Nat.mul_le_mul_right _
      ((Nat.le_div_iff_mul_le (by positivity)).mpr below)
  · have low := (quotient_bounds magnitude).1.resolve_left shifted
    exact small.le.trans (Nat.mul_le_mul_right _ low)

/-- Rounding does not rise above a representable magnitude. -/
theorem roundedMagnitude_le
    {magnitude other : Nat}
    (representable : IsRepresentable other)
    (above : magnitude ≤ other) :
    roundedMagnitude magnitude ≤ other := by
  have parts :=
    Nat.div_add_mod' magnitude (2 ^ roundingShift magnitude)
  rcases @representable_cases magnitude other representable
    with ⟨steps, rfl⟩ | ⟨shifted, small⟩
  · unfold roundedMagnitude
    refine Nat.mul_le_mul_right _ ?_
    unfold roundedSignificand
    dsimp only
    split
    · rename_i roundsUp
      have rest : 0 < magnitude % 2 ^ roundingShift magnitude := by
        have unit : 0 < 2 ^ roundingShift magnitude := by positivity
        omega
      have strictly :
          magnitude / 2 ^ roundingShift magnitude *
              2 ^ roundingShift magnitude <
            steps * 2 ^ roundingShift magnitude := by
        omega
      exact Nat.lt_of_mul_lt_mul_right strictly
    · exact Nat.le_of_mul_le_mul_right
        (le_trans (by omega) above) (by positivity)
  · have low := (quotient_bounds magnitude).1.resolve_left shifted
    have least := Nat.mul_le_mul_right (2 ^ roundingShift magnitude) low
    omega

/-- An infinity stands for a magnitude past the finite ones. -/
theorem overflow_le_roundedMagnitude
    {magnitude : Nat}
    (overflow :
      255 * 2 ^ 23 ≤
        roundingShift magnitude * 2 ^ 23 + roundedSignificand magnitude) :
    kOverflow ≤ roundedMagnitude magnitude := by
  obtain ⟨normal, bounded⟩ := roundedSignificand_bounds magnitude
  unfold roundedMagnitude
  have low : 2 ^ 23 ≤ roundedSignificand magnitude := by
    omega
  by_cases largest : roundingShift magnitude ≤ 253
  · have isShift : roundingShift magnitude = 253 := by omega
    have isFull : roundedSignificand magnitude = 2 ^ 24 := by omega
    rw [isShift, isFull, kOverflow, ← pow_add, ← pow_add]
  · calc
      kOverflow = 2 ^ 23 * 2 ^ 254 := rfl
      _ ≤ roundedSignificand magnitude * 2 ^ roundingShift magnitude :=
          Nat.mul_le_mul low
            (Nat.pow_le_pow_right (by decide) (by omega))

/-- The magnitude of a rounded value, unless it overflows. -/
theorem grid_roundRatio_one
    (sign : Bool)
    (magnitude : Nat) :
    ∃ rounded : Nat,
      (roundRatio sign magnitude 1).grid =
          (if sign then -(rounded : Int) else rounded) ∧
        (rounded = roundedMagnitude magnitude ∨
          (rounded = kOverflow ∧
            kOverflow ≤ roundedMagnitude magnitude)) := by
  rw [roundRatio_one]
  split
  · rename_i overflow
    refine ⟨kOverflow, ?_, .inr
      ⟨rfl, overflow_le_roundedMagnitude overflow⟩⟩
    rw [infinity, grid_withSign_of_lt (by decide)]
    have isOverflow : patternMagnitude (255 * 2 ^ 23) = kOverflow := by
      have field : 255 * 2 ^ 23 / 2 ^ 23 - 1 = 254 := by decide
      have fraction : 255 * 2 ^ 23 % 2 ^ 23 = 0 := by decide
      rw [patternMagnitude, if_neg (by decide), field, fraction, kOverflow,
        Nat.add_zero]
    rw [isOverflow]
  · rename_i fits
    obtain ⟨normal, bounded⟩ := roundedSignificand_bounds magnitude
    refine ⟨roundedMagnitude magnitude, ?_, .inl rfl⟩
    rw [grid_withSign_of_lt (by omega),
      patternMagnitude_shift normal bounded, roundedMagnitude]

/-- A finite value at least an integer is at least what it is rounded to. -/
theorem grid_roundGrid_le
    {value : Int}
    {x : Binary32}
    (finite : x.isFinite = true)
    (below : value ≤ x.grid) :
    (roundGrid value).grid ≤ x.grid := by
  have representable := isRepresentable_gridMagnitude x
  have bounded := gridMagnitude_lt_of_isFinite finite
  obtain ⟨rounded, isGrid, isRounded⟩ :=
    grid_roundRatio_one (decide (value < 0)) value.natAbs
  rw [roundGrid, isGrid]
  have gridShape :
      x.grid = if x.negative then
        -(x.gridMagnitude : Int) else x.gridMagnitude := rfl
  by_cases negative : value < 0
  · rw [if_pos (decide_eq_true negative)]
    by_cases positive : 0 ≤ x.grid
    · omega
    · have magnitude : (x.gridMagnitude : Int) = -x.grid := by
        split at gridShape <;> omega
      have least :=
        @le_roundedMagnitude value.natAbs _ representable (by omega)
      omega
  · rw [if_neg (by simpa using negative)]
    have magnitude : (x.gridMagnitude : Int) = x.grid := by
      split at gridShape <;> omega
    have most :=
      @roundedMagnitude_le value.natAbs _ representable (by omega)
    omega

/-- A finite value at most an integer is at most what it is rounded to. -/
theorem le_grid_roundGrid
    {value : Int}
    {x : Binary32}
    (finite : x.isFinite = true)
    (above : x.grid ≤ value) :
    x.grid ≤ (roundGrid value).grid := by
  have representable := isRepresentable_gridMagnitude x
  have bounded := gridMagnitude_lt_of_isFinite finite
  obtain ⟨rounded, isGrid, isRounded⟩ :=
    grid_roundRatio_one (decide (value < 0)) value.natAbs
  rw [roundGrid, isGrid]
  have gridShape :
      x.grid = if x.negative then
        -(x.gridMagnitude : Int) else x.gridMagnitude := rfl
  by_cases negative : value < 0
  · rw [if_pos (decide_eq_true negative)]
    have magnitude : (x.gridMagnitude : Int) = -x.grid := by
      split at gridShape <;> omega
    have most :=
      @roundedMagnitude_le value.natAbs _ representable (by omega)
    omega
  · rw [if_neg (by simpa using negative)]
    by_cases positive : 0 ≤ x.grid
    · have magnitude : (x.gridMagnitude : Int) = x.grid := by
        split at gridShape <;> omega
      have least :=
        @le_roundedMagnitude value.natAbs _ representable (by omega)
      omega
    · omega

theorem isNaN_of_isFinite
    {x : Binary32}
    (finite : x.isFinite = true) :
    x.isNaN = false := by
  have below : x.magnitudeBits < 255 * 2 ^ 23 := of_decide_eq_true finite
  exact decide_eq_false (by omega)

theorem isInfinite_of_isFinite
    {x : Binary32}
    (finite : x.isFinite = true) :
    x.isInfinite = false := by
  have below : x.magnitudeBits < 255 * 2 ^ 23 := of_decide_eq_true finite
  exact decide_eq_false (by omega)

theorem isFinite_neg
    {x : Binary32}
    (finite : x.isFinite = true) :
    (neg x).isFinite = true := by
  rwa [neg, isFinite, magnitudeBits_withSign]

/-- Nothing that is rounded is not-a-number. -/
theorem isNaN_roundGrid (value : Int) :
    (roundGrid value).isNaN = false := by
  rw [roundGrid, roundRatio_one]
  split
  · rw [infinity, isNaN, magnitudeBits_withSign_of_lt (by decide)]
    decide
  · rename_i fits
    rw [isNaN, magnitudeBits_withSign_of_lt (by omega)]
    exact decide_eq_false (by omega)

section Sum

variable {left right : Binary32}
  (leftFinite : left.isFinite = true)
  (rightFinite : right.isFinite = true)

include leftFinite rightFinite

/-- The sum of finite values is the rounded sum, or it is a zero. -/
theorem add_of_isFinite :
    (add left right).isNaN = false ∧
      ((add left right).grid = (roundGrid (left.grid + right.grid)).grid ∨
        (left.grid + right.grid = 0 ∧ (add left right).grid = 0)) := by
  rw [add, isNaN_of_isFinite leftFinite, isNaN_of_isFinite rightFinite,
    isInfinite_of_isFinite leftFinite, isInfinite_of_isFinite rightFinite]
  simp only [Bool.or_self, Bool.false_eq_true, ↓reduceIte]
  split
  · rename_i zero
    refine ⟨?_, .inr ⟨zero, ?_⟩⟩
    · rw [isNaN, magnitudeBits_withSign_of_lt (by decide)]
      rfl
    · rw [grid_withSign_of_lt (by decide)]
      split <;> rfl
  · exact ⟨isNaN_roundGrid _, .inl rfl⟩

/-- Adding a value that is not negative does not decrease. -/
theorem le_grid_add (notNegative : 0 ≤ right.grid) :
    left.grid ≤ (add left right).grid := by
  have rounded :=
    @le_grid_roundGrid (left.grid + right.grid) left leftFinite (by omega)
  obtain ⟨-, isSum | ⟨isZero, sum⟩⟩ :=
    add_of_isFinite leftFinite rightFinite
  · rwa [isSum]
  · omega

/-- Adding a value that is not positive does not increase. -/
theorem grid_add_le (notPositive : right.grid ≤ 0) :
    (add left right).grid ≤ left.grid := by
  have rounded :=
    @grid_roundGrid_le (left.grid + right.grid) left leftFinite (by omega)
  obtain ⟨-, isSum | ⟨isZero, sum⟩⟩ :=
    add_of_isFinite leftFinite rightFinite
  · rwa [isSum]
  · omega

end Sum

/-- Above 2 ^ 24 a one is half a unit, and the tie goes to the even value. -/
example : (add ⟨0x4B800000⟩ one) = ⟨0x4B800000⟩ := by decide

theorem patternMagnitude_lt (pattern : Nat) :
    patternMagnitude pattern < 2 ^ (23 + pattern / 2 ^ 23) := by
  have fraction : pattern % 2 ^ 23 < 2 ^ 23 := Nat.mod_lt _ (by positivity)
  unfold patternMagnitude
  split_ifs with subnormal
  · rw [subnormal]
    exact fraction
  · obtain ⟨exponent, same⟩ := Nat.exists_eq_succ_of_ne_zero subnormal
    rw [same, Nat.succ_sub_one]
    calc (2 ^ 23 + pattern % 2 ^ 23) * 2 ^ exponent
        < (2 ^ 23 + 2 ^ 23) * 2 ^ exponent := by gcongr
      _ = 2 ^ (23 + exponent.succ) := by rw [Nat.succ_eq_add_one]; ring

theorem le_patternMagnitude
    {pattern : Nat}
    (normal : pattern / 2 ^ 23 ≠ 0) :
    2 ^ (22 + pattern / 2 ^ 23) ≤ patternMagnitude pattern := by
  obtain ⟨exponent, same⟩ := Nat.exists_eq_succ_of_ne_zero normal
  rw [patternMagnitude, if_neg normal, same, Nat.succ_sub_one]
  calc 2 ^ (22 + exponent.succ) = 2 ^ 23 * 2 ^ exponent := by
        rw [Nat.succ_eq_add_one]; ring
    _ ≤ (2 ^ 23 + pattern % 2 ^ 23) * 2 ^ exponent := by
        gcongr; exact Nat.le_add_right _ _

/-- A greater pattern stands for a greater magnitude. -/
theorem patternMagnitude_strictMono : StrictMono patternMagnitude := by
  intro low high less
  rcases (Nat.div_le_div_right less.le : low / 2 ^ 23 ≤ high / 2 ^ 23).eq_or_lt
    with same | smaller
  · have fractions : low % 2 ^ 23 < high % 2 ^ 23 := by
      omega
    unfold patternMagnitude
    rw [same]
    split_ifs
    · exact fractions
    · gcongr
  · calc patternMagnitude low
        < 2 ^ (23 + low / 2 ^ 23) := patternMagnitude_lt low
      _ ≤ 2 ^ (22 + high / 2 ^ 23) :=
          Nat.pow_le_pow_right (by decide) (by omega)
      _ ≤ patternMagnitude high :=
          le_patternMagnitude (Nat.ne_zero_of_lt smaller)

/-- Sign and magnitude are all of a pattern. -/
theorem eq_of_negative_of_magnitudeBits
    {left right : Binary32}
    (signs : left.negative = right.negative)
    (magnitudes : left.magnitudeBits = right.magnitudeBits) :
    left = right := by
  obtain ⟨leftBits⟩ := left
  obtain ⟨rightBits⟩ := right
  have leftSmall := leftBits.toNat_lt
  have rightSmall := rightBits.toNat_lt
  simp only [negative, magnitudeBits, decide_eq_decide] at signs magnitudes
  rw [mk.injEq, ← UInt32.toNat_inj]
  omega

/-- Numbers that are equal have the same bits, but for the two zeros. -/
theorem eq_of_feq
    {left right : Binary32}
    (equal : feq left right = true)
    (zeros : left.magnitudeBits = 0 → right.magnitudeBits = 0 →
      left.negative = right.negative) :
    left = right := by
  have grids : left.grid = right.grid := by
    simp only [feq, Bool.and_eq_true, decide_eq_true_eq] at equal
    exact equal.2
  have magnitudes : left.gridMagnitude = right.gridMagnitude := by
    simp only [grid] at grids
    split_ifs at grids <;> omega
  have patterns : left.magnitudeBits = right.magnitudeBits :=
    patternMagnitude_strictMono.injective magnitudes
  refine eq_of_negative_of_magnitudeBits ?_ patterns
  by_contra signs
  have vanishes : left.gridMagnitude = 0 := by
    simp only [grid] at grids
    cases leftSign : left.negative <;> cases rightSign : right.negative <;>
      simp_all
  have zero : left.magnitudeBits = 0 :=
    patternMagnitude_strictMono.injective vanishes
  exact signs (zeros zero (patterns ▸ zero))

/-- The two zeros are equal. -/
theorem feq_of_zeros
    {left right : Binary32}
    (leftZero : left.magnitudeBits = 0)
    (rightZero : right.magnitudeBits = 0) :
    feq left right = true := by
  simp [feq, isNaN, grid, gridMagnitude_eq, leftZero, rightZero,
    patternMagnitude]

/-- Where equality of numbers is equality of their bits. -/
theorem feq_iff_eq_iff (left right : Binary32) :
    (feq left right = true ↔ left = right) ↔
      (left = right → right.isNaN = false) ∧
        (left.magnitudeBits = 0 → right.magnitudeBits = 0 →
          left.negative = right.negative) := by
  constructor
  · intro agree
    constructor
    · intro same
      have equal := agree.2 same
      simp only [feq, Bool.and_eq_true, Bool.not_eq_true'] at equal
      exact equal.1.2
    · intro leftZero rightZero
      exact congrArg negative (agree.1 (feq_of_zeros leftZero rightZero))
  · rintro ⟨number, zeros⟩
    constructor
    · intro equal
      exact eq_of_feq equal zeros
    · rintro rfl
      exact feq_self (number rfl)

end Binary32
