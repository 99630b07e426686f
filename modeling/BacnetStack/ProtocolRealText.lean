import BacnetStack.Binary32Error
import BacnetStack.ProtocolDispatch
import BacnetStack.ProtocolListCodec

namespace BacnetStack

/-!
# The text of a real value

A decoded real is scaled by a thousand and rounded to an integer, whose
digits are its text.  Both operations round to single precision, and the
conversion to 32 bits is not guarded: it is defined exactly for the finite
values whose thousandths fit.
-/

/-- The value `writeFixed3Decimal` scales: it has lost its sign. -/
def fixed3Magnitude (value : Binary32) : Binary32 :=
  if Binary32.flt value .zero then value.neg else value

/-- The value it converts to an integer. -/
def fixed3Scaled (value : Binary32) : Binary32 :=
  ((fixed3Magnitude value).mul ⟨0x447A0000⟩).add ⟨0x3F000000⟩

/-- The digits of an integer number of thousandths. -/
def fixed3Digits (scaled : UInt32) : List UInt8 :=
  unsignedDecimal (scaled / 1000) ++ asciiBytes "." ++
    [decimalDigit (scaled % 1000 / 100), decimalDigit (scaled % 1000 / 10),
      decimalDigit (scaled % 1000)]

theorem fixed3Decimal_eq (value : Binary32) :
    fixed3Decimal value =
      (if Binary32.flt value .zero then asciiBytes "-" else []) ++
        fixed3Digits ((fixed3Scaled value).toUInt32?.getD 0) := by
  unfold fixed3Decimal fixed3Digits fixed3Scaled fixed3Magnitude
  simp only [List.append_assoc]

namespace Fixed3

open Binary32

/-- No value lies between the last one that fits and the first that does not. -/
theorem magnitude_cases
    {magnitude : Nat}
    (representable : IsRepresentable magnitude) :
    magnitude ≤ 4294967 * 2 ^ 149 ∨ 8589935 * 2 ^ 148 ≤ magnitude := by
  obtain ⟨significand, exponent, small, rfl⟩ := representable
  by_cases coarse : 148 ≤ exponent
  · obtain ⟨more, rfl⟩ := Nat.exists_eq_add_of_le coarse
    rw [pow_add, Nat.mul_left_comm, Nat.mul_comm]
    by_cases fits : significand * 2 ^ more ≤ 8589934
    · exact .inl ((Nat.mul_le_mul_right _ fits).trans (by decide))
    · exact .inr (Nat.mul_le_mul_right _ (Nat.not_le.mp fits))
  · have power : 2 ^ exponent ≤ 2 ^ 147 :=
      Nat.pow_le_pow_right (by decide) (by omega)
    exact .inl ((Nat.mul_le_mul small.le power).trans (by decide))

/-- The bound on a value in thousandths, with the half that is added. -/
theorem fits_iff
    {magnitude : Nat}
    (representable : IsRepresentable magnitude) :
    magnitude * 1000 + 2 ^ 148 < 2 ^ 181 ↔
      magnitude ≤ 4294967 * 2 ^ 149 := by
  rcases magnitude_cases representable with fits | large
  · omega
  · omega

/-- What fits is scaled to less than `2 ^ 32`, whatever is rounded. -/
theorem roundedMagnitude_lt_of_fits
    {magnitude : Nat}
    (fits : magnitude ≤ 4294967 * 2 ^ 149) :
    roundedMagnitude (magnitude * 1000) ≤ 16777215 * 2 ^ 157 ∧
      roundedMagnitude (roundedMagnitude (magnitude * 1000) + 2 ^ 148) <
        2 ^ 181 := by
  have product :
      roundedMagnitude (magnitude * 1000) ≤ 16777215 * 2 ^ 157 :=
    roundedMagnitude_le ⟨16777215, 157, by decide, rfl⟩ (by omega)
  refine ⟨product, ?_⟩
  generalize isSum :
    roundedMagnitude (magnitude * 1000) + 2 ^ 148 = sum
  have near := (roundedMagnitude_near sum).1
  rcases roundingUnit_le sum with unshifted | unit
  · rw [roundedMagnitude_of_unshifted sum unshifted]
    omega
  · have shift : roundingShift sum ≤ 157 := by
      by_contra large
      have power : 2 ^ 158 ≤ 2 ^ roundingShift sum :=
        Nat.pow_le_pow_right (by decide) (by omega)
      omega
    have power : 2 ^ roundingShift sum ≤ 2 ^ 157 :=
      Nat.pow_le_pow_right (by decide) shift
    omega

/-- What does not fit is not scaled to less. -/
theorem le_roundedMagnitude_of_large
    {magnitude : Nat}
    (large : 8589935 * 2 ^ 148 ≤ magnitude) :
    2 ^ 181 ≤
      roundedMagnitude (roundedMagnitude (magnitude * 1000) + 2 ^ 148) := by
  have power : IsRepresentable (2 ^ 181) := ⟨1, 181, by decide, by decide⟩
  have product : 2 ^ 181 ≤ roundedMagnitude (magnitude * 1000) :=
    le_roundedMagnitude power (by omega)
  exact le_roundedMagnitude power (product.trans (Nat.le_add_right ..))

/-- A thousand times a magnitude, on the grid and rounded. -/
def product (magnitude : Nat) : Nat :=
  roundedMagnitude (magnitude * 1000)

/-- With a half added, and rounded again. -/
def scaled (magnitude : Nat) : Nat :=
  roundedMagnitude (product magnitude + 2 ^ 148)

/-- The sign is lost, and nothing else. -/
theorem fixed3Magnitude_of_isFinite
    {value : Binary32}
    (finite : value.isFinite = true) :
    (fixed3Magnitude value).isFinite = true ∧
      (fixed3Magnitude value).gridMagnitude = value.gridMagnitude ∧
      ((fixed3Magnitude value).negative = true →
        value.gridMagnitude = 0) := by
  have number := isNaN_of_isFinite finite
  have zeroGrid : zero.grid = 0 := by decide
  have zeroNumber : zero.isNaN = false := by decide
  unfold fixed3Magnitude
  split
  · rename_i below
    refine ⟨isFinite_neg finite, gridMagnitude_withSign _ value, ?_⟩
    intro stillNegative
    have sign := (negative_withSign (!value.negative) value).symm.trans
      stillNegative
    have positive : value.negative = false :=
      Bool.not_eq_eq_eq_not.mp sign
    rw [flt, number, zeroNumber, zeroGrid, grid, positive] at below
    have impossible : (value.gridMagnitude : ℤ) < 0 :=
      of_decide_eq_true below
    omega
  · rename_i notBelow
    refine ⟨finite, rfl, fun negative => ?_⟩
    rw [flt, number, zeroNumber, zeroGrid, grid, negative] at notBelow
    have notNegative : ¬(-(value.gridMagnitude : ℤ) < 0) :=
      of_decide_eq_false (Bool.eq_false_iff.mpr notBelow)
    omega

theorem fixed3Magnitude_of_not_isFinite
    {value : Binary32}
    (notFinite : value.isFinite = false) :
    (fixed3Magnitude value).isFinite = false := by
  unfold fixed3Magnitude
  split
  · rw [neg, isFinite, magnitudeBits_withSign]
    exact notFinite
  · exact notFinite

theorem thousand_facts :
    (Binary32.mk 0x447A0000).isFinite = true ∧
      (Binary32.mk 0x447A0000).negative = false ∧
      (Binary32.mk 0x447A0000).gridMagnitude = 1000 * 2 ^ 149 := by
  decide +kernel

theorem half_facts :
    (Binary32.mk 0x3F000000).isFinite = true ∧
      (Binary32.mk 0x3F000000).grid =
        (Binary32.mk 0x3F000000).gridMagnitude ∧
      (Binary32.mk 0x3F000000).gridMagnitude = 2 ^ 148 := by
  decide +kernel

/-- A product that does not overflow is rounded once more. -/
theorem fixed3Scaled_eq
    {value : Binary32}
    (finite : value.isFinite = true)
    (inRange : product value.gridMagnitude < kOverflow) :
    fixed3Scaled value =
      roundRatio false (product value.gridMagnitude + 2 ^ 148) 1 := by
  obtain ⟨isFinite, magnitude, signless⟩ :=
    fixed3Magnitude_of_isFinite finite
  obtain ⟨thousandFinite, thousandSign, thousand⟩ := thousand_facts
  obtain ⟨halfFinite, halfGrid, half⟩ := half_facts
  unfold fixed3Scaled
  rw [mul_of_integer isFinite thousandFinite thousand, magnitude]
  obtain ⟨productFinite, productSign, productMagnitude⟩ :=
    roundRatio_one_of_lt inRange
      ((fixed3Magnitude value).negative !=
        (Binary32.mk 0x447A0000).negative)
  have productGrid := grid_of_negative_imp fun negative => by
    rw [productSign, thousandSign, Bool.bne_false] at negative
    rw [productMagnitude, signless negative]
    decide +kernel
  rw [add_of_magnitudes productFinite halfFinite productGrid halfGrid
    (by rw [half]; positivity), productMagnitude, half]
  rfl

/-- The conversion is defined for the finite values that fit. -/
theorem toUInt32?_fixed3Scaled (value : Binary32) :
    (fixed3Scaled value).toUInt32? =
      if value.isFinite = true ∧
          value.gridMagnitude ≤ 4294967 * 2 ^ 149 then
        some (UInt32.ofNat (scaled value.gridMagnitude / 2 ^ 149))
      else
        none := by
  obtain ⟨thousandFinite, thousandSign, thousand⟩ := thousand_facts
  obtain ⟨halfFinite, -, -⟩ := half_facts
  by_cases finite : value.isFinite = true
  · obtain ⟨isFinite, magnitude, -⟩ := fixed3Magnitude_of_isFinite finite
    rcases magnitude_cases (isRepresentable_gridMagnitude value)
      with fits | large
    · obtain ⟨productLe, sumLt⟩ := roundedMagnitude_lt_of_fits fits
      have inRange : product value.gridMagnitude < kOverflow :=
        productLe.trans_lt (by decide)
      have sumInRange : scaled value.gridMagnitude < kOverflow :=
        sumLt.trans (by decide)
      obtain ⟨sumFinite, positive, sum⟩ :=
        roundRatio_one_of_lt sumInRange false
      rw [fixed3Scaled_eq finite inRange, toUInt32?_of_magnitude positive,
        sum, if_pos ⟨sumFinite, sumLt⟩, if_pos ⟨finite, fits⟩]
      rfl
    · have sumLe : 2 ^ 181 ≤ scaled value.gridMagnitude :=
        le_roundedMagnitude_of_large large
      rw [if_neg fun both => by omega]
      by_cases inRange : product value.gridMagnitude < kOverflow
      · rw [fixed3Scaled_eq finite inRange,
          toUInt32?_of_magnitude (negative_roundRatio_one ..)]
        refine if_neg fun both => ?_
        have sum := gridMagnitude_of_isFinite_roundRatio both.1
        exact absurd both.2 (by rw [sum]; exact Nat.not_lt.mpr sumLe)
      · -- Scaling overflows, and so does everything behind it.
        refine toUInt32?_of_not_isFinite
          (isFinite_add_eq_false (Bool.eq_false_iff.mpr fun scales => ?_)
            halfFinite)
        rw [mul_of_integer isFinite thousandFinite thousand,
          magnitude] at scales
        have below := gridMagnitude_lt_of_isFinite scales
        rw [gridMagnitude_of_isFinite_roundRatio scales] at below
        exact inRange below
  · rw [if_neg fun both => finite both.1]
    exact toUInt32?_of_not_isFinite
      (isFinite_add_eq_false
        (isFinite_mul_eq_false
          (fixed3Magnitude_of_not_isFinite (Bool.eq_false_iff.mpr finite))
          thousandFinite)
        halfFinite)

end Fixed3

/-- The number some digits denote. -/
def decimalNumber (digits : List UInt8) : Nat :=
  digits.foldl (fun number digit => 10 * number + (digit.toNat - 48)) 0

def isDecimalDigit (octet : UInt8) : Bool :=
  decide (48 ≤ octet.toNat ∧ octet.toNat ≤ 57)

/-- The thousandths a text with three decimals denotes. -/
def thousandths? (text : List UInt8) : Option Nat :=
  let whole := text.takeWhile fun octet => octet != 0x2E
  match text.dropWhile fun octet => octet != 0x2E with
  | [_, tenths, hundredths, thousandths] =>
      let digits := whole ++ [tenths, hundredths, thousandths]
      if whole ≠ [] ∧ digits.all isDecimalDigit then
        some (decimalNumber digits)
      else
        none
  | _ => none

/-- The number a text with three decimals denotes, behind a sign or not. -/
def decimal3? : List UInt8 → Option ℚ
  | 0x2D :: rest =>
      (thousandths? rest).map fun (thousandths : Nat) =>
        -(thousandths / 1000 : ℚ)
  | text =>
      (thousandths? text).map fun (thousandths : Nat) =>
        (thousandths / 1000 : ℚ)

theorem decimalNumber_unsignedDecimal (value : UInt32) :
    decimalNumber (unsignedDecimal value) = value.toNat := by
  have digits :
      decimalNumber (unsignedDecimal value) =
        Nat.ofDigitChars 10 (Nat.toDigits 10 value.toNat) 0 := by
    rw [decimalNumber, unsignedDecimal, Nat.ofDigitChars_eq_foldl,
      List.foldl_map]
    refine List.foldl_ext _ _ _ fun number digit member => ?_
    rw [(toNat_toUInt8_of_digit member).1]
    rfl
  rw [digits, Nat.ofDigitChars_toDigits (by decide) (by decide)]

theorem toNat_decimalDigit (value : UInt32) :
    (decimalDigit value).toNat = 48 + value.toNat % 10 := by
  unfold decimalDigit
  rw [UInt8.toNat_add, UInt32.toNat_toUInt8, UInt32.toNat_mod]
  have digit : value.toNat % 10 < 10 := Nat.mod_lt _ (by decide)
  show (48 + value.toNat % 10 % 2 ^ 8) % 2 ^ 8 = _
  omega

theorem isDecimalDigit_decimalDigit (value : UInt32) :
    isDecimalDigit (decimalDigit value) = true := by
  unfold isDecimalDigit
  rw [toNat_decimalDigit]
  exact decide_eq_true (by omega)

/-- The digits of a number of thousandths denote it. -/
theorem thousandths?_fixed3Digits (scaled : UInt32) :
    thousandths? (fixed3Digits scaled) = some scaled.toNat := by
  have isWhole :
      ∀ octet ∈ unsignedDecimal (scaled / 1000),
        (octet != 0x2E) = true ∧ isDecimalDigit octet = true := by
    intro octet member
    have digit := digit_of_mem_unsignedDecimal member
    refine ⟨bne_iff_ne.mpr ?_, decide_eq_true digit⟩
    rintro rfl
    exact absurd digit.1 (by decide)
  have wellFormed :
      unsignedDecimal (scaled / 1000) ≠ [] ∧
        (unsignedDecimal (scaled / 1000) ++
          [decimalDigit (scaled % 1000 / 100),
            decimalDigit (scaled % 1000 / 10),
            decimalDigit (scaled % 1000)]).all isDecimalDigit = true := by
    refine ⟨unsignedDecimal_ne_nil _, List.all_eq_true.mpr ?_⟩
    intro octet member
    rcases List.mem_append.mp member with inWhole | inFraction
    · exact (isWhole octet inWhole).2
    · simp only [List.mem_cons, List.not_mem_nil, or_false] at inFraction
      rcases inFraction with rfl | rfl | rfl <;>
        exact isDecimalDigit_decimalDigit _
  have point : asciiBytes "." = [0x2E] := by decide
  unfold thousandths? fixed3Digits
  rw [point, List.append_assoc,
    List.takeWhile_append_of_pos fun octet member => (isWhole octet member).1,
    List.dropWhile_append_of_pos fun octet member => (isWhole octet member).1,
    List.singleton_append, List.takeWhile_cons_of_neg (by decide),
    List.dropWhile_cons_of_neg (by decide), List.append_nil]
  dsimp only
  rw [if_pos wellFormed, decimalNumber, List.foldl_append]
  change some (List.foldl _ (decimalNumber _) _) = _
  rw [decimalNumber_unsignedDecimal]
  simp only [List.foldl_cons, List.foldl_nil, toNat_decimalDigit,
    UInt32.toNat_div, UInt32.toNat_mod, UInt32.reduceToNat]
  exact congrArg some (by omega)

theorem length_fixed3Decimal_le (value : Binary32) :
    (fixed3Decimal value).length ≤ 15 := by
  have whole := length_unsignedDecimal_le
    (((fixed3Scaled value).toUInt32?.getD 0) / 1000)
  have sign :
      (if Binary32.flt value .zero then asciiBytes "-" else []).length ≤
        1 := by
    split <;> decide
  have point : (asciiBytes ".").length = 1 := by decide
  rw [fixed3Decimal_eq, fixed3Digits, List.length_append,
    List.length_append, List.length_append, point]
  simp only [List.length_cons, List.length_nil]
  omega

/-- Digits denote a number of thousandths without a sign. -/
theorem decimal3?_fixed3Digits (scaled : UInt32) :
    decimal3? (fixed3Digits scaled) = some (scaled.toNat / 1000 : ℚ) := by
  have isDigits := thousandths?_fixed3Digits scaled
  cases digits : unsignedDecimal (scaled / 1000) with
  | nil => exact absurd digits (unsignedDecimal_ne_nil _)
  | cons first others =>
      have isDigit := digit_of_mem_unsignedDecimal
        (digits ▸ List.mem_cons_self : first ∈ unsignedDecimal _)
      have noSign : first ≠ 0x2D := by
        rintro rfl
        exact absurd isDigit.1 (by decide)
      unfold fixed3Digits at isDigits ⊢
      rw [digits] at isDigits ⊢
      unfold decimal3?
      split
      · rename_i same
        exact absurd (List.cons.inj same).1 noSign
      · rw [isDigits]
        rfl

/-- The text of a value denotes its thousandths with its sign. -/
theorem decimal3?_fixed3Decimal (value : Binary32) :
    decimal3? (fixed3Decimal value) =
      some ((if Binary32.flt value .zero = true then -1 else 1) *
        (((fixed3Scaled value).toUInt32?.getD 0).toNat / 1000 : ℚ)) := by
  rw [fixed3Decimal_eq]
  split
  · have minus : asciiBytes "-" = [0x2D] := by decide
    rw [minus, List.singleton_append, decimal3?, thousandths?_fixed3Digits,
      Option.map_some, neg_one_mul]
  · rw [List.nil_append, decimal3?_fixed3Digits, one_mul]

/-- The text of a decoded real is that of its payload. -/
theorem text_of_parseApplicationReal
    {octets rest : List UInt8}
    {value : BacnetValue}
    (decoded : parseApplicationReal.run octets = .ok (value, rest)) :
    value.text = fixed3Decimal value.realValue := by
  unfold parseApplicationReal at decoded
  obtain ⟨length, behindTag, -, decoded⟩ :=
    Reader.run_bind_eq_ok_iff.mp decoded
  obtain ⟨-, behindCheck, -, decoded⟩ :=
    Reader.run_bind_eq_ok_iff.mp decoded
  obtain ⟨bits, behind, -, decoded⟩ :=
    Reader.run_bind_eq_ok_iff.mp decoded
  obtain ⟨rfl, -⟩ := Prod.mk.inj (Except.ok.inj decoded)
  exact List.take_of_length_le
    ((length_fixed3Decimal_le ⟨bits⟩).trans (by decide))

/-- The bound on a value is one on its magnitude. -/
theorem inRange_iff (value : Binary32) :
    1000 * |value.toRat| + 1 / 2 < 2 ^ 32 ↔
      value.gridMagnitude * 1000 + 2 ^ 148 < 2 ^ 181 := by
  have unit : (0 : ℚ) < 2 ^ 149 := by positivity
  have half : (1 / 2 : ℚ) = 2 ^ 148 / 2 ^ 149 := by norm_num
  have bound : (2 ^ 32 : ℚ) = 2 ^ 181 / 2 ^ 149 := by norm_num
  rw [Binary32.abs_toRat, half, bound, ← mul_div_assoc, ← add_div,
    div_lt_div_iff_of_pos_right unit, mul_comm]
  exact_mod_cast Iff.rfl

/-- The conversion is defined for the finite values whose thousandths fit. -/
theorem isSome_toUInt32?_fixed3Scaled_iff (value : Binary32) :
    (fixed3Scaled value).toUInt32?.isSome = true ↔
      value.isFinite = true ∧
        1000 * |value.toRat| + 1 / 2 < 2 ^ 32 := by
  rw [Fixed3.toUInt32?_fixed3Scaled, inRange_iff,
    Fixed3.fits_iff (Binary32.isRepresentable_gridMagnitude value)]
  split
  · rename_i fits
    exact iff_of_true rfl fits
  · rename_i unfit
    exact iff_of_false Bool.false_ne_true unfit

/--
The scaled value is the exact one up to the error of two roundings to single
precision, and it is in the range of the conversion.
-/
theorem fixed3Scaled_of_inRange
    {value : Binary32}
    (finite : value.isFinite = true)
    (inRange : 1000 * |value.toRat| + 1 / 2 < 2 ^ 32) :
    ∃ thousandths : UInt32,
      (fixed3Scaled value).toUInt32? = some thousandths ∧
        0 ≤ (fixed3Scaled value).toRat ∧
        (fixed3Scaled value).toRat < 2 ^ 32 ∧
        (thousandths.toNat : ℤ) = ⌊(fixed3Scaled value).toRat⌋ ∧
        |(fixed3Scaled value).toRat - (1000 * |value.toRat| + 1 / 2)| ≤
          ((1 + 1 / 2 ^ 24) ^ 2 - 1) * (1000 * |value.toRat| + 1 / 2) := by
  have fits := (Fixed3.fits_iff
    (Binary32.isRepresentable_gridMagnitude value)).mp
      ((inRange_iff value).mp inRange)
  obtain ⟨productLe, sumLt⟩ := Fixed3.roundedMagnitude_lt_of_fits fits
  obtain ⟨-, positive, isMagnitude⟩ :=
    Binary32.roundRatio_one_of_lt (sumLt.trans (by decide)) false
  have isScaled :=
    Fixed3.fixed3Scaled_eq finite (productLe.trans_lt (by decide))
  have isRat :
      (fixed3Scaled value).toRat =
        Fixed3.scaled value.gridMagnitude / 2 ^ 149 := by
    have isGrid := @Binary32.grid_of_negative_imp (fixed3Scaled value)
      fun negative => by
        rw [isScaled] at negative
        exact absurd (negative.symm.trans positive) (by decide)
    rw [Binary32.toRat, isGrid, isScaled]
    exact congrArg (fun magnitude : Nat => (magnitude / 2 ^ 149 : ℚ))
      isMagnitude
  have unit : (0 : ℚ) < 2 ^ 149 := by positivity
  refine ⟨UInt32.ofNat (Fixed3.scaled value.gridMagnitude / 2 ^ 149),
    ?_, ?_, ?_, ?_, ?_⟩
  · rw [Fixed3.toUInt32?_fixed3Scaled, if_pos ⟨finite, fits⟩]
  · rw [isRat]
    positivity
  · rw [isRat, div_lt_iff₀ unit, ← pow_add]
    exact_mod_cast sumLt
  · have small : Fixed3.scaled value.gridMagnitude / 2 ^ 149 < 2 ^ 32 := by
      rw [Nat.div_lt_iff_lt_mul (by positivity), ← pow_add]
      exact sumLt
    rw [UInt32.toNat_ofNat_of_lt' small, isRat]
    have quotient := Rat.floor_natCast_div_natCast
      (Fixed3.scaled value.gridMagnitude) (2 ^ 149)
    push_cast at quotient ⊢
    exact quotient.symm
  · have error := Binary32.abs_roundedMagnitude_add_sub_le
      (value.gridMagnitude * 1000) (2 ^ 148)
    have isExact :
        1000 * |value.toRat| + 1 / 2 =
          ((value.gridMagnitude * 1000 : Nat) + (2 ^ 148 : Nat)) /
            2 ^ 149 := by
      rw [Binary32.abs_toRat]
      push_cast
      ring
    rw [isRat, isExact, ← sub_div, abs_div, abs_of_pos unit, ← mul_div_assoc]
    exact div_le_div_of_nonneg_right error unit.le

/--
The text of a decoded real denotes its thousandths with its sign: an integer
number of them, with the scaled value rounded to the nearest up to the error
of two roundings to single precision.
-/
theorem realText_denotes
    {octets rest : List UInt8}
    {value : BacnetValue}
    (decoded : parseApplicationReal.run octets = .ok (value, rest))
    (finite : value.realValue.isFinite = true)
    (inRange : 1000 * |value.realValue.toRat| + 1 / 2 < 2 ^ 32) :
    ∃ (thousandths : UInt32) (error : ℚ),
      (fixed3Scaled value.realValue).toUInt32? = some thousandths ∧
        0 ≤ (fixed3Scaled value.realValue).toRat ∧
        (fixed3Scaled value.realValue).toRat < 2 ^ 32 ∧
        (thousandths.toNat : ℤ) =
          ⌊1000 * |value.realValue.toRat| + 1 / 2 + error⌋ ∧
        |error| ≤
          ((1 + 1 / 2 ^ 24) ^ 2 - 1) *
            (1000 * |value.realValue.toRat| + 1 / 2) ∧
        decimal3? value.text =
          some ((if value.realValue.toRat < 0 then -1 else 1) *
            (thousandths.toNat / 1000 : ℚ)) := by
  obtain ⟨thousandths, converts, notNegative, below, isFloor, near⟩ :=
    fixed3Scaled_of_inRange finite inRange
  refine ⟨thousandths, _, converts, notNegative, below, ?_, near, ?_⟩
  · rw [isFloor, add_sub_cancel]
  · rw [text_of_parseApplicationReal decoded, decimal3?_fixed3Decimal,
      converts, Option.getD_some]
    simp only [Binary32.flt_zero_iff finite]

/-- A value that is decoded from the octets of a real. -/
def decodedReal (octets : List UInt8) : BacnetValue :=
  match parseApplicationReal.run octets with
  | .ok (value, _) => value
  | .error _ => {}

/-- The value 21.5 and its text. -/
theorem realText_denotes_room :
    ∃ (thousandths : UInt32) (error : ℚ),
      (thousandths.toNat : ℤ) =
          ⌊1000 * |(Binary32.mk 0x41AC0000).toRat| + 1 / 2 + error⌋ ∧
        |error| ≤
          ((1 + 1 / 2 ^ 24) ^ 2 - 1) *
            (1000 * |(Binary32.mk 0x41AC0000).toRat| + 1 / 2) ∧
        decimal3? (decodedReal [0x44, 0x41, 0xAC, 0, 0]).text =
          some ((if (Binary32.mk 0x41AC0000).toRat < 0 then -1 else 1) *
            (thousandths.toNat / 1000 : ℚ)) := by
  obtain ⟨thousandths, error, -, -, -, isFloor, near, denotes⟩ :=
    @realText_denotes [0x44, 0x41, 0xAC, 0, 0] []
      (decodedReal [0x44, 0x41, 0xAC, 0, 0]) (by decide +kernel)
      (by decide +kernel) (by decide +kernel)
  exact ⟨thousandths, error, isFloor, near, denotes⟩

/-- The conversion is defined, and the text is as near as three decimals are. -/
def RoundsText (value : BacnetValue) : Prop :=
  ∃ thousandths number,
    (fixed3Scaled value.realValue).toUInt32? = some thousandths ∧
      decimal3? value.text = some number ∧
      |number - value.realValue.toRat| ≤ 1 / 2000

/--
The text of 8388.609375 is 8388.610, since single precision has no bits left
for the half that is added; and ten thousand millions are out of range.
-/
theorem not_roundsText :
    (parseApplicationReal.run [0x44, 0x46, 0x03, 0x12, 0x70] =
        .ok (decodedReal [0x44, 0x46, 0x03, 0x12, 0x70], []) ∧
      ¬RoundsText (decodedReal [0x44, 0x46, 0x03, 0x12, 0x70])) ∧
      (parseApplicationReal.run [0x44, 0x50, 0x15, 0x02, 0xF9] =
          .ok (decodedReal [0x44, 0x50, 0x15, 0x02, 0xF9], []) ∧
        ¬RoundsText (decodedReal [0x44, 0x50, 0x15, 0x02, 0xF9])) := by
  refine ⟨⟨by decide +kernel, ?_⟩, ⟨by decide +kernel, ?_⟩⟩
  · rintro ⟨thousandths, number, -, denotes, near⟩
    have text :
        decimal3? (decodedReal [0x44, 0x46, 0x03, 0x12, 0x70]).text =
          some (8388610 / 1000) := by
      decide +kernel
    obtain rfl := Option.some.inj (text.symm.trans denotes)
    exact absurd near (by decide +kernel)
  · rintro ⟨thousandths, number, converts, -, -⟩
    have undefinedThere :
        (fixed3Scaled (decodedReal
          [0x44, 0x50, 0x15, 0x02, 0xF9]).realValue).toUInt32? = none := by
      decide +kernel
    exact absurd (undefinedThere.symm.trans converts)
      (Option.some_ne_none _).symm

end BacnetStack
