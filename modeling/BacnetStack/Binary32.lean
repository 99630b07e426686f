import Mathlib.Algebra.Ring.Nat
import Mathlib.Data.Nat.Log

/-!
# Single-precision floating point on bit patterns

A value is its 32-bit interchange pattern, so that every payload, both zeros
and both infinities stay distinguishable.  The finite values are read as
integer multiples of the least subnormal `2 ^ (-149)`: on that grid addition
and subtraction are exact integer operations followed by one rounding to
nearest even, and products and quotients are exact fractions followed by the
same rounding.
-/

/-- A single-precision value, given by its interchange bit pattern. -/
structure Binary32 where
  bits : UInt32
  deriving Repr, DecidableEq, Inhabited

namespace Binary32

/-- The sign bit. -/
def negative (x : Binary32) : Bool :=
  decide (2 ^ 31 ≤ x.bits.toNat)

/-- The pattern without its sign bit. -/
def magnitudeBits (x : Binary32) : Nat :=
  x.bits.toNat % 2 ^ 31

/-- The biased exponent field. -/
def exponentField (x : Binary32) : Nat :=
  x.magnitudeBits / 2 ^ 23

/-- The trailing significand field. -/
def fractionField (x : Binary32) : Nat :=
  x.magnitudeBits % 2 ^ 23

/-- All patterns above the infinity pattern are not-a-number. -/
def isNaN (x : Binary32) : Bool :=
  decide (255 * 2 ^ 23 < x.magnitudeBits)

/-- The two infinities. -/
def isInfinite (x : Binary32) : Bool :=
  decide (x.magnitudeBits = 255 * 2 ^ 23)

/-- Neither an infinity nor not-a-number. -/
def isFinite (x : Binary32) : Bool :=
  decide (x.magnitudeBits < 255 * 2 ^ 23)

/-- Magnitude on the grid of the least subnormal; an infinity reads as the
first grid point past the largest finite value. -/
def gridMagnitude (x : Binary32) : Nat :=
  if x.exponentField = 0 then
    x.fractionField
  else
    (2 ^ 23 + x.fractionField) * 2 ^ (x.exponentField - 1)

/-- Signed grid value. -/
def grid (x : Binary32) : Int :=
  if x.negative then -(x.gridMagnitude : Int) else x.gridMagnitude

/-- Positive zero. -/
def zero : Binary32 := ⟨0⟩

/-- The number one. -/
def one : Binary32 := ⟨0x3F800000⟩

/-- The quiet not-a-number every invalid operation answers. -/
def quietNaN : Binary32 := ⟨0x7FC00000⟩

/-- Attach a sign to a magnitude pattern. -/
def withSign (sign : Bool) (magnitude : Nat) : Binary32 :=
  ⟨UInt32.ofNat (if sign then 2 ^ 31 + magnitude else magnitude)⟩

/-- An infinity of the given sign. -/
def infinity (sign : Bool) : Binary32 :=
  withSign sign (255 * 2 ^ 23)

/--
Round the non-negative fraction `num / den`, measured on the grid, to the
nearest value, ties to even.  A carry out of the significand moves into the
exponent field by itself, and everything from the infinity pattern on is an
infinity.
-/
def roundRatio (sign : Bool) (num den : Nat) : Binary32 :=
  let shift := Nat.log2 (num / den) - 23
  let scaled := den * 2 ^ shift
  let quotient := num / scaled
  let remainder := num % scaled
  let roundUp :=
    scaled < 2 * remainder ∨
      (scaled = 2 * remainder ∧ quotient % 2 = 1)
  let rounded := if roundUp then quotient + 1 else quotient
  let pattern := shift * 2 ^ 23 + rounded
  if 255 * 2 ^ 23 ≤ pattern then infinity sign else withSign sign pattern

/-- Round an exact integer number of grid steps. -/
def roundGrid (value : Int) : Binary32 :=
  roundRatio (decide (value < 0)) value.natAbs 1

/-- Numerical equality: the two zeros agree, a NaN agrees with nothing. -/
def feq (left right : Binary32) : Bool :=
  !left.isNaN && !right.isNaN && decide (left.grid = right.grid)

/-- Numerical strict order. -/
def flt (left right : Binary32) : Bool :=
  !left.isNaN && !right.isNaN && decide (left.grid < right.grid)

/-- Numerical order. -/
def fle (left right : Binary32) : Bool :=
  !left.isNaN && !right.isNaN && decide (left.grid ≤ right.grid)

/-- Flip the sign bit. -/
def neg (x : Binary32) : Binary32 :=
  withSign (!x.negative) x.magnitudeBits

/-- Clear the sign bit. -/
def abs (x : Binary32) : Binary32 :=
  withSign false x.magnitudeBits

/-- Sum, rounded once to nearest even. -/
def add (left right : Binary32) : Binary32 :=
  if left.isNaN || right.isNaN then
    quietNaN
  else if left.isInfinite then
    if right.isInfinite && left.negative != right.negative then
      quietNaN
    else
      left
  else if right.isInfinite then
    right
  else if left.grid + right.grid = 0 then
    -- Exact cancellation gives positive zero unless both operands are
    -- negative zeros.
    withSign (left.negative && right.negative) 0
  else
    roundGrid (left.grid + right.grid)

/-- Difference, rounded once to nearest even. -/
def sub (left right : Binary32) : Binary32 :=
  add left right.neg

/-- Product, rounded once to nearest even. -/
def mul (left right : Binary32) : Binary32 :=
  let sign := left.negative != right.negative
  if left.isNaN || right.isNaN then
    quietNaN
  else if left.isInfinite || right.isInfinite then
    if left.gridMagnitude = 0 || right.gridMagnitude = 0 then
      quietNaN
    else
      infinity sign
  else
    roundRatio sign (left.gridMagnitude * right.gridMagnitude) (2 ^ 149)

/-- Quotient, rounded once to nearest even. -/
def div (left right : Binary32) : Binary32 :=
  let sign := left.negative != right.negative
  if left.isNaN || right.isNaN then
    quietNaN
  else if left.isInfinite then
    if right.isInfinite then quietNaN else infinity sign
  else if right.isInfinite then
    withSign sign 0
  else if right.gridMagnitude = 0 then
    if left.gridMagnitude = 0 then quietNaN else infinity sign
  else
    roundRatio sign (left.gridMagnitude * 2 ^ 149) right.gridMagnitude

/--
Truncating conversion to an unsigned 32-bit integer; `none` where the
conversion is undefined because the truncated value is not representable.
-/
def toUInt32? (x : Binary32) : Option UInt32 :=
  if x.isFinite then
    let truncated := x.gridMagnitude / 2 ^ 149
    if (x.negative ∧ truncated ≠ 0) ∨ 2 ^ 32 ≤ truncated then
      none
    else
      some (UInt32.ofNat truncated)
  else
    none

/-- Numerical equality is symmetric. -/
theorem feq_comm
    (left right : Binary32) :
    feq left right = feq right left := by
  simp only [feq, eq_comm (a := left.grid)]
  cases left.isNaN <;> cases right.isNaN <;> rfl

/-- Numerical equality is transitive. -/
theorem feq_trans
    {first second third : Binary32}
    (left : feq first second = true)
    (right : feq second third = true) :
    feq first third = true := by
  simp only [feq, Bool.and_eq_true, Bool.not_eq_true',
    decide_eq_true_eq] at left right ⊢
  exact ⟨⟨left.1.1, right.1.2⟩, left.2.trans right.2⟩

/-- A value other than not-a-number is numerically equal to itself. -/
theorem feq_self
    {x : Binary32}
    (number : x.isNaN = false) :
    feq x x = true := by
  simp [feq, number]

/-- Not-a-number is numerically different from everything. -/
theorem feq_eq_false_of_isNaN
    {left : Binary32}
    (notNumber : left.isNaN = true)
    (right : Binary32) :
    feq left right = false := by
  simp [feq, notNumber]

private theorem magnitudeBits_lt
    (x : Binary32) :
    x.magnitudeBits < 2 ^ 31 :=
  Nat.mod_lt _ (by decide)

@[simp] theorem magnitudeBits_withSign
    (sign : Bool)
    (x : Binary32) :
    (withSign sign x.magnitudeBits).magnitudeBits = x.magnitudeBits := by
  have bound := x.magnitudeBits_lt
  generalize x.magnitudeBits = magnitude at bound
  cases sign <;>
    simp only [withSign, magnitudeBits, UInt32.toNat_ofNat',
      Bool.false_eq_true, ↓reduceIte] <;>
    omega

@[simp] theorem negative_withSign
    (sign : Bool)
    (x : Binary32) :
    (withSign sign x.magnitudeBits).negative = sign := by
  have bound := x.magnitudeBits_lt
  generalize x.magnitudeBits = magnitude at bound
  cases sign <;>
    simp only [withSign, negative, UInt32.toNat_ofNat',
      Bool.false_eq_true, ↓reduceIte, decide_eq_true_eq,
      decide_eq_false_iff_not] <;>
    omega

@[simp] theorem isNaN_withSign
    (sign : Bool)
    (x : Binary32) :
    (withSign sign x.magnitudeBits).isNaN = x.isNaN := by
  simp [isNaN]

@[simp] theorem gridMagnitude_withSign
    (sign : Bool)
    (x : Binary32) :
    (withSign sign x.magnitudeBits).gridMagnitude = x.gridMagnitude := by
  simp [gridMagnitude, exponentField, fractionField]

/-- The absolute value has the magnitude as its grid value. -/
theorem grid_abs
    (x : Binary32) :
    (abs x).grid = x.gridMagnitude := by
  simp [abs, grid]

/-- Negation negates the grid value. -/
theorem grid_neg
    (x : Binary32) :
    (neg x).grid = -x.grid := by
  simp only [neg, grid, negative_withSign, gridMagnitude_withSign]
  cases x.negative <;> simp

/--
Comparing with a difference that is negated when it is negative is comparing
with its absolute value.
-/
theorem fle_negated_if_negative
    (bound x : Binary32) :
    fle bound (if flt x zero then neg x else x) = fle bound (abs x) := by
  have absNaN : (abs x).isNaN = x.isNaN := by simp [abs]
  have negNaN : (neg x).isNaN = x.isNaN := by simp [neg]
  have zeroGrid : zero.grid = 0 := by decide
  have zeroNumber : zero.isNaN = false := by decide
  cases number : x.isNaN with
  | true =>
      simp [fle, flt, absNaN, number]
  | false =>
      have gridShape :
          x.grid = if x.negative then
            -(x.gridMagnitude : Int) else x.gridMagnitude := rfl
      by_cases below : x.grid < 0
      · have isNegative : x.negative = true := by
          by_contra positive
          rw [if_neg positive] at gridShape
          omega
        rw [if_pos isNegative] at gridShape
        have magnitude : (neg x).grid = (abs x).grid := by
          rw [grid_neg, grid_abs, gridShape]
          omega
        simp [fle, flt, number, zeroNumber, zeroGrid, below, absNaN,
          negNaN, magnitude]
      · have magnitude : x.grid = (abs x).grid := by
          rw [grid_abs]
          split at gridShape <;> omega
        have notBelow : flt x zero = false := by
          simp only [flt, number, zeroNumber, zeroGrid]
          simpa using below
        simp [fle, notBelow, number, absNaN, magnitude]

example : add one one = ⟨0x40000000⟩ := by decide

example : sub ⟨0x41280000⟩ ⟨0x41240000⟩ = ⟨0x3E800000⟩ := by decide

example : div one ⟨0x40400000⟩ = ⟨0x3EAAAAAB⟩ := by decide

end Binary32
