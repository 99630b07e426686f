import Mathlib.Algebra.Ring.Nat
import Mathlib.Data.Nat.Basic

/-!
# Millisecond clocks that wrap

A 32-bit counter of milliseconds returns to zero after about fifty days.
Intervals are measured as differences modulo `2 ^ 32`, and a deadline counts
as reached while the difference lies in the lower half of the range.  The
lemmas relate both to the true time the counter was sampled from.
-/

namespace WrappingClock

/-- The reading at a true time in milliseconds. -/
def reading (trueMs : Nat) : UInt32 :=
  UInt32.ofNat trueMs

/-- `(int32_t)(now - deadline) >= 0` -/
def reached (now deadline : UInt32) : Bool :=
  decide (0 ≤ (now - deadline).toInt32)

/-- A deadline is reached in the lower half of the differences. -/
theorem reached_eq_true_iff
    (now deadline : UInt32) :
    reached now deadline = true ↔
      (now - deadline).toNat < 2 ^ 31 := by
  have zeroToInt : (0 : Int32).toInt = 0 := rfl
  rw [reached, decide_eq_true_eq, Int32.le_iff_toInt_le, zeroToInt,
    ← Int32.toInt_toBitVec, UInt32.toBitVec_toInt32,
    BitVec.toInt_eq_toNat_cond, UInt32.toNat_toBitVec]
  have bound := (now - deadline).toNat_lt
  split <;> omega

/-- The reading of a sum is the sum of the readings. -/
theorem reading_add
    (left right : Nat) :
    reading left + reading right = reading (left + right) := by
  rw [← UInt32.toNat_inj]
  simp only [reading, UInt32.toNat_add, UInt32.toNat_ofNat']
  omega

/-- Elapsed time is exact up to one turn of the counter. -/
theorem toNat_reading_sub
    {since now : Nat}
    (ordered : since ≤ now) :
    (reading now - reading since).toNat = (now - since) % 2 ^ 32 := by
  simp only [reading, UInt32.toNat_sub, UInt32.toNat_ofNat']
  omega

/-- One millisecond later the elapsed time is longer by one. -/
theorem toNat_succ_sub
    {since now timeoutMs : UInt32}
    (inTime : ¬timeoutMs ≤ now - since) :
    (now + 1 - since).toNat = (now - since).toNat + 1 := by
  rw [UInt32.le_iff_toNat_le] at inTime
  have timeout := timeoutMs.toNat_lt
  simp only [UInt32.toNat_sub, UInt32.toNat_add, UInt32.toNat_one] at *
  omega

/-- A clock that is looked at again and again runs into every timeout. -/
theorem timeout_induction
    {since timeoutMs : UInt32}
    {holds : UInt32 → Prop}
    (late : ∀ now, timeoutMs ≤ now - since → holds now)
    (inTime :
      ∀ now, ¬timeoutMs ≤ now - since → holds (now + 1) → holds now)
    (now : UInt32) :
    holds now := by
  obtain ⟨left, isLeft⟩ :
      ∃ left, timeoutMs.toNat - (now - since).toNat = left := ⟨_, rfl⟩
  induction left generalizing now with
  | zero =>
      exact late now
        (UInt32.le_iff_toNat_le.mpr (Nat.le_of_sub_eq_zero isLeft))
  | succ left inductionHypothesis =>
      have early : ¬timeoutMs ≤ now - since := by
        rw [UInt32.le_iff_toNat_le]
        omega
      have next := toNat_succ_sub early
      exact inTime now early (inductionHypothesis (now + 1) (by omega))

/-- Before a deadline the difference is the complement of what remains. -/
theorem toNat_reading_sub_of_lt
    {now deadline : Nat}
    (early : now < deadline) :
    (reading now - reading deadline).toNat =
      (2 ^ 32 - (deadline - now) % 2 ^ 32) % 2 ^ 32 := by
  simp only [reading, UInt32.toNat_sub, UInt32.toNat_ofNat']
  omega

/-- A deadline that passed less than half a turn ago is reached. -/
theorem reached_of_recent
    {deadline now : Nat}
    (passed : deadline ≤ now)
    (recent : now - deadline < 2 ^ 31) :
    reached (reading now) (reading deadline) = true := by
  rw [reached_eq_true_iff, toNat_reading_sub passed,
    Nat.mod_eq_of_lt (by omega)]
  exact recent

/-- A deadline at most half a turn ahead is not reached. -/
theorem not_reached_of_near
    {deadline now : Nat}
    (ahead : now < deadline)
    (near : deadline - now ≤ 2 ^ 31) :
    reached (reading now) (reading deadline) = false := by
  rw [Bool.eq_false_iff, Ne, reached_eq_true_iff,
    toNat_reading_sub_of_lt ahead]
  omega

/-- A deadline counts as reached when it comes. -/
theorem reached_self (deadline : UInt32) :
    reached deadline deadline = true := by
  rw [reached_eq_true_iff, UInt32.sub_self]
  decide

/-- A deadline at most half a turn ahead of a reading is not reached. -/
theorem not_reached_ahead
    (now : UInt32)
    {ahead : Nat}
    (positive : 0 < ahead)
    (near : ahead ≤ 2 ^ 31) :
    reached now (now + UInt32.ofNat ahead) = false := by
  rw [Bool.eq_false_iff, Ne, reached_eq_true_iff, UInt32.toNat_sub,
    UInt32.toNat_add, UInt32.toNat_ofNat']
  have bound := now.toNat_lt
  omega

end WrappingClock
