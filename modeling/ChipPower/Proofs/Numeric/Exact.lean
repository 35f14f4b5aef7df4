import ChipPower.Numeric.Scalar
import Mathlib.Algebra.Order.Group.Abs
import Mathlib.Algebra.Order.Ring.Rat
import Mathlib.Data.Rat.Floor
import Mathlib.Tactic.NormNum

/-!
# Exact arithmetic

In the rational reading of the scalars, the operations that formulas use are those of
the ordered field of rational numbers.
-/

namespace ChipPower.Scalar

theorem zero_eq : (OfScientific.ofScientific 0 true 1 : Rat) = 0 := by
  norm_num

theorem less_eq (x y : Rat) : less x y = decide (x < y) := rfl

theorem atMost_eq (x y : Rat) : atMost x y = decide (x ≤ y) := rfl

/-- Adding up from left to right comes to the sum. -/
theorem sum_eq (xs : List Rat) : sum xs = xs.sum := by
  rw [List.sum_eq_foldl]
  rfl

theorem abs_eq (x : Rat) : Scalar.abs x = |x| := by
  rw [Scalar.abs, less_eq, zero_eq, zero_sub]
  by_cases positive : 0 < x
  · simp [positive, abs_of_pos]
  · simp [positive, abs_of_nonpos (not_lt.1 positive)]

/-- The maximum that is made for numbers that cannot be compared is the one of the order. -/
theorem max_eq (x y : Rat) : Scalar.max x y = Max.max x y := by
  rw [Scalar.max, less_eq, atMost_eq, max_def]
  by_cases below : x < y
  · simp [below, below.le]
  · by_cases same : x = y
    · simp [same]
    · have above : ¬ x ≤ y := fun le => below (lt_of_le_of_ne le same)
      simp [below, above]

theorem min_eq (x y : Rat) : Scalar.min x y = Min.min x y := by
  rw [Scalar.min, less_eq, atMost_eq, min_def]
  by_cases above : y < x
  · simp [above, not_le.2 above]
  · simp [not_lt.1 above]

/-- A number is zero if it is neither above nor below zero. -/
theorem isZero_eq (x : Rat) : isZero x = decide (x = 0) := by
  simp only [isZero, atMost_eq, zero_eq, ← Bool.decide_and, le_antisymm_iff]

theorem one_eq : (OfScientific.ofScientific 10 true 1 : Rat) = 1 := by
  norm_num

/-- A decimal is written without a sign. -/
theorem ofScientific_nonneg (mantissa : Nat) (negative : Bool) (exponent : Nat) :
    0 ≤ (OfScientific.ofScientific mantissa negative exponent : Rat) :=
  Rat.ofScientific_nonneg mantissa negative exponent

/-- Truncation goes towards zero, and not across it. -/
theorem trunc_nonneg {x : Rat} (nonneg : 0 ≤ x) : 0 ≤ trunc x := by
  have whole : 0 ≤ x.num.tdiv x.den :=
    Int.tdiv_nonneg (Rat.num_nonneg.2 nonneg) (Int.natCast_nonneg x.den)
  exact Int.cast_nonneg whole

theorem ceil_eq (x : Rat) : ceil x = ⌈x⌉ :=
  congrArg Int.cast (Rat.ceil_eq_neg_floor_neg x)

/-! ## Whole parts -/

/-- Truncation rounds down what is not negative. -/
theorem truncToInt_of_nonneg {x : Rat} (nonneg : 0 ≤ x) : truncToInt x = ⌊x⌋ := by
  rw [Rat.floor_def']
  exact Int.tdiv_eq_ediv_of_nonneg (Rat.num_nonneg.2 nonneg)

/-- Truncation is the same on both sides of zero. -/
theorem truncToInt_neg (x : Rat) : truncToInt (-x) = -truncToInt x :=
  Int.neg_tdiv x.num x.den

/-- A number whose whole part is not negative may be negative itself, by less than one. -/
theorem truncToInt_nonneg_iff (x : Rat) : 0 ≤ truncToInt x ↔ -1 < x := by
  rcases le_total 0 x with nonneg | nonpos
  · rw [truncToInt_of_nonneg nonneg]
    exact iff_of_true (Int.floor_nonneg.2 nonneg) (neg_one_lt_zero.trans_le nonneg)
  · have positive : 0 ≤ -x := neg_nonneg.2 nonpos
    have floor : truncToInt x = -⌊-x⌋ := by
      rw [← truncToInt_of_nonneg positive, truncToInt_neg, neg_neg]
    have zero : 0 ≤ ⌊-x⌋ := Int.floor_nonneg.2 positive
    calc 0 ≤ truncToInt x
      _ ↔ ⌊-x⌋ < 1 := by omega
      _ ↔ -x < 1 := by rw [Int.floor_lt, Int.cast_one]
      _ ↔ -1 < x := neg_lt

/-- Truncation keeps the order of numbers that are not negative. -/
theorem trunc_le_trunc {x y : Rat} (nonneg : 0 ≤ x) (le : x ≤ y) : trunc x ≤ trunc y := by
  have whole : truncToInt x ≤ truncToInt y := by
    rw [truncToInt_of_nonneg nonneg, truncToInt_of_nonneg (nonneg.trans le)]
    exact Int.floor_le_floor le
  exact Int.cast_le.2 whole

end ChipPower.Scalar
