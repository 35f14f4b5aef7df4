import ChipPower.Numeric.SiPrefix
import ChipPower.Proofs.Numeric.Exact
import Mathlib.Algebra.Order.Field.Power
import Mathlib.Order.Bounds.Basic

/-!
# Values with SI prefixes

In exact arithmetic, a value other than zero is its mantissa times the power of ten that its
prefix stands for. The prefix is the largest one of which the value is at least one unit
(`SiPrefix.isGreatest_choose`), or the smallest of all if there is none. Each prefix stands for
a thousand units of the next smaller one, so a mantissa reaches a thousand only where there is
no larger prefix.

* `Prefixed.Scales` says how a value is to be written.
* `Prefixed.ofValue_scales`: values are written so, and a larger one never has a smaller prefix.
-/

namespace ChipPower

namespace SiPrefix

/-! ## The table -/

theorem sorted_all : all.Pairwise fun larger smaller => smaller.exponent < larger.exponent := by
  decide

theorem smallest_mem_all : smallest ∈ all := by
  decide

theorem smallest_le : ∀ p ∈ all, smallest.exponent ≤ p.exponent := by
  decide

/-- Each prefix but the largest has another one for a thousand of its units. -/
theorem exists_thousandfold :
    ∀ p ∈ all, p.exponent = 12 ∨ ∃ q ∈ all, q.exponent = p.exponent + 3 := by
  decide

theorem factor_eq (p : SiPrefix) : (p.factor : Rat) = 10 ^ p.exponent := by
  have exponent : (if decide (p.exponent < 0) = true then -(p.exponent.natAbs : Int)
      else p.exponent.natAbs) = p.exponent := by
    simp only [decide_eq_true_eq]
    omega
  rw [factor, Rat.ofScientific_def', exponent, Nat.cast_one, one_mul]

theorem unit_pos (p : SiPrefix) : (0 : Rat) < 10 ^ p.exponent :=
  zpow_pos (by norm_num) p.exponent

/-! ## The prefix of a value -/

variable {value : Rat}

/-- The first prefix of the table of which a value is at least one unit. -/
def firstWithin? (value : Rat) : Option SiPrefix :=
  all.find? fun p => (10 : Rat) ^ p.exponent ≤ |value|

theorem choose_eq (value : Rat) : choose value = (firstWithin? value).getD smallest := by
  simp only [choose, firstWithin?, Scalar.atMost_eq, Scalar.abs_eq, factor_eq]

/-- The exponents of the prefixes of which a value is at least one unit. -/
def unitsWithin (value : Rat) : Set Int :=
  {e | (∃ p ∈ all, p.exponent = e) ∧ (10 : Rat) ^ e ≤ |value|}

theorem choose_of_firstWithin? {p : SiPrefix} (found : firstWithin? value = some p) :
    choose value = p := by
  rw [choose_eq, found, Option.getD_some]

/-- The table is searched from its largest prefix on, so no prefix that could be found is larger
than the first one. -/
theorem isGreatest_of_firstWithin? {p : SiPrefix} (found : firstWithin? value = some p) :
    IsGreatest (unitsWithin value) p.exponent := by
  obtain ⟨within, larger, smaller, table, beyond⟩ := List.find?_eq_some_iff_append.1 found
  refine ⟨⟨⟨p, List.mem_of_find?_eq_some found, rfl⟩, of_decide_eq_true within⟩, ?_⟩
  rintro _ ⟨⟨q, member, rfl⟩, reached⟩
  have sorted := sorted_all
  rw [table] at member sorted
  rcases List.mem_append.1 member with before | after
  · have missed := beyond q before
    simp [reached] at missed
  · rcases List.mem_cons.1 after with rfl | after
    · exact le_rfl
    · have below := (List.pairwise_cons.1 (List.pairwise_append.1 sorted).2.1).1 q after
      exact below.le

/-- A value that is at least one unit of the smallest prefix has the largest prefix of which it
is at least one unit. -/
theorem isGreatest_choose (large : (10 : Rat) ^ smallest.exponent ≤ |value|) :
    IsGreatest (unitsWithin value) (choose value).exponent := by
  rcases result : firstWithin? value with _ | p
  · have missed := List.find?_eq_none.1 result smallest smallest_mem_all
    exact absurd (decide_eq_true large) missed
  · rw [choose_of_firstWithin? result]
    exact isGreatest_of_firstWithin? result

/-- No prefix has a smaller unit than the smallest one. -/
theorem smallest_unit_le {p : SiPrefix} (member : p ∈ all) :
    (10 : Rat) ^ smallest.exponent ≤ 10 ^ p.exponent :=
  zpow_le_zpow_right₀ (by norm_num) (smallest_le p member)

theorem choose_of_lt (small : |value| < (10 : Rat) ^ smallest.exponent) :
    choose value = smallest := by
  have missed : firstWithin? value = none := by
    refine List.find?_eq_none.2 fun p member => ?_
    have beyond := small.trans_le (smallest_unit_le member)
    simpa using beyond
  rw [choose_eq, missed, Option.getD_none]

theorem choose_mem_all (value : Rat) : choose value ∈ all := by
  rcases result : firstWithin? value with _ | p
  · rw [choose_eq, result]
    exact smallest_mem_all
  · rw [choose_of_firstWithin? result]
    exact List.mem_of_find?_eq_some result

theorem exponent_choose_le {larger : Rat} (le : |value| ≤ |larger|) :
    (choose value).exponent ≤ (choose larger).exponent := by
  rcases lt_or_ge |value| ((10 : Rat) ^ smallest.exponent) with small | large
  · rw [choose_of_lt small]
    exact smallest_le _ (choose_mem_all larger)
  · have chosen := (isGreatest_choose large).1
    exact (isGreatest_choose (large.trans le)).2 ⟨chosen.1, chosen.2.trans le⟩

/-- Below a thousand of the largest units, a value is less than a thousand of its own. -/
theorem lt_thousandfold (large : (10 : Rat) ^ smallest.exponent ≤ |value|)
    (below : |value| < 10 ^ 15) : |value| < 10 ^ ((choose value).exponent + 3) := by
  rcases exists_thousandfold _ (choose_mem_all value) with largest | ⟨q, member, next⟩
  · rw [largest]
    exact below
  · rw [← next]
    refine lt_of_not_ge fun reached => ?_
    have most := (isGreatest_choose large).2 ⟨⟨q, member, rfl⟩, reached⟩
    omega

end SiPrefix

namespace Prefixed

open SiPrefix

variable {value : Rat}

/-- `Scales value p`: the prefix is one of the table, and the value is the mantissa times its
power of ten. From one unit of the smallest prefix on, the mantissa is at least one, and less
than a thousand as far as there are prefixes; a smaller value has the smallest prefix, and a
mantissa below one. -/
structure Scales (value : Rat) (p : Prefixed Rat) : Prop where
  listed : p.unit ∈ SiPrefix.all
  product : p.mantissa * 10 ^ p.unit.exponent = value
  one_le : 10 ^ (-12 : Int) ≤ |value| → 1 ≤ |p.mantissa|
  lt_thousand : 10 ^ (-12 : Int) ≤ |value| → |value| < 10 ^ 15 → |p.mantissa| < 1000
  tiny : |value| < 10 ^ (-12 : Int) →
    (∀ q ∈ SiPrefix.all, p.unit.exponent ≤ q.exponent) ∧ |p.mantissa| < 1

theorem ofValue_of_ne_zero (nonzero : value ≠ 0) :
    ofValue value = ⟨value / 10 ^ (choose value).exponent, choose value⟩ := by
  have written : ¬ (Scalar.isZero value || !Scalar.isFinite value) = true := by
    rw [Scalar.isZero_eq, decide_eq_false nonzero]
    exact Bool.false_ne_true
  rw [ofValue, if_neg written, ← factor_eq]

theorem abs_mantissa (nonzero : value ≠ 0) :
    |(ofValue value).mantissa| = |value| / 10 ^ (choose value).exponent := by
  rw [ofValue_of_ne_zero nonzero, abs_div, abs_of_pos (unit_pos _)]

theorem scales_ofValue (nonzero : value ≠ 0) : Scales value (ofValue value) := by
  have unit : (ofValue value).unit = choose value := by rw [ofValue_of_ne_zero nonzero]
  have positive := unit_pos (choose value)
  refine ⟨?listed, ?product, fun large => ?one_le, fun large below => ?lt_thousand,
    fun small => ⟨?least, ?lt_one⟩⟩
  case listed => exact unit ▸ choose_mem_all value
  case product =>
    rw [ofValue_of_ne_zero nonzero]
    exact div_mul_cancel₀ value positive.ne'
  case one_le =>
    rw [abs_mantissa nonzero, one_le_div positive]
    exact (isGreatest_choose large).1.2
  case lt_thousand =>
    have thousand : (10 : Rat) ^ ((choose value).exponent + 3) =
        1000 * 10 ^ (choose value).exponent := by
      rw [zpow_add₀ (by norm_num), mul_comm]
      norm_num
    rw [abs_mantissa nonzero, div_lt_iff₀ positive, ← thousand]
    exact lt_thousandfold large below
  case least =>
    rw [unit, choose_of_lt small]
    exact smallest_le
  case lt_one =>
    rw [abs_mantissa nonzero, div_lt_one positive, choose_of_lt small]
    exact small

/-- A value other than zero is scaled to a prefix of the table, and a larger value never to a
smaller prefix. -/
theorem ofValue_scales (nonzero : value ≠ 0) :
    Scales value (ofValue value) ∧
      ∀ larger, |value| ≤ |larger| →
        (ofValue value).unit.exponent ≤ (ofValue larger).unit.exponent := by
  refine ⟨scales_ofValue nonzero, fun larger le => ?_⟩
  have other : larger ≠ 0 := abs_pos.1 ((abs_pos.2 nonzero).trans_le le)
  rw [ofValue_of_ne_zero nonzero, ofValue_of_ne_zero other]
  exact exponent_choose_le le

/-- A negative value is scaled as its magnitude is: -0.0042 to -4.2 thousandths, and nothing
larger to a prefix below that. -/
theorem ofValue_scales_milli :
    (-21 / 5000 : Rat) ≠ 0 ∧ Scales (-21 / 5000) ⟨-21 / 5, ⟨-3, "m"⟩⟩ ∧
      ∀ larger : Rat, |-21 / 5000| ≤ |larger| → -3 ≤ (ofValue larger).unit.exponent := by
  have nonzero : (-21 / 5000 : Rat) ≠ 0 := by norm_num
  have chosen : choose (-21 / 5000 : Rat) = ⟨-3, "m"⟩ := by
    rw [choose_eq, firstWithin?, all]
    norm_num [abs_of_neg]
  have written : ofValue (-21 / 5000 : Rat) = ⟨-21 / 5, ⟨-3, "m"⟩⟩ := by
    rw [ofValue_of_ne_zero nonzero, chosen]
    norm_num
  have scaled := ofValue_scales nonzero
  rw [written] at scaled
  exact ⟨nonzero, scaled⟩

end Prefixed

end ChipPower
