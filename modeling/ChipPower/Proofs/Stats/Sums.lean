import ChipPower.Proofs.Numeric.Exact
import ChipPower.Stats.Basic
import Mathlib.Algebra.BigOperators.Ring.List

/-!
# Sums over the cores of a bank

What a sum over a range of cores is in exact arithmetic. A statistic covers a range if it
is a list with an element for each of its cores (`Stats.Covers`), and then the sum has a
value, which is `Stats.total`. `Value.Sums` says the same of a value, so that it can be
followed through the addition and the scaling of values.

A sum that allows for a missing statistic and one that does not differ in one case only: if
the statistic is missing and the range is not empty, the one is zero and the other fails
(`Stats.sumOver_of_missing`, `Stats.exists_sumOver`, `Stats.sumOverOrZero_of_sumOver`).
-/

namespace ChipPower

/-- The elements of a list from the start of a range up to its end, added up. -/
def rangeSum (range : Nat × Nat) (xs : List Rat) : Rat :=
  ((xs.drop range.1).take (range.2 - range.1)).sum

/-- Lists that are long enough add up element by element. -/
theorem rangeSum_zipWith {range : Nat × Nat} {xs ys : List Rat} (left : range.2 ≤ xs.length)
    (right : range.2 ≤ ys.length) :
    rangeSum range (List.zipWith (· + ·) xs ys) = rangeSum range xs + rangeSum range ys := by
  have length : ((xs.drop range.1).take (range.2 - range.1)).length =
      ((ys.drop range.1).take (range.2 - range.1)).length := by
    simp only [List.length_take, List.length_drop]
    omega
  rw [rangeSum, List.drop_zipWith, List.take_zipWith,
    ← List.sum_add_sum_eq_sum_zipWith_of_length_eq _ _ length]
  rfl

theorem rangeSum_map_mul (range : Nat × Nat) (xs : List Rat) (factor : Rat) :
    rangeSum range (xs.map (· * factor)) = rangeSum range xs * factor := by
  rw [rangeSum, ← List.map_drop, ← List.map_take, List.sum_map_mul_right, List.map_id']
  rfl

/-! ## Values -/

namespace Value

/-- A value is a list with an element for each core of a range. -/
def Covers {α : Type} (range : Nat × Nat) : Value α → Prop
  | .scalar _ => False
  | .list xs => range.2 ≤ xs.length

instance {α : Type} (range : Nat × Nat) : DecidablePred (Covers (α := α) range)
  | .scalar _ => .isFalse id
  | .list xs => Nat.decLe range.2 xs.length

/-- A value is a list that has an element for each core of a range, and these add up to a
total. -/
def Sums (range : Nat × Nat) (value : Value Rat) (total : Rat) : Prop :=
  ∃ xs, value = .list xs ∧ range.2 ≤ xs.length ∧ rangeSum range xs = total

/-- Two values that add up over a range can be added, and so are their totals. -/
theorem Sums.add {range : Nat × Nat} {x y : Value Rat} {s t : Rat} (left : x.Sums range s)
    (right : y.Sums range t) {z : Value Rat} (added : x.add y = .ok z) :
    z.Sums range (s + t) := by
  obtain ⟨xs, rfl, longX, rfl⟩ := left
  obtain ⟨ys, rfl, longY, rfl⟩ := right
  cases added
  refine ⟨List.zipWith (· + ·) xs ys, rfl, ?_, rangeSum_zipWith longX longY⟩
  rw [List.length_zipWith]
  omega

/-- A value that is scaled has its total scaled. -/
theorem Sums.map_mul {range : Nat × Nat} {x : Value Rat} {s : Rat} (sums : x.Sums range s)
    (factor : Rat) : (x.map (· * factor)).Sums range (s * factor) := by
  obtain ⟨xs, rfl, long, rfl⟩ := sums
  refine ⟨xs.map (· * factor), rfl, ?_, rangeSum_map_mul range xs factor⟩
  rwa [List.length_map]

end Value

/-! ## Statistics -/

namespace Stats

section Lookup

variable {α : Type} {stats other : Stats α} {name : String}

theorem element_congr (same : stats.get? name = other.get? name) (index : Nat) :
    stats.element name index = other.element name index := by
  rw [element, element, require, require, same]

variable [Scalar α]

/-- A sum reads nothing but the statistic of its name. -/
theorem sumOver_congr (same : stats.get? name = other.get? name) (range : Nat × Nat) :
    stats.sumOver name range = other.sumOver name range := by
  rw [sumOver, sumOver, sumFrom_eq_foldlM, sumFrom_eq_foldlM]
  simp only [element_congr same]

theorem sumOverOrZero_congr (same : stats.get? name = other.get? name) (range : Nat × Nat) :
    stats.sumOverOrZero name range = other.sumOverOrZero name range := by
  rw [sumOverOrZero, sumOverOrZero, Dict.contains, Dict.contains, same, sumOver_congr same]

/-- A sum over no cores has a value even if the statistic is missing. -/
theorem sumOver_of_missing (missing : stats.contains name = false) (range : Nat × Nat) :
    stats.sumOver name range =
      if range.1 < range.2 then fail (.missingStatistic name) else .ok Scalar.emptySum := by
  have unknown : stats.get? name = none :=
    Option.isNone_iff_eq_none.1 (Option.isSome_eq_false_iff.1 missing)
  have absent (index : Nat) : stats.element name index = fail (.missingStatistic name) := by
    rw [element, require, unknown]
    rfl
  rw [sumOver]
  split
  · rename_i some
    obtain ⟨count, same⟩ := Nat.exists_eq_succ_of_ne_zero (Nat.sub_ne_zero_of_lt some)
    rw [same, sumFrom, absent]
    rfl
  · rename_i empty
    rw [Nat.sub_eq_zero_of_le (Nat.not_lt.1 empty), sumFrom]

/-- If a sum has a value where a missing statistic is allowed, then it has one where it is not,
unless the statistic is missing and there are cores to count for. -/
theorem exists_sumOver {range : Nat × Nat} {x : α}
    (found : stats.sumOverOrZero name range = .ok x)
    (counted : range.1 < range.2 → stats.contains name = true) :
    ∃ sum, stats.sumOver name range = .ok sum := by
  cases present : stats.contains name with
  | true =>
    rw [sumOverOrZero, if_pos present] at found
    exact ⟨x, found⟩
  | false =>
    have empty : ¬ range.1 < range.2 := fun some => by simp [counted some] at present
    exact ⟨Scalar.emptySum, by rw [sumOver_of_missing present, if_neg empty]⟩

end Lookup

/-- A statistic is a list with an element for each core of a range. -/
def Covers {α : Type} (stats : Stats α) (range : Nat × Nat) (name : String) : Prop :=
  ∃ value ∈ stats.get? name, value.Covers range

instance {α : Type} (stats : Stats α) (range : Nat × Nat) (name : String) :
    Decidable (stats.Covers range name) :=
  inferInstanceAs (Decidable (∃ value ∈ stats.get? name, value.Covers range))

/-- The sum of the elements that a statistic has for the cores of a range. -/
def total (stats : Stats Rat) (range : Nat × Nat) (name : String) : Rat :=
  match stats.get? name with
  | some (.list xs) => rangeSum range xs
  | _ => 0

variable {stats : Stats Rat} {range : Nat × Nat} {name : String}

/-- A statistic that covers a range adds up to its total. -/
theorem Covers.sums (covers : stats.Covers range name) {value : Value Rat}
    (found : stats.require name = .ok value) : value.Sums range (stats.total range name) := by
  obtain ⟨covering, listed, long⟩ := covers
  rw [require, Option.mem_def.1 listed] at found
  cases found
  cases value with
  | scalar x => cases long
  | list xs =>
    refine ⟨xs, rfl, long, ?_⟩
    rw [total, Option.mem_def.1 listed]

/-- A sum over a list goes on from what it has, by induction on the elements that are left. -/
theorem sumFrom_eq_ok {xs : List Rat} (listed : stats.get? name = some (.list xs)) (sum : Rat)
    (index count : Nat) (inside : ∀ i < count, index + i < xs.length) :
    stats.sumFrom name sum index count = .ok (sum + ((xs.drop index).take count).sum) := by
  induction count generalizing sum index with
  | zero => simp [sumFrom]
  | succ count ih =>
    have here : index < xs.length := inside 0 (Nat.succ_pos count)
    have element : stats.element name index = .ok xs[index] := by
      simp [Stats.element, require, listed, Value.get?, here, bind, Except.bind, pure, Except.pure]
    have further : ∀ i < count, index + 1 + i < xs.length := fun i below => by
      have := inside (i + 1) (by omega)
      omega
    rw [sumFrom, element]
    simp only
    rw [ih (sum + xs[index]) (index + 1) further, List.drop_eq_getElem_cons here,
      List.take_succ_cons, List.sum_cons, add_assoc]

/-- What a sum comes to it also comes to where a missing statistic is allowed. -/
theorem sumOverOrZero_of_sumOver {sum : Rat} (found : stats.sumOver name range = .ok sum) :
    stats.sumOverOrZero name range = .ok sum := by
  cases present : Dict.contains stats name with
  | true => rw [sumOverOrZero, if_pos present, found]
  | false =>
    rw [sumOver_of_missing present] at found
    split at found
    · cases found
    · cases found
      rw [sumOverOrZero, present]
      exact congrArg Except.ok Scalar.zero_eq

/-- A statistic has an element for each core of a range, and these add up to a total. -/
def Sums (stats : Stats Rat) (range : Nat × Nat) (name : String) (total : Rat) : Prop :=
  ∃ value, stats.get? name = some value ∧ value.Sums range total

namespace Sums

variable {sum : Rat} (sums : stats.Sums range name sum)

include sums

theorem contains : Dict.contains stats name = true := by
  obtain ⟨value, found, -⟩ := sums
  rw [Dict.contains, found, Option.isSome_some]

theorem sumOver_eq_ok : stats.sumOver name range = .ok sum := by
  obtain ⟨value, found, xs, rfl, long, rfl⟩ := sums
  have inside : ∀ i < range.2 - range.1, range.1 + i < xs.length := fun i below => by omega
  rw [sumOver, sumFrom_eq_ok found _ _ _ inside]
  exact congrArg Except.ok (zero_add _)

theorem sumOverOrZero_eq_ok : stats.sumOverOrZero name range = .ok sum := by
  rw [sumOverOrZero, if_pos sums.contains, sums.sumOver_eq_ok]

end Sums

end Stats
end ChipPower
