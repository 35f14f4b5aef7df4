import ChipPower.Proofs.Numeric.Exact
import ChipPower.Stats.Basic
import Mathlib.Algebra.Order.BigOperators.Group.List

/-!
# Statistics without negative numbers

Counters count up from zero, so no number of theirs is negative. What is looked up in such
statistics or added up from them is not negative either.
-/

namespace ChipPower

namespace Value

/-- No number of a value is negative. -/
def NonNegative : Value Rat → Prop
  | .scalar x => 0 ≤ x
  | .list xs => ∀ x ∈ xs, 0 ≤ x

instance : DecidablePred NonNegative
  | .scalar x => inferInstanceAs (Decidable (0 ≤ x))
  | .list xs => inferInstanceAs (Decidable (∀ x ∈ xs, 0 ≤ x))

variable {value : Value Rat} (counted : value.NonNegative)

include counted

/-- What a list without negative numbers has at an index is not negative. -/
theorem NonNegative.get? {index : Nat} {x : Rat} (found : value.get? index = some x) : 0 ≤ x := by
  cases value with
  | scalar y => cases found
  | list xs => exact counted x (List.mem_of_getElem? found)

/-- The sum of a value without negative numbers is not negative. -/
theorem NonNegative.sum : 0 ≤ value.sum := by
  cases value with
  | scalar x => exact counted
  | list xs =>
    rw [Value.sum, Scalar.sum_eq]
    exact List.sum_nonneg counted

end Value

namespace Stats

section Lookup

variable {α : Type} {stats : Stats α} {name : String}

/-- A statistic that has to be there is the one that is stored under its name. -/
theorem require_eq_ok_iff {value : Value α} :
    stats.require name = .ok value ↔ stats.get? name = some value := by
  unfold require
  cases stats.get? name <;> simp [fail]

/-- A list that has to be there is stored under its name as a list. -/
theorem list_eq_ok_iff {xs : List α} :
    stats.list name = .ok xs ↔ stats.get? name = some (.list xs) := by
  simp only [list, bind_eq_ok_iff, require_eq_ok_iff]
  constructor
  · intro found
    obtain ⟨value, found, isList⟩ := found
    cases value with
    | scalar x => cases isList
    | list ys =>
      cases isList
      exact found
  · intro found
    exact ⟨_, found, rfl⟩

end Lookup

/-- No number of any statistic is negative. -/
def NonNegative (stats : Stats Rat) : Prop :=
  ∀ value ∈ stats.values, value.NonNegative

instance : DecidablePred NonNegative := fun stats =>
  inferInstanceAs (Decidable (∀ value ∈ stats.values, value.NonNegative))

/-- It is enough to look at the entries that statistics are made of. -/
theorem nonNegative_ofList {entries : List (String × Value Rat)}
    (counted : ∀ value ∈ entries.map (·.2), value.NonNegative) :
    NonNegative (.ofList entries) :=
  fun value member => counted value (Dict.mem_of_mem_values_ofList member)

namespace NonNegative

variable {stats : Stats Rat} (counted : stats.NonNegative) {name : String} {x : Rat}

include counted

theorem lookup {value : Value Rat} (found : stats.get? name = some value) :
    value.NonNegative :=
  counted value (Dict.mem_values_of_find found)

theorem element {index : Nat} (found : stats.element name index = .ok x) : 0 ≤ x := by
  obtain ⟨value, required, inside⟩ := bind_eq_ok_iff.1 found
  split at inside
  · rename_i y listed
    cases inside
    exact (counted.lookup (require_eq_ok_iff.1 required)).get? listed
  · cases inside

/-- A statistic that is missing counts as zero, which is not negative either. -/
theorem elementOrZero {index : Nat} (found : stats.elementOrZero name index = .ok x) :
    0 ≤ x := by
  unfold Stats.elementOrZero at found
  split at found
  · exact counted.element found
  · cases found
    exact Scalar.zero_eq.ge

/-- A sum that has started without being negative goes on that way, by induction on the cores
that are left. -/
theorem sumFrom {total : Rat} (started : 0 ≤ total) {index count : Nat}
    (found : stats.sumFrom name total index count = .ok x) : 0 ≤ x := by
  induction count generalizing total index with
  | zero =>
    cases found
    exact started
  | succ count ih =>
    unfold Stats.sumFrom at found
    split at found
    · cases found
    · rename_i y here
      exact ih (add_nonneg started (counted.element here)) found

theorem sumOver {range : Nat × Nat} (found : stats.sumOver name range = .ok x) : 0 ≤ x :=
  counted.sumFrom le_rfl found

theorem sumOverOrZero {range : Nat × Nat} (found : stats.sumOverOrZero name range = .ok x) :
    0 ≤ x := by
  unfold Stats.sumOverOrZero at found
  split at found
  · exact counted.sumOver found
  · cases found
    exact Scalar.zero_eq.ge

end NonNegative

end Stats

end ChipPower
