import ChipPower.Activity.Statistic

/-!
# Statistics of caches that process operations

What the formulas of such a cache come to, whichever cache it is and for any scope: which
counters they look up, over which range of cores, and what becomes of them. A formula has a
value exactly if all that it looks up has one. The first section does so for the parts that
formulas are made of.
-/

namespace ChipPower

open Statistics

variable {α : Type} [Scalar α] {a : Activity α} {scope : Scope}

/-! ## Parts of formulas -/

section Parts

variable {f g : Formula}

/-- A statistic is what the formula of its name comes to. -/
theorem stat_eq_eval {name : String} {formula : Formula} (known : formula? name = some formula) :
    a.stat name scope = formula.eval a scope := by
  rw [Activity.stat, known]

theorem eval_add_eq_ok_iff {z : α} : (f.add g).eval a scope = .ok z ↔
    ∃ x y, f.eval a scope = .ok x ∧ g.eval a scope = .ok y ∧ x + y = z := by
  simp only [Formula.eval, bind_eq_ok_iff, pure_eq_ok_iff, exists_and_left]

theorem eval_trunc_eq_ok_iff {z : α} : f.trunc.eval a scope = .ok z ↔
    ∃ x, f.eval a scope = .ok x ∧ Scalar.trunc x = z := by
  simp only [Formula.eval, bind_eq_ok_iff, pure_eq_ok_iff]

theorem eval_timesFraction_eq_ok_iff {fraction z : α}
    (set : a.options.inBankFraction = some fraction) : f.timesFraction.eval a scope = .ok z ↔
    ∃ x, f.eval a scope = .ok x ∧ fraction * x = z := by
  simp only [Formula.eval, bind_eq_ok_iff, set, pure_eq_ok_iff]

/-- A second formula is evaluated only if implicit accesses count. -/
theorem eval_withImplicit_eq_ok_iff {x z : α} (known : f.eval a scope = .ok x) :
    (f.withImplicit g).eval a scope = .ok z ↔
      if a.options.implicitAccesses then ∃ y, g.eval a scope = .ok y ∧ x + y = z else x = z := by
  rw [Formula.eval, bind_eq_ok_iff, known]
  simp only [Except.ok.injEq, exists_eq_left']
  split
  · rw [bind_eq_ok_iff]
    simp only [pure_eq_ok_iff]
  · simp only [pure_eq_ok_iff]

end Parts

/-! ## Formulas of a cache -/

namespace Statistics.PicCache

variable {cache : PicCache} {z : α}

/-- All caches that process operations. -/
def all : List PicCache := [dcache, l2, l3]

/-- Which formulas the five statistics of a cache stand for. -/
theorem formula?_operations : ∀ cache ∈ all,
    formula? (cache.label ++ ".pic_copy_ops") = some (cache.count "pic_ops_copy") ∧
      formula? (cache.label ++ ".pic_cmp_ops") = some (cache.compares "pic_ops") ∧
      formula? (cache.label ++ ".pic_copy_ops_in_bank") = some cache.copiesInBank ∧
      formula? (cache.label ++ ".pic_cmp_ops_in_bank") = some cache.comparesInBank ∧
      formula? (cache.label ++ ".pic_key_writes") = some (cache.count "pic_key_writes") := by
  decide +kernel

/-- A count is added up over the cores that share the cache. -/
theorem eval_count_eq_ok_iff {name : String} : (cache.count name).eval a scope = .ok z ↔
    ∃ range, a.sharers cache.sharing scope = .ok range ∧
      a.stats.sumOverOrZero (cache.counter name) range = .ok z :=
  bind_eq_ok_iff

/-- The compares of a cache that counts searches as compares. -/
theorem eval_compares_of_folds (folds : cache.foldsSearches = true) (group : String) :
    (cache.compares group).eval a scope = (do
      let range ← a.sharers cache.sharing scope
      let compares ← a.stats.sumOverOrZero (cache.counter (group ++ "_cmp")) range
      let searches ← a.stats.sumOverOrZero (cache.counter (group ++ "_search")) range
      return Scalar.trunc (compares + searches)) := by
  rw [compares, if_pos folds]
  simp only [count, Formula.eval, bind_assoc, pure_bind]
  cases a.sharers cache.sharing scope <;> rfl

/-- The same, with all that is looked up. -/
theorem eval_compares_eq_ok_iff (folds : cache.foldsSearches = true) {group : String} :
    (cache.compares group).eval a scope = .ok z ↔ ∃ range compares searches,
      a.sharers cache.sharing scope = .ok range ∧
      a.stats.sumOverOrZero (cache.counter (group ++ "_cmp")) range = .ok compares ∧
      a.stats.sumOverOrZero (cache.counter (group ++ "_search")) range = .ok searches ∧
      Scalar.trunc (compares + searches) = z := by
  simp only [eval_compares_of_folds folds, bind_eq_ok_iff, pure_eq_ok_iff, exists_and_left]

/-- The policy decides between two names, of which the one is read that has the policy in it. -/
theorem eval_byPolicy_compares (cache : PicCache) (scope : Scope) :
    (Formula.byPolicy (cache.compares ("pic_ops_in_bank_" ++ BankMapPolicy.allWays.name))
      (cache.compares ("pic_ops_in_bank_" ++ BankMapPolicy.moreSets.name))).eval a scope =
      (cache.compares ("pic_ops_in_bank_" ++ a.options.bankMapPolicy.name)).eval a scope := by
  rw [Formula.eval]
  cases a.options.bankMapPolicy <;> rfl

section Fraction

variable {fraction : α} (uses : cache.usesFraction = true)
  (set : a.options.inBankFraction = some fraction)

include uses set

/-- Where a cache uses a fraction and one is set, nothing is read that was counted inside a
bank. -/
theorem eval_orFraction (f counted : Formula) :
    (cache.orFraction f counted).eval a scope = f.eval a scope := by
  have isSet : a.options.inBankFraction.isSome = true := by rw [set, Option.isSome_some]
  rw [orFraction, if_pos uses]
  exact if_pos isSet

/-- Under a fraction, that fraction of all copies stays inside a bank. -/
theorem eval_copiesInBank_eq_ok_iff : cache.copiesInBank.eval a scope = .ok z ↔
    ∃ copies, (cache.count "pic_ops_copy").eval a scope = .ok copies ∧ fraction * copies = z := by
  rw [copiesInBank, eval_orFraction uses set, eval_timesFraction_eq_ok_iff set]

/-- Without compares there are none inside a bank, and nothing else is looked up. -/
theorem eval_comparesInBank_of_missing
    (missing : a.stats.contains (cache.counter "pic_ops_cmp") = false) :
    cache.comparesInBank.eval a scope = .ok 0.0 := by
  rw [comparesInBank, eval_orFraction uses set, Formula.eval, missing]
  rfl

/-- The compares inside a bank of a cache that counted compares. -/
theorem eval_comparesInBank_of_present
    (present : a.stats.contains (cache.counter "pic_ops_cmp") = true) :
    cache.comparesInBank.eval a scope = (do
      let range ← a.sharers cache.sharing scope
      let compares ← a.stats.sumOver (cache.counter "pic_ops_cmp") range
      let searches ← a.stats.sumOver (cache.counter "pic_ops_search") range
      return Scalar.trunc (fraction * (compares + searches))) := by
  rw [comparesInBank, eval_orFraction uses set, Formula.eval, if_pos present]
  simp only [comparesAndSearches, Formula.eval, set, bind_assoc, pure_bind]
  cases a.sharers cache.sharing scope <;> rfl

/-- The same, with all that is looked up. The searches have to be there as soon as the compares
are. -/
theorem eval_comparesInBank_eq_ok_iff
    (present : a.stats.contains (cache.counter "pic_ops_cmp") = true) :
    cache.comparesInBank.eval a scope = .ok z ↔ ∃ range compares searches,
      a.sharers cache.sharing scope = .ok range ∧
      a.stats.sumOver (cache.counter "pic_ops_cmp") range = .ok compares ∧
      a.stats.sumOver (cache.counter "pic_ops_search") range = .ok searches ∧
      Scalar.trunc (fraction * (compares + searches)) = z := by
  simp only [eval_comparesInBank_of_present uses set present, bind_eq_ok_iff, pure_eq_ok_iff,
    exists_and_left]

end Fraction

end Statistics.PicCache

end ChipPower
