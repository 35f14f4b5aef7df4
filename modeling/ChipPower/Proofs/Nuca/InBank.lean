import ChipPower.Proofs.Nuca.Banks

/-!
# In-bank compares of NUCA banks

The mapping stores the compares and searches that stay inside a bank under a name that
ends in the policy, as that of the copies does, while the statistics of a cache look for a
name that ends in `_cmp` or `_search`. So they never read what was stored: under an in-bank
fraction the L2 falls back on all compares, to which it adds searches that the level left
over, and otherwise there is what the level itself left over under the other name.
`MappedRun.comparesInBank_iff` says when this is the stored sum all the same.
-/

namespace ChipPower

open Statistics

/-! ## The formula -/

section Formulas

variable {α : Type} [Scalar α] {a : Activity α} {bank : Nat} {z : α}

/-- An L3 looks for its in-bank compares under the names of the policy. -/
theorem eval_comparesInBank_l3 (scope : Scope) :
    PicCache.l3.comparesInBank.eval a scope =
      (PicCache.l3.compares ("pic_ops_in_bank_" ++ a.options.bankMapPolicy.name)).eval a scope :=
  PicCache.eval_byPolicy_compares PicCache.l3 scope

/-- So does an L2, as long as there is no fraction. -/
theorem eval_comparesInBank_l2_of_none (unset : a.options.inBankFraction = none) (scope : Scope) :
    PicCache.l2.comparesInBank.eval a scope =
      (PicCache.l2.compares ("pic_ops_in_bank_" ++ a.options.bankMapPolicy.name)).eval a scope := by
  rw [← PicCache.eval_byPolicy_compares, PicCache.comparesInBank, PicCache.orFraction]
  simp only [PicCache.l2, if_true, Formula.eval, unset, Option.isSome_none, Bool.false_eq_true,
    if_false]

/-- Under a fraction, an L2 that has counted compares takes it of all compares and searches. -/
theorem eval_comparesInBank_l2_of_some {fraction : α}
    (set : a.options.inBankFraction = some fraction)
    (present : a.stats.contains "L2.pic_ops_cmp" = true) :
    PicCache.l2.comparesInBank.eval a (.unit bank) = .ok z ↔
      ∃ compares searches,
        a.stats.sumOver "L2.pic_ops_cmp" (a.hierarchy.l2Range bank) = .ok compares ∧
        a.stats.sumOver "L2.pic_ops_search" (a.hierarchy.l2Range bank) = .ok searches ∧
        Scalar.trunc (fraction * (compares + searches)) = z := by
  have uses : PicCache.l2.usesFraction = true := rfl
  have located : a.sharers PicCache.l2.sharing (.unit bank) = .ok (a.hierarchy.l2Range bank) := rfl
  have compares : PicCache.l2.counter "pic_ops_cmp" = "L2.pic_ops_cmp" := by decide +kernel
  have searches : PicCache.l2.counter "pic_ops_search" = "L2.pic_ops_search" := by decide +kernel
  rw [PicCache.eval_comparesInBank_eq_ok_iff uses set (compares ▸ present), compares, searches]
  simp only [located, Except.ok.injEq, exists_and_left, exists_eq_left']

end Formulas

/-! ## What it comes to -/

namespace Nuca

/-- The names under which the statistics of a level look for in-bank compares, and for the
searches among them. -/
def readName (level : CacheLevel) (policy : BankMapPolicy) (kind : String) : String :=
  level.cache.counter ("pic_ops_in_bank_" ++ policy.name ++ kind)

/-- The mapping stores nothing under the names that are looked for. -/
theorem readName_not_mem_names (level : CacheLevel) (policy : BankMapPolicy) :
    readName level policy "_cmp" ∉ names level policy ∧
      readName level policy "_search" ∉ names level policy := by
  cases level <;> cases policy <;> decide +kernel

/-- Counters that the level left over make up for the stored compares, which the statistic
does not read: the searches that it adds under a fraction change nothing after truncation,
and without one, or on the L3, the counters under the name that it reads have the stored
sum. -/
def InBankAgrees (level : CacheLevel) (options : Options Rat) (stats : Stats Rat)
    (range : Nat × Nat) (stored : Rat) : Prop :=
  match level, options.inBankFraction with
  | .l2, some fraction =>
    ∃ left, stats.sumOver "L2.pic_ops_search" range = .ok left ∧
      (Scalar.trunc (fraction * (compareTotal stats range + left)) : Rat) = Scalar.trunc stored
  | .l2, none =>
    ∃ compares searches,
      stats.sumOverOrZero (readName .l2 options.bankMapPolicy "_cmp") range = .ok compares ∧
        stats.sumOverOrZero (readName .l2 options.bankMapPolicy "_search") range =
          .ok searches ∧
        (Scalar.trunc (compares + searches) : Rat) = Scalar.trunc stored
  | .l3, _ =>
    ∃ compares,
      stats.sumOverOrZero (readName .l3 options.bankMapPolicy "_cmp") range = .ok compares ∧
        (Scalar.trunc compares : Rat) = Scalar.trunc stored

variable {h : Hierarchy} {level : CacheLevel} {options : Options Rat} {config : Config}
  {stats : Stats Rat} {a : Activity Rat} {bank : Nat}

/-- The compares and searches of a bank are stored for its level as those inside of the bank,
but under a name that no statistic reads. The statistic for them comes to what was stored
exactly if counters that the level left over make up for it (`InBankAgrees`). -/
theorem MappedRun.comparesInBank_iff (run : MappedRun h level options config stats a)
    (pic : stats.contains "nuca-cache.pic_ops_copy" = true)
    (covered : ∀ name ∈ counters options stats, stats.Covers (level.range h bank) name) :
    a.stats.sumOver (level.label ++ ".pic_ops_in_bank_cmp_" ++ options.bankMapPolicy.name)
        (level.range h bank) =
      .ok (inBankTotal options (compareTotal stats (level.range h bank))) ∧
    (a.stat (level.label ++ ".pic_cmp_ops_in_bank") (.unit bank) =
        .ok (Scalar.trunc (inBankTotal options (compareTotal stats (level.range h bank)))) ↔
      InBankAgrees level options stats (level.range h bank)
        (inBankTotal options (compareTotal stats (level.range h bank)))) := by
  obtain ⟨inBank, -, all, -⟩ := run.sums_pic covered pic
  refine ⟨inBank.sumOver_eq_ok, ?_⟩
  obtain rfl := run.hierarchy_eq
  obtain rfl := run.options_eq
  obtain ⟨plainCompares, plainSearches⟩ := readName_not_mem_names level a.options.bankMapPolicy
  have unread {name : String} (plain : name ∉ names level a.options.bankMapPolicy) :
      a.stats.get? name = stats.get? name := run.get?_of_not_mem plain
  rw [stat_eq_eval (formula?_operations level).2.2.1]
  cases level with
  | l3 =>
    rw [InBankAgrees, ← Stats.sumOverOrZero_congr (unread plainCompares)]
    exact eval_comparesInBank_l3 (a := a) (.unit bank) ▸ eval_compares_l3
  | l2 =>
    cases set : a.options.inBankFraction with
    | none =>
      simp only [InBankAgrees, set]
      rw [← Stats.sumOverOrZero_congr (unread plainCompares),
        ← Stats.sumOverOrZero_congr (unread plainSearches)]
      exact eval_comparesInBank_l2_of_none set (.unit bank) ▸ eval_compares_l2
    | some fraction =>
      have plain := leftOver_not_mem_names a.options.bankMapPolicy "L2.pic_ops_search" (by simp)
      simp only [InBankAgrees, set]
      rw [← Stats.sumOver_congr (unread plain)]
      -- What is read as compares has the searches already, and those added are left over.
      have known : a.stats.sumOver "L2.pic_ops_cmp" (a.hierarchy.l2Range bank) =
          .ok (compareTotal stats (a.hierarchy.l2Range bank)) := all.sumOver_eq_ok
      refine (eval_comparesInBank_l2_of_some set all.contains).trans ?_
      simp only [known, Except.ok.injEq, exists_and_left, exists_eq_left']
      rfl

/-- A slice in the place of an L2 that left nothing over under the names that are read. -/
theorem comparesInBank_iff_slice :
    ∃ a, MappedRun sliceChip .l2 {} sliceConfig sliceStats a ∧
      (a.stat "L2.pic_cmp_ops_in_bank" (.unit 0) = .ok 7 ↔
        InBankAgrees .l2 {} sliceStats (0, 1) 7) := by
  obtain ⟨a, run⟩ : ∃ a, MappedRun sliceChip .l2 {} sliceConfig sliceStats a :=
    exists_mappedRun rfl (by decide +kernel) (by decide +kernel)
  have seven : inBankTotal {} (compareTotal sliceStats (CacheLevel.l2.range sliceChip 0)) = 7 := by
    decide +kernel
  have covered : ∀ name ∈ counters {} sliceStats,
      sliceStats.Covers (CacheLevel.l2.range sliceChip 0) name := by
    decide +kernel
  have agreement := (run.comparesInBank_iff (by decide +kernel) covered).2
  rw [seven] at agreement
  exact ⟨a, run, agreement⟩

/-- Seven compares are stored for the only core of a slice, and the statistic is zero. -/
theorem comparesInBank_unread :
    ∃ a, MappedRun sliceChip .l2 {} sliceConfig sliceStats a ∧
      inBankTotal {} (compareTotal sliceStats (CacheLevel.l2.range sliceChip 0)) = 7 ∧
      a.stat "L2.pic_cmp_ops_in_bank" (.unit 0) = .ok 0 := by
  have mapped : (sliceChip.mapNuca {} sliceConfig sliceStats).failure = none := by decide +kernel
  have zero : (do
      let a ← Activity.ofRun (sliceChip.mapNuca {} sliceConfig sliceStats).stats
        (sliceChip.mapNuca {} sliceConfig sliceStats).config sliceChip {}
      a.stat "L2.pic_cmp_ops_in_bank" (.unit 0)) = .ok 0 := by
    decide +kernel
  obtain ⟨a, created, zero⟩ := bind_eq_ok_iff.1 zero
  exact ⟨a, ⟨rfl, mapped, created⟩, by decide +kernel, zero⟩

end Nuca
end ChipPower
