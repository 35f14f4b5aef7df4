import ChipPower.Proofs.Activity.PicCaches
import ChipPower.Proofs.Stats.Counts
import ChipPower.Proofs.Stats.Sums

/-!
# The in-bank fraction

Under a fraction of operations that stay inside a bank, four statistics come from it and not
from counters of their own (`Statistics.underFraction`), and all others are as they are
without it (`Activity.stat_withFraction`). The copies inside a bank are there whenever the
copies are. The compares are not: a statistic that was not counted counts as zero wherever
else compares and searches are added up, but here compares count only together with searches
(`PicCache.LacksSearches`).

What the fraction gives is a part of all operations, since an argument sets one between 0
and 1 (`Options.fractionOf_bounds`) and what is cut off after the point is no more for a part
than for the whole.
-/

namespace ChipPower

open Statistics

variable {α : Type}

/-! ## Formulas under a fraction -/

/-- Whether a formula depends on the in-bank fraction. -/
def Formula.readsFraction : Formula → Bool
  | .number .. | .counter _ | .maxCycles | .element _ | .elementOrZero _ | .first _ |
    .sum .. | .sumOrZero .. | .aluDutyCycle | .network _ => false
  | .trunc f | .dutyCycle f | .ifPresent _ f => f.readsFraction
  | .add f g | .sub f g | .mul f g | .withImplicit f g | .byPolicy f g =>
    f.readsFraction || g.readsFraction
  | .byFraction .. | .timesFraction _ => true

/-- An activity under an in-bank fraction. -/
def Activity.withFraction (a : Activity α) (fraction : α) : Activity α :=
  { a with options := { a.options with inBankFraction := some fraction } }

section Frame

variable [Scalar α] {stats : Stats α} {config : Config} {h : Hierarchy} {options : Options α}
  {a : Activity α} {name : String} {formula : Formula}

theorem Activity.ofRun_withFraction (created : ofRun stats config h options = .ok a)
    (fraction : α) :
    ofRun stats config h { options with inBankFraction := some fraction } =
      .ok (a.withFraction fraction) := by
  obtain ⟨cores, -, rfl⟩ := ofRun_eq_ok created
  exact ofRun_withSettings created config _

theorem Formula.eval_withFraction {f : Formula} (plain : f.readsFraction = false)
    (a : Activity α) (fraction : α) (scope : Scope) :
    f.eval (a.withFraction fraction) scope = f.eval a scope := by
  induction f with
  | number | counter | maxCycles | element | elementOrZero | first | sum | sumOrZero
  | aluDutyCycle => rfl
  | network figure => cases figure <;> rfl
  | trunc f ih => simp only [eval, ih plain]
  | dutyCycle f ih | ifPresent name f ih =>
    simp only [eval, ih plain]
    rfl
  | add f g left right | sub f g left right | mul f g left right =>
    obtain ⟨first, second⟩ := Bool.or_eq_false_iff.1 plain
    simp only [eval, left first, right second]
  | withImplicit f g left right | byPolicy f g left right =>
    obtain ⟨first, second⟩ := Bool.or_eq_false_iff.1 plain
    simp only [eval, left first, right second]
    rfl
  | byFraction | timesFraction => cases plain

/-- The statistics that an in-bank fraction decides. -/
def Statistics.underFraction : List String := [
  "dcache.pic_copy_ops_in_bank", "dcache.pic_cmp_ops_in_bank",
  "L2.pic_copy_ops_in_bank", "L2.pic_cmp_ops_in_bank"]

theorem readsFraction_of_not_mem_underFraction :
    ∀ entry ∈ Statistics.all, entry.1 ∉ underFraction → entry.2.readsFraction = false := by
  decide +kernel

theorem mem_all_of_formula? (known : formula? name = some formula) :
    (name, formula) ∈ Statistics.all := by
  obtain ⟨before, after, listed, -⟩ := List.lookup_eq_some_iff.1 known
  rw [listed]
  exact List.mem_append_right before List.mem_cons_self

theorem Activity.stat_withFraction (plain : name ∉ underFraction) (a : Activity α) (fraction : α)
    (scope : Scope) : (a.withFraction fraction).stat name scope = a.stat name scope := by
  unfold stat
  cases known : formula? name with
  | none => rfl
  | some formula =>
    have unread : formula.readsFraction = false :=
      readsFraction_of_not_mem_underFraction _ (mem_all_of_formula? known) plain
    exact Formula.eval_withFraction unread a fraction scope

end Frame

/-! ## Compares inside a bank -/

namespace Statistics.PicCache

/-- The statistics that tell the operations of a cache, and those inside a bank. -/
def operations (cache : PicCache) : List String := [
  cache.label ++ ".pic_copy_ops", cache.label ++ ".pic_cmp_ops",
  cache.label ++ ".pic_copy_ops_in_bank", cache.label ++ ".pic_cmp_ops_in_bank"]

/-- A cache whose operations inside a bank come from the fraction counted compares for some core
of a range, and no searches. -/
def LacksSearches (cache : PicCache) (stats : Stats α) (range : Nat × Nat) : Prop :=
  cache.usesFraction = true ∧ range.1 < range.2 ∧
    stats.contains (cache.counter "pic_ops_cmp") = true ∧
    stats.contains (cache.counter "pic_ops_search") = false

theorem usesFraction_eq_foldsSearches :
    ∀ cache ∈ all, cache.usesFraction = cache.foldsSearches := by
  decide

theorem operations_not_mem_underFraction : ∀ cache ∈ all,
    cache.label ++ ".pic_copy_ops" ∉ underFraction ∧
      cache.label ++ ".pic_cmp_ops" ∉ underFraction ∧
      (cache.usesFraction = false →
        cache.label ++ ".pic_copy_ops_in_bank" ∉ underFraction ∧
          cache.label ++ ".pic_cmp_ops_in_bank" ∉ underFraction) := by
  decide +kernel

variable [Scalar α] {cache : PicCache} {a : Activity α} {scope : Scope} {fraction : α}
  (uses : cache.usesFraction = true) (set : a.options.inBankFraction = some fraction)

section Located

variable {range : Nat × Nat} {compares searches : α}
  (located : a.sharers cache.sharing scope = .ok range)
  (first : a.stats.sumOverOrZero (cache.counter "pic_ops_cmp") range = .ok compares)

include set located first

theorem eval_comparesInBank_of_lacksSearches (lacks : cache.LacksSearches a.stats range) :
    cache.comparesInBank.eval a scope =
      fail (.missingStatistic (cache.counter "pic_ops_search")) := by
  obtain ⟨uses, some, present, missing⟩ := lacks
  rw [Stats.sumOverOrZero, if_pos present] at first
  rw [eval_comparesInBank_of_present uses set present, located]
  simp only [bind, Except.bind, first, Stats.sumOver_of_missing missing, if_pos some]
  rfl

include uses

theorem exists_comparesInBank
    (second : a.stats.sumOverOrZero (cache.counter "pic_ops_search") range = .ok searches)
    (counted : ¬ cache.LacksSearches a.stats range) :
    ∃ x, cache.comparesInBank.eval a scope = .ok x := by
  cases present : a.stats.contains (cache.counter "pic_ops_cmp") with
  | false => exact ⟨0.0, eval_comparesInBank_of_missing uses set present⟩
  | true =>
    obtain ⟨x, foundCompares⟩ := Stats.exists_sumOver first fun _ => present
    obtain ⟨y, foundSearches⟩ := Stats.exists_sumOver second fun some => by
      by_contra missing
      exact counted ⟨uses, some, present, Bool.eq_false_of_not_eq_true missing⟩
    exact ⟨_, (eval_comparesInBank_eq_ok_iff uses set present).2
      ⟨range, x, y, located, foundCompares, foundSearches, rfl⟩⟩

end Located

include uses set

/-- What a fraction makes of the operations of a cache for which it is used. -/
theorem eval_inBank_under_fraction (folds : cache.foldsSearches = true) {copies whole : α}
    (foundCopies : (cache.count "pic_ops_copy").eval a scope = .ok copies)
    (foundCompares : (cache.compares "pic_ops").eval a scope = .ok whole) :
    ∃ range, a.sharers cache.sharing scope = .ok range ∧
      cache.copiesInBank.eval a scope = .ok (fraction * copies) ∧
      (a.stats.contains (cache.counter "pic_ops_cmp") = false →
        cache.comparesInBank.eval a scope = .ok 0.0) ∧
      ((∃ x, cache.comparesInBank.eval a scope = .ok x) ↔
        ¬ cache.LacksSearches a.stats range) ∧
      (cache.LacksSearches a.stats range →
        cache.comparesInBank.eval a scope =
          fail (.missingStatistic (cache.counter "pic_ops_search"))) := by
  obtain ⟨range, compares, searches, located, first, second, -⟩ :=
    (eval_compares_eq_ok_iff folds).1 foundCompares
  have failing := eval_comparesInBank_of_lacksSearches set located first
  refine ⟨range, located, (eval_copiesInBank_eq_ok_iff uses set).2 ⟨copies, foundCopies, rfl⟩,
    eval_comparesInBank_of_missing uses set, ⟨fun found lacks => ?_,
      exists_comparesInBank uses set located first second⟩, failing⟩
  obtain ⟨x, found⟩ := found
  exact nomatch (failing lacks).symm.trans found

end Statistics.PicCache

namespace Activity

section Evaluation

variable [Scalar α] {stats : Stats α} {config : Config} {h : Hierarchy} {options : Options α}
  {a : Activity α} {cache : PicCache} {scope : Scope}

/-- If the operations of a cache have values without a fraction, then under one the copies
inside a bank have a value as well, and the compares have one unless they were counted without
searches. Statistics that a fraction does not decide do not change. -/
theorem inBank_under_fraction (member : cache ∈ PicCache.all)
    (created : ofRun stats config h { options with inBankFraction := none } = .ok a)
    (evaluate : ∀ name ∈ cache.operations, ∃ x, a.stat name scope = .ok x) (fraction : α) :
    ∃ b range, ofRun stats config h { options with inBankFraction := some fraction } = .ok b ∧
      a.sharers cache.sharing scope = .ok range ∧
      (∀ name scope, name ∉ underFraction → b.stat name scope = a.stat name scope) ∧
      (∃ x copies, b.stat (cache.label ++ ".pic_copy_ops_in_bank") scope = .ok x ∧
        a.stat (cache.label ++ ".pic_copy_ops") scope = .ok copies ∧
        (cache.usesFraction = true → x = fraction * copies)) ∧
      (cache.usesFraction = true → stats.contains (cache.counter "pic_ops_cmp") = false →
        b.stat (cache.label ++ ".pic_cmp_ops_in_bank") scope = .ok 0.0) ∧
      ((∃ x, b.stat (cache.label ++ ".pic_cmp_ops_in_bank") scope = .ok x) ↔
        ¬ cache.LacksSearches stats range) ∧
      (cache.LacksSearches stats range →
        b.stat (cache.label ++ ".pic_cmp_ops_in_bank") scope =
          fail (.missingStatistic (cache.counter "pic_ops_search"))) := by
  have sameStats : a.stats = stats := by
    obtain ⟨cores, -, rfl⟩ := ofRun_eq_ok created
    rfl
  have kept {name : String} (scope : Scope) (plain : name ∉ underFraction) :
      (a.withFraction fraction).stat name scope = a.stat name scope :=
    stat_withFraction plain a fraction scope
  obtain ⟨plainCopies, plainCompares, counting⟩ :=
    PicCache.operations_not_mem_underFraction cache member
  obtain ⟨knownCopies, knownCompares, knownCopiesInBank, knownComparesInBank, -⟩ :=
    PicCache.formula?_operations cache member
  simp only [PicCache.operations, List.forall_mem_cons] at evaluate
  obtain ⟨⟨copies, foundCopies⟩, ⟨whole, foundCompares⟩, copiesInBank, comparesInBank, -⟩ :=
    evaluate
  -- A cache for which no fraction is used reads the same counters as before.
  cases uses : cache.usesFraction with
  | false =>
    obtain ⟨plainCopiesInBank, plainComparesInBank⟩ := counting uses
    have counted {range : Nat × Nat} : ¬ cache.LacksSearches stats range := fun lacks =>
      Bool.false_ne_true (uses.symm.trans lacks.1)
    obtain ⟨range, located, -⟩ :=
      PicCache.eval_count_eq_ok_iff.1 ((stat_eq_eval knownCopies).symm.trans foundCopies)
    obtain ⟨x, found⟩ := copiesInBank
    refine ⟨a.withFraction fraction, range, ofRun_withFraction created fraction, located,
      fun _ scope plain => kept scope plain, ⟨x, copies, ?_, foundCopies, nofun⟩, nofun, ?_,
      fun lacks => absurd lacks counted⟩
    · rw [kept scope plainCopiesInBank, found]
    · rw [kept scope plainComparesInBank]
      exact iff_of_true comparesInBank counted
  | true =>
    have folds : cache.foldsSearches = true :=
      (PicCache.usesFraction_eq_foldsSearches cache member).symm.trans uses
    have evalCopies := foundCopies
    rw [← kept scope plainCopies, stat_eq_eval knownCopies] at evalCopies
    rw [← kept scope plainCompares, stat_eq_eval knownCompares] at foundCompares
    obtain ⟨range, located, scaled, rest⟩ :=
      PicCache.eval_inBank_under_fraction uses rfl folds evalCopies foundCompares
    rw [← stat_eq_eval knownCopiesInBank] at scaled
    rw [← stat_eq_eval knownComparesInBank,
      show (a.withFraction fraction).stats = stats from sameStats] at rest
    exact ⟨a.withFraction fraction, range, ofRun_withFraction created fraction, located,
      fun _ scope plain => kept scope plain, ⟨_, copies, scaled, foundCopies, fun _ => rfl⟩,
      fun _ => rest.1, rest.2⟩

end Evaluation

/-- One core with an L2 of its own. -/
def soleCore : Hierarchy where
  cores := 1
  technologyNode := 45
  l2Banks := 1
  privateL2s := true
  l2Sharing := 1
  l3Banks := 0
  l3Sharing := 0
  nucaLevel := none

/-- A core whose data cache compares, and what else it counts. -/
def comparingRun (others : List (String × Value Rat)) : Stats Rat :=
  .ofList ([
    ("L1-D.pic_ops_cmp", .list [30]),
    ("fs_to_cycles_cores", .list [1]),
    ("global.time", .scalar 1000),
    ("performance_model.elapsed_time", .list [1000]),
    ("performance_model.instruction_count", .list [500])] ++ others)

/-- The operations of the data cache have values if going through them gives some. -/
theorem exists_operations {stats : Stats Rat} (values : List Rat)
    (shown : (do
      let a ← ofRun stats ∅ soleCore {}
      PicCache.dcache.operations.mapM fun name => a.stat name (.unit 0)) = .ok values) :
    ∃ a, ofRun stats ∅ soleCore {} = .ok a ∧
      ∀ name ∈ PicCache.dcache.operations, ∃ x, a.stat name (.unit 0) = .ok x := by
  obtain ⟨a, created, told⟩ := bind_eq_ok_iff.1 shown
  refine ⟨a, created, fun name member => ?_⟩
  obtain ⟨i, listed⟩ := List.mem_iff_getElem?.1 member
  obtain ⟨x, -, found⟩ := getElem?_of_mapM_eq_ok told listed
  exact ⟨x, found⟩

/-- A core whose data cache searches as well. -/
def searchingRun : Stats Rat :=
  comparingRun [("L1-D.pic_ops_search", .list [10])]

/-- With searches the compares inside a bank have a value. -/
theorem inBank_under_fraction_searching :
    ∃ b x, ofRun searchingRun ∅ soleCore { inBankFraction := some (1 / 2) } = .ok b ∧
      b.stat (PicCache.dcache.label ++ ".pic_cmp_ops_in_bank") (.unit 0) = .ok x := by
  obtain ⟨a, created, evaluate⟩ : ∃ a,
      ofRun searchingRun ∅ soleCore { ({} : Options Rat) with inBankFraction := none } = .ok a ∧
        ∀ name ∈ PicCache.dcache.operations, ∃ x, a.stat name (.unit 0) = .ok x :=
    exists_operations [0, 40, 0, 0] (by decide +kernel)
  have member : PicCache.dcache ∈ PicCache.all := .head _
  obtain ⟨b, range, under, -, -, -, -, compares, -⟩ :=
    inBank_under_fraction member created evaluate (1 / 2)
  have present : searchingRun.contains (PicCache.dcache.counter "pic_ops_search") = true := by
    decide +kernel
  have counted : ¬ PicCache.dcache.LacksSearches searchingRun range := fun lacks =>
    Bool.false_ne_true (lacks.2.2.2.symm.trans present)
  obtain ⟨x, found⟩ := compares.2 counted
  exact ⟨b, x, under, found⟩

/-- Without searches they have one as long as no fraction is set. -/
theorem compares_without_searches_fail :
    (∃ a, ofRun (comparingRun []) ∅ soleCore {} = .ok a ∧
      ∀ name ∈ PicCache.dcache.operations, ∃ x, a.stat name (.unit 0) = .ok x) ∧
    ∃ b, ofRun (comparingRun []) ∅ soleCore { inBankFraction := some (1 / 2) } = .ok b ∧
      b.stat "dcache.pic_cmp_ops_in_bank" (.unit 0) =
        fail (.missingStatistic "L1-D.pic_ops_search") := by
  refine ⟨exists_operations [0, 30, 0, 0] (by decide +kernel), ?_⟩
  have shown : (do
      let b ← ofRun (comparingRun []) ∅ soleCore { inBankFraction := some (1 / 2) }
      return b.stat "dcache.pic_cmp_ops_in_bank" (.unit 0)) =
      .ok (fail (.missingStatistic "L1-D.pic_ops_search")) := by
    decide +kernel
  obtain ⟨b, created, failed⟩ := bind_eq_ok_iff.1 shown
  exact ⟨b, created, pure_eq_ok_iff.1 failed⟩

end Activity

/-! ## Parts of all operations -/

/-- A value that is no less than zero and no more than another, as far as there are any. -/
def IsPart (part whole : Except Failure Rat) : Prop :=
  ∀ x, part = .ok x → 0 ≤ x ∧ ∀ y, whole = .ok y → x ≤ y

/-- An argument sets a fraction from 0 to 1. -/
theorem Options.fractionOf_bounds {given : Option Rat} {fraction : Rat}
    (sets : fractionOf given = .ok (some fraction)) : 0 ≤ fraction ∧ fraction ≤ 1 := by
  cases given with
  | none => cases sets
  | some x =>
    simp only [fractionOf, Scalar.less_eq, Scalar.atMost_eq, Scalar.zero_eq, Scalar.one_eq,
      decide_eq_true_eq] at sets
    split at sets
    · cases sets
    · rename_i nonneg
      split at sets
      · rename_i le
        cases sets
        exact ⟨not_lt.1 nonneg, le⟩
      · cases sets

namespace Statistics.PicCache

variable {cache : PicCache} {a : Activity Rat} {scope : Scope} {fraction : Rat}
  (uses : cache.usesFraction = true) (set : a.options.inBankFraction = some fraction)
  (bounds : 0 ≤ fraction ∧ fraction ≤ 1) (counted : a.stats.NonNegative)

include uses set bounds counted

theorem isPart_copiesInBank :
    IsPart (cache.copiesInBank.eval a scope) ((cache.count "pic_ops_copy").eval a scope) := by
  intro x found
  obtain ⟨copies, foundCopies, rfl⟩ := (eval_copiesInBank_eq_ok_iff uses set).1 found
  obtain ⟨range, -, summed⟩ := eval_count_eq_ok_iff.1 foundCopies
  have nonneg : 0 ≤ copies := counted.sumOverOrZero summed
  refine ⟨mul_nonneg bounds.1 nonneg, fun y foundAll => ?_⟩
  obtain rfl : copies = y := Except.ok.inj (foundCopies.symm.trans foundAll)
  exact mul_le_of_le_one_left nonneg bounds.2

/-- The two sides add up the same counters, although only one of them allows for missing
ones. -/
theorem isPart_comparesInBank (folds : cache.foldsSearches = true) :
    IsPart (cache.comparesInBank.eval a scope) ((cache.compares "pic_ops").eval a scope) := by
  intro x found
  cases present : a.stats.contains (cache.counter "pic_ops_cmp") with
  | false =>
    rw [eval_comparesInBank_of_missing uses set present, Except.ok.injEq, Scalar.zero_eq] at found
    subst found
    refine ⟨le_rfl, fun y foundAll => ?_⟩
    obtain ⟨range, compares, searches, -, first, second, rfl⟩ :=
      (eval_compares_eq_ok_iff folds).1 foundAll
    exact Scalar.trunc_nonneg
      (add_nonneg (counted.sumOverOrZero first) (counted.sumOverOrZero second))
  | true =>
    obtain ⟨range, compares, searches, located, first, second, rfl⟩ :=
      (eval_comparesInBank_eq_ok_iff uses set present).1 found
    have nonneg : 0 ≤ compares + searches :=
      add_nonneg (counted.sumOver first) (counted.sumOver second)
    have scaled : 0 ≤ fraction * (compares + searches) := mul_nonneg bounds.1 nonneg
    refine ⟨Scalar.trunc_nonneg scaled, fun y foundAll => ?_⟩
    obtain ⟨range', compares', searches', located', first', second', rfl⟩ :=
      (eval_compares_eq_ok_iff folds).1 foundAll
    obtain rfl : range = range' := Except.ok.inj (located.symm.trans located')
    obtain rfl : compares = compares' :=
      Except.ok.inj ((Stats.sumOverOrZero_of_sumOver first).symm.trans first')
    obtain rfl : searches = searches' :=
      Except.ok.inj ((Stats.sumOverOrZero_of_sumOver second).symm.trans second')
    exact Scalar.trunc_le_trunc scaled (mul_le_of_le_one_left nonneg bounds.2)

end Statistics.PicCache

namespace Activity

/-- Under a fraction that an argument can set, the operations inside a bank are a part of all
operations. -/
theorem inBank_isPart_of_fraction {given : Option Rat} {fraction : Rat}
    (sets : Options.fractionOf given = .ok (some fraction)) {stats : Stats Rat} {config : Config}
    {h : Hierarchy} {options : Options Rat} {a : Activity Rat}
    (created : ofRun stats config h { options with inBankFraction := some fraction } = .ok a)
    (counted : stats.NonNegative) {cache : PicCache}
    (member : cache ∈ [PicCache.dcache, PicCache.l2]) (scope : Scope) :
    IsPart (a.stat (cache.label ++ ".pic_copy_ops_in_bank") scope)
        (a.stat (cache.label ++ ".pic_copy_ops") scope) ∧
      IsPart (a.stat (cache.label ++ ".pic_cmp_ops_in_bank") scope)
        (a.stat (cache.label ++ ".pic_cmp_ops") scope) := by
  obtain ⟨cores, -, rfl⟩ := ofRun_eq_ok created
  have bounds := Options.fractionOf_bounds sets
  have listed : cache ∈ PicCache.all := List.mem_append_left [PicCache.l3] member
  have uses : cache.usesFraction = true ∧ cache.foldsSearches = true := by
    simp only [List.mem_cons, List.not_mem_nil, or_false] at member
    rcases member with rfl | rfl <;> exact ⟨rfl, rfl⟩
  obtain ⟨knownCopies, knownCompares, knownCopiesInBank, knownComparesInBank, -⟩ :=
    PicCache.formula?_operations cache listed
  rw [stat_eq_eval knownCopies, stat_eq_eval knownCompares, stat_eq_eval knownCopiesInBank,
    stat_eq_eval knownComparesInBank]
  exact ⟨PicCache.isPart_copiesInBank uses.1 rfl bounds counted,
    PicCache.isPart_comparesInBank uses.1 rfl bounds counted uses.2⟩

/-- Of 40 compares and searches 20 stay inside a bank. -/
theorem inBank_isPart_of_fraction_searching :
    ∃ a, ofRun searchingRun ∅ soleCore { inBankFraction := some (1 / 2) } = .ok a ∧
      a.stat "dcache.pic_cmp_ops_in_bank" (.unit 0) = .ok 20 ∧
      a.stat "dcache.pic_cmp_ops" (.unit 0) = .ok 40 ∧ (0 : Rat) ≤ 20 ∧ (20 : Rat) ≤ 40 := by
  have shown : (do
      let a ← ofRun searchingRun ∅ soleCore { inBankFraction := some (1 / 2) }
      let inBank ← a.stat "dcache.pic_cmp_ops_in_bank" (.unit 0)
      let whole ← a.stat "dcache.pic_cmp_ops" (.unit 0)
      return (inBank, whole)) = .ok (20, 40) := by
    decide +kernel
  simp only [bind_eq_ok_iff, pure_eq_ok_iff, Prod.mk.injEq] at shown
  obtain ⟨a, created, _, inBank, _, whole, rfl, rfl⟩ := shown
  have sets : Options.fractionOf (some (1 / 2 : Rat)) = .ok (some (1 / 2)) := by decide +kernel
  have counted : searchingRun.NonNegative := Stats.nonNegative_ofList (by decide +kernel)
  have under : ofRun searchingRun ∅ soleCore
      { ({} : Options Rat) with inBankFraction := some (1 / 2) } = .ok a := created
  obtain ⟨-, part⟩ := inBank_isPart_of_fraction sets under counted (.head _) (.unit 0)
  obtain ⟨nonneg, le⟩ := part _ inBank
  exact ⟨a, created, inBank, whole, nonneg, le _ whole⟩

end Activity

end ChipPower
