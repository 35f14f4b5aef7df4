import ChipPower.Proofs.Nuca.Banks

/-!
# Accesses and operations of NUCA banks

The mapping corrects the loads for dirty evictions and counts searches as compares before
it stores them. The statistics of an L3 take what was stored as it is. Those of an L2
correct and count once more, with counters of the L2 that the mapping does not set: they
need what the level left over, and add it. `MappedRun.statistics_iff` says when a bank's
statistics are the sums of its NUCA counters: always on the L3, and on the L2 exactly if
what is added comes to nothing (`Undisturbed`).
-/

namespace ChipPower

open Statistics

/-! ## Formulas -/

/-- The statistics of an L2 are the ones that its formulas are listed under. -/
theorem formula?_ofL2 : ∀ entry ∈ ofL2, formula? entry.1 = some entry.2 := by
  decide +kernel

/-- The same for an L3. -/
theorem formula?_ofL3 : ∀ entry ∈ ofL3, formula? entry.1 = some entry.2 := by
  decide +kernel

namespace Nuca

/-- The statistics of a bank that come from NUCA counters, and what these add up to. -/
def bankTotals (options : Options Rat) (stats : Stats Rat) (range : Nat × Nat) :
    List (String × Rat) := [
  (".read_accesses", loadTotal options stats range),
  (".write_accesses", stats.total range "nuca-cache.writes"),
  (".read_misses", stats.total range "nuca-cache.read-misses"),
  (".write_misses", stats.total range "nuca-cache.write-misses")] ++
  if stats.contains "nuca-cache.pic_ops_copy" then [
    (".pic_copy_ops", stats.total range "nuca-cache.pic_ops_copy"),
    (".pic_cmp_ops", Scalar.trunc (compareTotal stats range)),
    (".pic_key_writes", stats.total range "nuca-cache.pic_key_writes")]
  else []

/-- What holds of all statistics of a bank holds of each by its name. Those of operations are
among them if operations were counted. -/
theorem forall_mem_bankTotals {options : Options Rat} {stats : Stats Rat} {range : Nat × Nat}
    {P : String × Rat → Prop} :
    (∀ entry ∈ bankTotals options stats range, P entry) ↔
      (P (".read_accesses", loadTotal options stats range) ∧
        P (".write_accesses", stats.total range "nuca-cache.writes") ∧
        P (".read_misses", stats.total range "nuca-cache.read-misses") ∧
        P (".write_misses", stats.total range "nuca-cache.write-misses")) ∧
      (stats.contains "nuca-cache.pic_ops_copy" = true →
        P (".pic_copy_ops", stats.total range "nuca-cache.pic_ops_copy") ∧
          P (".pic_cmp_ops", Scalar.trunc (compareTotal stats range)) ∧
          P (".pic_key_writes", stats.total range "nuca-cache.pic_key_writes")) := by
  rw [bankTotals, List.forall_mem_append]
  refine and_congr (by simp) ?_
  split
  · rename_i pic
    simp [pic]
  · rename_i plain
    simp [plain]

/-- What the statistics of an L2 add to mapped counters is there and comes to nothing. -/
structure Undisturbed (options : Options Rat) (stats : Stats Rat) (range : Nat × Nat) : Prop where
  reads : options.implicitAccesses = true →
    ∃ evicts invalidations,
      stats.sumOver "L2.dirty_evicts" range = .ok evicts ∧
        stats.sumOver "L2.dirty_backinval" range = .ok invalidations ∧
        evicts + invalidations = 0
  writes : options.implicitAccesses = true →
    ∃ writebacks, stats.sumOver "L2.writebacks" range = .ok writebacks ∧
      stats.total range "nuca-cache.read-misses" + writebacks = 0
  compares : stats.contains "nuca-cache.pic_ops_copy" = true →
    ∃ searches, stats.sumOverOrZero "L2.pic_ops_search" range = .ok searches ∧
      (Scalar.trunc (compareTotal stats range + searches) : Rat) =
        Scalar.trunc (compareTotal stats range)

section Run

variable {h : Hierarchy} {level : CacheLevel} {options : Options Rat} {config : Config}
  {stats : Stats Rat} {a : Activity Rat} {bank : Nat}

/-- Implicit accesses leave a value as it is if they add up to zero. -/
theorem eval_withImplicit_add_iff {scope : Scope} {f first second : Formula} {x : Rat}
    (known : f.eval a scope = .ok x) :
    (f.withImplicit (first.add second)).eval a scope = .ok x ↔
      (a.options.implicitAccesses = true →
        ∃ y z, first.eval a scope = .ok y ∧ second.eval a scope = .ok z ∧ y + z = 0) := by
  rw [eval_withImplicit_eq_ok_iff known]
  split
  · rename_i implicit
    simp only [implicit, forall_const, eval_add_eq_ok_iff]
    constructor
    · rintro ⟨sum, ⟨y, z, left, right, rfl⟩, same⟩
      exact ⟨y, z, left, right, add_eq_left.1 same⟩
    · rintro ⟨y, z, left, right, zero⟩
      exact ⟨y + z, ⟨y, z, left, right, rfl⟩, add_eq_left.2 zero⟩
  · rename_i plain
    simp [plain]

namespace MappedRun

/-- Copies and key writes are what the mapping stored, on either level. -/
theorem stat_copies (run : MappedRun h level options config stats a)
    (covered : ∀ name ∈ counters options stats, stats.Covers (level.range h bank) name)
    (pic : stats.contains "nuca-cache.pic_ops_copy" = true) :
    a.stat (level.label ++ ".pic_copy_ops") (.unit bank) =
        .ok (stats.total (level.range h bank) "nuca-cache.pic_ops_copy") ∧
      a.stat (level.label ++ ".pic_key_writes") (.unit bank) =
        .ok (stats.total (level.range h bank) "nuca-cache.pic_key_writes") := by
  obtain ⟨knownCopies, -, -, knownKeys⟩ := formula?_operations level
  obtain ⟨-, copies, -, keyWrites⟩ := run.sums_pic covered pic
  obtain rfl := run.hierarchy_eq
  rw [stat_eq_eval knownCopies, stat_eq_eval knownKeys, eval_count, eval_count]
  cases level
  · exact ⟨copies.sumOverOrZero_eq_ok, keyWrites.sumOverOrZero_eq_ok⟩
  · exact ⟨copies.sumOverOrZero_eq_ok, keyWrites.sumOverOrZero_eq_ok⟩

/-- An L3 takes what was stored as it is, so its statistics are the sums of the NUCA counters.
-/
theorem statistics_l3 (run : MappedRun h .l3 options config stats a)
    (covered : ∀ name ∈ counters options stats, stats.Covers (h.l3Range bank) name) :
    ∀ entry ∈ bankTotals options stats (h.l3Range bank),
      a.stat (CacheLevel.l3.label ++ entry.1) (.unit bank) = .ok entry.2 := by
  have known := formula?_ofL3
  simp only [ofL3, List.forall_mem_cons] at known
  obtain ⟨reads, writes, readMisses, writeMisses, -⟩ := known
  obtain ⟨loads, stores, loadMisses, storeMisses⟩ := run.sums_accesses covered
  obtain rfl := run.hierarchy_eq
  refine forall_mem_bankTotals.2 ⟨⟨?reads, ?writes, ?readMisses, ?writeMisses⟩, fun pic => ?pic⟩
  case reads => exact (stat_eq_eval reads).trans loads.sumOverOrZero_eq_ok
  case writes => exact (stat_eq_eval writes).trans stores.sumOverOrZero_eq_ok
  case readMisses => exact (stat_eq_eval readMisses).trans loadMisses.sumOverOrZero_eq_ok
  case writeMisses => exact (stat_eq_eval writeMisses).trans storeMisses.sumOverOrZero_eq_ok
  case pic =>
    obtain ⟨copies, keyWrites⟩ := run.stat_copies covered pic
    obtain ⟨-, -, all, -⟩ := run.sums_pic covered pic
    have compares : a.stat (CacheLevel.l3.label ++ ".pic_cmp_ops") (.unit bank) =
        .ok (Scalar.trunc (compareTotal stats (a.hierarchy.l3Range bank))) :=
      (stat_eq_eval (formula?_operations .l3).2.1).trans
        (eval_compares_l3.2 ⟨_, all.sumOverOrZero_eq_ok, rfl⟩)
    exact ⟨copies, compares, keyWrites⟩

/-! The L2 corrects for implicit accesses and adds searches itself. -/

section L2

variable (run : MappedRun h .l2 options config stats a)
  (covered : ∀ name ∈ counters options stats, stats.Covers (h.l2Range bank) name)

include run covered

/-- An L2 adds dirty evictions and invalidations of its own to the loads. -/
theorem stat_reads_l2_iff :
    a.stat "L2.read_accesses" (.unit bank) =
        .ok (loadTotal options stats (h.l2Range bank)) ↔
      (options.implicitAccesses = true → ∃ evicts invalidations,
        stats.sumOver "L2.dirty_evicts" (h.l2Range bank) = .ok evicts ∧
          stats.sumOver "L2.dirty_backinval" (h.l2Range bank) = .ok invalidations ∧
          evicts + invalidations = 0) := by
  obtain ⟨loads, -⟩ := run.sums_accesses covered
  have evicts := run.get?_of_not_mem (leftOver_not_mem_names _ "L2.dirty_evicts" (by simp))
  have invalidations :=
    run.get?_of_not_mem (leftOver_not_mem_names _ "L2.dirty_backinval" (by simp))
  obtain rfl := run.hierarchy_eq
  obtain rfl := run.options_eq
  rw [stat_eq_eval (formula?_ofL2 _ (.head _)), ← Stats.sumOver_congr evicts,
    ← Stats.sumOver_congr invalidations]
  exact eval_withImplicit_add_iff loads.sumOver_eq_ok

/-- An L2 adds its misses and its writebacks to the stores. -/
theorem stat_writes_l2_iff :
    a.stat "L2.write_accesses" (.unit bank) =
        .ok (stats.total (h.l2Range bank) "nuca-cache.writes") ↔
      (options.implicitAccesses = true → ∃ writebacks,
        stats.sumOver "L2.writebacks" (h.l2Range bank) = .ok writebacks ∧
          stats.total (h.l2Range bank) "nuca-cache.read-misses" + writebacks = 0) := by
  obtain ⟨-, stores, loadMisses, -⟩ := run.sums_accesses covered
  have writebacks := run.get?_of_not_mem (leftOver_not_mem_names _ "L2.writebacks" (by simp))
  obtain rfl := run.hierarchy_eq
  obtain rfl := run.options_eq
  have known : (Formula.sum .l2 "L2.stores").eval a (.unit bank) =
      .ok (stats.total (a.hierarchy.l2Range bank) "nuca-cache.writes") := stores.sumOver_eq_ok
  -- These are misses of the NUCA cache, which the mapping stored as load misses of the L2.
  have misses : (Formula.sum .l2 "L2.load-misses").eval a (.unit bank) =
      .ok (stats.total (a.hierarchy.l2Range bank) "nuca-cache.read-misses") :=
    loadMisses.sumOver_eq_ok
  rw [stat_eq_eval (formula?_ofL2 _ (.tail _ (.head _))), ← Stats.sumOver_congr writebacks]
  refine (eval_withImplicit_add_iff known).trans ?_
  simp only [misses, Except.ok.injEq, exists_and_left, exists_eq_left']
  rfl

/-- An L2 adds searches of its own to the compares, which have the searches of the NUCA cache
already. -/
theorem stat_compares_l2_iff (pic : stats.contains "nuca-cache.pic_ops_copy" = true) :
    a.stat (CacheLevel.l2.label ++ ".pic_cmp_ops") (.unit bank) =
        .ok (Scalar.trunc (compareTotal stats (h.l2Range bank))) ↔
      ∃ searches, stats.sumOverOrZero "L2.pic_ops_search" (h.l2Range bank) = .ok searches ∧
        (Scalar.trunc (compareTotal stats (h.l2Range bank) + searches) : Rat) =
          Scalar.trunc (compareTotal stats (h.l2Range bank)) := by
  obtain ⟨-, -, compares, -⟩ := run.sums_pic covered pic
  have searches := run.get?_of_not_mem (leftOver_not_mem_names _ "L2.pic_ops_search" (by simp))
  obtain rfl := run.hierarchy_eq
  have known : a.stats.sumOverOrZero (PicCache.l2.counter ("pic_ops" ++ "_cmp"))
      (a.hierarchy.l2Range bank) = .ok (compareTotal stats (a.hierarchy.l2Range bank)) :=
    compares.sumOverOrZero_eq_ok
  rw [stat_eq_eval (formula?_operations .l2).2.1, ← Stats.sumOverOrZero_congr searches]
  refine eval_compares_l2.trans ?_
  simp only [known, Except.ok.injEq, exists_and_left, exists_eq_left']
  rfl

/-- The statistics of an L2 are the sums of the NUCA counters if nothing is added. -/
theorem statistics_l2_iff :
    (∀ entry ∈ bankTotals options stats (h.l2Range bank),
      a.stat (CacheLevel.l2.label ++ entry.1) (.unit bank) = .ok entry.2) ↔
      Undisturbed options stats (h.l2Range bank) := by
  have readMisses : a.stat "L2.read_misses" (.unit bank) =
      .ok (stats.total (h.l2Range bank) "nuca-cache.read-misses") := by
    obtain ⟨-, -, loadMisses, -⟩ := run.sums_accesses covered
    obtain rfl := run.hierarchy_eq
    rw [stat_eq_eval (formula?_ofL2 _ (.tail _ (.tail _ (.head _))))]
    exact loadMisses.sumOver_eq_ok
  have writeMisses : a.stat "L2.write_misses" (.unit bank) =
      .ok (stats.total (h.l2Range bank) "nuca-cache.write-misses") := by
    obtain ⟨-, -, -, storeMisses⟩ := run.sums_accesses covered
    obtain rfl := run.hierarchy_eq
    rw [stat_eq_eval (formula?_ofL2 _ (.tail _ (.tail _ (.tail _ (.head _)))))]
    exact storeMisses.sumOver_eq_ok
  have reads := run.stat_reads_l2_iff covered
  have writes := run.stat_writes_l2_iff covered
  rw [forall_mem_bankTotals]
  constructor
  · rintro ⟨⟨readAccesses, writeAccesses, -, -⟩, operations⟩
    refine ⟨reads.1 readAccesses, writes.1 writeAccesses, fun pic => ?_⟩
    exact (run.stat_compares_l2_iff covered pic).1 (operations pic).2.1
  · rintro ⟨addedReads, addedWrites, addedCompares⟩
    refine ⟨⟨reads.2 addedReads, writes.2 addedWrites, readMisses, writeMisses⟩, fun pic => ?_⟩
    obtain ⟨copies, keyWrites⟩ := run.stat_copies covered pic
    exact ⟨copies, (run.stat_compares_l2_iff covered pic).2 (addedCompares pic), keyWrites⟩

end L2

/-- The statistics of a bank of the level that a NUCA cache was mapped onto are the sums of what
the NUCA cache counted for the cores of the bank: always on an L3, and on an L2 exactly if what
the statistics add to the mapped counters comes to nothing (`Undisturbed`). -/
theorem statistics_iff (run : MappedRun h level options config stats a)
    (covered : ∀ name ∈ counters options stats, stats.Covers (level.range h bank) name) :
    (∀ entry ∈ bankTotals options stats (level.range h bank),
      a.stat (level.label ++ entry.1) (.unit bank) = .ok entry.2) ↔
      (level = .l2 → Undisturbed options stats (level.range h bank)) := by
  cases level with
  | l3 => exact iff_of_true (run.statistics_l3 covered) fun same => nomatch same
  | l2 => exact (run.statistics_l2_iff covered).trans ⟨fun same _ => same, fun same => same rfl⟩

/-- Options under which implicit accesses count. -/
def implicit : Options Rat where
  implicitAccesses := true

/-- A slice in the place of an L2, with implicit accesses. -/
theorem statistics_iff_slice :
    ∃ a, MappedRun sliceChip .l2 implicit sliceConfig sliceStats a ∧
      ((∀ entry ∈ bankTotals implicit sliceStats (0, 1),
          a.stat ("L2" ++ entry.1) (.unit 0) = .ok entry.2) ↔
        Undisturbed implicit sliceStats (0, 1)) := by
  obtain ⟨a, run⟩ : ∃ a, MappedRun sliceChip .l2 implicit sliceConfig sliceStats a :=
    exists_mappedRun rfl (by decide +kernel) (by decide +kernel)
  have covered : ∀ name ∈ counters implicit sliceStats,
      sliceStats.Covers (CacheLevel.l2.range sliceChip 0) name := by
    decide +kernel
  have agreement := run.statistics_iff covered
  exact ⟨a, run, agreement.trans ⟨fun same => same rfl, fun same _ => same⟩⟩

/-- The reads of a slice and its dirty evictions are twelve loads, to which the statistic
adds two of the L2 that is not there. Its writes are five, to which it adds the misses. -/
theorem accesses_corrected_twice :
    ∃ a, MappedRun sliceChip .l2 implicit sliceConfig sliceStats a ∧
      (".read_accesses", 12) ∈ bankTotals implicit sliceStats (0, 1) ∧
      (".write_accesses", 5) ∈ bankTotals implicit sliceStats (0, 1) ∧
      a.stat "L2.read_accesses" (.unit 0) = .ok 14 ∧
      a.stat "L2.write_accesses" (.unit 0) = .ok 9 := by
  have mapped : (sliceChip.mapNuca implicit sliceConfig sliceStats).failure = none := by
    decide +kernel
  have both : (do
      let a ← Activity.ofRun (sliceChip.mapNuca implicit sliceConfig sliceStats).stats
        (sliceChip.mapNuca implicit sliceConfig sliceStats).config sliceChip implicit
      return (a.stat "L2.read_accesses" (.unit 0), a.stat "L2.write_accesses" (.unit 0))) =
      .ok (.ok 14, .ok 9) := by
    decide +kernel
  obtain ⟨a, created, both⟩ := bind_eq_ok_iff.1 both
  simp only [pure_eq_ok_iff, Prod.mk.injEq] at both
  exact ⟨a, ⟨rfl, mapped, created⟩, by decide +kernel, by decide +kernel, both⟩

end MappedRun

end Run

end Nuca
end ChipPower
