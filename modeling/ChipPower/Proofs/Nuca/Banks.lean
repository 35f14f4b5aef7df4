import ChipPower.Proofs.Activity.PicCaches
import ChipPower.Proofs.Nuca.Mapping
import ChipPower.Proofs.Stats.Sums

/-!
# The statistics of NUCA banks

A bank of a NUCA cache is described by two sides that meet only in the names of statistics.
The mapping stores lists under the names of a level, and `MappedRun.sums_accesses` and
`MappedRun.sums_pic` say what these add up to over the cores of a bank, in terms of the
counters that it read. The formulas of the level look statistics up for the same cores, and
the lemmas on `Formula.eval` say which these are and what becomes of them. The last section
has a chip of one core on which the two sides disagree.
-/

namespace ChipPower

open Statistics

namespace CacheLevel

/-- The range of the cores of a bank. -/
def range (h : Hierarchy) (bank : Nat) : CacheLevel → Nat × Nat
  | .l2 => h.l2Range bank
  | .l3 => h.l3Range bank

/-- The level as a cache that processes operations. -/
def cache : CacheLevel → PicCache
  | .l2 => PicCache.l2
  | .l3 => PicCache.l3

theorem label_cache (level : CacheLevel) : level.cache.label = level.label := by
  cases level <;> rfl

/-- A level is one of the caches whose formulas are registered. -/
theorem cache_mem_all (level : CacheLevel) : level.cache ∈ PicCache.all := by
  cases level with
  | l2 => exact .tail _ (.head _)
  | l3 => exact .tail _ (.tail _ (.head _))

end CacheLevel

/-! ## Formulas of banks -/

section Formulas

variable {α : Type} [Scalar α] (a : Activity α) (level : CacheLevel) (bank : Nat)

/-- The statistics of the operations of a level, as formulas of the level as a cache. -/
theorem formula?_operations :
    formula? (level.label ++ ".pic_copy_ops") = some (level.cache.count "pic_ops_copy") ∧
      formula? (level.label ++ ".pic_cmp_ops") = some (level.cache.compares "pic_ops") ∧
      formula? (level.label ++ ".pic_cmp_ops_in_bank") = some level.cache.comparesInBank ∧
      formula? (level.label ++ ".pic_key_writes") = some (level.cache.count "pic_key_writes") := by
  obtain ⟨copies, compares, -, comparesInBank, keyWrites⟩ :=
    PicCache.formula?_operations level.cache level.cache_mem_all
  rw [level.label_cache] at copies compares comparesInBank keyWrites
  exact ⟨copies, compares, comparesInBank, keyWrites⟩

/-- What is counted for a bank is added up over the cores that share it, and is zero if nothing
was counted. -/
theorem eval_count (name : String) :
    (level.cache.count name).eval a (.unit bank) =
      a.stats.sumOverOrZero (level.cache.counter name) (level.range a.hierarchy bank) := by
  cases level <;> rfl

variable {a bank}

/-- Searches are compares for an L2, which adds the two counters up. -/
theorem eval_compares_l2 {group : String} {z : α} :
    (PicCache.l2.compares group).eval a (.unit bank) = .ok z ↔ ∃ compares searches,
      a.stats.sumOverOrZero (PicCache.l2.counter (group ++ "_cmp"))
        (a.hierarchy.l2Range bank) = .ok compares ∧
      a.stats.sumOverOrZero (PicCache.l2.counter (group ++ "_search"))
        (a.hierarchy.l2Range bank) = .ok searches ∧
      Scalar.trunc (compares + searches) = z := by
  have located : a.sharers PicCache.l2.sharing (.unit bank) = .ok (a.hierarchy.l2Range bank) := rfl
  simp only [PicCache.eval_compares_eq_ok_iff (show PicCache.l2.foldsSearches = true from rfl),
    located, Except.ok.injEq, exists_and_left, exists_eq_left']

/-- An L3 takes the compares as they were counted, without searches. -/
theorem eval_compares_l3 {group : String} {z : α} :
    (PicCache.l3.compares group).eval a (.unit bank) = .ok z ↔ ∃ compares,
      a.stats.sumOverOrZero (PicCache.l3.counter (group ++ "_cmp"))
        (a.hierarchy.l3Range bank) = .ok compares ∧ Scalar.trunc compares = z :=
  eval_trunc_eq_ok_iff

end Formulas

/-! ## What the mapping stores for a bank -/

namespace Nuca

section Stored

variable {options : Options Rat} {stats : Stats Rat} {range : Nat × Nat}

/-- The counters that a mapping reads. -/
def counters (options : Options Rat) (stats : Stats Rat) : List String :=
  ["nuca-cache.reads", "nuca-cache.writes", "nuca-cache.read-misses", "nuca-cache.write-misses"] ++
    (if options.implicitAccesses then ["nuca-cache.dirty_evicts"] else []) ++
    if stats.contains "nuca-cache.pic_ops_copy" then
      ["nuca-cache.pic_ops_copy", "nuca-cache.pic_ops_cmp", "nuca-cache.pic_ops_search",
        "nuca-cache.pic_key_writes"]
    else []

/-- The loads of the cores of a bank: the reads, and one for each dirty eviction if implicit
accesses count. -/
def loadTotal (options : Options Rat) (stats : Stats Rat) (range : Nat × Nat) : Rat :=
  stats.total range "nuca-cache.reads" +
    if options.implicitAccesses then stats.total range "nuca-cache.dirty_evicts" else 0

/-- The compares and searches of the cores of a bank. -/
def compareTotal (stats : Stats Rat) (range : Nat × Nat) : Rat :=
  stats.total range "nuca-cache.pic_ops_cmp" + stats.total range "nuca-cache.pic_ops_search"

/-- What stays inside a bank of a number of operations. -/
def inBankTotal (options : Options Rat) (operations : Rat) : Rat :=
  match options.inBankFraction with
  | some fraction => fraction * operations
  | none => operations

variable (covered : ∀ name ∈ counters options stats, stats.Covers range name)

include covered in
/-- Where the reads cover a range, and the dirty evictions do if they count, the loads add up to
both. -/
theorem sums_loads {value : Value Rat} (loaded : loads options stats = .ok value) :
    value.Sums range (loadTotal options stats range) := by
  obtain ⟨reads, found, rest⟩ := bind_eq_ok_iff.1 loaded
  have sums := (covered "nuca-cache.reads" (by simp [counters])).sums found
  unfold loadTotal
  split at rest
  · rename_i implicit
    obtain ⟨evicts, found, added⟩ := bind_eq_ok_iff.1 rest
    rw [if_pos implicit]
    exact sums.add ((covered _ (by simp [counters, implicit])).sums found) added
  · rename_i plain
    cases rest
    rwa [if_neg plain, add_zero]

include covered in
/-- The counters of operations add up to what the NUCA cache counted, the compares to compares
and searches. -/
theorem sums_picCounters (pic : stats.contains "nuca-cache.pic_ops_copy" = true)
    {found : PicCounters Rat} (counted : picCounters stats = .ok found) :
    found.copies.Sums range (stats.total range "nuca-cache.pic_ops_copy") ∧
      found.compares.Sums range (compareTotal stats range) ∧
      found.keyWrites.Sums range (stats.total range "nuca-cache.pic_key_writes") := by
  simp only [picCounters, bind_eq_ok_iff] at counted
  obtain ⟨copies, foundCopies, compares, foundCompares, searches, foundSearches, sum, added,
    keyWrites, foundKeys, same⟩ := counted
  cases same
  refine ⟨?copies, ?compares, ?keyWrites⟩
  case copies => exact (covered _ (by simp [counters, pic])).sums foundCopies
  case compares =>
    have left := (covered _ (by simp [counters, pic])).sums foundCompares
    have right := (covered _ (by simp [counters, pic])).sums foundSearches
    exact left.add right added
  case keyWrites => exact (covered _ (by simp [counters, pic])).sums foundKeys

/-- A fraction of each operation stays inside a bank, and so the same fraction of their sum. -/
theorem sums_inBank {value : Value Rat} {sum : Rat} (sums : value.Sums range sum) :
    (inBank options value).Sums range (inBankTotal options sum) := by
  cases set : options.inBankFraction with
  | none => simpa only [inBank, inBankTotal, set] using sums
  | some fraction =>
    simp only [inBank, inBankTotal, set, mul_comm fraction]
    exact sums.map_mul fraction

end Stored

section Sums

variable {h : Hierarchy} {level : CacheLevel} {options : Options Rat} {config : Config}
  {stats : Stats Rat} {a : Activity Rat} (run : MappedRun h level options config stats a)
  {range : Nat × Nat}

namespace MappedRun

include run

/-- A statistic that the mapping assigns adds up to what the assigned value does. -/
theorem sums_of_mem {name : String} {result : Except Failure (Value Rat)} {sum : Rat}
    (assigned : (name, result) ∈ statAssignments level options stats)
    (sums : ∀ value, result = .ok value → value.Sums range sum) : a.stats.Sums range name sum := by
  obtain ⟨value, same, found⟩ := run.get?_of_mem assigned
  exact ⟨value, found, sums value same⟩

variable (covered : ∀ name ∈ counters options stats, stats.Covers range name)

include covered

/-- The accesses that the mapping stores for a level add up, over any range that its counters
cover, to those of the NUCA cache. -/
theorem sums_accesses :
    a.stats.Sums range (level.label ++ ".loads") (loadTotal options stats range) ∧
      a.stats.Sums range (level.label ++ ".stores") (stats.total range "nuca-cache.writes") ∧
      a.stats.Sums range (level.label ++ ".load-misses")
        (stats.total range "nuca-cache.read-misses") ∧
      a.stats.Sums range (level.label ++ ".store-misses")
        (stats.total range "nuca-cache.write-misses") := by
  have stored {name source : String}
      (member : (name, stats.require source) ∈ statAssignments level options stats)
      (listed : source ∈ counters options stats) :
      a.stats.Sums range name (stats.total range source) :=
    run.sums_of_mem member fun _ found => (covered source listed).sums found
  refine ⟨?loads, ?stores, ?loadMisses, ?storeMisses⟩
  case loads =>
    exact run.sums_of_mem (by simp [statAssignments]) fun _ => sums_loads covered
  all_goals exact stored (by simp [statAssignments]) (by simp [counters])

/-- The operations that the mapping stores for a level add up to those of the NUCA cache, if it
counts any. The compares inside a bank are stored under the name of the policy. -/
theorem sums_pic (pic : stats.contains "nuca-cache.pic_ops_copy" = true) :
    a.stats.Sums range (level.label ++ ".pic_ops_in_bank_cmp_" ++ options.bankMapPolicy.name)
        (inBankTotal options (compareTotal stats range)) ∧
      a.stats.Sums range (level.label ++ ".pic_ops_copy")
        (stats.total range "nuca-cache.pic_ops_copy") ∧
      a.stats.Sums range (level.label ++ ".pic_ops_cmp") (compareTotal stats range) ∧
      a.stats.Sums range (level.label ++ ".pic_key_writes")
        (stats.total range "nuca-cache.pic_key_writes") := by
  obtain ⟨found, counted⟩ := run.exists_picCounters pic
  obtain ⟨copies, compares, keyWrites⟩ := sums_picCounters covered pic counted
  have stored {name : String} {value : Value Rat} {sum : Rat} (sums : value.Sums range sum)
      (member : (name, .ok value) ∈ picAssignments level.label options stats) :
      a.stats.Sums range name sum := by
    refine run.sums_of_mem (mem_statAssignments_of_pic pic member) fun _ same => ?_
    cases same
    exact sums
  refine ⟨stored (sums_inBank compares) ?_, stored copies ?_, stored compares ?_,
    stored keyWrites ?_⟩
  all_goals simp [picAssignments, counted]

end MappedRun

end Sums

/-! ## A bank with one core -/

/-- A core on a chip that has a NUCA slice in the place of an L2. -/
def sliceChip : Hierarchy where
  cores := 1
  technologyNode := 45
  l2Banks := 1
  privateL2s := true
  l2Sharing := 1
  l3Banks := 0
  l3Sharing := 0
  nucaLevel := some .l2

/-- The settings of the slice, and the one of the L2 that the mapping keeps. -/
def sliceConfig : Config :=
  .ofList [
    ("perf_model/l2_cache/cache_block_size", "64"),
    ("perf_model/nuca/associativity", "16"),
    ("perf_model/nuca/cache_size", "1024"),
    ("perf_model/nuca/data_access_time", "20")]

/-- What the slice counted, next to counters of the L2 that is not there. -/
def sliceStats : Stats Rat :=
  .ofList [
    ("L2.dirty_backinval", .list [1]),
    ("L2.dirty_evicts", .list [1]),
    ("L2.writebacks", .list [1]),
    ("fs_to_cycles_cores", .list [1]),
    ("global.time", .scalar 100),
    ("nuca-cache.dirty_evicts", .list [2]),
    ("nuca-cache.pic_key_writes", .list [2]),
    ("nuca-cache.pic_ops_cmp", .list [6]),
    ("nuca-cache.pic_ops_copy", .list [4]),
    ("nuca-cache.pic_ops_search", .list [1]),
    ("nuca-cache.read-misses", .list [3]),
    ("nuca-cache.reads", .list [10]),
    ("nuca-cache.write-misses", .list [2]),
    ("nuca-cache.writes", .list [5]),
    ("performance_model.elapsed_time", .list [100]),
    ("performance_model.instruction_count", .list [50])]

end Nuca
end ChipPower
