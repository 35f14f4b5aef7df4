import ChipPower.Proofs.Hierarchy.Derivation
import ChipPower.Proofs.Nuca.Banks
import Mathlib.Data.List.Nodup
import Mathlib.Data.List.Pairwise

/-!
# Banks partition the cores

The ranges of a level's banks, one after the other, are the cores up to a multiple of the
number of cores that share a bank (`flatMap_bankRange`). How far that is depends on how the
banks were counted: a count that is rounded up covers all cores
(`Hierarchy.partitions_of_bankCount`).

`ServesAll` says of any ranges that every core is in exactly one of them and that none is
empty, and `Hierarchy.Partitions` adds what that means for the sums over the banks. They
hold wherever the banks were counted by the cores that share one
(`Hierarchy.banks_partition_cores`).
-/

namespace ChipPower

/-! ## Ranges of cores -/

/-- The cores of a range, ascending. -/
def coresIn (range : Nat × Nat) : List Nat :=
  List.range' range.1 (range.2 - range.1)

/-- The elements that a list has for the cores of a range. -/
def elementsIn {α : Type} (range : Nat × Nat) (xs : List α) : List α :=
  (coresIn range).filterMap fun core => xs[core]?

theorem filterMap_range_getElem? {α : Type} (xs : List α) (count : Nat) :
    (List.range count).filterMap (fun index => xs[index]?) = xs.take count := by
  induction count with
  | zero => rfl
  | succ count ih =>
    rw [List.range_succ, List.filterMap_append, ih, List.take_add_one, List.filterMap_cons,
      List.filterMap_nil]
    cases xs[count]? <;> rfl

/-- The ranges of banks, one after the other, are all cores up to the last bank's end. -/
theorem flatMap_bankRange (cores sharing banks : Nat) :
    (List.range banks).flatMap (fun bank => coresIn (bankRange cores sharing bank)) =
      List.range (min (sharing * banks) cores) := by
  induction banks with
  | zero => simp
  | succ banks ih =>
    have onward : min (sharing * banks) cores +
        (min (sharing * banks + sharing) cores - min (sharing * banks) cores) =
        min (sharing * (banks + 1)) cores := by
      rw [Nat.mul_succ]
      omega
    rw [List.range_succ, List.flatMap_append, ih, List.flatMap_singleton, coresIn, bankRange,
      List.range_eq_range', List.range_eq_range', ← onward, ← List.range'_append_1, Nat.zero_add]

theorem coresIn_bankRange_ne_nil_iff {cores sharing bank : Nat} :
    coresIn (bankRange cores sharing bank) ≠ [] ↔ 0 < sharing ∧ sharing * bank < cores := by
  rw [coresIn, bankRange, Ne, List.range'_eq_nil_iff]
  omega

/-- If the ranges, one after the other, are the cores from the first one on, each of these
cores is in exactly one range. -/
theorem existsUnique_bank_iff {banks covered : Nat} {ranges : Nat → Nat × Nat}
    (concatenated :
      (List.range banks).flatMap (fun bank => coresIn (ranges bank)) = List.range covered)
    (core : Nat) :
    (∃! bank, bank < banks ∧ core ∈ coresIn (ranges bank)) ↔ core < covered := by
  have member : (∃ bank, bank < banks ∧ core ∈ coresIn (ranges bank)) ↔ core < covered := by
    rw [← List.mem_range (m := core), ← concatenated, List.mem_flatMap]
    simp only [List.mem_range]
  have distinct : ((List.range banks).flatMap fun bank => coresIn (ranges bank)).Nodup := by
    rw [concatenated]
    exact List.nodup_range
  constructor
  · rintro ⟨bank, serves, -⟩
    exact member.1 ⟨bank, serves⟩
  · intro below
    obtain ⟨bank, inside, serves⟩ := member.2 below
    refine ⟨bank, ⟨inside, serves⟩, ?_⟩
    rintro other ⟨otherInside, otherServes⟩
    by_contra differ
    -- without repetitions no two of the ranges share a core
    have apart := (List.nodup_flatMap.1 distinct).2
    have : Std.Symm (Function.onFun List.Disjoint fun bank => coresIn (ranges bank)) :=
      ⟨fun _ _ => List.disjoint_symm⟩
    have disjoint := apart.forall (List.mem_range.2 otherInside) (List.mem_range.2 inside) differ
    exact disjoint otherServes serves

/-- Banks that are counted by the cores that share one have room for all cores, and would
not without the last bank. -/
theorem bankCount_bounds {cores sharing banks : Nat}
    (counted : bankCount cores sharing = .ok banks) :
    0 < sharing ∧ cores ≤ sharing * banks ∧ sharing * banks < cores + sharing := by
  obtain ⟨positive, rfl⟩ := bankCount_eq_ok_iff.1 counted
  have rounded := Nat.div_add_mod (cores + sharing - 1) sharing
  have fraction := Nat.mod_lt (cores + sharing - 1) positive
  omega

theorem bankCount_ne_zero {cores sharing banks : Nat} (manned : 0 < cores)
    (counted : bankCount cores sharing = .ok banks) : banks ≠ 0 := by
  rintro rfl
  have := (bankCount_bounds counted).2.1
  omega

/-! ## Sums over ranges -/

section Sums

variable {α : Type} [Scalar α] {stats : Stats α} {name : String} {xs : List α}

theorem foldlM_element (listed : stats.get? name = some (.list xs)) (indices : List Nat)
    (inside : ∀ index ∈ indices, index < xs.length) (total : α) :
    indices.foldlM (fun total index => (total + ·) <$> stats.element name index) total =
      .ok ((indices.filterMap fun index => xs[index]?).foldl (· + ·) total) := by
  induction indices generalizing total with
  | nil => rfl
  | cons index rest ih =>
    have bound : index < xs.length := inside index List.mem_cons_self
    have here : xs[index]? = some xs[index] := List.getElem?_eq_getElem bound
    have element : stats.element name index = .ok xs[index] := by
      simp only [Stats.element, Stats.require, listed, Value.get?, here, bind, Except.bind]
      rfl
    rw [List.foldlM_cons, element, List.filterMap_cons_some here, List.foldl_cons]
    exact ih (fun index member => inside index (List.mem_cons_of_mem _ member)) _

/-- The sum over a range is that of the elements for its cores, in their order. -/
theorem sumOver_list (listed : stats.get? name = some (.list xs)) {range : Nat × Nat}
    (inside : ∀ core ∈ coresIn range, core < xs.length) :
    stats.sumOver name range = .ok (Scalar.sum (elementsIn range xs)) := by
  rw [Stats.sumOver, Stats.sumFrom_eq_foldlM]
  exact foldlM_element listed (coresIn range) inside Scalar.emptySum

end Sums

/-! ## Levels -/

namespace CacheLevel

/-- The number of banks of a level. -/
def banks (h : Hierarchy) : CacheLevel → Nat
  | .l2 => h.l2Banks
  | .l3 => h.l3Banks

/-- How many cores share a bank of a level. -/
def sharing (h : Hierarchy) : CacheLevel → Nat
  | .l2 => h.l2Sharing
  | .l3 => h.l3Sharing

theorem range_eq (h : Hierarchy) (level : CacheLevel) (bank : Nat) :
    level.range h bank = bankRange h.cores (level.sharing h) bank := by
  cases level <;> rfl

end CacheLevel

/-- Each core is in exactly one of the ranges of banks, and none of these is empty. -/
structure ServesAll (cores banks : Nat) (ranges : Nat → Nat × Nat) : Prop where
  served : ∀ core < cores, ∃! bank, bank < banks ∧ core ∈ coresIn (ranges bank)
  inhabited : ∀ bank < banks, coresIn (ranges bank) ≠ []

/-- The banks of a level partition the cores. The sum of a bank is that of the elements for
its cores, and each element for a core enters the sum of exactly one bank. -/
structure Hierarchy.Partitions (h : Hierarchy) (level : CacheLevel) : Prop
    extends ServesAll h.cores (level.banks h) (level.range h) where
  concatenated :
    (List.range (level.banks h)).flatMap (fun bank => coresIn (level.range h bank)) =
      List.range h.cores
  summed : ∀ {α : Type} [Scalar α] (stats : Stats α) (name : String) (xs : List α),
    stats.get? name = some (.list xs) → h.cores ≤ xs.length →
      (∀ bank < level.banks h, stats.sumOver name (level.range h bank) =
        .ok (Scalar.sum (elementsIn (level.range h bank) xs))) ∧
      (List.range (level.banks h)).flatMap (fun bank => elementsIn (level.range h bank) xs) =
        xs.take h.cores

namespace Hierarchy

variable {h : Hierarchy} {level : CacheLevel}

/-- Ranges that are not empty, and are the cores one after the other, partition them. -/
theorem partitions_of_concatenated
    (inhabited : ∀ bank < level.banks h, coresIn (level.range h bank) ≠ [])
    (concatenated :
      (List.range (level.banks h)).flatMap (fun bank => coresIn (level.range h bank)) =
        List.range h.cores) : h.Partitions level where
  served core below := (existsUnique_bank_iff concatenated core).2 below
  inhabited := inhabited
  concatenated := concatenated
  summed stats name xs listed long := by
    refine ⟨fun bank below => sumOver_list listed fun core member => ?_, ?_⟩
    · have served : core ∈ List.range h.cores := by
        rw [← concatenated, List.mem_flatMap]
        exact ⟨bank, List.mem_range.2 below, member⟩
      have := List.mem_range.1 served
      omega
    · rw [← filterMap_range_getElem?, ← concatenated, List.filterMap_flatMap]
      rfl

/-- Banks that were counted by the cores that share one partition the cores: rounding up
leaves no core behind, and only the last bank may have fewer cores. -/
theorem partitions_of_bankCount
    (counted : bankCount h.cores (level.sharing h) = .ok (level.banks h)) :
    h.Partitions level := by
  obtain ⟨positive, all, last⟩ := bankCount_bounds counted
  apply partitions_of_concatenated
  · intro bank below
    rw [level.range_eq, coresIn_bankRange_ne_nil_iff]
    have next := Nat.mul_le_mul_left (level.sharing h) (Nat.succ_le_of_lt below)
    rw [Nat.mul_succ] at next
    exact ⟨positive, by omega⟩
  · simp only [level.range_eq]
    rw [flatMap_bankRange, Nat.min_eq_right all]

/-! ## Derived hierarchies -/

/-- An L2 that the chip has keeps its place beside slices. -/
theorem l2_withSlices {slices : Slices} (present : h.l2Banks ≠ 0) :
    (h.withSlices slices).l2Banks = h.l2Banks ∧
      (h.withSlices slices).l2Sharing = h.l2Sharing := by
  rw [withSlices, if_neg present]
  exact ⟨rfl, rfl⟩

/-- The level that NUCA is mapped onto has its slices for banks. -/
theorem banks_withSlices {slices : Slices}
    (placed : (h.withSlices slices).nucaLevel = some level) :
    level.banks (h.withSlices slices) = slices.count ∧
      level.sharing (h.withSlices slices) = slices.sharing := by
  by_cases absent : h.l2Banks = 0
  · rw [withSlices, if_pos absent] at placed ⊢
    cases placed
    exact ⟨rfl, rfl⟩
  · rw [withSlices, if_neg absent] at placed ⊢
    cases placed
    exact ⟨rfl, rfl⟩

variable {config : Config} {topology : List TopologyEntry}

/-- Where the banks of a level were counted by the cores that share one, be it those of an
L2, of an L3 or of slices at a fixed distance, they partition the cores. -/
theorem banks_partition_cores (derived : ofConfig config topology = .ok h)
    (manned : 0 < h.cores) :
    (∀ time, config.wordOr "perf_model/l2_cache/data_access_time" none 0 = .ok time →
      0 < time → h.Partitions .l2) ∧
    (∀ levels, config.word "perf_model/cache/levels" none = .ok levels →
      3 ≤ levels → h.Partitions .l3) ∧
    ∀ level, h.nucaLevel = some level →
      config.find? "perf_model/dram_directory/locations" none = some "interleaved" →
      h.Partitions level := by
  obtain ⟨time, levels, base, starts, foundLevels, completes⟩ := ofConfig_eq_ok_iff.1 derived
  have baseManned : 0 < base.cores := by
    cases completes with
    | withL3 _ _ => exact manned
    | withSlices _ _ _ => rwa [cores_withSlices] at manned
    | plain _ _ => exact manned
  refine ⟨?l2, ?l3, ?slices⟩
  case l2 =>
    intro _ again slow
    cases starts.l2Time.symm.trans again
    have counted : bankCount base.cores base.l2Sharing = .ok base.l2Banks := by
      rcases starts.l2Banks with ⟨-, counted⟩ | ⟨fast, -⟩
      · exact counted
      · omega
    apply partitions_of_bankCount
    cases completes with
    | withL3 _ _ => exact counted
    | plain _ _ => exact counted
    | withSlices _ _ _ =>
      -- slices go to the L3, as there are L2 banks
      obtain ⟨banks, sharing⟩ := l2_withSlices (bankCount_ne_zero baseManned counted)
      rwa [CacheLevel.banks, CacheLevel.sharing, cores_withSlices, banks, sharing]
  case l3 =>
    intro _ again high
    cases foundLevels.symm.trans again
    cases completes with
    | withL3 _ counted => exact partitions_of_bankCount counted
    | withSlices low _ _ => omega
    | plain low _ => omega
  case slices =>
    intro level placed fixed
    cases completes with
    | withL3 _ _ => exact nomatch starts.nucaLevel.symm.trans placed
    | plain _ _ => exact nomatch starts.nucaLevel.symm.trans placed
    | withSlices _ _ found =>
      obtain ⟨banks, sharing⟩ := banks_withSlices placed
      obtain ⟨setting, same, ⟨-, interleaved⟩ | ⟨other, -⟩⟩ := Slices.ofConfig_eq_ok_iff.1 found
      · obtain ⟨-, counted⟩ := Slices.interleaved_eq_ok_iff.1 interleaved
        apply partitions_of_bankCount
        rwa [banks, sharing, cores_withSlices]
      · cases same.symm.trans fixed
        exact (other rfl).elim

/-- Five cores, of which three share an L2 bank. With two levels there are slices two cores
apart, and with three levels four cores share an L3 bank. -/
def unevenConfig (levels : String) : Config :=
  .ofList [
    ("general/total_cores", "5"),
    ("perf_model/cache/levels", levels),
    ("perf_model/dram_directory/interleaving", "2"),
    ("perf_model/dram_directory/locations", "interleaved"),
    ("perf_model/l2_cache/data_access_time", "8"),
    ("perf_model/l2_cache/shared_cores", "3"),
    ("perf_model/l3_cache/shared_cores", "4"),
    ("perf_model/nuca/enabled", "true")]

/-- The last bank may have fewer cores than the others, but none has no core. -/
theorem banks_partition_cores_uneven :
    (∃ h, ofConfig (unevenConfig "2") [] = .ok h ∧ h.cores = 5 ∧ h.nucaLevel = some .l3 ∧
      h.Partitions .l2 ∧ h.Partitions .l3) ∧
    ∃ h, ofConfig (unevenConfig "3") [] = .ok h ∧ h.cores = 5 ∧ h.nucaLevel = none ∧
      h.Partitions .l3 := by
  constructor
  · have derived : ofConfig (unevenConfig "2") [] =
        .ok ⟨5, 45, 2, false, 3, 3, 2, some .l3⟩ := by
      decide +kernel
    obtain ⟨l2, -, slices⟩ := banks_partition_cores derived (by decide)
    exact ⟨_, derived, rfl, rfl, l2 8 (by decide +kernel) (by decide),
      slices .l3 rfl (by decide +kernel)⟩
  · have derived : ofConfig (unevenConfig "3") [] =
        .ok ⟨5, 45, 2, false, 3, 2, 4, none⟩ := by
      decide +kernel
    obtain ⟨-, l3, -⟩ := banks_partition_cores derived (by decide)
    exact ⟨_, derived, rfl, rfl, l3 3 (by decide +kernel) (by decide)⟩

end Hierarchy

end ChipPower
