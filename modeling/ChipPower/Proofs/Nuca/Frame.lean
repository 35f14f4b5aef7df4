import ChipPower.Proofs.Config.Overrides
import ChipPower.Proofs.Nuca.Banks

/-!
# What the mapping of a NUCA cache touches

A mapping sets six settings of its level (`Nuca.keys`) and up to nine of its counters
(`Nuca.names`), and nothing else, whether it goes well or stops halfway (`Nuca.Framed`). All
that it reads is outside of them, but for the block size of an L2, which it sets to itself.
So a mapping that went well finds the same assignments again, and carrying them out once
more changes nothing (`Hierarchy.mapNuca_framed`).
-/

namespace ChipPower

namespace Nuca

/-! ## The settings and counters of a level -/

/-- The keys of all settings of a level that a mapping may set. -/
def keys (level : CacheLevel) : List String := [
  level.configSection ++ "/" ++ "data_access_time",
  level.configSection ++ "/" ++ "associativity",
  level.configSection ++ "/" ++ "cache_block_size",
  level.configSection ++ "/" ++ "cache_size",
  level.configSection ++ "/" ++ "writeback_time",
  level.configSection ++ "/" ++ "dvfs_domain"]

theorem nodup_keys (level : CacheLevel) : (keys level).Nodup := by
  cases level <;> decide +kernel

/-- A key among the settings of the NUCA cache. -/
def IsOwnKey (key : String) : Prop :=
  "perf_model/nuca/".toList <+: key.toList

/-- A name among the counters of the NUCA cache. -/
def IsOwnName (name : String) : Prop :=
  "nuca-cache.".toList <+: name.toList

instance : DecidablePred IsOwnKey := fun key =>
  inferInstanceAs (Decidable ("perf_model/nuca/".toList <+: key.toList))

instance : DecidablePred IsOwnName := fun name =>
  inferInstanceAs (Decidable ("nuca-cache.".toList <+: name.toList))

theorem not_isOwnKey_of_mem_keys (level : CacheLevel) : ∀ key ∈ keys level, ¬ IsOwnKey key := by
  cases level <;> decide +kernel

theorem not_isOwnName_of_mem_names (level : CacheLevel) (policy : BankMapPolicy) :
    ∀ name ∈ names level policy, ¬ IsOwnName name := by
  cases level <;> cases policy <;> decide +kernel

/-! ## One mapping -/

section Mapping

variable {α : Type} [Scalar α] {level : CacheLevel} {options : Options α} {config : Config}
  {stats : Stats α}

/-- What a mapping assigns to settings is still there to be assigned again. -/
theorem configAssignments_assign {after : Config}
    (carried : config.assign (configAssignments level config) = (after, none)) :
    configAssignments level after = configAssignments level config := by
  have kept (key : String) (other : key ∉ keys level) :
      after.require key none = config.require key none := by
    have unset : key ∉ (configAssignments level config).map (·.1) := other
    have same := config.get?_assign_of_not_mem unset
    rw [carried] at same
    exact Config.require_congr same
  have setting (key : String) (own : IsOwnKey key) :
      after.require key none = config.require key none :=
    kept key fun member => not_isOwnKey_of_mem_keys level key member own
  -- the block size of an L2 is the only text that is read and set under one key
  have block : after.require "perf_model/l2_cache/cache_block_size" none =
      config.require "perf_model/l2_cache/cache_block_size" none := by
    cases level with
    | l3 => exact kept _ (by decide +kernel)
    | l2 =>
      have assigned : ("perf_model/l2_cache/cache_block_size",
          config.require "perf_model/l2_cache/cache_block_size" none) ∈
            configAssignments .l2 config := by
        simp [configAssignments, CacheLevel.configSection]
      obtain ⟨text, found, stored⟩ := Dict.get?_assign_of_mem carried (nodup_keys .l2) assigned
      rw [found]
      exact Config.require_eq_ok_iff.2 stored
  unfold configAssignments
  rw [setting "perf_model/nuca/data_access_time" (by decide +kernel),
    setting "perf_model/nuca/associativity" (by decide +kernel), block,
    setting "perf_model/nuca/cache_size" (by decide +kernel)]

/-- What a mapping assigns to counters depends on those of the NUCA cache alone. -/
theorem statAssignments_congr {other : Stats α}
    (same : ∀ name, IsOwnName name → stats.get? name = other.get? name) :
    statAssignments level options stats = statAssignments level options other := by
  have require (name : String) (counter : IsOwnName name) :
      stats.require name = other.require name := by
    unfold Stats.require
    rw [same name counter]
  have present : Dict.contains stats "nuca-cache.pic_ops_copy" =
      Dict.contains other "nuca-cache.pic_ops_copy" := by
    unfold Dict.contains
    rw [same _ (by decide +kernel)]
  unfold statAssignments picAssignments picCounters loads
  rw [present, require "nuca-cache.reads" (by decide +kernel),
    require "nuca-cache.dirty_evicts" (by decide +kernel),
    require "nuca-cache.writes" (by decide +kernel),
    require "nuca-cache.read-misses" (by decide +kernel),
    require "nuca-cache.write-misses" (by decide +kernel),
    require "nuca-cache.pic_ops_copy" (by decide +kernel),
    require "nuca-cache.pic_ops_cmp" (by decide +kernel),
    require "nuca-cache.pic_ops_search" (by decide +kernel),
    require "nuca-cache.pic_key_writes" (by decide +kernel)]

theorem statAssignments_assign {after : Stats α}
    (carried : stats.assign (statAssignments level options stats) = (after, none)) :
    statAssignments level options after = statAssignments level options stats := by
  apply statAssignments_congr
  intro name counter
  have other : name ∉ (statAssignments level options stats).map (·.1) := by
    intro member
    apply not_isOwnName_of_mem_names level options.bankMapPolicy name _ counter
    exact (sublist_names level options stats).subset member
  have same := stats.get?_assign_of_not_mem other
  rwa [carried] at same

/-- A configuration and statistics have changed at most in the settings and counters of the
level of a NUCA cache, if it has one. -/
structure Framed (placed : Option CacheLevel) (policy : BankMapPolicy) (config : Config)
    (stats : Stats α) (after : Mapped α) : Prop where
  settings : ∀ key, (∀ level ∈ placed, key ∉ keys level) →
    after.config.get? key = config.get? key
  counters : ∀ name, (∀ level ∈ placed, name ∉ names level policy) →
    after.stats.get? name = stats.get? name

theorem framed_mapOnto (level : CacheLevel) (options : Options α) (config : Config)
    (stats : Stats α) :
    Framed (some level) options.bankMapPolicy config stats
      (mapOnto level options config stats) := by
  constructor
  case settings =>
    intro key others
    rw [config_mapOnto]
    exact config.get?_assign_of_not_mem (others level rfl)
  case counters =>
    intro name others
    rcases stats_mapOnto_eq_or level options config stats with unread | counted
    · rw [unread]
    · rw [counted]
      apply stats.get?_assign_of_not_mem
      intro member
      exact others level rfl ((sublist_names level options stats).subset member)

theorem mapOnto_mapOnto (level : CacheLevel) (options : Options α) (config : Config)
    (stats : Stats α) (mapped : (mapOnto level options config stats).failure = none) :
    mapOnto level options (mapOnto level options config stats).config
        (mapOnto level options config stats).stats =
      mapOnto level options config stats := by
  have whole := mapped_eq_of_failure mapped
  obtain ⟨settings, counters⟩ := mapOnto_eq_iff.1 whole
  rw [whole]
  apply mapOnto_eq_iff.2
  rw [configAssignments_assign settings, statAssignments_assign counters]
  exact ⟨Dict.assign_assign settings, Dict.assign_assign counters⟩

end Mapping

end Nuca

/-! ## The mapping of a chip -/

section Chip

variable {α : Type} [Scalar α]

theorem Hierarchy.framed_mapNuca (h : Hierarchy) (options : Options α) (config : Config)
    (stats : Stats α) :
    Nuca.Framed h.nucaLevel options.bankMapPolicy config stats (h.mapNuca options config stats) := by
  unfold mapNuca
  cases h.nucaLevel with
  | none => exact ⟨fun _ _ => rfl, fun _ _ => rfl⟩
  | some level => exact Nuca.framed_mapOnto level options config stats

/-- A mapping changes nothing but the settings and counters of its level, whether it goes
well or not. If it does, a second one changes nothing at all. -/
theorem Hierarchy.mapNuca_framed (h : Hierarchy) (options : Options α) (config : Config)
    (stats : Stats α) :
    Nuca.Framed h.nucaLevel options.bankMapPolicy config stats (h.mapNuca options config stats) ∧
      (∀ key, Nuca.IsOwnKey key →
        (h.mapNuca options config stats).config.get? key = config.get? key) ∧
      (∀ name, Nuca.IsOwnName name →
        (h.mapNuca options config stats).stats.get? name = stats.get? name) ∧
      (h.nucaLevel = none → h.mapNuca options config stats = { config, stats }) ∧
      ((h.mapNuca options config stats).failure = none →
        h.mapNuca options (h.mapNuca options config stats).config
            (h.mapNuca options config stats).stats =
          h.mapNuca options config stats) := by
  have framed := h.framed_mapNuca options config stats
  refine ⟨framed, ?settings, ?counters, ?unplaced, ?again⟩
  case settings =>
    intro key own
    apply framed.settings
    intro level _ member
    exact Nuca.not_isOwnKey_of_mem_keys level key member own
  case counters =>
    intro name own
    apply framed.counters
    intro level _ member
    exact Nuca.not_isOwnName_of_mem_names level options.bankMapPolicy name member own
  case unplaced =>
    intro none
    unfold mapNuca
    rw [none]
  case again =>
    unfold mapNuca
    cases h.nucaLevel with
    | none => exact fun _ => rfl
    | some level => exact Nuca.mapOnto_mapOnto level options config stats

open Nuca in
/-- A slice gets its size from the mapping, and keeps all of it under a second one. -/
theorem Hierarchy.mapNuca_framed_slice :
    (sliceChip.mapNuca {} sliceConfig sliceStats).failure = none ∧
      sliceConfig.get? "perf_model/l2_cache/cache_size" = none ∧
      (sliceChip.mapNuca {} sliceConfig sliceStats).config.get? "perf_model/l2_cache/cache_size" =
        some "1024" ∧
      sliceChip.mapNuca {} (sliceChip.mapNuca {} sliceConfig sliceStats).config
          (sliceChip.mapNuca {} sliceConfig sliceStats).stats =
        sliceChip.mapNuca {} sliceConfig sliceStats := by
  have mapped : (sliceChip.mapNuca {} sliceConfig sliceStats).failure = none := by
    decide +kernel
  obtain ⟨-, -, -, -, again⟩ := sliceChip.mapNuca_framed {} sliceConfig sliceStats
  exact ⟨mapped, by decide +kernel, by decide +kernel, again mapped⟩

end Chip

end ChipPower
