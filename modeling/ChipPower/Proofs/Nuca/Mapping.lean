import ChipPower.Activity.Basic
import ChipPower.Proofs.Nuca.Assignments

/-!
# What the mapping of a NUCA cache leaves

A mapping goes well if all its assignments are carried out (`mapOnto_eq_iff`). Their names
are distinct, so an activity of the mapped run has every assigned value under its name
(`MappedRun.get?_of_mem`), and it has what the run had before under all others
(`MappedRun.get?_of_not_mem`), which may be counters that the level itself left over.
-/

namespace ChipPower.Nuca

/-! ## Counters that are assigned -/

/-- The names of all statistics of a level that a mapping may set. -/
def names (level : CacheLevel) (policy : BankMapPolicy) : List String := [
  level.label ++ ".loads",
  level.label ++ ".stores",
  level.label ++ ".load-misses",
  level.label ++ ".store-misses",
  level.label ++ ".pic_ops_in_bank_copy_" ++ policy.name,
  level.label ++ ".pic_ops_in_bank_cmp_" ++ policy.name,
  level.label ++ ".pic_ops_copy",
  level.label ++ ".pic_ops_cmp",
  level.label ++ ".pic_key_writes"]

/-- No statistic is set twice, so the last assignment to a name is the only one. -/
theorem nodup_names (level : CacheLevel) (policy : BankMapPolicy) :
    (names level policy).Nodup := by
  cases level <;> cases policy <;> decide +kernel

/-- A mapping onto an L2 does not set the counters that the statistics of the L2 add. -/
theorem leftOver_not_mem_names (policy : BankMapPolicy) :
    ∀ name ∈ ["L2.dirty_evicts", "L2.dirty_backinval", "L2.writebacks", "L2.pic_ops_search"],
      name ∉ names .l2 policy := by
  cases policy <;> decide +kernel

variable {α : Type} [Scalar α]

/-- Only these statistics are assigned, in this order. -/
theorem sublist_names (level : CacheLevel) (options : Options α) (stats : Stats α) :
    ((statAssignments level options stats).map (·.1)).Sublist
      (names level options.bankMapPolicy) := by
  unfold statAssignments picAssignments
  split
  · split
    · simp [names]
    · simp [names]
  · simp [names]

/-- The counters of operations are assigned if there are any. -/
theorem mem_statAssignments_of_pic {level : CacheLevel} {options : Options α} {stats : Stats α}
    (pic : stats.contains "nuca-cache.pic_ops_copy" = true)
    {entry : String × Except Failure (Value α)}
    (member : entry ∈ picAssignments level.label options stats) :
    entry ∈ statAssignments level options stats := by
  rw [statAssignments, if_pos pic]
  exact List.mem_append_right _ member

/-! ## One mapping -/

/-- A mapping goes well if all its assignments are carried out. -/
theorem mapOnto_eq_iff {level : CacheLevel} {options : Options α} {config afterConfig : Config}
    {stats afterStats : Stats α} :
    mapOnto level options config stats = { config := afterConfig, stats := afterStats } ↔
      config.assign (configAssignments level config) = (afterConfig, none) ∧
        stats.assign (statAssignments level options stats) = (afterStats, none) := by
  unfold mapOnto
  rcases config.assign (configAssignments level config) with ⟨mapped, _ | failure⟩
  · rcases stats.assign (statAssignments level options stats) with ⟨counted, outcome⟩
    simp
  · simp

omit [Scalar α] in
/-- A mapping that has not failed is told by its configuration and statistics. -/
theorem mapped_eq_of_failure {after : Mapped α} (mapped : after.failure = none) :
    after = { config := after.config, stats := after.stats } := by
  cases after
  cases mapped
  rfl

section Outcome

variable (level : CacheLevel) (options : Options α) (config : Config) (stats : Stats α)

/-- The settings that a mapping leaves are those of its assignments, whatever becomes of the
counters. -/
theorem config_mapOnto :
    (mapOnto level options config stats).config =
      (config.assign (configAssignments level config)).1 := by
  unfold mapOnto
  rcases config.assign (configAssignments level config) with ⟨mapped, _ | failure⟩
  · rfl
  · rfl

/-- The counters are assigned once all settings are. -/
theorem stats_mapOnto_eq_or :
    (mapOnto level options config stats).stats = stats ∨
      (mapOnto level options config stats).stats =
        (stats.assign (statAssignments level options stats)).1 := by
  unfold mapOnto
  rcases config.assign (configAssignments level config) with ⟨mapped, _ | failure⟩
  · exact .inr rfl
  · exact .inl rfl

end Outcome

/-! ## Mapped runs -/

/-- An activity of a run whose NUCA cache was mapped onto a level. -/
structure MappedRun (h : Hierarchy) (level : CacheLevel) (options : Options α) (config : Config)
    (stats : Stats α) (a : Activity α) : Prop where
  placed : h.nucaLevel = some level
  mapped : (h.mapNuca options config stats).failure = none
  created : Activity.ofRun (h.mapNuca options config stats).stats
    (h.mapNuca options config stats).config h options = .ok a

/-- There is a mapped run if the mapping goes well and an activity can be made of what is left. -/
theorem exists_mappedRun {h : Hierarchy} {level : CacheLevel} {options : Options α}
    {config : Config} {stats : Stats α} (placed : h.nucaLevel = some level)
    (mapped : (h.mapNuca options config stats).failure = none)
    (created : (Activity.ofRun (h.mapNuca options config stats).stats
      (h.mapNuca options config stats).config h options).isOk = true) :
    ∃ a, MappedRun h level options config stats a := by
  obtain ⟨a, result⟩ := isOk_iff.1 created
  exact ⟨a, placed, mapped, result⟩

namespace MappedRun

variable {h : Hierarchy} {level : CacheLevel} {options : Options α} {config : Config}
  {stats : Stats α} {a : Activity α} (run : MappedRun h level options config stats a)

include run

theorem hierarchy_eq : a.hierarchy = h := by
  obtain ⟨cores, -, rfl⟩ := Activity.ofRun_eq_ok run.created
  rfl

theorem options_eq : a.options = options := by
  obtain ⟨cores, -, rfl⟩ := Activity.ofRun_eq_ok run.created
  rfl

theorem config_eq : a.config = (h.mapNuca options config stats).config := by
  obtain ⟨cores, -, rfl⟩ := Activity.ofRun_eq_ok run.created
  rfl

/-- The statistics of a mapped run are those before it with all assignments carried out. -/
theorem carried :
    stats.assign (statAssignments level options stats) = (a.stats, none) := by
  obtain ⟨cores, -, rfl⟩ := Activity.ofRun_eq_ok run.created
  have mapped := run.mapped
  simp only [Hierarchy.mapNuca, run.placed] at mapped ⊢
  exact (mapOnto_eq_iff.1 (mapped_eq_of_failure mapped)).2

/-- A statistic that is assigned has its value in the mapped run. -/
theorem get?_of_mem {name : String} {result : Except Failure (Value α)}
    (assigned : (name, result) ∈ statAssignments level options stats) :
    ∃ value, result = .ok value ∧ a.stats.get? name = some value := by
  have distinct := (nodup_names level options.bankMapPolicy).sublist
    (sublist_names level options stats)
  exact Dict.get?_assign_of_mem run.carried distinct assigned

/-- All other statistics are what they were, those of the level included. -/
theorem get?_of_not_mem {name : String} (absent : name ∉ names level options.bankMapPolicy) :
    a.stats.get? name = stats.get? name := by
  have same := stats.get?_assign_of_not_mem fun member =>
    absent ((sublist_names level options stats).subset member)
  rwa [run.carried] at same

/-- A mapping that has counters of operations and goes well has all of them. -/
theorem exists_picCounters (pic : stats.contains "nuca-cache.pic_ops_copy" = true) :
    ∃ counters, picCounters stats = .ok counters := by
  cases found : picCounters stats with
  | error failure =>
    have assigned : (level.label ++ ".pic_ops_copy", .error failure) ∈
        picAssignments level.label options stats := by
      simp [picAssignments, found]
    obtain ⟨value, failed, -⟩ := run.get?_of_mem (mem_statAssignments_of_pic pic assigned)
    cases failed
  | ok counters => exact ⟨counters, rfl⟩

end MappedRun
end ChipPower.Nuca
