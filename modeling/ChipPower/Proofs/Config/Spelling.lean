import ChipPower.Memory
import ChipPower.Proofs.Hierarchy.Derivation
import Mathlib.Control.Monad.Basic

/-!
# The spelling of flags

A flag may be spelled in several ways. Two configurations that spell some flags in another
way (`Config.Respelled`) have the same texts under all keys of other settings, and a flag
that is read as one is the same in both. So memories and fields are alike. The flag for NUCA
is compared with one of its spellings instead, so the hierarchies are alike exactly if both
configurations have this spelling or neither has, or if the chip has no room for NUCA
(`Config.Respelled.unchanged_iff`).
-/

namespace ChipPower

namespace Config

/-! ## Flags and their spellings -/

/-- Two texts spell the same flag. -/
def SameFlag (text other : String) : Prop :=
  ∃ flag, flagOf? text = some flag ∧ flagOf? other = some flag

theorem parseFlag_congr {text other : String} (same : SameFlag text other) (key : String) :
    parseFlag key text = parseFlag key other := by
  obtain ⟨flag, first, second⟩ := same
  unfold parseFlag
  rw [first, second]

/-- The settings that are flags. -/
def flagKeys : List String := [
  "perf_model/core/rob_timer/in_order",
  "perf_model/nuca/enabled",
  "power/3d_dram"]

/-- A flag of the whole system or of a core. -/
def IsFlag (key : String) : Prop :=
  ∃ base ∈ flagKeys, key = base ∨ ∃ core, key = coreKey base core

/-- Two configurations are the same up to the spelling of flags. -/
def Respelled (config changed : Config) : Prop :=
  ∀ key, config.get? key = changed.get? key ∨
    IsFlag key ∧ ∃ text other, config.get? key = some text ∧ changed.get? key = some other ∧
      SameFlag text other

theorem respelled_insert (config : Config) {key text other : String} (flag : IsFlag key)
    (found : config.get? key = some text) (same : SameFlag text other) :
    config.Respelled (config.insert key other) := by
  intro queried
  by_cases new : queried = key
  · cases new
    exact .inr ⟨flag, text, other, found, config.get?_insert_self key other, same⟩
  · exact .inl (config.get?_insert_of_ne new other).symm

/-- A key that is not one of a flag, for no core. -/
def IsOther (key : String) : Prop :=
  IsPlain key ∧ key ∉ flagKeys

instance : DecidablePred IsOther := fun key =>
  inferInstanceAs (Decidable (IsPlain key ∧ key ∉ flagKeys))

/-- The settings that are read for hierarchies, memories and fields, apart from flags. -/
def otherKeys : List String := Hierarchy.settings ++ [
  "perf_model/core/frequency",
  "perf_model/core/interval_timer/dispatch_width",
  "perf_model/core/interval_timer/window_size",
  "perf_model/core/type",
  "perf_model/dram/chips_per_dimm",
  "perf_model/dram/controllers_interleaving",
  "perf_model/dram/dimms_per_controller",
  "perf_model/dram/num_controllers",
  "perf_model/l2_cache/dvfs_domain",
  "perf_model/l3_cache/dvfs_domain",
  "power/vdd"]

theorem isOther_of_mem : ∀ key ∈ otherKeys, IsOther key := by decide +kernel

theorem IsOther.not_isFlag {key : String} (other : IsOther key) : ¬ IsFlag key := by
  rintro ⟨base, listed, rfl | ⟨core, same⟩⟩
  · exact other.2 listed
  · exact ne_coreKey_of_isPlain other.1 base core same

theorem IsOther.not_isFlag_coreKey {key : String} (other : IsOther key) (core : Nat) :
    ¬ IsFlag (coreKey key core) := by
  have plain : ∀ base ∈ flagKeys, IsPlain base := by decide +kernel
  rintro ⟨base, listed, same | ⟨unit, same⟩⟩
  · exact ne_coreKey_of_isPlain (plain base listed) key core same.symm
  · cases key_eq_of_coreKey_eq same
    exact other.2 listed

namespace Respelled

variable {config changed : Config} (spelled : config.Respelled changed)

include spelled

/-! ## What is looked up -/

theorem find?_other {key : String} (listed : key ∈ otherKeys) (core : Option Nat) :
    config.find? key core = changed.find? key core := by
  have other := isOther_of_mem key listed
  have kept {key : String} (other : ¬ IsFlag key) : config.get? key = changed.get? key :=
    (spelled key).resolve_right fun changes => other changes.1
  cases core with
  | none => exact kept other.not_isFlag
  | some core =>
    have own := kept (other.not_isFlag_coreKey core)
    rw [find?_some, find?_some, own, kept other.not_isFlag]

/-- What is found for a flag may be another spelling of it. -/
theorem find?_eq_or (key : String) (core : Option Nat) :
    config.find? key core = changed.find? key core ∨
      ∃ text other, config.find? key core = some text ∧ changed.find? key core = some other ∧
        SameFlag text other := by
  have system := (spelled key).imp_right And.right
  cases core with
  | none => exact system
  | some core =>
    rw [find?_some, find?_some]
    rcases spelled (coreKey key core) with same | ⟨-, text, other, found, changes, both⟩
    · rw [same]
      cases changed.get? (coreKey key core) with
      | none => exact system
      | some text => exact .inl rfl
    · rw [found, changes]
      exact .inr ⟨text, other, rfl, rfl, both⟩

theorem flagOr_eq (key : String) (core : Option Nat) (default : Bool) :
    config.flagOr key core default = changed.flagOr key core default := by
  unfold flagOr
  rcases spelled.find?_eq_or key core with same | ⟨text, other, found, changes, both⟩
  · rw [same]
  · rw [found, changes]
    exact parseFlag_congr both key

/-! ## What is derived -/

section Values

variable {α : Type} [Scalar α]

theorem clock_eq (core : Option Nat) :
    (config.clock core : Except Failure α) = changed.clock core :=
  clock_eq_of_find? (spelled.find?_other (by simp [otherKeys]) core)

theorem voltage_eq (core : Option Nat) :
    (config.voltage core : Except Failure α) = changed.voltage core :=
  voltage_eq_of_find? (spelled.find?_other (by simp [otherKeys]) core)

theorem dispatchWidth_eq (core : Option Nat) :
    (config.dispatchWidth core : Except Failure α) = changed.dispatchWidth core := by
  have width : config.find? "perf_model/core/interval_timer/dispatch_width" core =
      changed.find? _ core := spelled.find?_other (by simp [otherKeys]) core
  unfold dispatchWidth word
  rw [read_congr width]

theorem windowSize_eq (core : Option Nat) :
    (config.windowSize core : Except Failure α) = changed.windowSize core := by
  have size : config.find? "perf_model/core/interval_timer/window_size" core =
      changed.find? _ core := spelled.find?_other (by simp [otherKeys]) core
  unfold windowSize word
  rw [read_congr size]

theorem machineType_eq (core : Option Nat) :
    (config.machineType core : Except Failure α) = changed.machineType core := by
  have kind : config.find? "perf_model/core/type" core = changed.find? _ core :=
    spelled.find?_other (by simp [otherKeys]) core
  unfold machineType
  rw [require_congr kind, spelled.flagOr_eq]

omit [Scalar α] in
/-- A value is the same in the domain of a cache if it is for all cores. -/
theorem ofDomain_eq (level : CacheLevel) {value : Config → Option Nat → Except Failure α}
    (same : ∀ core, value config core = value changed core) (core : Option Nat) :
    config.ofDomain level.configSection value core =
      changed.ofDomain level.configSection value core := by
  have listed : level.configSection ++ "/dvfs_domain" ∈ otherKeys := by
    cases level <;> simp [otherKeys, CacheLevel.configSection]
  exact ofDomain_eq_of_find? (spelled.find?_other listed core) (same core) (same none)

/-- Fields do not depend on how flags are spelled. -/
theorem resolve_eq (field : Field) (scope : Scope) :
    (field.resolve config scope : Except Failure α) = field.resolve changed scope := by
  cases field with
  | coreClock => exact spelled.clock_eq _
  | coreVdd => exact spelled.voltage_eq _
  | issueWidth => exact spelled.dispatchWidth_eq _
  | peakIssueWidth | aluPerCore =>
    unfold Field.resolve peakIssueWidth
    rw [spelled.dispatchWidth_eq]
  | windowSize => exact spelled.windowSize_eq _
  | machineType => exact spelled.machineType_eq _
  | l2Clock => exact spelled.ofDomain_eq .l2 spelled.clock_eq _
  | l3Clock => exact spelled.ofDomain_eq .l3 spelled.clock_eq _
  | nocClock => exact spelled.clock_eq none
  | l2Vdd => exact spelled.ofDomain_eq .l2 spelled.voltage_eq _
  | l3Vdd => exact spelled.ofDomain_eq .l3 spelled.voltage_eq _
  | nocVdd => exact spelled.voltage_eq none

theorem memoryConfig_eq :
    (MemoryConfig.ofConfig config : Except Failure (MemoryConfig α)) =
      MemoryConfig.ofConfig changed := by
  have same (key : String) (listed : key ∈ otherKeys) := spelled.find?_other listed none
  have controllers := same "perf_model/dram/num_controllers" (by simp [otherKeys])
  have cores := same "general/total_cores" (by simp [otherKeys, Hierarchy.settings])
  have interleaving := same "perf_model/dram/controllers_interleaving" (by simp [otherKeys])
  have chips := same "perf_model/dram/chips_per_dimm" (by simp [otherKeys])
  have dimms := same "perf_model/dram/dimms_per_controller" (by simp [otherKeys])
  unfold MemoryConfig.ofConfig MemoryConfig.interleavedSockets scalar scalarOr
  rw [read_congr controllers, read_congr cores, read_congr interleaving, readOr_congr chips,
    readOr_congr dimms, spelled.flagOr_eq]

end Values

/-- The settings of a hierarchy are no flags. -/
theorem settings_eq : ∀ key ∈ Hierarchy.settings, config.get? key = changed.get? key :=
  fun _ listed => spelled.find?_other (List.mem_append_left _ listed) none

/-- The spelling of a flag only matters for NUCA, which a chip with room for it has if the
flag is spelled `true`. -/
theorem unchanged_iff (α : Type) [Scalar α] :
    (MemoryConfig.ofConfig config : Except Failure (MemoryConfig α)) =
        MemoryConfig.ofConfig changed ∧
      (∀ (field : Field) (scope : Scope),
        (field.resolve config scope : Except Failure α) = field.resolve changed scope) ∧
      ∀ topology, Hierarchy.ofConfig config topology = Hierarchy.ofConfig changed topology ↔
        (config.get? "perf_model/nuca/enabled" = some "true" ↔
          changed.get? "perf_model/nuca/enabled" = some "true") ∨
        ¬ Hierarchy.HasRoom config := by
  refine ⟨spelled.memoryConfig_eq, spelled.resolve_eq, ?_⟩
  intro topology
  rw [← Hierarchy.nucaEnabled_iff, ← Hierarchy.nucaEnabled_iff]
  exact Hierarchy.ofConfig_eq_ofConfig_iff spelled.settings_eq

end Respelled

/-- A chip with a slice in the place of the L2 and with stacked memory. -/
def flaggedConfig : Config where
  toList := [
    ("general/total_cores", "1"),
    ("perf_model/cache/levels", "2"),
    ("perf_model/dram/num_controllers", "1"),
    ("perf_model/dram_directory/interleaving", "1"),
    ("perf_model/dram_directory/locations", "interleaved"),
    ("perf_model/nuca/enabled", "true"),
    ("power/3d_dram", "1")]
  sorted := by decide +kernel

namespace Respelled

/-- Stacked memory may be asked for in several ways. -/
theorem unchanged_iff_stacked :
    (MemoryConfig.ofConfig (flaggedConfig.insert "power/3d_dram" " TRUE ") :
        Except Failure (MemoryConfig Rat)).map (·.stacked) = .ok true ∧
      Hierarchy.ofConfig (flaggedConfig.insert "power/3d_dram" " TRUE ") [] =
        .ok ⟨1, 45, 1, true, 1, 0, 0, some .l2⟩ := by
  have flag : IsFlag "power/3d_dram" := ⟨"power/3d_dram", by simp [flagKeys], .inl rfl⟩
  have same : SameFlag "1" " TRUE " := ⟨true, by decide +kernel, by decide +kernel⟩
  have spelled := respelled_insert flaggedConfig flag (by decide +kernel) same
  obtain ⟨memory, -, hierarchy⟩ := spelled.unchanged_iff Rat
  have other : "perf_model/nuca/enabled" ≠ "power/3d_dram" := by decide
  have alike := (hierarchy []).2 (.inl (by rw [flaggedConfig.get?_insert_of_ne other]))
  rw [← memory, ← alike]
  decide +kernel

/-- A slice is gone if it is asked for with a number, which is read as the same flag. -/
theorem slice_lost_in_spelling :
    flaggedConfig.Respelled (flaggedConfig.insert "perf_model/nuca/enabled" "1") ∧
      Hierarchy.ofConfig flaggedConfig [] = .ok ⟨1, 45, 1, true, 1, 0, 0, some .l2⟩ ∧
      Hierarchy.ofConfig (flaggedConfig.insert "perf_model/nuca/enabled" "1") [] =
        .ok ⟨1, 45, 0, true, 0, 0, 0, none⟩ := by
  have flag : IsFlag "perf_model/nuca/enabled" :=
    ⟨"perf_model/nuca/enabled", by simp [flagKeys], .inl rfl⟩
  have same : SameFlag "true" "1" := ⟨true, by decide +kernel, by decide +kernel⟩
  exact ⟨respelled_insert flaggedConfig flag (by decide +kernel) same, by decide +kernel, by decide +kernel⟩

end Respelled

end Config
end ChipPower
