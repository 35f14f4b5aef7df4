import ChipPower.Proofs.Activity.Geometry
import ChipPower.Proofs.Hierarchy.BankSettings
import ChipPower.Proofs.Nuca.Frame

/-!
# The settings of NUCA banks

The mapping sets the settings of a level under their plain keys, to those of the NUCA cache.
A bank looks them up under the override for the core of its number first, and the mapping
leaves all overrides as they are. So what is filled in for a bank is the NUCA cache
(`ShowsNuca`) exactly if these overrides come to the same (`OverridesAgree`): they may not
be there, or repeat what NUCA has, up to the rounding of an associativity.
-/

namespace ChipPower

/-! ## What a bank looks up -/

namespace Config

/-- A text that reads as a number. -/
def Reads (text : String) (n : Nat) : Prop :=
  Numeral.word (Text.trim text.toList) = .ok n

theorem parse_word_eq_ok_iff {key text : String} {n : Nat} :
    parse Numeral.word key text = .ok n ↔ Reads text n := by
  unfold parse Reads
  split
  · rename_i read
    simp [read]
  · rename_i malformed
    simp [malformed, fail]

theorem word_eq_ok_iff {config : Config} {key : String} {n : Nat} :
    config.word key none = .ok n ↔ ∃ text, config.get? key = some text ∧ Reads text n := by
  simp only [word, read, bind_eq_ok_iff, require_eq_ok_iff, parse_word_eq_ok_iff, find?_none]

theorem wordOr_eq_ok_iff {config : Config} {key text : String} {core : Option Nat}
    (found : config.find? key core = some text) {default n : Nat} :
    config.wordOr key core default = .ok n ↔ Reads text n := by
  simp only [wordOr, readOr, found, parse_word_eq_ok_iff]

end Config

namespace Nuca

open Config

/-- An override of a setting for a core, if there is one, comes to the same as another
setting of the whole system. `view` tells what a number comes to. -/
def Repeats (config : Config) (key source : String) (core : Nat) (view : Nat → Nat) : Prop :=
  ∀ text, config.get? (coreKey key core) = some text →
    ∃ own other, Reads text own ∧ config.word source none = .ok other ∧ view own = view other

theorem repeats_of_none {config : Config} {key source : String} {core : Nat}
    {view : Nat → Nat} (absent : config.get? (coreKey key core) = none) :
    Repeats config key source core view := by
  intro text override
  rw [absent] at override
  cases override

/-- The number that is looked up comes to the same as that of the NUCA cache exactly if an
override does. -/
theorem exists_word_iff {config : Config} {key source text : String} {core shown : Nat}
    (found : config.get? source = some text)
    (read : Reads ((config.get? (coreKey key core)).getD text) shown) (view : Nat → Nat) :
    (∃ n, config.word source none = .ok n ∧ view shown = view n) ↔
      Repeats config key source core view := by
  unfold Repeats
  cases override : config.get? (coreKey key core) with
  | none =>
    rw [override] at read
    refine iff_of_true ⟨shown, word_eq_ok_iff.2 ⟨text, found, read⟩, rfl⟩ ?_
    rw [← override]
    exact repeats_of_none override
  | some own =>
    rw [override] at read
    constructor
    · rintro ⟨n, number, same⟩ _ ⟨⟩
      exact ⟨shown, n, read, number, same⟩
    · intro repeated
      obtain ⟨seen, n, again, number, same⟩ := repeated own rfl
      have unique : seen = shown := Except.ok.inj (again.symm.trans read)
      rw [unique] at same
      exact ⟨n, number, same⟩

section Lookup

variable {α : Type} [Scalar α] {h : Hierarchy} {level : CacheLevel} {options : Options α}
  {config : Config} {stats : Stats α}

/-- A setting that was mapped is looked up as the override for the core of a bank's number,
or else as it was mapped. -/
theorem find?_of_mem (placed : h.nucaLevel = some level)
    (mapped : (h.mapNuca options config stats).failure = none) {key : String}
    {result : Except Failure String} (assigned : (key, result) ∈ configAssignments level config)
    (bank : Nat) :
    ∃ text, result = .ok text ∧
      (h.mapNuca options config stats).config.find? key (some bank) =
        some ((config.get? (coreKey key bank)).getD text) := by
  have plain := h.get?_mapNuca_coreKey options stats config key bank
  simp only [Hierarchy.mapNuca, placed] at mapped plain ⊢
  have carried := (mapOnto_eq_iff.1 (mapped_eq_of_failure mapped)).1
  obtain ⟨text, rfl, stored⟩ := Dict.get?_assign_of_mem carried (nodup_keys level) assigned
  refine ⟨text, rfl, ?_⟩
  rw [find?_some, plain, stored]
  cases config.get? (coreKey key bank) <;> rfl

/-- The number that a bank shows for a mapped setting comes to the same as that of the NUCA
cache exactly if an override does. -/
theorem exists_word_mapped_iff (placed : h.nucaLevel = some level)
    (mapped : (h.mapNuca options config stats).failure = none) {key source : String}
    (assigned : (key, config.require source none) ∈ configAssignments level config)
    {bank shown : Nat}
    (read : (h.mapNuca options config stats).config.wordOr key (some bank) 0 = .ok shown)
    (view : Nat → Nat) :
    (∃ n, config.word source none = .ok n ∧ view shown = view n) ↔
      Repeats config key source bank view := by
  obtain ⟨text, required, found⟩ := find?_of_mem placed mapped assigned bank
  exact exists_word_iff (require_eq_ok_iff.1 required) ((wordOr_eq_ok_iff found).1 read) view

/-- A setting of no level is looked up as it was before. -/
theorem find?_of_not_mem (placed : h.nucaLevel = some level) {key : String}
    (other : key ∉ keys level) (core : Option Nat) :
    (h.mapNuca options config stats).config.find? key core = config.find? key core := by
  have plain : (h.mapNuca options config stats).config.get? key = config.get? key := by
    apply (h.framed_mapNuca options config stats).settings
    intro mapped same
    rw [placed] at same
    cases same
    exact other
  cases core with
  | none => exact plain
  | some core => rw [find?_some, find?_some, h.get?_mapNuca_coreKey, plain]

end Lookup

/-! ## Geometry -/

/-- The geometry of a bank is read from three settings of its level, among others. -/
theorem geometry_eq_ok {config : Config} {level : CacheLevel} {bank : Nat} {g : Geometry}
    (listed : Geometry.ofConfig config bank level.tuple = .ok g) :
    config.wordOr (level.configSection ++ "/" ++ "cache_size") (some bank) 0 =
        .ok g.kibibytes ∧
      config.wordOr (level.configSection ++ "/" ++ "associativity") (some bank) 0 =
        .ok g.associativity ∧
      config.wordOr (level.configSection ++ "/" ++ "data_access_time") (some bank) 0 =
        .ok g.latency := by
  simp only [Geometry.ofConfig, bind_eq_ok_iff, pure_eq_ok_iff] at listed
  obtain ⟨kibibytes, size, blockSize, -, associativity, ways, latency, time, rfl⟩ := listed
  cases level with
  | l2 => exact ⟨size, ways, time⟩
  | l3 => exact ⟨size, ways, time⟩

/-- A list that evaluates has what its geometry has, the size in bytes. -/
theorem getElem?_fields {g : Geometry} {level : CacheLevel} {words : List Nat}
    (listed : g.fields level.tuple = .ok words) :
    words[0]? = some (1024 * g.kibibytes) ∧
      words[2]? = some (PowerOfTwo.roundUp g.associativity) ∧
      words[5]? = some g.latency := by
  obtain ⟨bytes, latency, size, time, rfl⟩ := Geometry.fields_eq_ok_iff.1 listed
  obtain rfl := Geometry.eq_of_bytes size
  cases level with
  | l2 | l3 =>
    cases time
    exact ⟨rfl, rfl, rfl⟩

/-! ## Clock and voltage -/

section Domain

variable {α : Type}

theorem ofDomain_eq_ok_iff {cache : String} {value : Config → Option Nat → Except Failure α}
    {config : Config} {core : Option Nat} {x : α} :
    config.ofDomain cache value core = .ok x ↔
      ∃ domain, config.find? (cache ++ "/dvfs_domain") core = some domain ∧
        (domain = "core" ∧ value config core = .ok x ∨
          domain = "global" ∧ value config none = .ok x) := by
  simp only [ofDomain, bind_eq_ok_iff, require_eq_ok_iff]
  refine exists_congr fun domain => and_congr_right fun _ => ?_
  by_cases own : domain = "core"
  · rw [if_pos own, own]
    simp
  · rw [if_neg own]
    by_cases whole : domain = "global"
    · rw [if_pos whole, whole]
      simp
    · rw [if_neg whole]
      simp [own, whole, fail]

variable [Scalar α] {h : Hierarchy} {level : CacheLevel} {options : Options α}
  {config : Config} {stats : Stats α}

/-- A bank runs in the domain of the whole system exactly if an override for the core of its
number, should there be one to that core's domain, makes no difference. -/
theorem ofDomain_mapped_iff (placed : h.nucaLevel = some level)
    (mapped : (h.mapNuca options config stats).failure = none)
    {value : Config → Option Nat → Except Failure α}
    (kept : ∀ core, value (h.mapNuca options config stats).config core = value config core)
    {bank : Nat} {x : α}
    (resolved : (h.mapNuca options config stats).config.ofDomain level.configSection value
      (some bank) = .ok x) :
    value config none = .ok x ↔
      (config.get? (coreKey (level.configSection ++ "/" ++ "dvfs_domain") bank) = some "core" →
        value config (some bank) = value config none) := by
  have assigned : (level.configSection ++ "/" ++ "dvfs_domain", .ok "global") ∈
      configAssignments level config := by
    simp [configAssignments]
  have joined : level.configSection ++ "/" ++ "dvfs_domain" =
      level.configSection ++ "/dvfs_domain" := by
    cases level <;> rfl
  obtain ⟨text, same, found⟩ := find?_of_mem placed mapped assigned bank
  cases same
  rw [joined] at found ⊢
  obtain ⟨domain, looked, chosen⟩ := ofDomain_eq_ok_iff.1 resolved
  rw [looked, Option.some.injEq] at found
  rw [kept, kept] at chosen
  rcases chosen with ⟨own, core⟩ | ⟨whole, system⟩
  · -- only an override can have put the bank into the domain of a core
    have override : config.get? (coreKey (level.configSection ++ "/dvfs_domain") bank) =
        some "core" := by
      cases get : config.get? (coreKey (level.configSection ++ "/dvfs_domain") bank) with
      | none =>
        rw [get, own] at found
        exact absurd found (by decide)
      | some text =>
        rw [get, own] at found
        exact congrArg some found.symm
    rw [core]
    constructor
    · intro system _
      exact system.symm
    · intro agree
      exact (agree override).symm
  · refine iff_of_true system ?_
    intro override
    rw [override, whole] at found
    exact absurd found (by decide)

theorem clock_mapped (placed : h.nucaLevel = some level) (core : Option Nat) :
    ((h.mapNuca options config stats).config.clock core : Except Failure α) =
      config.clock core := by
  have other : "perf_model/core/frequency" ∉ keys level := by cases level <;> decide +kernel
  exact clock_eq_of_find? (find?_of_not_mem placed other core)

theorem voltage_mapped (placed : h.nucaLevel = some level) (core : Option Nat) :
    ((h.mapNuca options config stats).config.voltage core : Except Failure α) =
      config.voltage core := by
  have other : "power/vdd" ∉ keys level := by cases level <;> decide +kernel
  exact voltage_eq_of_find? (find?_of_not_mem placed other core)

end Domain

/-! ## The whole bank -/

section Bank

variable {α : Type} [Scalar α]

/-- What is filled in for a bank is the NUCA cache: its size in bytes, its associativity as
the estimator takes it and its access time, in the clock and voltage of the whole system. -/
structure ShowsNuca (config : Config) (fields : List Nat) (clock voltage : α) : Prop where
  size : ∃ kib, config.word "perf_model/nuca/cache_size" none = .ok kib ∧
    fields[0]? = some (1024 * kib)
  ways : ∃ n, config.word "perf_model/nuca/associativity" none = .ok n ∧
    fields[2]? = some (PowerOfTwo.roundUp n)
  latency : ∃ n, config.word "perf_model/nuca/data_access_time" none = .ok n ∧
    fields[5]? = some n
  clock : config.clock none = .ok clock
  voltage : config.voltage none = .ok voltage

/-- The overrides of the settings of a level for a core come to the same as the NUCA cache. -/
structure OverridesAgree (α : Type) [Scalar α] (config : Config) (level : CacheLevel)
    (core : Nat) : Prop where
  size : Repeats config (level.configSection ++ "/" ++ "cache_size")
    "perf_model/nuca/cache_size" core id
  ways : Repeats config (level.configSection ++ "/" ++ "associativity")
    "perf_model/nuca/associativity" core PowerOfTwo.roundUp
  latency : Repeats config (level.configSection ++ "/" ++ "data_access_time")
    "perf_model/nuca/data_access_time" core id
  clock :
    config.get? (coreKey (level.configSection ++ "/" ++ "dvfs_domain") core) = some "core" →
      (config.clock (some core) : Except Failure α) = config.clock none
  voltage :
    config.get? (coreKey (level.configSection ++ "/" ++ "dvfs_domain") core) = some "core" →
      (config.voltage (some core) : Except Failure α) = config.voltage none

variable {h : Hierarchy} {level : CacheLevel} {options : Options α} {config : Config}
  {stats : Stats α} {a : Activity α} {bank : Nat} {g : Geometry} {clock voltage : α}

namespace MappedRun

variable (run : MappedRun h level options config stats a)

include run

/-- What is filled in for a bank of the level that a NUCA cache was mapped onto is the NUCA
cache exactly if the overrides for the core of the bank's number agree with it. -/
theorem showsNuca_iff {rounded : Rounded} {values : List α}
    (listed : (a.tuple level.tuple.name (.unit bank) rounded).1 = .ok values)
    (clocked : level.clock.resolve a.config (.unit bank) = .ok clock)
    (powered : level.voltage.resolve a.config (.unit bank) = .ok voltage) :
    ∃ g words, a.geometry level.tuple (.unit bank) = .ok g ∧
      g.fields level.tuple = .ok words ∧ values = words.map Scalar.ofNat ∧
      (ShowsNuca config words clock voltage ↔ OverridesAgree α config level bank) := by
  rw [a.tuple_unit] at listed
  obtain ⟨g, geometry, evaluated⟩ := bind_eq_ok_iff.1 listed
  obtain ⟨words, laidOut, rfl⟩ := map_eq_ok_iff.1 evaluated
  refine ⟨g, words, geometry, laidOut, rfl, ?_⟩
  obtain ⟨size, ways, time⟩ := geometry_eq_ok geometry
  obtain ⟨first, third, sixth⟩ := getElem?_fields laidOut
  rw [run.config_eq] at size ways time clocked powered
  have assignedSize : (level.configSection ++ "/" ++ "cache_size",
      config.require "perf_model/nuca/cache_size" none) ∈ configAssignments level config := by
    simp [configAssignments]
  have assignedWays : (level.configSection ++ "/" ++ "associativity",
      config.require "perf_model/nuca/associativity" none) ∈ configAssignments level config := by
    simp [configAssignments]
  have assignedTime : (level.configSection ++ "/" ++ "data_access_time",
      config.require "perf_model/nuca/data_access_time" none) ∈
        configAssignments level config := by
    simp [configAssignments]
  have bytes := exists_word_mapped_iff run.placed run.mapped assignedSize size id
  have associativity :=
    exists_word_mapped_iff run.placed run.mapped assignedWays ways PowerOfTwo.roundUp
  have latency := exists_word_mapped_iff run.placed run.mapped assignedTime time id
  have clock := ofDomain_mapped_iff run.placed run.mapped (clock_mapped run.placed)
    ((level.clock_resolve _ bank).symm.trans clocked)
  have voltage := ofDomain_mapped_iff run.placed run.mapped (voltage_mapped run.placed)
    ((level.voltage_resolve _ bank).symm.trans powered)
  constructor
  · intro shows
    rcases shows with ⟨sizes, associativities, latencies, systemClock, systemVoltage⟩
    simp only [first, third, sixth, Option.some.injEq, Nat.mul_right_inj (by decide : 1024 ≠ 0)]
      at sizes associativities latencies
    exact ⟨bytes.1 sizes, associativity.1 associativities, latency.1 latencies,
      clock.1 systemClock, voltage.1 systemVoltage⟩
  · intro agree
    have sizes := bytes.2 agree.size
    have associativities := associativity.2 agree.ways
    have latencies := latency.2 agree.latency
    constructor
    case size =>
      simpa only [first, Option.some.injEq, Nat.mul_right_inj (by decide : 1024 ≠ 0), id]
        using sizes
    case ways => simpa only [third, Option.some.injEq] using associativities
    case latency => simpa only [sixth, Option.some.injEq, id] using latencies
    case clock => exact clock.2 agree.clock
    case voltage => exact voltage.2 agree.voltage

end MappedRun

end Bank

/-! ## A bank with overrides -/

/-- The chip with a slice in the place of the L2. The overrides agree with the slice: an
associativity that is rounded to the same, the domain of a core that has no frequency of its
own, and a size for another core. -/
def agreeingConfig : Config where
  toList := [
    ("general/total_cores", "1"),
    ("perf_model/cache/levels", "2"),
    ("perf_model/core/frequency", "2"),
    ("perf_model/dram_directory/interleaving", "1"),
    ("perf_model/dram_directory/locations", "interleaved"),
    ("perf_model/l2_cache/associativity[0]", "13"),
    ("perf_model/l2_cache/cache_block_size", "64"),
    ("perf_model/l2_cache/cache_size[1]", "256"),
    ("perf_model/l2_cache/dvfs_domain[0]", "core"),
    ("perf_model/nuca/associativity", "16"),
    ("perf_model/nuca/cache_size", "1024"),
    ("perf_model/nuca/data_access_time", "20"),
    ("perf_model/nuca/enabled", "true")]
  sorted := by decide +kernel

theorem overridesAgree_agreeingConfig : OverridesAgree Rat agreeingConfig .l2 0 := by
  have facts :
      agreeingConfig.get? (coreKey (CacheLevel.l2.configSection ++ "/" ++ "cache_size") 0) =
        none ∧
      agreeingConfig.get? (coreKey (CacheLevel.l2.configSection ++ "/" ++ "associativity") 0) =
        some "13" ∧
      agreeingConfig.word "perf_model/nuca/associativity" none = .ok 16 ∧
      agreeingConfig.get? (coreKey (CacheLevel.l2.configSection ++ "/" ++ "data_access_time") 0) =
        none ∧
      (agreeingConfig.clock (some 0) : Except Failure Rat) = agreeingConfig.clock none ∧
      (agreeingConfig.voltage (some 0) : Except Failure Rat) = agreeingConfig.voltage none := by
    decide +kernel
  obtain ⟨noSize, override, ways, noTime, clock, voltage⟩ := facts
  have thirteen : Reads "13" 13 := by
    unfold Reads
    decide +kernel
  constructor
  case size => exact repeats_of_none noSize
  case ways =>
    intro text set
    rw [override] at set
    cases set
    exact ⟨13, 16, thirteen, ways, by decide⟩
  case latency => exact repeats_of_none noTime
  case clock => exact fun _ => clock
  case voltage => exact fun _ => voltage

namespace MappedRun

/-- An associativity of 13 is rounded up to that of NUCA, so the override does not show. -/
theorem showsNuca_iff_agreeing :
    ∃ a : Activity Rat, MappedRun sliceChip .l2 {} agreeingConfig sliceStats a ∧
      (a.tuple "L2_config" (.unit 0) ∅).1 = .ok [1048576, 64, 16, 8, 1, 20, 0, 1] ∧
      ShowsNuca agreeingConfig [1048576, 64, 16, 8, 1, 20, 0, 1] (2000 : Rat) 0 := by
  have facts : let after := sliceChip.mapNuca {} agreeingConfig sliceStats
      after.failure = none ∧
      (Activity.ofRun after.stats after.config sliceChip {}).isOk = true ∧
      Geometry.ofConfig after.config 0 CacheLevel.l2.tuple = .ok ⟨1024, 64, 13, 20⟩ ∧
      CacheLevel.l2.clock.resolve after.config (.unit 0) = .ok (2000 : Rat) ∧
      CacheLevel.l2.voltage.resolve after.config (.unit 0) = .ok (0 : Rat) := by
    decide +kernel
  obtain ⟨mapped, created, geometry, clocked, powered⟩ := facts
  obtain ⟨a, run⟩ := exists_mappedRun rfl mapped created
  rw [← run.config_eq] at geometry clocked powered
  have listed : (a.tuple CacheLevel.l2.tuple.name (.unit 0) ∅).1 =
      .ok [1048576, 64, 16, 8, 1, 20, 0, 1] := by
    rw [a.tuple_unit, geometry]
    decide +kernel
  obtain ⟨g, words, same, laidOut, -, shows⟩ := run.showsNuca_iff listed clocked powered
  cases Except.ok.inj (same.symm.trans geometry)
  cases laidOut
  exact ⟨a, run, listed, shows.2 overridesAgree_agreeingConfig⟩

/-- The configuration with a size for core 0, too. -/
def resizedConfig : Config :=
  agreeingConfig.insert "perf_model/l2_cache/cache_size[0]" "256"

/-- A slice of 1024 KiB is filled in with the 256 KiB that are overridden for core 0. -/
theorem override_survives_mapping :
    Hierarchy.ofConfig resizedConfig [] = .ok sliceChip ∧
      resizedConfig.word "perf_model/nuca/cache_size" none = .ok 1024 ∧
      ∃ a : Activity Rat, MappedRun sliceChip .l2 {} resizedConfig sliceStats a ∧
        CacheLevel.l2.clock.resolve a.config (.unit 0) = .ok (2000 : Rat) ∧
        CacheLevel.l2.voltage.resolve a.config (.unit 0) = .ok (0 : Rat) ∧
        (a.tuple "L2_config" (.unit 0) ∅).1 = .ok [262144, 64, 16, 8, 1, 20, 0, 1] := by
  have facts : let after := sliceChip.mapNuca {} resizedConfig sliceStats
      Hierarchy.ofConfig resizedConfig [] = .ok sliceChip ∧
      resizedConfig.word "perf_model/nuca/cache_size" none = .ok 1024 ∧
      after.failure = none ∧
      (Activity.ofRun after.stats after.config sliceChip {}).isOk = true ∧
      Geometry.ofConfig after.config 0 CacheLevel.l2.tuple = .ok ⟨256, 64, 13, 20⟩ ∧
      CacheLevel.l2.clock.resolve after.config (.unit 0) = .ok (2000 : Rat) ∧
      CacheLevel.l2.voltage.resolve after.config (.unit 0) = .ok (0 : Rat) := by
    decide +kernel
  obtain ⟨accepted, size, mapped, created, geometry, clocked, powered⟩ := facts
  obtain ⟨a, run⟩ := exists_mappedRun rfl mapped created
  rw [← run.config_eq] at geometry clocked powered
  refine ⟨accepted, size, a, run, clocked, powered, ?_⟩
  change (a.tuple CacheLevel.l2.tuple.name (.unit 0) ∅).1 = _
  rw [a.tuple_unit, geometry]
  decide +kernel

end MappedRun

end Nuca

end ChipPower
