import ChipPower.Proofs.Config.Overrides
import ChipPower.Proofs.Hierarchy.Partition
import ChipPower.Proofs.Nuca.Mapping
import ChipPower.Run.Context

/-!
# Whose overrides configure a bank

The lines of a bank have its geometry, clock and voltage from the configuration. They are
looked up under the number of the bank, as if it were that of a core, while what the bank
counts is added up over the cores that share it. So a bank is configured by the overrides
for the core of the same number, which need not be one of its own.

* `Config.AgreePlain` is enough for the hierarchy, the mapping of a NUCA cache and all of an
  activity but its configuration (`MergedResult.activity_congr`).
* `Activity.bankSettings_congr` says which overrides settle the lines of a bank.
* `MergedResult.bankSettings_isolated_iff` tells the banks that are configured by the cores
  they serve from those that are not.
-/

namespace ChipPower

/-! ## Changes of overrides -/

/-- A key that settles a bank: one in the section of its level, or the frequency or the
voltage of a core. -/
inductive CacheLevel.IsSetting (level : CacheLevel) : String → Prop
  | inSection (name : String) : IsSetting level (level.configSection ++ "/" ++ name)
  | frequency : IsSetting level "perf_model/core/frequency"
  | voltage : IsSetting level "power/vdd"

theorem CacheLevel.isSetting_size (level : CacheLevel) :
    level.IsSetting (level.configSection ++ "/cache_size") := by
  have joined : "/" ++ "cache_size" = "/cache_size" := by simp
  rw [← joined, ← String.append_assoc]
  exact .inSection "cache_size"

namespace Config

/-- A configuration that has other overrides of the settings of a level, or more or fewer
of them, but only for certain cores. -/
def ChangedFor (level : CacheLevel) (cores : Nat → Prop) (config changed : Config) : Prop :=
  ∀ key, (∀ base core, level.IsSetting base → cores core → key ≠ coreKey base core) →
    config.get? key = changed.get? key

variable {level : CacheLevel} {cores : Nat → Prop} {config changed : Config}

theorem ChangedFor.agreePlain (change : config.ChangedFor level cores changed) :
    config.AgreePlain changed :=
  fun key plain => change key fun base core _ _ => ne_coreKey_of_isPlain plain base core

theorem ChangedFor.agreeFor (change : config.ChangedFor level cores changed) {core : Nat}
    (spared : ¬ cores core) : config.AgreeFor core changed := by
  refine ⟨change.agreePlain, ?_⟩
  intro key
  refine change _ fun base other _ affected same => ?_
  rw [← core_eq_of_coreKey_eq same] at affected
  exact spared affected

theorem changedFor_insert {base : String} (setting : level.IsSetting base) {core : Nat}
    (affected : cores core) (config : Config) (text : String) :
    config.ChangedFor level cores (config.insert (coreKey base core) text) := by
  intro key others
  exact (config.get?_insert_of_ne (others base core setting affected) text).symm

end Config

/-! ## What plain keys decide -/

section Plain

open Config

variable {config changed : Config} (agree : config.AgreePlain changed)

include agree

/-- A hierarchy is derived from plain keys. -/
theorem Hierarchy.ofConfig_congr (topology : List TopologyEntry) :
    Hierarchy.ofConfig config topology = Hierarchy.ofConfig changed topology := by
  have plain : ∀ key ∈ settings, IsPlain key := by decide +kernel
  have enabled := agree.find? "perf_model/nuca/enabled" (isPlain_ofList (by decide))
  refine (ofConfig_eq_ofConfig_iff fun key listed => agree key (plain key listed)).2 (.inl ?_)
  unfold NucaEnabled
  rw [textOr_congr enabled]

theorem Nuca.configAssignments_congr (level : CacheLevel) :
    configAssignments level config = configAssignments level changed := by
  have time := agree.find? "perf_model/nuca/data_access_time" (isPlain_ofList (by decide))
  have ways := agree.find? "perf_model/nuca/associativity" (isPlain_ofList (by decide))
  have block := agree.find? "perf_model/l2_cache/cache_block_size" (isPlain_ofList (by decide))
  have size := agree.find? "perf_model/nuca/cache_size" (isPlain_ofList (by decide))
  unfold configAssignments
  rw [require_congr time, require_congr ways, require_congr block, require_congr size]

end Plain

/-! ## Mapped configurations -/

/-- The assignments that map a NUCA cache onto its level, if there is one. -/
def Hierarchy.configAssignments (h : Hierarchy) (config : Config) : Assignments String :=
  match h.nucaLevel with
  | some level => Nuca.configAssignments level config
  | none => []

namespace Hierarchy

variable {α : Type} [Scalar α] (h : Hierarchy) (options : Options α) (stats : Stats α)
  {config changed : Config}

theorem config_mapNuca (config : Config) :
    (h.mapNuca options config stats).config =
      (config.assign (h.configAssignments config)).1 := by
  unfold mapNuca configAssignments
  cases h.nucaLevel with
  | none => rfl
  | some level => exact Nuca.config_mapOnto level options config stats

theorem configAssignments_congr (agree : config.AgreePlain changed) :
    h.configAssignments config = h.configAssignments changed := by
  unfold configAssignments
  cases h.nucaLevel with
  | none => rfl
  | some level => exact Nuca.configAssignments_congr agree level

theorem isPlain_of_mem_configAssignments (config : Config) :
    ∀ key ∈ (h.configAssignments config).map (·.1), Config.IsPlain key := by
  unfold configAssignments
  cases h.nucaLevel with
  | none => exact List.forall_mem_nil _
  | some level =>
    dsimp only [Nuca.configAssignments, List.map_cons, List.map_nil]
    repeat'
      first
      | exact List.forall_mem_nil _
      | refine List.forall_mem_cons.2 ⟨Config.isPlain_append _ (by decide), ?_⟩

/-- A mapping leaves all overrides as they are. -/
theorem get?_mapNuca_coreKey (config : Config) (key : String) (core : Nat) :
    (h.mapNuca options config stats).config.get? (Config.coreKey key core) =
      config.get? (Config.coreKey key core) := by
  rw [config_mapNuca]
  apply Dict.get?_assign_of_not_mem
  intro assigned
  exact Config.not_isPlain_coreKey key core
    (h.isPlain_of_mem_configAssignments config _ assigned)

theorem agreeFor_mapNuca {core : Nat} (agree : config.AgreeFor core changed) :
    Config.AgreeFor core (h.mapNuca options config stats).config
      (h.mapNuca options changed stats).config := by
  rw [config_mapNuca, config_mapNuca, h.configAssignments_congr agree.plain]
  exact agree.assign _

/-- Overrides have no part in what becomes of the statistics, nor in whether the mapping
goes well. -/
theorem mapNuca_congr (agree : config.AgreePlain changed) :
    (h.mapNuca options config stats).stats = (h.mapNuca options changed stats).stats ∧
      (h.mapNuca options config stats).failure = (h.mapNuca options changed stats).failure := by
  unfold mapNuca
  cases h.nucaLevel with
  | none => exact ⟨rfl, rfl⟩
  | some level =>
    have failures := Dict.assign_failure config changed (Nuca.configAssignments level config)
    dsimp only
    unfold Nuca.mapOnto
    rw [← Nuca.configAssignments_congr agree level]
    cases eq : config.assign (Nuca.configAssignments level config) with
    | mk after failure =>
      cases other : changed.assign (Nuca.configAssignments level config) with
      | mk otherAfter otherFailure =>
        rw [eq, other] at failures
        dsimp only at failures
        subst failures
        cases failure <;> exact ⟨rfl, rfl⟩

end Hierarchy

/-! ## Runs -/

namespace MergedResult

variable {α : Type} [Scalar α]

/-- The activity of a run over merged results. -/
def activity (merged : MergedResult α) (options : Options α) : Except Failure (Activity α) := do
  let context ← RunContext.ofMerged merged none options
  during .createCalculator
    (Activity.ofRun context.stats context.config context.hierarchy options)

/-- An activity has the hierarchy and the mapped configuration and statistics of its run. -/
theorem activity_eq_ok_iff {merged : MergedResult α} {options : Options α} {a : Activity α} :
    merged.activity options = .ok a ↔
      ∃ h, Hierarchy.ofConfig merged.config merged.topology = .ok h ∧
        (h.mapNuca options merged.config merged.results).failure = none ∧
        Activity.ofRun (h.mapNuca options merged.config merged.results).stats
          (h.mapNuca options merged.config merged.results).config h options = .ok a := by
  simp only [activity, RunContext.ofMerged, RunContext.overridden, bind_eq_ok_iff,
    during_eq_ok_iff, Except.ok.injEq, exists_eq_left']
  constructor
  · rintro ⟨context, ⟨h, derived, mapped⟩, created⟩
    refine ⟨h, derived, ?_⟩
    cases eq : h.mapNuca options merged.config merged.results with
    | mk config stats failure =>
      rw [eq] at mapped
      cases failure with
      | some failure => cases mapped
      | none =>
        cases mapped
        exact ⟨rfl, created⟩
  · rintro ⟨h, derived, mapped, created⟩
    refine ⟨⟨_, _, merged.topology, h⟩, ⟨h, derived, ?_⟩, created⟩
    cases eq : h.mapNuca options merged.config merged.results with
    | mk config stats failure =>
      rw [eq] at mapped
      cases mapped
      rfl

theorem hierarchy_of_activity {merged : MergedResult α} {options : Options α} {a : Activity α}
    (created : merged.activity options = .ok a) {h : Hierarchy}
    (derived : Hierarchy.ofConfig merged.config merged.topology = .ok h) : a.hierarchy = h := by
  obtain ⟨other, same, -, run⟩ := activity_eq_ok_iff.1 created
  obtain ⟨cores, -, rfl⟩ := Activity.ofRun_eq_ok run
  exact Except.ok.inj (same.symm.trans derived)

/-- A configuration with the same plain keys gives the same activity but for its
configuration. -/
theorem activity_congr {merged : MergedResult α} {options : Options α} {a : Activity α}
    (created : merged.activity options = .ok a) {changed : Config}
    (agree : merged.config.AgreePlain changed) :
    { merged with config := changed }.activity options =
      .ok { a with config := (a.hierarchy.mapNuca options changed merged.results).config } := by
  obtain ⟨h, derived, mapped, run⟩ := activity_eq_ok_iff.1 created
  obtain ⟨cores, -, rfl⟩ := Activity.ofRun_eq_ok run
  obtain ⟨stats, failure⟩ := h.mapNuca_congr options merged.results agree
  rw [activity_eq_ok_iff]
  refine ⟨h, (Hierarchy.ofConfig_congr agree _).symm.trans derived, failure.symm.trans mapped, ?_⟩
  dsimp only
  rw [← stats]
  exact Activity.ofRun_withSettings run _ options

end MergedResult

/-! ## Settings of a bank -/

namespace CacheLevel

/-- The lines of a bank. -/
def lines : CacheLevel → List Template.Line
  | .l2 => Template.Layout.l2Bank
  | .l3 => Template.Layout.l3Bank

/-- What the lines of a bank take from the configuration: all but what it counts. -/
def settings (level : CacheLevel) (bank : Nat) : List Binding :=
  (Template.unitEntries level.lines bank).bindings.filter fun binding =>
    binding.kind != .statistic

/-- The cache of a level. -/
def tuple : CacheLevel → CacheTuple
  | .l2 => .l2
  | .l3 => .l3

/-- The clock of a level. -/
def clock : CacheLevel → Config.Field
  | .l2 => .l2Clock
  | .l3 => .l3Clock

/-- The voltage of a level. -/
def voltage : CacheLevel → Config.Field
  | .l2 => .l2Vdd
  | .l3 => .l3Vdd

/-- Those are its geometry, its clock and its voltage. -/
theorem settings_eq (level : CacheLevel) (bank : Nat) :
    level.settings bank =
      [⟨.tuple, level.tuple.name, .unit bank⟩, ⟨.field, level.clock.name, .unit bank⟩,
        ⟨.field, level.voltage.name, .unit bank⟩] := by
  cases level <;> rfl

end CacheLevel

section Domain

variable {α : Type} [Scalar α] (level : CacheLevel) (config : Config) (bank : Nat)

theorem CacheLevel.clock_resolve :
    (level.clock.resolve config (.unit bank) : Except Failure α) =
      config.ofDomain level.configSection Config.clock (some bank) := by
  cases level <;> rfl

theorem CacheLevel.voltage_resolve :
    (level.voltage.resolve config (.unit bank) : Except Failure α) =
      config.ofDomain level.configSection Config.voltage (some bank) := by
  cases level <;> rfl

end Domain

section Lookup

open Config

variable {α : Type} [Scalar α] {bank : Nat} {config changed : Config}
  (agree : config.AgreeFor bank changed) (level : CacheLevel)

include agree

theorem geometry_congr :
    Geometry.ofConfig config bank level.tuple = Geometry.ofConfig changed bank level.tuple := by
  have size := agree.find? (level.tuple.configSection ++ "/cache_size") (isPlain_append _ (by decide))
  have block := agree.find? (level.tuple.configSection ++ "/cache_block_size") (isPlain_append _ (by decide))
  have ways := agree.find? (level.tuple.configSection ++ "/associativity") (isPlain_append _ (by decide))
  have time := agree.find? (level.tuple.configSection ++ "/data_access_time") (isPlain_append _ (by decide))
  have latency : Geometry.latencyOf config bank level.tuple =
      Geometry.latencyOf changed bank level.tuple := by
    unfold Geometry.latencyOf wordOr word
    dsimp only
    rw [readOr_congr time, read_congr time]
  unfold Geometry.ofConfig wordOr
  rw [readOr_congr size, readOr_congr block, readOr_congr ways, latency]

omit [Scalar α] in
theorem ofDomain_congr {value : Config → Option Nat → Except Failure α}
    (core : value config (some bank) = value changed (some bank))
    (system : value config none = value changed none) :
    config.ofDomain level.configSection value (some bank) =
      changed.ofDomain level.configSection value (some bank) :=
  ofDomain_eq_of_find? (agree.find? _ (isPlain_append _ (by decide))) core system

theorem clock_congr :
    (level.clock.resolve config (.unit bank) : Except Failure α) =
      level.clock.resolve changed (.unit bank) := by
  have plain : IsPlain "perf_model/core/frequency" := isPlain_ofList (by decide)
  have core : (config.clock (some bank) : Except Failure α) = changed.clock (some bank) :=
    clock_eq_of_find? (agree.find? _ plain)
  have system : (config.clock none : Except Failure α) = changed.clock none :=
    clock_eq_of_find? (agree.plain.find? _ plain)
  rw [level.clock_resolve, level.clock_resolve]
  exact ofDomain_congr agree level core system

theorem voltage_congr :
    (level.voltage.resolve config (.unit bank) : Except Failure α) =
      level.voltage.resolve changed (.unit bank) := by
  have plain : IsPlain "power/vdd" := isPlain_ofList (by decide)
  have core : (config.voltage (some bank) : Except Failure α) = changed.voltage (some bank) :=
    voltage_eq_of_find? (agree.find? _ plain)
  have system : (config.voltage none : Except Failure α) = changed.voltage none :=
    voltage_eq_of_find? (agree.plain.find? _ plain)
  rw [level.voltage_resolve, level.voltage_resolve]
  exact ofDomain_congr agree level core system

end Lookup

namespace Activity

variable {α : Type} [Scalar α]

/-- What is filled in for a bank from the configuration. -/
def bankSettings (a : Activity α) (level : CacheLevel) (bank : Nat) :
    List (Except Failure (List α)) :=
  (level.settings bank).map fun binding => (Template.values a binding ∅).1

/-- The list of a bank is the geometry that the configuration has for its number. -/
theorem tuple_unit (a : Activity α) (level : CacheLevel) (bank : Nat) (rounded : Rounded) :
    (a.tuple level.tuple.name (.unit bank) rounded).1 =
      (Geometry.ofConfig a.config bank level.tuple) >>= fun g =>
        (g.fields level.tuple).map (List.map Scalar.ofNat) := by
  rw [a.tuple_name]
  rfl

theorem bankSettings_eq (a : Activity α) (level : CacheLevel) (bank : Nat) :
    a.bankSettings level bank =
      [(Geometry.ofConfig a.config bank level.tuple) >>= fun g =>
          (g.fields level.tuple).map (List.map Scalar.ofNat),
        (level.clock.resolve a.config (.unit bank)).map ([·]),
        (level.voltage.resolve a.config (.unit bank)).map ([·])] := by
  have field (f : Config.Field) : Config.Field.ofName f.name = .ok f := by
    unfold Config.Field.ofName
    rw [f.ofName?_name]
  unfold bankSettings Template.values
  rw [level.settings_eq]
  simp only [List.map_cons, List.map_nil, tuple_unit, field]
  rfl

/-- The lines of a bank are settled by plain keys and by the overrides for the core of the
bank's number. -/
theorem bankSettings_congr {a b : Activity α} {bank : Nat}
    (agree : a.config.AgreeFor bank b.config) (level : CacheLevel) :
    a.bankSettings level bank = b.bankSettings level bank := by
  rw [bankSettings_eq, bankSettings_eq, geometry_congr agree, clock_congr agree,
    voltage_congr agree]

/-- A size that cannot be read shows in the lines of a bank. -/
theorem head?_bankSettings_malformed {a : Activity α} {level : CacheLevel} {bank : Nat}
    {text : String} {reason : NumeralError}
    (set : a.config.get? (Config.coreKey (level.configSection ++ "/cache_size") bank) = some text)
    (malformed : Numeral.word (Text.trim text.toList) = .error reason) :
    (a.bankSettings level bank).head? =
      some (fail (.malformedKey (level.configSection ++ "/cache_size") text reason)) := by
  have sections : level.tuple.configSection = level.configSection := by cases level <;> rfl
  have found : a.config.find? (level.configSection ++ "/cache_size") (some bank) = some text := by
    rw [Config.find?_some, set]
    rfl
  have size := Config.readOr_malformed found malformed 0
  rw [bankSettings_eq, List.head?_cons]
  unfold Geometry.ofConfig Config.wordOr
  rw [sections, size]
  rfl

end Activity

/-! ## Isolation -/

/-- The core of a bank's number is among those that share the bank if the bank is the first
one or if it is that core's own. -/
theorem CacheLevel.mem_coresIn_range_self_iff (h : Hierarchy) (level : CacheLevel) (bank : Nat) :
    bank ∈ coresIn (level.range h bank) ↔
      0 < level.sharing h ∧ bank < h.cores ∧ (bank = 0 ∨ level.sharing h = 1) := by
  rw [level.range_eq, coresIn, bankRange, List.mem_range'_1]
  rcases Nat.eq_zero_or_pos bank with rfl | later
  · rw [Nat.mul_zero]
    omega
  · have shared : 2 ≤ level.sharing h → 2 * bank ≤ level.sharing h * bank :=
      Nat.mul_le_mul_right bank
    have single : level.sharing h = 1 → level.sharing h * bank = bank := by
      intro one
      rw [one, Nat.one_mul]
    have none : level.sharing h = 0 → level.sharing h * bank = 0 := by
      intro zero
      rw [zero, Nat.zero_mul]
    omega

namespace MergedResult

variable {α : Type} [Scalar α] {merged : MergedResult α} {options : Options α} {a : Activity α}

/-- What is filled in for a bank from the configuration, in a run over merged results. -/
def bankSettings (merged : MergedResult α) (options : Options α) (level : CacheLevel)
    (bank : Nat) : Except Failure (List (Except Failure (List α))) :=
  (merged.activity options).map fun a => a.bankSettings level bank

/-- A run keeps what is filled in for a bank under a change of overrides for other cores
than the one of the bank's number. -/
theorem bankSettings_congr (created : merged.activity options = .ok a) {changed : Config}
    {bank : Nat} (agree : merged.config.AgreeFor bank changed) (level : CacheLevel) :
    { merged with config := changed }.bankSettings options level bank =
      .ok (a.bankSettings level bank) := by
  obtain ⟨h, -, -, run⟩ := activity_eq_ok_iff.1 created
  obtain ⟨cores, -, same⟩ := Activity.ofRun_eq_ok run
  have mapped := h.agreeFor_mapNuca options merged.results agree
  unfold bankSettings
  rw [activity_congr created agree.plain, same, Except.map]
  exact congrArg Except.ok (Activity.bankSettings_congr mapped level).symm

/-- A change of the size that is overridden for the core of a bank's number shows in the
bank. -/
theorem exists_bankSettings_ne (created : merged.activity options = .ok a) (level : CacheLevel)
    (bank : Nat) : ∃ text, { merged with
        config := merged.config.insert
          (Config.coreKey (level.configSection ++ "/cache_size") bank) text
      }.bankSettings options level bank ≠ .ok (a.bankSettings level bank) := by
  obtain ⟨h, -, -, run⟩ := activity_eq_ok_iff.1 created
  obtain ⟨cores, -, same⟩ := Activity.ofRun_eq_ok run
  -- a size that is no number is reported with its text, which cannot be that of both
  have reported (text : String) (reason : NumeralError)
      (malformed : Numeral.word (Text.trim text.toList) = .error reason)
      (kept : { merged with
          config := merged.config.insert
            (Config.coreKey (level.configSection ++ "/cache_size") bank) text
        }.bankSettings options level bank = .ok (a.bankSettings level bank)) :
      (a.bankSettings level bank).head? =
        some (fail (.malformedKey (level.configSection ++ "/cache_size") text reason)) := by
    have change : merged.config.ChangedFor level (fun _ => True) (merged.config.insert
        (Config.coreKey (level.configSection ++ "/cache_size") bank) text) :=
      Config.changedFor_insert level.isSetting_size trivial merged.config text
    unfold bankSettings at kept
    rw [activity_congr created change.agreePlain, Except.map, Except.ok.injEq] at kept
    rw [← kept]
    refine Activity.head?_bankSettings_malformed ?_ malformed
    rw [same]
    dsimp only
    rw [Hierarchy.get?_mapNuca_coreKey, Dict.get?_insert_self]
  by_contra kept
  rw [not_exists] at kept
  have first := reported "x" _ rfl (not_not.1 (kept "x"))
  have second := reported "y" _ rfl (not_not.1 (kept "y"))
  have both := first.symm.trans second
  simp [fail, Failure.ofCause] at both

/-- What is filled in for a bank from the configuration is settled by plain keys and by the
overrides for the core of the bank's number. So the cores that a bank serves settle it if
that core is one of them, which is so for the first bank and for banks that are not shared,
and for no others. -/
theorem bankSettings_isolated_iff (created : merged.activity options = .ok a)
    (level : CacheLevel) (bank : Nat) :
    (∀ changed, merged.config.ChangedFor level (· ≠ bank) changed →
      { merged with config := changed }.bankSettings options level bank =
        merged.bankSettings options level bank) ∧
    ((∀ changed, merged.config.ChangedFor level (· ∉ coresIn (level.range a.hierarchy bank))
        changed →
      { merged with config := changed }.bankSettings options level bank =
        merged.bankSettings options level bank) ↔
      bank ∈ coresIn (level.range a.hierarchy bank)) ∧
    (bank ∈ coresIn (level.range a.hierarchy bank) ↔
      0 < level.sharing a.hierarchy ∧ bank < a.hierarchy.cores ∧
        (bank = 0 ∨ level.sharing a.hierarchy = 1)) := by
  have settings : merged.bankSettings options level bank = .ok (a.bankSettings level bank) := by
    unfold bankSettings
    rw [created]
    rfl
  rw [settings]
  refine ⟨?number, ⟨?serves, ?isolated⟩, level.mem_coresIn_range_self_iff a.hierarchy bank⟩
  case number =>
    intro changed change
    exact bankSettings_congr created (change.agreeFor fun other => other rfl) level
  case serves =>
    intro isolated
    by_contra foreign
    obtain ⟨text, differs⟩ := exists_bankSettings_ne created level bank
    exact differs (isolated _
      (Config.changedFor_insert level.isSetting_size foreign merged.config text))
  case isolated =>
    intro own changed change
    exact bankSettings_congr created (change.agreeFor fun foreign => foreign own) level

/-- Four cores, of which two at a time share an L2 bank of 256 KiB. -/
def pairedBanks : MergedResult Rat where
  results := .ofList [
    ("fs_to_cycles_cores", .list [1, 1, 1, 1]),
    ("performance_model.instruction_count", .list [0, 0, 0, 0]),
    ("performance_model.elapsed_time", .list [0, 0, 0, 0]),
    ("global.time", .scalar 0)]
  config := .ofList [
    ("general/total_cores", "4"),
    ("perf_model/cache/levels", "2"),
    ("perf_model/core/frequency", "2"),
    ("perf_model/l2_cache/associativity", "8"),
    ("perf_model/l2_cache/cache_block_size", "64"),
    ("perf_model/l2_cache/cache_size", "256"),
    ("perf_model/l2_cache/data_access_time", "8"),
    ("perf_model/l2_cache/dvfs_domain", "core"),
    ("perf_model/l2_cache/shared_cores", "2")]

theorem ofConfig_pairedBanks : Hierarchy.ofConfig pairedBanks.config pairedBanks.topology =
    .ok ⟨4, 45, 2, false, 2, 0, 0, none⟩ := by
  decide +kernel

theorem bankSettings_pairedBanks : pairedBanks.bankSettings {} .l2 1 =
    .ok [.ok [262144, 64, 8, 8, 1, 8, 0, 1], .ok [2000], .ok [0]] := by
  decide +kernel

/-- The first of the two banks is configured by its own cores, the second one is not. -/
theorem bankSettings_isolated_iff_pairedBanks :
    ∃ a, pairedBanks.activity {} = .ok a ∧
      (∀ changed, pairedBanks.config.ChangedFor .l2 (· ∉ coresIn (a.hierarchy.l2Range 0)) changed →
        { pairedBanks with config := changed }.bankSettings {} .l2 0 =
          pairedBanks.bankSettings {} .l2 0) ∧
      ¬ ∀ changed,
        pairedBanks.config.ChangedFor .l2 (· ∉ coresIn (a.hierarchy.l2Range 1)) changed →
        { pairedBanks with config := changed }.bankSettings {} .l2 1 =
          pairedBanks.bankSettings {} .l2 1 := by
  obtain ⟨a, created, -⟩ := map_eq_ok_iff.1 bankSettings_pairedBanks
  have hierarchy := hierarchy_of_activity created ofConfig_pairedBanks
  have served : 0 ∈ coresIn (a.hierarchy.l2Range 0) := by
    rw [hierarchy]
    decide
  have foreign : 1 ∉ coresIn (a.hierarchy.l2Range 1) := by
    rw [hierarchy]
    decide
  obtain ⟨-, first, -⟩ := bankSettings_isolated_iff created .l2 0
  obtain ⟨-, second, -⟩ := bankSettings_isolated_iff created .l2 1
  exact ⟨a, created, first.2 served, fun isolated => foreign (second.1 isolated)⟩

/-- An override for core 1, which uses the first bank, sets the size of the second one. -/
theorem secondBank_resized_by_core_one :
    ∃ h, Hierarchy.ofConfig pairedBanks.config pairedBanks.topology = .ok h ∧
      1 < h.l2Banks ∧ coresIn (h.l2Range 0) = [0, 1] ∧ coresIn (h.l2Range 1) = [2, 3] ∧
      pairedBanks.config.ChangedFor .l2 (· ∉ coresIn (h.l2Range 1))
        (pairedBanks.config.insert "perf_model/l2_cache/cache_size[1]" "512") ∧
      pairedBanks.bankSettings {} .l2 1 =
        .ok [.ok [262144, 64, 8, 8, 1, 8, 0, 1], .ok [2000], .ok [0]] ∧
      { pairedBanks with
        config := pairedBanks.config.insert "perf_model/l2_cache/cache_size[1]" "512"
      }.bankSettings {} .l2 1 =
        .ok [.ok [524288, 64, 8, 8, 1, 8, 0, 1], .ok [2000], .ok [0]] := by
  have key : "perf_model/l2_cache/cache_size[1]" =
      Config.coreKey (CacheLevel.l2.configSection ++ "/cache_size") 1 := by
    decide +kernel
  refine ⟨_, ofConfig_pairedBanks, by decide, by decide, by decide, ?_, bankSettings_pairedBanks,
    by decide +kernel⟩
  rw [key]
  exact Config.changedFor_insert CacheLevel.l2.isSetting_size (by decide) _ "512"

end MergedResult
end ChipPower
