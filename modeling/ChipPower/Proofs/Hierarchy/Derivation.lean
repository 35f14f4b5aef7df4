import ChipPower.Proofs.Config.Overrides

/-!
# How a hierarchy is derived

What a configuration and a topology have to hold for a hierarchy to come out of them. The
cores and the L2 are read first (`Hierarchy.StartsAt`), and what follows either adds an L3,
or puts slices in the place of a level, or leaves the chip as it is
(`Hierarchy.Completes`). `Hierarchy.ofConfig_eq_ok_iff` puts the two together, so that
later modules never go through the settings one by one.

All else that is read stands under a few plain keys (`Hierarchy.settings`), and of the flag
for NUCA it only matters whether it is the text `true`. Two configurations with the same
settings have the same hierarchy exactly if they agree on that, or if the chip has no room
for NUCA (`Hierarchy.ofConfig_eq_ofConfig_iff`).
-/

namespace ChipPower

/-- There is a number of banks if some cores share one, and it is rounded up. -/
theorem bankCount_eq_ok_iff {cores sharing banks : Nat} :
    bankCount cores sharing = .ok banks ↔
      0 < sharing ∧ banks = (cores + sharing - 1) / sharing := by
  unfold bankCount
  split
  · rename_i zero
    simp [fail, zero]
  · rename_i positive
    rw [Except.ok.injEq]
    exact ⟨fun same => ⟨Nat.pos_of_ne_zero positive, same.symm⟩, fun same => same.2.symm⟩

/-! ## Slices -/

namespace Slices

variable {config : Config} {topology : List TopologyEntry} {cores : Nat} {slices : Slices}

theorem interleaved_eq_ok_iff :
    interleaved config cores = .ok slices ↔
      config.word "perf_model/dram_directory/interleaving" none = .ok slices.sharing ∧
        bankCount cores slices.sharing = .ok slices.count := by
  simp only [interleaved, bind_eq_ok_iff, pure_eq_ok_iff, during_eq_ok_iff]
  constructor
  · rintro ⟨sharing, distance, count, counted, rfl⟩
    exact ⟨distance, counted⟩
  · rintro ⟨distance, counted⟩
    exact ⟨_, distance, _, counted, rfl⟩

theorem listed_eq_ok_iff {setting : String} {locations : List Nat} :
    listed setting locations cores = .ok slices ↔
      locations ≠ [] ∧ slices.count = locations.length ∧
        slices.sharing = cores / slices.count ∧
        locations = (List.range slices.count).map (· * slices.sharing) := by
  unfold listed
  split
  · rename_i empty
    simp [fail, List.isEmpty_iff.1 empty]
  · rename_i filled
    have nonempty : locations ≠ [] := fun empty => filled (List.isEmpty_iff.2 empty)
    dsimp only
    split
    · rename_i regular
      constructor
      · intro same
        cases same
        exact ⟨nonempty, rfl, rfl, regular⟩
      · rintro ⟨-, count, sharing, -⟩
        obtain ⟨_, _⟩ := slices
        dsimp only at count sharing
        rw [count] at sharing
        rw [count, sharing]
    · rename_i irregular
      constructor
      · intro same
        cases same
      · rintro ⟨-, count, sharing, regular⟩
        rw [count] at sharing
        rw [count, sharing] at regular
        exact (irregular regular).elim

/-- The configuration says where the slices are: at a fixed distance, or where the
topology lists them. -/
theorem ofConfig_eq_ok_iff :
    ofConfig config topology cores = .ok slices ↔
      ∃ setting, config.find? "perf_model/dram_directory/locations" none = some setting ∧
        (setting = "interleaved" ∧ interleaved config cores = .ok slices ∨
          setting ≠ "interleaved" ∧
            listed setting (locations topology) cores = .ok slices) := by
  simp only [ofConfig, bind_eq_ok_iff, Config.require_eq_ok_iff]
  constructor
  · rintro ⟨setting, found, chosen⟩
    split at chosen
    · exact ⟨setting, found, .inl ⟨‹_›, chosen⟩⟩
    · exact ⟨setting, found, .inr ⟨‹_›, chosen⟩⟩
  · rintro ⟨setting, found, ⟨same, chosen⟩ | ⟨other, chosen⟩⟩
    · exact ⟨setting, found, by rwa [if_pos same]⟩
    · exact ⟨setting, found, by rwa [if_neg other]⟩

end Slices

/-! ## Hierarchies -/

namespace Hierarchy

/-- What a hierarchy holds before anything is decided on an L3 and on slices. `time` is
the access time of the L2. -/
structure StartsAt (config : Config) (time : Nat) (h : Hierarchy) : Prop where
  cores : config.word "general/total_cores" none = .ok h.cores
  technologyNode :
    config.readOr Numeral.halfWord "power/technology_node" none defaultTechnologyNode =
      .ok h.technologyNode
  l2Sharing : config.wordOr "perf_model/l2_cache/shared_cores" none 0 = .ok h.l2Sharing
  l3Sharing : config.wordOr "perf_model/l3_cache/shared_cores" none 0 = .ok h.l3Sharing
  l2Time : config.wordOr "perf_model/l2_cache/data_access_time" none 0 = .ok time
  l2Banks :
    0 < time ∧ bankCount h.cores h.l2Sharing = .ok h.l2Banks ∨ time = 0 ∧ h.l2Banks = 0
  privateL2s : h.privateL2s = decide (time = 0 ∨ h.l2Sharing = 1)
  l3Banks : h.l3Banks = 0
  nucaLevel : h.nucaLevel = none

/-- How a hierarchy with its L2 becomes one with all levels. -/
inductive Completes (config : Config) (topology : List TopologyEntry) (levels : Nat)
    (base : Hierarchy) : Hierarchy → Prop
  | withL3 {banks : Nat} :
    3 ≤ levels → bankCount base.cores base.l3Sharing = .ok banks →
    Completes config topology levels base { base with l3Banks := banks }
  | withSlices {slices : Slices} :
    levels < 3 → config.textOr "perf_model/nuca/enabled" none "false" = "true" →
    Slices.ofConfig config topology base.cores = .ok slices →
    Completes config topology levels base (base.withSlices slices)
  | plain :
    levels < 3 → config.textOr "perf_model/nuca/enabled" none "false" ≠ "true" →
    Completes config topology levels base base

variable {config : Config} {topology : List TopologyEntry} {h : Hierarchy}

/-- The settings that are read first, one by one. -/
theorem withL2_eq_ok_iff : withL2 config = .ok h ↔ ∃ time, StartsAt config time h := by
  simp only [withL2, bind_eq_ok_iff]
  constructor
  · rintro ⟨cores, someCores, node, someNode, l2Sharing, someL2, l3Sharing, someL3, time,
      someTime, rest⟩
    split at rest
    · rename_i slow
      obtain ⟨banks, counted, same⟩ := bind_eq_ok_iff.1 rest
      cases same
      exact ⟨time, someCores, someNode, someL2, someL3, someTime,
        .inl ⟨slow, during_eq_ok_iff.1 counted⟩, rfl, rfl, rfl⟩
    · rename_i fast
      cases rest
      exact ⟨time, someCores, someNode, someL2, someL3, someTime,
        .inr ⟨by omega, rfl⟩, rfl, rfl, rfl⟩
  · rintro ⟨time, starts⟩
    refine ⟨h.cores, starts.cores, h.technologyNode, starts.technologyNode, h.l2Sharing,
      starts.l2Sharing, h.l3Sharing, starts.l3Sharing, time, starts.l2Time, ?_⟩
    have whole {banks : Nat} (same : h.l2Banks = banks) :
        { h with
          l2Banks := banks
          privateL2s := decide (time = 0 ∨ h.l2Sharing = 1)
          l3Banks := 0
          nucaLevel := none } = h := by
      rw [← same, ← starts.privateL2s, ← starts.l3Banks, ← starts.nucaLevel]
    rcases starts.l2Banks with ⟨slow, counted⟩ | ⟨fast, absent⟩
    · rw [if_pos slow, bind_eq_ok_iff]
      exact ⟨h.l2Banks, during_eq_ok_iff.2 counted, congrArg Except.ok (whole rfl)⟩
    · rw [if_neg (by omega)]
      exact congrArg Except.ok (whole absent)

theorem ofConfig_eq_ok_iff :
    ofConfig config topology = .ok h ↔
      ∃ time levels base, StartsAt config time base ∧
        config.word "perf_model/cache/levels" none = .ok levels ∧
        Completes config topology levels base h := by
  simp only [ofConfig, bind_eq_ok_iff, withL2_eq_ok_iff]
  constructor
  · rintro ⟨base, ⟨time, starts⟩, levels, someLevels, completed⟩
    refine ⟨time, levels, base, starts, someLevels, ?_⟩
    split at completed
    · obtain ⟨banks, counted, same⟩ := bind_eq_ok_iff.1 completed
      cases same
      exact .withL3 ‹_› (during_eq_ok_iff.1 counted)
    · split at completed
      · obtain ⟨slices, found, same⟩ := bind_eq_ok_iff.1 completed
        cases same
        exact .withSlices (by omega) ‹_› found
      · cases completed
        exact .plain (by omega) ‹_›
  · rintro ⟨time, levels, base, starts, someLevels, completes⟩
    refine ⟨base, ⟨time, starts⟩, levels, someLevels, ?_⟩
    cases completes with
    | withL3 high counted =>
      rw [if_pos high, bind_eq_ok_iff]
      exact ⟨_, during_eq_ok_iff.2 counted, rfl⟩
    | withSlices low enabled found =>
      rw [if_neg (by omega), if_pos enabled, bind_eq_ok_iff]
      exact ⟨_, found, rfl⟩
    | plain low disabled =>
      rw [if_neg (by omega), if_neg disabled]
      rfl

/-- Slices do not change the cores. -/
theorem cores_withSlices (slices : Slices) : (h.withSlices slices).cores = h.cores := by
  unfold withSlices
  split <;> rfl

/-- The cores are those of the configuration, whatever becomes of the caches. -/
theorem cores_of_ofConfig (derived : ofConfig config topology = .ok h) :
    config.word "general/total_cores" none = .ok h.cores := by
  obtain ⟨time, levels, base, starts, -, completes⟩ := ofConfig_eq_ok_iff.1 derived
  cases completes with
  | withL3 _ _ => exact starts.cores
  | withSlices _ _ _ =>
    rw [cores_withSlices]
    exact starts.cores
  | plain _ _ => exact starts.cores

/-! ## Settings -/

/-- The settings that a hierarchy is derived from, apart from the flag for NUCA. -/
def settings : List String := [
  "general/total_cores",
  "perf_model/cache/levels",
  "perf_model/dram_directory/interleaving",
  "perf_model/dram_directory/locations",
  "perf_model/l2_cache/data_access_time",
  "perf_model/l2_cache/shared_cores",
  "perf_model/l3_cache/shared_cores",
  "power/technology_node"]

/-- NUCA is switched on. -/
def NucaEnabled (config : Config) : Prop :=
  config.textOr "perf_model/nuca/enabled" none "false" = "true"

/-- Only the text `true` switches NUCA on. -/
theorem nucaEnabled_iff :
    NucaEnabled config ↔ config.get? "perf_model/nuca/enabled" = some "true" := by
  unfold NucaEnabled Config.textOr
  rw [Config.find?_none]
  cases config.get? "perf_model/nuca/enabled" with
  | none => simp
  | some text => simp

/-- The chip has no L3 that keeps NUCA out, and it gets as far as that. -/
def HasRoom (config : Config) : Prop :=
  ∃ base levels, withL2 config = .ok base ∧
    config.word "perf_model/cache/levels" none = .ok levels ∧ levels < 3

/-- Slices leave a trace, if there are any. -/
theorem withSlices_ne {base : Hierarchy} (bare : base.nucaLevel = none)
    (slices : Except Failure Slices) :
    (slices >>= fun slices => pure (base.withSlices slices)) ≠ .ok base := by
  intro same
  obtain ⟨some, -, placed⟩ := bind_eq_ok_iff.1 same
  rw [pure_eq_ok_iff] at placed
  rw [← placed, withSlices] at bare
  split at bare
  · cases bare
  · cases bare

section Settings

variable {changed : Config} (agree : ∀ key ∈ settings, config.get? key = changed.get? key)

include agree

/-- The slices are told by these settings. -/
theorem slices_congr (cores : Nat) :
    Slices.ofConfig config topology cores = Slices.ofConfig changed topology cores := by
  have locations : config.find? "perf_model/dram_directory/locations" none =
      changed.find? "perf_model/dram_directory/locations" none := agree _ (by simp [settings])
  have interleaving : config.find? "perf_model/dram_directory/interleaving" none =
      changed.find? "perf_model/dram_directory/interleaving" none := agree _ (by simp [settings])
  unfold Slices.ofConfig Slices.interleaved Config.word
  rw [Config.require_congr locations, Config.read_congr interleaving]

/-- The cores and the L2 are told by these settings. -/
theorem withL2_congr : withL2 config = withL2 changed := by
  have same (key : String) (listed : key ∈ settings) :
      config.find? key none = changed.find? key none := agree key listed
  have cores := same "general/total_cores" (by simp [settings])
  have node := same "power/technology_node" (by simp [settings])
  have l2Sharing := same "perf_model/l2_cache/shared_cores" (by simp [settings])
  have l3Sharing := same "perf_model/l3_cache/shared_cores" (by simp [settings])
  have l2Time := same "perf_model/l2_cache/data_access_time" (by simp [settings])
  unfold withL2 Config.word Config.wordOr
  simp only [Config.read_congr cores, Config.readOr_congr node, Config.readOr_congr l2Sharing,
    Config.readOr_congr l3Sharing, Config.readOr_congr l2Time]

theorem levels_congr : config.word "perf_model/cache/levels" none =
    changed.word "perf_model/cache/levels" none := by
  have same : config.find? "perf_model/cache/levels" none =
      changed.find? "perf_model/cache/levels" none := agree _ (by simp [settings])
  exact Config.read_congr same Numeral.word

/-- Another text for the flag makes a difference if it switches NUCA on or off and the chip
has room for it. -/
theorem ofConfig_eq_ofConfig_iff :
    ofConfig config topology = ofConfig changed topology ↔
      (NucaEnabled config ↔ NucaEnabled changed) ∨ ¬ HasRoom config := by
  -- the two are derived alike up to the flag
  unfold ofConfig
  simp only [← withL2_congr agree, ← levels_congr agree, ← slices_congr agree]
  cases started : withL2 config with
  | error failure =>
    refine iff_of_true rfl (.inr ?_)
    rintro ⟨base, -, result, -⟩
    rw [started] at result
    cases result
  | ok base =>
  cases counted : config.word "perf_model/cache/levels" none with
  | error failure =>
    refine iff_of_true rfl (.inr ?_)
    rintro ⟨-, levels, -, result, -⟩
    rw [counted] at result
    cases result
  | ok levels =>
  change (if 3 ≤ levels then _ else _) = (if 3 ≤ levels then _ else _) ↔ _
  by_cases high : 3 ≤ levels
  · rw [if_pos high, if_pos high]
    refine iff_of_true rfl (.inr ?_)
    rintro ⟨-, few, -, result, low⟩
    rw [counted, Except.ok.injEq] at result
    omega
  · rw [if_neg high, if_neg high]
    have room : HasRoom config := ⟨base, levels, started, counted, by omega⟩
    have bare : base.nucaLevel = none := by
      obtain ⟨time, starts⟩ := withL2_eq_ok_iff.1 started
      exact starts.nucaLevel
    have differs := withSlices_ne bare (Slices.ofConfig config topology base.cores)
    simp only [room, not_true_eq_false, or_false, NucaEnabled]
    by_cases was : config.textOr "perf_model/nuca/enabled" none "false" = "true"
    · by_cases now : changed.textOr "perf_model/nuca/enabled" none "false" = "true"
      · rw [if_pos was, if_pos now]
        exact iff_of_true rfl (iff_of_true was now)
      · rw [if_pos was, if_neg now]
        exact iff_of_false differs fun same => now (same.1 was)
    · by_cases now : changed.textOr "perf_model/nuca/enabled" none "false" = "true"
      · rw [if_neg was, if_pos now]
        exact iff_of_false differs.symm fun same => was (same.2 now)
      · rw [if_neg was, if_neg now]
        exact iff_of_true rfl (iff_of_false was now)

end Settings

end Hierarchy

end ChipPower
