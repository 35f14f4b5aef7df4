import ChipPower.Proofs.Hierarchy.Partition

/-!
# Slices at listed locations

Slices that the topology lists are not counted by the cores that share one. Here it is the
number of cores that comes out of a division, which rounds down, and the locations are only
compared with its multiples. So the slices serve as many cores as the division comes out
even for, and those left over are in the range of no slice. With more slices than cores no
core is in any range at all.

`Hierarchy.slices_serveAll_iff` says which cores are served, and that these are all of them
exactly if the slices divide the cores.
-/

namespace ChipPower.Hierarchy

variable {h : Hierarchy} {level : CacheLevel} {config : Config} {topology : List TopologyEntry}

/-- The slices of a level are those that the topology lists. -/
theorem banks_listed (derived : ofConfig config topology = .ok h)
    (placed : h.nucaLevel = some level)
    (elsewhere : config.find? "perf_model/dram_directory/locations" none ≠
      some "interleaved") :
    Slices.locations topology ≠ [] ∧ level.banks h = (Slices.locations topology).length ∧
      level.sharing h = h.cores / level.banks h := by
  obtain ⟨time, levels, base, starts, -, completes⟩ := ofConfig_eq_ok_iff.1 derived
  cases completes with
  | withL3 _ _ => exact nomatch starts.nucaLevel.symm.trans placed
  | plain _ _ => exact nomatch starts.nucaLevel.symm.trans placed
  | withSlices _ _ found =>
    obtain ⟨setting, same, ⟨rfl, -⟩ | ⟨-, listed⟩⟩ := Slices.ofConfig_eq_ok_iff.1 found
    · exact (elsewhere same).elim
    · obtain ⟨nonempty, count, sharing, -⟩ := Slices.listed_eq_ok_iff.1 listed
      obtain ⟨banks, shared⟩ := banks_withSlices placed
      rw [banks, shared, cores_withSlices]
      exact ⟨nonempty, count, sharing⟩

/-- Slices that share the cores by a division that rounds down serve those that are not
left over, each of them once. -/
theorem existsUnique_slice_iff (shared : level.sharing h = h.cores / level.banks h)
    (core : Nat) :
    (∃! slice, slice < level.banks h ∧ core ∈ coresIn (level.range h slice)) ↔
      core < h.cores - h.cores % level.banks h := by
  have even := Nat.div_add_mod h.cores (level.banks h)
  have served : min (level.sharing h * level.banks h) h.cores =
      h.cores - h.cores % level.banks h := by
    rw [shared, Nat.mul_comm]
    omega
  apply existsUnique_bank_iff
  simp only [level.range_eq]
  rw [flatMap_bankRange, served]

/-- No slice is empty exactly if there are as many cores as slices at least. -/
theorem slices_inhabited_iff (nonempty : 0 < level.banks h)
    (shared : level.sharing h = h.cores / level.banks h) :
    (∀ slice < level.banks h, coresIn (level.range h slice) ≠ []) ↔
      level.banks h ≤ h.cores := by
  simp only [level.range_eq, coresIn_bankRange_ne_nil_iff, shared]
  constructor
  · intro inhabited
    obtain ⟨positive, -⟩ := inhabited 0 nonempty
    exact (Nat.div_pos_iff.1 positive).2
  · intro enough slice below
    have positive : 0 < h.cores / level.banks h := Nat.div_pos enough nonempty
    refine ⟨positive, ?_⟩
    calc h.cores / level.banks h * slice
      _ < h.cores / level.banks h * level.banks h := Nat.mul_lt_mul_of_pos_left below positive
      _ ≤ h.cores := Nat.div_mul_le_self _ _

/-- Slices at listed locations serve as many cores as can be shared out evenly, each of
them once. They serve all cores, and none of them is empty, exactly if there are cores and
the slices divide them. -/
theorem slices_serveAll_iff (derived : ofConfig config topology = .ok h)
    (placed : h.nucaLevel = some level)
    (elsewhere : config.find? "perf_model/dram_directory/locations" none ≠
      some "interleaved") :
    level.banks h = (Slices.locations topology).length ∧
      (∀ core, (∃! slice, slice < level.banks h ∧ core ∈ coresIn (level.range h slice)) ↔
        core < h.cores - h.cores % level.banks h) ∧
      ((∀ slice < level.banks h, coresIn (level.range h slice) ≠ []) ↔
        level.banks h ≤ h.cores) ∧
      (ServesAll h.cores (level.banks h) (level.range h) ↔
        0 < h.cores ∧ level.banks h ∣ h.cores) := by
  obtain ⟨found, listed, shared⟩ := banks_listed derived placed elsewhere
  have nonempty : 0 < level.banks h := by
    rw [listed]
    exact List.length_pos_iff.2 found
  have served := existsUnique_slice_iff shared
  have inhabited := slices_inhabited_iff nonempty shared
  refine ⟨listed, served, inhabited, ?_⟩
  constructor
  · intro all
    have enough := inhabited.1 all.inhabited
    have manned : 0 < h.cores := Nat.lt_of_lt_of_le nonempty enough
    -- the last core is served, so that nothing is left over
    have last := (served (h.cores - 1)).1 (all.served (h.cores - 1) (by omega))
    exact ⟨manned, Nat.dvd_of_mod_eq_zero (by omega)⟩
  · rintro ⟨manned, even⟩
    refine ⟨fun core below => (served core).2 ?_, inhabited.2 (Nat.le_of_dvd manned even)⟩
    rwa [Nat.mod_eq_zero_of_dvd even, Nat.sub_zero]

/-- A chip without an L2, with slices wherever its topology lists them. -/
def listedConfig (cores : String) : Config :=
  .ofList [
    ("general/total_cores", cores),
    ("perf_model/cache/levels", "2"),
    ("perf_model/dram_directory/locations", "dram"),
    ("perf_model/nuca/enabled", "true")]

/-- Two slices, two cores apart. -/
def twoSlices : List TopologyEntry := [
  { name := "nuca-cache", location := 0, memory := 0 },
  { name := "nuca-cache", location := 2, memory := 2 }]

/-- Two slices divide four cores. -/
theorem slices_serveAll_iff_four :
    ∃ h, ofConfig (listedConfig "4") twoSlices = .ok h ∧ h.nucaLevel = some .l2 ∧
      h.cores = 4 ∧ ServesAll 4 h.l2Banks h.l2Range := by
  have derived : ofConfig (listedConfig "4") twoSlices =
      .ok ⟨4, 45, 2, true, 2, 0, 0, some .l2⟩ := by
    decide +kernel
  have serves := (slices_serveAll_iff derived rfl (by decide +kernel)).2.2.2
  exact ⟨_, derived, rfl, rfl, serves.2 ⟨by decide, by decide⟩⟩

/-- With a fifth core the two slices are still taken, and have it in neither range. -/
theorem fifth_core_unserved :
    ∃ h, ofConfig (listedConfig "5") twoSlices = .ok h ∧ h.nucaLevel = some .l2 ∧
      (listedConfig "5").find? "perf_model/dram_directory/locations" none ≠
        some "interleaved" ∧
      h.cores = 5 ∧ (∀ slice < h.l2Banks, 4 ∉ coresIn (h.l2Range slice)) ∧
      ¬ ServesAll h.cores h.l2Banks h.l2Range := by
  have derived : ofConfig (listedConfig "5") twoSlices =
      .ok ⟨5, 45, 2, true, 2, 0, 0, some .l2⟩ := by
    decide +kernel
  have unserved : ∀ slice < 2, 4 ∉ coresIn (bankRange 5 2 slice) := by decide
  refine ⟨_, derived, rfl, by decide +kernel, rfl, unserved, fun all => ?_⟩
  obtain ⟨slice, ⟨below, serves⟩, -⟩ := all.served 4 (by decide)
  exact unserved slice below serves

end ChipPower.Hierarchy
