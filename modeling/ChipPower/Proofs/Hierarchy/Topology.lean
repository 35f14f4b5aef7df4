import ChipPower.Proofs.Hierarchy.Slices
import Mathlib.Data.List.Perm.Basic

/-!
# The order of a topology

A topology lists components in some order, and only the locations of its slices bear on a
hierarchy. Their order would say nothing either, since what a slice counts is counted for
cores. But regularity is checked against the places in the list (`Slices.IsRegular`), so that
of all orders in which the same locations can be listed only the ascending one is taken.

* `Slices.listed_eq_listed_iff` compares two orders of the same locations.
* `ofConfig_of_takesListed` and `ofConfig_eq_of_not_takesListed` say when a hierarchy comes
  from the topology at all.
* `Hierarchy.ofConfig_order_iff` says for which configurations and orders the hierarchy is
  the same.
-/

namespace ChipPower

/-! ## Slices in two orders -/

namespace Slices

variable {first second : List Nat} {cores : Nat}

/-- Slices lie one range of cores apart from core 0 on, in the order in which they are
listed. -/
def IsRegular (locations : List Nat) (cores : Nat) : Prop :=
  locations = (List.range locations.length).map (· * (cores / locations.length))

instance (locations : List Nat) (cores : Nat) : Decidable (IsRegular locations cores) :=
  inferInstanceAs (Decidable (locations = _))

theorem exists_listed_iff {setting : String} {locations : List Nat} :
    (∃ slices, listed setting locations cores = .ok slices) ↔
      locations ≠ [] ∧ IsRegular locations cores := by
  simp only [listed_eq_ok_iff]
  constructor
  · intro found
    obtain ⟨slices, nonempty, count, sharing, regular⟩ := found
    rw [sharing, count] at regular
    exact ⟨nonempty, regular⟩
  · intro found
    obtain ⟨nonempty, regular⟩ := found
    exact ⟨⟨locations.length, cores / locations.length⟩, nonempty, rfl, rfl, regular⟩

theorem IsRegular.ascending (regular : IsRegular first cores) : first.Pairwise (· ≤ ·) := by
  rw [regular, List.pairwise_map]
  refine List.pairwise_lt_range.imp ?_
  intro i j below
  exact Nat.mul_le_mul_right _ below.le

/-- Of all orders of regular locations only the ascending one is regular. -/
theorem IsRegular.perm_iff (regular : IsRegular first cores) (same : first.Perm second) :
    IsRegular second cores ↔ second.Pairwise (· ≤ ·) := by
  refine ⟨IsRegular.ascending, fun ascending => ?_⟩
  have eq : first = second :=
    List.Perm.eq_of_pairwise (fun _ _ _ _ => Nat.le_antisymm) regular.ascending ascending same
  exact eq ▸ regular

/-- Two orders of the same locations come to the same slices, or fail alike, if both are
regular or neither is. -/
theorem listed_eq_of_perm (setting : String) (same : first.Perm second)
    (both : IsRegular first cores ↔ IsRegular second cores) :
    listed setting first cores = listed setting second cores := by
  have empty : first.isEmpty = second.isEmpty := same.isEmpty_eq
  have length : first.length = second.length := same.length_eq
  unfold listed
  rw [empty]
  show (if second.isEmpty then _ else if IsRegular first cores then _ else _) =
    (if second.isEmpty then _ else if IsRegular second cores then _ else _)
  rw [length]
  simp only [both]

end Slices

namespace Hierarchy

open Slices

variable {config : Config} {base : Hierarchy} {first second : List TopologyEntry}

/-! ## Hierarchies from a topology -/

/-- `TakesListed config setting base`: the chip is `base` before slices are put in the place
of a level, and these are the ones that its topology lists. `setting` is what the
configuration says about their locations. -/
structure TakesListed (config : Config) (setting : String) (base : Hierarchy) : Prop where
  started : withL2 config = .ok base
  room : ∃ levels, config.word "perf_model/cache/levels" none = .ok levels ∧ levels < 3
  enabled : NucaEnabled config
  found : config.find? "perf_model/dram_directory/locations" none = some setting
  elsewhere : setting ≠ "interleaved"

theorem ofConfig_of_takesListed {setting : String} (takes : TakesListed config setting base)
    (topology : List TopologyEntry) :
    ofConfig config topology =
      (listed setting (locations topology) base.cores).map base.withSlices := by
  obtain ⟨levels, counted, low⟩ := takes.room
  have required : config.require "perf_model/dram_directory/locations" none = .ok setting :=
    Config.require_eq_ok_iff.2 takes.found
  have slices : Slices.ofConfig config topology base.cores =
      listed setting (locations topology) base.cores := by
    rw [Slices.ofConfig, required]
    exact if_neg takes.elsewhere
  have enabled : config.textOr "perf_model/nuca/enabled" none "false" = "true" := takes.enabled
  rw [ofConfig, takes.started, counted]
  show (if 3 ≤ levels then _ else _) = _
  rw [if_neg (Nat.not_le.2 low), if_pos enabled, slices]
  cases listed setting (locations topology) base.cores <;> rfl

/-- Any other chip has a hierarchy of which the topology says nothing. -/
theorem ofConfig_eq_of_not_takesListed (apart : ∀ setting base, ¬ TakesListed config setting base)
    (first second : List TopologyEntry) : ofConfig config first = ofConfig config second := by
  unfold ofConfig
  cases started : withL2 config with
  | error failure => rfl
  | ok base =>
  cases counted : config.word "perf_model/cache/levels" none with
  | error failure => rfl
  | ok levels =>
  show (if 3 ≤ levels then _ else _) = (if 3 ≤ levels then _ else _)
  by_cases high : 3 ≤ levels
  · rw [if_pos high, if_pos high]
  · rw [if_neg high, if_neg high]
    by_cases enabled : config.textOr "perf_model/nuca/enabled" none "false" = "true"
    · rw [if_pos enabled, if_pos enabled]
      have same : Slices.ofConfig config first base.cores =
          Slices.ofConfig config second base.cores := by
        unfold Slices.ofConfig
        cases required : config.require "perf_model/dram_directory/locations" none with
        | error failure => rfl
        | ok setting =>
          have found := Config.require_eq_ok_iff.1 required
          have interleaved : setting = "interleaved" := by
            by_contra elsewhere
            exact apart setting base
              ⟨started, ⟨levels, counted, Nat.not_le.1 high⟩, enabled, found, elsewhere⟩
          show (if setting = _ then _ else _) = (if setting = _ then _ else _)
          rw [if_pos interleaved, if_pos interleaved]
      rw [same]
    · rw [if_neg enabled, if_neg enabled]

theorem exists_ofConfig_iff {setting : String} (takes : TakesListed config setting base)
    (topology : List TopologyEntry) :
    (∃ h, ofConfig config topology = .ok h) ↔
      locations topology ≠ [] ∧ IsRegular (locations topology) base.cores := by
  rw [ofConfig_of_takesListed takes, ← @exists_listed_iff base.cores setting]
  cases listed setting (locations topology) base.cores <;> simp [Except.map]

/-- The answers are the same exactly if the chip does not take its slices from a topology, or
if both orders are regular or both are not. -/
theorem ofConfig_eq_iff_of_perm (same : (locations first).Perm (locations second)) :
    ofConfig config first = ofConfig config second ↔
      ∀ setting base, TakesListed config setting base →
        (IsRegular (locations first) base.cores ↔ IsRegular (locations second) base.cores) := by
  constructor
  · intro eq setting base takes
    by_cases empty : locations first = []
    · have none : locations second = [] := List.nil_perm.1 (empty ▸ same)
      rw [empty, none]
    · have nonempty : locations second ≠ [] := fun none => empty (List.perm_nil.1 (none ▸ same))
      have left := exists_ofConfig_iff takes first
      have right := exists_ofConfig_iff takes second
      rw [eq, right] at left
      simpa only [nonempty, empty, ne_eq, not_false_eq_true, true_and] using left.symm
  · intro both
    by_cases takes : ∃ setting base, TakesListed config setting base
    · obtain ⟨setting, base, takes⟩ := takes
      rw [ofConfig_of_takesListed takes, ofConfig_of_takesListed takes,
        listed_eq_of_perm setting same (both setting base takes)]
    · refine ofConfig_eq_of_not_takesListed (fun setting base listed => ?_) first second
      exact takes ⟨setting, base, listed⟩

/-- Topologies that list slices at the same locations never come to two hierarchies. They
come to the same answer exactly if the chip does not take its slices from them, or if their
orders are both regular or both not. If the one is taken, then so is the other exactly if it
lists the slices in ascending order, whatever else it lists in between. -/
theorem ofConfig_order_iff (same : (locations first).Perm (locations second)) :
    (∀ h k, ofConfig config first = .ok h → ofConfig config second = .ok k → h = k) ∧
      (ofConfig config first = ofConfig config second ↔
        ∀ setting base, TakesListed config setting base →
          (IsRegular (locations first) base.cores ↔ IsRegular (locations second) base.cores)) ∧
      ∀ h, ofConfig config first = .ok h →
        (ofConfig config second = .ok h ↔
          ∀ setting base, TakesListed config setting base →
            (locations second).Pairwise (· ≤ ·)) := by
  have answers := @ofConfig_eq_iff_of_perm config _ _ same
  have regular {topology : List TopologyEntry} {h base : Hierarchy} {setting : String}
      (derived : ofConfig config topology = .ok h) (takes : TakesListed config setting base) :
      IsRegular (locations topology) base.cores :=
    ((exists_ofConfig_iff takes topology).1 ⟨h, derived⟩).2
  refine ⟨?unique, answers, ?ascending⟩
  case unique =>
    intro h k left right
    have eq : ofConfig config first = ofConfig config second :=
      answers.2 fun setting base takes =>
        iff_of_true (regular left takes) (regular right takes)
    exact Except.ok.inj (left.symm.trans (eq.trans right))
  case ascending =>
    intro h left
    rw [eq_comm, ← left, answers]
    refine forall_congr' fun setting => forall_congr' fun base => forall_congr' fun takes => ?_
    rw [(regular left takes).perm_iff same]
    exact iff_true_left (regular left takes)

/-- The slices of `twoSlices`, with other components in between. -/
def scatteredSlices : List TopologyEntry := [
  { name := "hwthread", location := 3, memory := 0 },
  { name := "nuca-cache", location := 0, memory := 5 },
  { name := "dram-cntlr", location := 1, memory := 1 },
  { name := "nuca-cache", location := 2, memory := 4 }]

/-- Neither other components nor the memory of an entry make a difference. -/
theorem ofConfig_order_iff_scattered :
    (locations twoSlices).Perm (locations scatteredSlices) ∧
      ofConfig (listedConfig "4") twoSlices = .ok ⟨4, 45, 2, true, 2, 0, 0, some .l2⟩ ∧
      ofConfig (listedConfig "4") scatteredSlices = .ok ⟨4, 45, 2, true, 2, 0, 0, some .l2⟩ := by
  have same : (locations twoSlices).Perm (locations scatteredSlices) := by decide +kernel
  have derived : ofConfig (listedConfig "4") twoSlices =
      .ok ⟨4, 45, 2, true, 2, 0, 0, some .l2⟩ := by
    decide +kernel
  have ascending : (locations scatteredSlices).Pairwise (· ≤ ·) := by decide +kernel
  obtain ⟨-, -, taken⟩ := @ofConfig_order_iff (listedConfig "4") _ _ same
  exact ⟨same, derived, (taken _ derived).2 fun _ _ _ => ascending⟩

/-- The same two slices in the other order are refused as irregular. -/
theorem descending_slices_refused :
    (locations twoSlices).Perm (locations twoSlices.reverse) ∧
      ofConfig (listedConfig "4") twoSlices = .ok ⟨4, 45, 2, true, 2, 0, 0, some .l2⟩ ∧
      ofConfig (listedConfig "4") twoSlices.reverse = fail (.irregularSlices "dram") := by
  decide +kernel

end Hierarchy
end ChipPower
