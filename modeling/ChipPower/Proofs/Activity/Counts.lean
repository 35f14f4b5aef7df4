import ChipPower.Activity.Statistic
import ChipPower.Proofs.Stats.Counts
import Mathlib.Algebra.Order.Field.Basic

/-!
# What counters come to

In exact arithmetic the highest cycle count of an activity is positive and bounds that of
every core (`Activity.maxCycles_of_ofRun`), so that one can divide by it. If no counter of a
run is negative, then neither are the counters of its cores, nor what a formula makes of them
as long as it does not subtract (`Formula.eval_nonneg`, by induction on the formula).
-/

namespace ChipPower

/-! ## The highest cycle count -/

section Highest

variable {init x : Rat} {xs : List Rat}

/-- A running maximum does not fall below what it starts with. -/
theorem init_le_foldl_max : init ≤ xs.foldl Scalar.max init := by
  induction xs generalizing init with
  | nil => exact le_rfl
  | cons y xs ih =>
    have step : init ≤ Scalar.max init y := by
      rw [Scalar.max_eq]
      exact le_max_left init y
    exact step.trans ih

/-- A running maximum is at least every number that it meets. -/
theorem le_foldl_max (member : x ∈ xs) : x ≤ xs.foldl Scalar.max init := by
  induction xs generalizing init with
  | nil => cases member
  | cons y xs ih =>
    rcases List.mem_cons.1 member with rfl | later
    · have step : x ≤ Scalar.max init x := by
        rw [Scalar.max_eq]
        exact le_max_right init x
      exact step.trans init_le_foldl_max
    · exact ih later

end Highest

namespace CoreCounters

variable {cores : List (CoreCounters Rat)}

/-- The highest cycle count is positive, as it is one if no core has counted a cycle. -/
theorem maxCycles_pos (cores : List (CoreCounters Rat)) : 0 < maxCycles cores := by
  have least : (0 : Rat) ≤ (cores.map (·.cycles)).foldl Scalar.max 0.0 :=
    Scalar.zero_eq.ge.trans init_le_foldl_max
  simp only [maxCycles, Scalar.isZero_eq]
  split
  · exact Scalar.one_eq ▸ one_pos
  · rename_i some
    exact lt_of_le_of_ne least fun zero => some (decide_eq_true zero.symm)

/-- No core counts more cycles than the highest cycle count. -/
theorem cycles_le_maxCycles {core : CoreCounters Rat} (member : core ∈ cores) :
    core.cycles ≤ maxCycles cores := by
  have below : core.cycles ≤ (cores.map (·.cycles)).foldl Scalar.max 0.0 :=
    le_foldl_max (List.mem_map_of_mem member)
  simp only [maxCycles, Scalar.isZero_eq]
  split
  · rename_i zero
    rw [of_decide_eq_true zero] at below
    exact below.trans (Scalar.one_eq ▸ zero_le_one)
  · exact below

end CoreCounters

/-! ## The counters of cores -/

/-- The share that a kind of micro-operation is taken to have is not negative. -/
theorem MicroOp.fraction_nonneg (op : MicroOp) : (0 : Rat) ≤ op.fraction := by
  cases op <;> exact Scalar.ofScientific_nonneg _ _ _

/-- A kind of micro-operation is counted, or estimated as a share of the instructions. -/
theorem MicroOp.count_nonneg {stats : Stats Rat} (counted : stats.NonNegative) {core : Nat}
    {instructions x : Rat} (some : 0 ≤ instructions) {op : MicroOp}
    (found : count stats core instructions op = .ok x) : 0 ≤ x := by
  unfold count at found
  split at found
  · exact counted.element found
  · split at found
    · exact counted.element found
    · cases found
      exact mul_nonneg some op.fraction_nonneg

/-- Nothing that was counted for a core is negative. -/
structure CoreCounters.NonNegative (core : CoreCounters Rat) : Prop where
  scale : 0 ≤ core.cyclesScale
  counts : ∀ c, 0 ≤ core.get c

/-- The counters of a core come from statistics by products and sums, but for the idle cycles,
which are kept from going below zero. -/
theorem CoreCounters.nonNegative_of_ofStats {stats : Stats Rat} (counted : stats.NonNegative)
    {time : Rat} {unit : Nat} {core : CoreCounters Rat}
    (computed : ofStats stats time unit = .ok core) : core.NonNegative := by
  simp only [ofStats, bind_eq_ok_iff, pure_eq_ok_iff] at computed
  obtain ⟨scale, foundScale, instructions, foundInstructions, elapsed, foundElapsed, fpMulDiv,
    foundMulDiv, fpAddSub, foundAddSub, branches, foundBranches, loads, foundLoads, stores,
    foundStores, generic, foundGeneric, rfl⟩ := computed
  have scaled := counted.element foundScale
  have executed := counted.element foundInstructions
  have mulDiv := MicroOp.count_nonneg counted executed foundMulDiv
  have addSub := MicroOp.count_nonneg counted executed foundAddSub
  have branched := MicroOp.count_nonneg counted executed foundBranches
  have loaded := MicroOp.count_nonneg counted executed foundLoads
  have stored := MicroOp.count_nonneg counted executed foundStores
  have other := MicroOp.count_nonneg counted executed foundGeneric
  refine ⟨scaled, fun c => ?_⟩
  cases c with
  | instructions => exact executed
  | cycles => exact mul_nonneg scaled (counted.element foundElapsed)
  | idleCycles =>
    refine mul_nonneg scaled ?_
    rw [Scalar.max_eq, Scalar.zero_eq]
    exact le_max_left _ _
  | fpInstructions => exact add_nonneg addSub mulDiv
  | fpMulDiv => exact mulDiv
  | branchInstructions => exact branched
  | intAccesses => exact add_nonneg (add_nonneg loaded stored) other

/-! ## Activities -/

namespace Activity

variable {stats : Stats Rat} {config : Config} {h : Hierarchy} {options : Options Rat}
  {a : Activity Rat}

/-- The highest cycle count is one that duty cycles can relate to. -/
theorem maxCycles_of_ofRun (created : ofRun stats config h options = .ok a) :
    0 < a.maxCycles ∧ a.cores.length = h.cores ∧ ∀ core ∈ a.cores, core.cycles ≤ a.maxCycles := by
  obtain ⟨cores, length, rfl⟩ := ofRun_eq_ok created
  exact ⟨CoreCounters.maxCycles_pos cores, length, fun core => CoreCounters.cycles_le_maxCycles⟩

/-- Nothing in an activity that was counted is negative. -/
structure NonNegative (a : Activity Rat) : Prop where
  stats : a.stats.NonNegative
  cores : ∀ core ∈ a.cores, core.NonNegative
  maxCycles : 0 ≤ a.maxCycles

/-- An activity of statistics without negative numbers has none. -/
theorem nonNegative_of_ofRun (created : ofRun stats config h options = .ok a)
    (counted : stats.NonNegative) : a.NonNegative := by
  obtain ⟨positive, -⟩ := maxCycles_of_ofRun created
  simp only [ofRun, bind_eq_ok_iff] at created
  obtain ⟨-, -, -, -, -, -, time, -, cores, computed, same⟩ := created
  cases same
  refine ⟨counted, fun core member => ?_, positive.le⟩
  obtain ⟨unit, inside, rfl⟩ := List.mem_iff_getElem.1 member
  have listed : (List.range h.cores)[unit]? = some unit := by
    rw [List.getElem?_range]
    rw [← List.length_range (n := h.cores),
      ← length_of_mapM_eq_ok (during_eq_ok_iff.1 computed)]
    exact inside
  obtain ⟨core, found, counters⟩ := getElem?_of_mapM_eq_ok (during_eq_ok_iff.1 computed) listed
  rw [List.getElem?_eq_getElem inside, Option.some_inj] at found
  exact found ▸ CoreCounters.nonNegative_of_ofStats counted counters

/-- A duty cycle relates a count to the highest cycle count, and is cut at one. -/
theorem dutyCycle_eq (a : Activity Rat) (active : Rat) :
    a.dutyCycle active = min (active / a.maxCycles) 1 := by
  rw [dutyCycle, Scalar.min_eq, Scalar.one_eq]

theorem dutyCycle_le_one (a : Activity Rat) (active : Rat) : a.dutyCycle active ≤ 1 := by
  rw [dutyCycle_eq]
  exact min_le_right _ _

theorem dutyCycle_nonneg (positive : 0 ≤ a.maxCycles) {active : Rat} (some : 0 ≤ active) :
    0 ≤ a.dutyCycle active := by
  rw [dutyCycle_eq]
  exact le_min (div_nonneg some positive) zero_le_one

/-- The counters of a scope are those of a core of the activity. -/
theorem mem_cores_of_counters {scope : Scope} {core : CoreCounters Rat}
    (found : a.counters scope = .ok core) : core ∈ a.cores := by
  obtain ⟨unit, -, inside⟩ := bind_eq_ok_iff.1 found
  split at inside
  · rename_i other listed
    cases inside
    exact List.mem_of_getElem? listed
  · cases inside

end Activity

/-! ## Formulas -/

namespace Formula

variable {a : Activity Rat} {scope : Scope} {f g : Formula}

/-- `NotNegative a scope f`: if a formula has a value for a scope, that is not negative. -/
def NotNegative (a : Activity Rat) (scope : Scope) (f : Formula) : Prop :=
  ∀ ⦃x⦄, f.eval a scope = .ok x → 0 ≤ x

/-- Whether a formula is a number, or what was counted under a name. -/
def isCount : Formula → Bool
  | .number .. | .counter _ | .maxCycles | .element _ | .elementOrZero _ | .first _ | .sum ..
  | .sumOrZero .. => true
  | _ => false

/-- What was counted is not negative, wherever a formula reads it from. -/
theorem notNegative_of_isCount (counted : a.NonNegative) (f : Formula) (counts : f.isCount = true) :
    NotNegative a scope f := by
  intro x evaluated
  cases f with
  | number mantissa negative exponent =>
    cases evaluated
    exact Scalar.ofScientific_nonneg mantissa negative exponent
  | counter c =>
    obtain ⟨core, found, same⟩ := bind_eq_ok_iff.1 evaluated
    cases same
    exact (counted.cores core (Activity.mem_cores_of_counters found)).counts c
  | maxCycles =>
    cases evaluated
    exact counted.maxCycles
  | element name =>
    obtain ⟨unit, -, found⟩ := bind_eq_ok_iff.1 evaluated
    exact counted.stats.element found
  | elementOrZero name =>
    obtain ⟨unit, -, found⟩ := bind_eq_ok_iff.1 evaluated
    exact counted.stats.elementOrZero found
  | first name => exact counted.stats.element evaluated
  | sum sharing name =>
    obtain ⟨range, -, found⟩ := bind_eq_ok_iff.1 evaluated
    exact counted.stats.sumOver found
  | sumOrZero sharing name =>
    obtain ⟨range, -, found⟩ := bind_eq_ok_iff.1 evaluated
    exact counted.stats.sumOverOrZero found
  | _ => cases counts

/-! Each way to make a formula of others, as long as nothing is subtracted. -/

namespace NotNegative

theorem trunc (inner : NotNegative a scope f) : NotNegative a scope (.trunc f) := by
  intro x evaluated
  obtain ⟨y, found, same⟩ := bind_eq_ok_iff.1 evaluated
  cases same
  exact Scalar.trunc_nonneg (inner found)

theorem add (first : NotNegative a scope f) (second : NotNegative a scope g) :
    NotNegative a scope (.add f g) := by
  intro x evaluated
  obtain ⟨y, left, rest⟩ := bind_eq_ok_iff.1 evaluated
  obtain ⟨z, right, same⟩ := bind_eq_ok_iff.1 rest
  cases same
  exact add_nonneg (first left) (second right)

theorem mul (first : NotNegative a scope f) (second : NotNegative a scope g) :
    NotNegative a scope (.mul f g) := by
  intro x evaluated
  obtain ⟨y, left, rest⟩ := bind_eq_ok_iff.1 evaluated
  obtain ⟨z, right, same⟩ := bind_eq_ok_iff.1 rest
  cases same
  exact mul_nonneg (first left) (second right)

/-- A duty cycle needs a highest cycle count that is not negative to divide by. -/
theorem dutyCycle (positive : 0 ≤ a.maxCycles) (inner : NotNegative a scope f) :
    NotNegative a scope (.dutyCycle f) := by
  intro x evaluated
  obtain ⟨y, found, same⟩ := bind_eq_ok_iff.1 evaluated
  cases same
  exact Activity.dutyCycle_nonneg positive (inner found)

/-- Implicit accesses are added, if they count. -/
theorem withImplicit (first : NotNegative a scope f) (extra : NotNegative a scope g) :
    NotNegative a scope (.withImplicit f g) := by
  intro x evaluated
  obtain ⟨y, left, rest⟩ := bind_eq_ok_iff.1 evaluated
  have started := first left
  split at rest
  · obtain ⟨z, right, same⟩ := bind_eq_ok_iff.1 rest
    cases same
    exact add_nonneg started (extra right)
  · cases rest
    exact started

/-- Where a counter is missing, there is zero. -/
theorem ifPresent {name : String} (inner : NotNegative a scope f) :
    NotNegative a scope (.ifPresent name f) := by
  intro x evaluated
  unfold eval at evaluated
  split at evaluated
  · exact inner evaluated
  · cases evaluated
    exact Scalar.zero_eq.ge

theorem byPolicy (first : NotNegative a scope f) (second : NotNegative a scope g) :
    NotNegative a scope (.byPolicy f g) := by
  intro x evaluated
  unfold eval at evaluated
  split at evaluated
  · exact first evaluated
  · exact second evaluated

theorem byFraction (first : NotNegative a scope f) (second : NotNegative a scope g) :
    NotNegative a scope (.byFraction f g) := by
  intro x evaluated
  unfold eval at evaluated
  split at evaluated
  · exact first evaluated
  · exact second evaluated

/-- The fraction that is multiplied with comes from an option. -/
theorem timesFraction (part : ∀ p, a.options.inBankFraction = some p → 0 ≤ p)
    (inner : NotNegative a scope f) : NotNegative a scope (.timesFraction f) := by
  intro x evaluated
  obtain ⟨y, found, rest⟩ := bind_eq_ok_iff.1 evaluated
  have whole := inner found
  split at rest
  · rename_i fraction set
    cases rest
    exact mul_nonneg (part fraction set) whole
  · cases rest
    exact whole

end NotNegative

/-- Whether a formula makes no negative value of counters: it does not subtract, and reads
nothing but counters. The in-bank fraction of an option may be any number. -/
def keepsSign : Formula → Bool
  | .number .. | .counter _ | .maxCycles | .element _ | .elementOrZero _ | .first _ | .sum ..
  | .sumOrZero .. => true
  | .trunc f | .dutyCycle f | .ifPresent _ f => f.keepsSign
  | .add f g | .mul f g | .withImplicit f g | .byPolicy f g | .byFraction f g =>
    f.keepsSign && g.keepsSign
  | .sub .. | .timesFraction _ | .aluDutyCycle | .network _ => false

/-- By induction on the formula: each way to make a formula keeps the sign, but for the ones
that `keepsSign` leaves out. -/
theorem eval_nonneg (counted : a.NonNegative) (f : Formula) (keeps : f.keepsSign = true) :
    NotNegative a scope f := by
  induction f with
  | number | counter | maxCycles | element | elementOrZero | first | sum | sumOrZero =>
    exact notNegative_of_isCount counted _ rfl
  | trunc f ih => exact (ih keeps).trunc
  | dutyCycle f ih => exact (ih keeps).dutyCycle counted.maxCycles
  | ifPresent name f ih => exact (ih keeps).ifPresent
  | add f g first second =>
    obtain ⟨left, right⟩ := Bool.and_eq_true_iff.1 keeps
    exact (first left).add (second right)
  | mul f g first second =>
    obtain ⟨left, right⟩ := Bool.and_eq_true_iff.1 keeps
    exact (first left).mul (second right)
  | withImplicit f g first second =>
    obtain ⟨left, right⟩ := Bool.and_eq_true_iff.1 keeps
    exact (first left).withImplicit (second right)
  | byPolicy f g first second =>
    obtain ⟨left, right⟩ := Bool.and_eq_true_iff.1 keeps
    exact (first left).byPolicy (second right)
  | byFraction f g first second =>
    obtain ⟨left, right⟩ := Bool.and_eq_true_iff.1 keeps
    exact (first left).byFraction (second right)
  | sub | timesFraction | aluDutyCycle | network => cases keeps

end Formula

end ChipPower
