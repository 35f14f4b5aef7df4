import ChipPower.Proofs.Activity.Counts

/-!
# Duty cycles of cores and caches

A duty cycle is a share of the highest cycle count, cut at 1. Since the highest cycle count
is positive for every run, there is always something to divide by, and no such statistic is
above 1 (`Formula.isClamped`). As most of them only add up counters, they are not negative
either where no counter is (`Formula.keepsSign`). The exception are the integer units: their
share is of the instructions that are not floating-point ones, and relates to the width that
a core issues instructions with, which is checked to be positive.

`Activity.dutyCycles_bounded` puts this together, with the network as long as it is a bus.
-/

namespace ChipPower

namespace Statistics

/-- The duty cycles of the units of a core and of the shared caches. -/
def unitDutyCycles : List String := [
  "IFU.duty_cycle", "LSU.duty_cycle", "MemManU.D.duty_cycle", "MemManU.I.duty_cycle",
  "FPU.duty_cycle", "MUL.duty_cycle", "ALU.duty_cycle", "L2_duty_cycle", "L3_duty_cycle"]

end Statistics

namespace Formula

/-- Whether a formula is a duty cycle, or one if there is a statistic for it. -/
def isClamped : Formula → Bool
  | .dutyCycle _ | .aluDutyCycle => true
  | .ifPresent _ f => f.isClamped
  | _ => false

variable {a : Activity Rat} {scope : Scope} {x : Rat}

/-- The share of the integer units relates to a positive number of issue slots. -/
theorem evalAluDutyCycle_eq_ok_iff : evalAluDutyCycle a scope = .ok x ↔
    ∃ core alus, a.counters scope = .ok core ∧
      a.config.peakIssueWidth scope.core? = .ok alus ∧ 0 < alus ∧
      min ((core.instructions - core.fpInstructions) / (a.maxCycles * alus)) 1 = x := by
  have slots (core : CoreCounters Rat) (alus : Rat) :
      (if Scalar.less 0.0 alus then
        return Scalar.min ((core.instructions - core.fpInstructions) / (a.maxCycles * alus)) 1.0
      else fail .noAlus : Except Failure Rat) = .ok x ↔
        0 < alus ∧
          min ((core.instructions - core.fpInstructions) / (a.maxCycles * alus)) 1 = x := by
    rw [Scalar.less_eq, Scalar.zero_eq, Scalar.min_eq, Scalar.one_eq]
    by_cases positive : 0 < alus
    · simp [positive, pure_eq_ok_iff]
    · simp [positive, fail]
  simp only [evalAluDutyCycle, bind_eq_ok_iff, slots, exists_and_left]

theorem eval_le_one (f : Formula) (clamped : f.isClamped = true)
    (evaluated : f.eval a scope = .ok x) : x ≤ 1 := by
  induction f with
  | dutyCycle f =>
    obtain ⟨y, -, same⟩ := bind_eq_ok_iff.1 evaluated
    cases same
    exact a.dutyCycle_le_one y
  | aluDutyCycle =>
    obtain ⟨core, alus, -, -, -, rfl⟩ := evalAluDutyCycle_eq_ok_iff.1 evaluated
    exact min_le_right _ _
  | ifPresent name f ih =>
    unfold eval at evaluated
    split at evaluated
    · exact ih clamped evaluated
    · cases evaluated
      exact Scalar.zero_eq.trans_le zero_le_one
  | _ => cases clamped

end Formula

/-- Each of the duty cycles is cut at 1, and only that of the integer units subtracts. -/
theorem Statistics.exists_formula_of_mem :
    ∀ name ∈ unitDutyCycles, ∃ f, formula? name = some f ∧ f.isClamped = true ∧
      (name ≠ "ALU.duty_cycle" → f.keepsSign = true) := by
  have shapes : ∀ name ∈ unitDutyCycles, (formula? name).any fun f =>
      f.isClamped && (name == "ALU.duty_cycle" || f.keepsSign) := by
    decide +kernel
  intro name listed
  obtain ⟨f, found, shape⟩ := (Option.any_eq_true _ _).1 (shapes name listed)
  simp only [Bool.and_eq_true, Bool.or_eq_true, beq_iff_eq] at shape
  exact ⟨f, found, shape.1, shape.2.resolve_left⟩

/-! ## The network as a bus -/

namespace Network

/-- A network is a bus if there are no statistics of a mesh that its duty cycle could be
taken from. -/
def IsBus {α : Type} (stats : Stats α) : Prop :=
  stats.contains (linkStat "left" "total-time-used") = false ∧ stats.contains packets = false

variable {a : Activity Rat} {x : Rat}

theorem dutyCycle_of_isBus {α : Type} [Scalar α] {a : Activity α} (bus : IsBus a.stats) :
    dutyCycle a = busDutyCycle a := by
  simp [dutyCycle, bus.1, bus.2]

theorem busDutyCycle_le_one (evaluated : busDutyCycle a = .ok x) : x ≤ 1 := by
  obtain ⟨time, -, scaled⟩ := bind_eq_ok_iff.1 evaluated
  split at scaled
  · cases scaled
  · cases scaled
    exact a.dutyCycle_le_one _

theorem busDutyCycle_nonneg (counted : a.NonNegative) (evaluated : busDutyCycle a = .ok x) :
    0 ≤ x := by
  obtain ⟨time, used, scaled⟩ := bind_eq_ok_iff.1 evaluated
  have timeNonneg : 0 ≤ time := by
    unfold busTime at used
    split at used <;> exact counted.stats.element used
  split at scaled
  · cases scaled
  · rename_i core last
    cases scaled
    have scale := (counted.cores core (List.mem_of_getLast? last)).scale
    exact Activity.dutyCycle_nonneg counted.maxCycles (mul_nonneg scale timeNonneg)

end Network

/-! ## All duty cycles -/

namespace Activity

variable {stats : Stats Rat} {config : Config} {h : Hierarchy} {options : Options Rat}
  {a : Activity Rat}

/-- The highest cycle count of a run is positive and no core has more cycles, so that duty
cycles can relate to it. None of them is above 1, and if no counter is negative, then none
of them is, apart from that of the integer units. That one relates to the issue slots of the
core, of which there are some. -/
theorem dutyCycles_bounded (created : ofRun stats config h options = .ok a) :
    (0 < a.maxCycles ∧ a.cores.length = h.cores ∧
        ∀ core ∈ a.cores, core.cycles ≤ a.maxCycles) ∧
      (∀ scope x, a.stat "ALU.duty_cycle" scope = .ok x →
        ∃ core alus, a.counters scope = .ok core ∧
          config.peakIssueWidth scope.core? = .ok alus ∧ 0 < a.maxCycles * alus ∧
          min ((core.instructions - core.fpInstructions) / (a.maxCycles * alus)) 1 = x) ∧
      ∀ name, name ∈ Statistics.unitDutyCycles ∨ name = "NoC.duty_cycle" ∧ Network.IsBus stats →
        ∀ scope x, a.stat name scope = .ok x →
          x ≤ 1 ∧ (stats.NonNegative → name ≠ "ALU.duty_cycle" → 0 ≤ x) := by
  have highest := maxCycles_of_ofRun created
  have counts (counted : stats.NonNegative) : a.NonNegative := nonNegative_of_ofRun created counted
  obtain ⟨cores, -, rfl⟩ := ofRun_eq_ok created
  refine ⟨highest, ?alus, ?bounds⟩
  case alus =>
    intro scope x evaluated
    obtain ⟨core, alus, found, width, some, same⟩ :=
      Formula.evalAluDutyCycle_eq_ok_iff.1 evaluated
    exact ⟨core, alus, found, width, mul_pos highest.1 some, same⟩
  case bounds =>
    intro name listed scope x evaluated
    rcases listed with unit | ⟨rfl, bus⟩
    · obtain ⟨f, found, clamped, keeps⟩ := Statistics.exists_formula_of_mem name unit
      rw [stat, found] at evaluated
      exact ⟨f.eval_le_one clamped evaluated,
        fun counted other => f.eval_nonneg (counts counted) (keeps other) evaluated⟩
    · have shared : Network.busDutyCycle _ = .ok x :=
        (Network.dutyCycle_of_isBus bus).symm.trans evaluated
      exact ⟨Network.busDutyCycle_le_one shared,
        fun counted _ => Network.busDutyCycle_nonneg (counts counted) shared⟩

/-- Two cores on a bus, the second of which ran half as long as the first. -/
def busRun : Stats Rat :=
  .ofList [
    ("L2.loads", .list [100, 50]),
    ("L2.stores", .list [60, 40]),
    ("bus.time-used", .list [500]),
    ("fs_to_cycles_cores", .list [1, 1]),
    ("global.time", .scalar 2000),
    ("performance_model.elapsed_time", .list [2000, 1000]),
    ("performance_model.instruction_count", .list [3000, 1000])]

/-- Two cores that share an L2 bank. -/
def busChip : Hierarchy where
  cores := 2
  technologyNode := 45
  l2Banks := 1
  privateL2s := false
  l2Sharing := 2
  l3Banks := 0
  l3Sharing := 0
  nucaLevel := none

/-- A core that executes more than one instruction in a cycle has a duty cycle of 1. -/
theorem dutyCycles_bounded_busRun :
    ∃ a, ofRun busRun ∅ busChip {} = .ok a ∧ 0 < a.maxCycles ∧
      a.stat "IFU.duty_cycle" (.unit 0) = .ok 1 ∧ (1 : Rat) ≤ 1 ∧
      a.stat "L2_duty_cycle" (.unit 0) = .ok (1 / 8) ∧ (0 : Rat) ≤ 1 / 8 ∧
      a.stat "NoC.duty_cycle" .system = .ok (1 / 4) ∧ (0 : Rat) ≤ 1 / 4 := by
  have shown : (do
      let a ← ofRun busRun ∅ busChip {}
      let fetch ← a.stat "IFU.duty_cycle" (.unit 0)
      let bank ← a.stat "L2_duty_cycle" (.unit 0)
      let network ← a.stat "NoC.duty_cycle" .system
      return (fetch, bank, network)) = .ok (1, 1 / 8, 1 / 4) := by
    decide +kernel
  simp only [bind_eq_ok_iff, pure_eq_ok_iff, Prod.mk.injEq] at shown
  obtain ⟨a, created, _, fetch, _, bank, _, network, rfl, rfl, rfl⟩ := shown
  have counted : busRun.NonNegative := Stats.nonNegative_ofList (by decide +kernel)
  have bus : Network.IsBus busRun := ⟨by decide +kernel, by decide +kernel⟩
  obtain ⟨⟨positive, -, -⟩, -, bounds⟩ := dutyCycles_bounded created
  exact ⟨a, created, positive, fetch, (bounds _ (.inl (by decide)) _ _ fetch).1,
    bank, (bounds _ (.inl (by decide)) _ _ bank).2 counted (by decide),
    network, (bounds _ (.inr ⟨rfl, bus⟩) _ _ network).2 counted (by decide)⟩

end Activity

end ChipPower
