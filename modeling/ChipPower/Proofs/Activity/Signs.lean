import ChipPower.Proofs.Activity.InBankFraction
import ChipPower.Proofs.Activity.Network

/-!
# The signs of statistics

Three statistics subtract: the busy cycles, the integer instructions and the share of the
integer units. All others make their values of counters by adding, scaling, dividing and
cutting off, and by a fraction of the operations that stay inside a bank, if one is set. So
they are not negative where no counter is (`Formula.notNegative_of_subtracts`, by induction on
the formula), and `Activity.stat_nonneg` says so of every statistic by its name.
-/

namespace ChipPower

/-! ## The network -/

namespace Network

variable {stats : Stats Rat} {x : Rat}

theorem kind_nonneg (stats : Stats Rat) : (0 : Rat) ≤ kind stats := by
  unfold kind
  split <;> exact Scalar.ofScientific_nonneg _ _ _

/-- The requests of a direction are added up. -/
theorem linkRequests_nonneg (counted : stats.NonNegative) {direction : String}
    (found : linkRequests stats direction = .ok x) : 0 ≤ x := by
  obtain ⟨requests, required, same⟩ := bind_eq_ok_iff.1 found
  cases same
  exact (counted.lookup (Stats.require_eq_ok_iff.1 required)).sum

/-- Accesses are requests or packets, which are counted. -/
theorem accesses_nonneg (counted : stats.NonNegative) (found : accesses stats = .ok x) :
    0 ≤ x := by
  unfold accesses at found
  split at found
  · obtain ⟨requests, gathered, same⟩ := bind_eq_ok_iff.1 found
    cases same
    have nonneg : List.Forall₂ (fun n direction => 0 ≤ n ∧ linkRequests stats direction = .ok n)
        requests directions :=
      ((mapM_eq_ok_iff.1 gathered).imp fun direction n counts =>
        ⟨linkRequests_nonneg counted counts, counts⟩).flip
    rw [Scalar.sum_eq]
    exact List.sum_nonneg ((List.forall₂_and_left _ _).1 nonneg).1
  · split at found
    · obtain ⟨requests, required, same⟩ := bind_eq_ok_iff.1 found
      cases same
      exact (counted.lookup (Stats.require_eq_ok_iff.1 required)).sum
    · obtain ⟨requests, here, same⟩ := bind_eq_ok_iff.1 found
      cases same
      exact Scalar.trunc_nonneg (counted.element here)

end Network

/-! ## Formulas -/

namespace Formula

/-- Whether a formula takes one value from another. -/
def subtracts : Formula → Bool
  | .sub .. | .aluDutyCycle => true
  | .trunc f | .dutyCycle f | .ifPresent _ f | .timesFraction f => f.subtracts
  | .add f g | .mul f g | .withImplicit f g | .byPolicy f g | .byFraction f g =>
    f.subtracts || g.subtracts
  | .number .. | .counter _ | .maxCycles | .element _ | .elementOrZero _ | .first _ | .sum ..
  | .sumOrZero .. | .network _ => false

variable {a : Activity Rat} {scope : Scope}

/-- Whatever is asked of the network, it is not negative. -/
theorem notNegative_network (counted : a.NonNegative) (figure : NetworkFigure) :
    NotNegative a scope (.network figure) := by
  intro x evaluated
  cases figure with
  | kind =>
    cases evaluated
    exact Network.kind_nonneg a.stats
  | accesses => exact Network.accesses_nonneg counted.stats evaluated
  | dutyCycle => exact Network.dutyCycle_nonneg counted evaluated

/-- A formula that nowhere subtracts has no negative value, if no counter is negative and the
in-bank fraction is not either. -/
theorem notNegative_of_subtracts (counted : a.NonNegative)
    (part : ∀ p, a.options.inBankFraction = some p → 0 ≤ p) (f : Formula)
    (adds : f.subtracts = false) : NotNegative a scope f := by
  induction f with
  | number | counter | maxCycles | element | elementOrZero | first | sum | sumOrZero =>
    exact notNegative_of_isCount counted _ rfl
  | network figure => exact notNegative_network counted figure
  | trunc f ih => exact (ih adds).trunc
  | dutyCycle f ih => exact (ih adds).dutyCycle counted.maxCycles
  | ifPresent name f ih => exact (ih adds).ifPresent
  | timesFraction f ih => exact (ih adds).timesFraction part
  | add f g first second =>
    obtain ⟨left, right⟩ := Bool.or_eq_false_iff.1 adds
    exact (first left).add (second right)
  | mul f g first second =>
    obtain ⟨left, right⟩ := Bool.or_eq_false_iff.1 adds
    exact (first left).mul (second right)
  | withImplicit f g first second =>
    obtain ⟨left, right⟩ := Bool.or_eq_false_iff.1 adds
    exact (first left).withImplicit (second right)
  | byPolicy f g first second =>
    obtain ⟨left, right⟩ := Bool.or_eq_false_iff.1 adds
    exact (first left).byPolicy (second right)
  | byFraction f g first second =>
    obtain ⟨left, right⟩ := Bool.or_eq_false_iff.1 adds
    exact (first left).byFraction (second right)
  | sub | aluDutyCycle => cases adds

end Formula

/-! ## Statistics by their names -/

namespace Statistics

/-- The statistics that take one value from another. -/
def subtracting : List String := ["busy_cycles", "integer_ins", "ALU.duty_cycle"]

/-- The table of statistics, gone through once. -/
theorem subtracts_iff_mem : ∀ entry ∈ all, entry.2.subtracts = true ↔ entry.1 ∈ subtracting := by
  decide +kernel

end Statistics

namespace Activity

variable {stats : Stats Rat} {config : Config} {h : Hierarchy} {options : Options Rat}
  {a : Activity Rat}

/-- If no counter of a run is negative, and no fraction is set that is, then no statistic is
negative for any scope that it has a value for, apart from the three that subtract. -/
theorem stat_nonneg (created : ofRun stats config h options = .ok a)
    (counted : stats.NonNegative) (part : ∀ p, options.inBankFraction = some p → 0 ≤ p)
    {name : String} (adds : name ∉ Statistics.subtracting) {scope : Scope} {x : Rat}
    (evaluated : a.stat name scope = .ok x) : 0 ≤ x := by
  have counts : a.NonNegative := nonNegative_of_ofRun created counted
  obtain ⟨cores, -, rfl⟩ := ofRun_eq_ok created
  unfold stat at evaluated
  split at evaluated
  · rename_i formula known
    have listed : (name, formula) ∈ Statistics.all := mem_all_of_formula? known
    have plain : formula.subtracts = false :=
      Bool.eq_false_iff.2 fun subtracts =>
        adds ((Statistics.subtracts_iff_mem _ listed).1 subtracts)
    exact formula.notNegative_of_subtracts counts part plain evaluated
  · cases evaluated

/-- A core on a bus that ran for less than half of the time, with more floating-point operations
than instructions. -/
def floatingRun : Stats Rat :=
  .ofList [
    ("L1-D.pic_ops_copy", .list [5]),
    ("bus.num-requests", .list [7]),
    ("fs_to_cycles_cores", .list [1]),
    ("global.time", .scalar 1000),
    ("interval_timer.uop_fp_addsub", .list [150]),
    ("performance_model.elapsed_time", .list [400]),
    ("performance_model.instruction_count", .list [100])]

/-- Half of the copies stay inside a bank, which is no whole number of copies. The three
statistics that subtract are all below zero in the same run. -/
theorem stat_nonneg_floatingRun :
    ∃ a, ofRun floatingRun (.ofList [("perf_model/core/interval_timer/dispatch_width", "4")])
          soleCore { inBankFraction := some (1 / 2) } = .ok a ∧
      floatingRun.NonNegative ∧ "dcache.pic_copy_ops_in_bank" ∉ Statistics.subtracting ∧
      a.stat "dcache.pic_copy_ops_in_bank" (.unit 0) = .ok (5 / 2) ∧ (0 : Rat) ≤ 5 / 2 ∧
      Statistics.subtracting.map (a.stat · (.unit 0)) =
        [.ok (-200), .ok (-70), .ok (-11 / 480)] := by
  have shown : (do
      let a ← ofRun floatingRun
        (.ofList [("perf_model/core/interval_timer/dispatch_width", "4")]) soleCore
        { inBankFraction := some (1 / 2) }
      let copies ← a.stat "dcache.pic_copy_ops_in_bank" (.unit 0)
      let busy ← a.stat "busy_cycles" (.unit 0)
      let integer ← a.stat "integer_ins" (.unit 0)
      let share ← a.stat "ALU.duty_cycle" (.unit 0)
      return (copies, busy, integer, share)) = .ok ((5 / 2 : Rat), -200, -70, -11 / 480) := by
    decide +kernel
  simp only [bind_eq_ok_iff, pure_eq_ok_iff, Prod.mk.injEq] at shown
  obtain ⟨a, created, _, copies, _, busy, _, integer, _, share, rfl, rfl, rfl, rfl⟩ := shown
  have counted : floatingRun.NonNegative :=
    Stats.nonNegative_ofList (by norm_num [Value.NonNegative])
  have adds : "dcache.pic_copy_ops_in_bank" ∉ Statistics.subtracting := by decide
  have half : ∀ p : Rat, some (1 / 2) = some p → 0 ≤ p := by
    rintro _ ⟨⟩
    norm_num
  refine ⟨a, created, counted, adds, copies, stat_nonneg created counted half adds copies, ?_⟩
  simp only [Statistics.subtracting, List.map_cons, List.map_nil, busy, integer, share]

end Activity

end ChipPower
