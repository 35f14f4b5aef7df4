import ChipPower.Memory
import ChipPower.Proofs.Nuca.Banks
import Mathlib.Algebra.BigOperators.Ring.Finset
import Mathlib.Algebra.Order.BigOperators.Group.List

/-!
# The traffic of the main memory

Each memory controller counts its reads and writes. The power of the memory is computed from
those of all controllers (`MemoryPower.ofRun_eq`), and the estimator input has the whole part
of what the first one counted. The two agree exactly if the other controllers do not change
that whole part, and as counters are whole numbers, this is to say that they had nothing to
do (`Activity.countsTraffic_iff`).
-/

namespace ChipPower

/-! ## What power is computed from -/

/-- The reads and writes of the main memory. -/
structure Traffic (α : Type) where
  reads : α
  writes : α
  deriving DecidableEq, Repr

section Power

variable {α : Type} [Scalar α]

/-- The traffic of all memory controllers. -/
def Traffic.ofStats (stats : Stats α) : Except Failure (Traffic α) := do
  let reads ← stats.require "dram.reads"
  let writes ← stats.require "dram.writes"
  return { reads := reads.sum, writes := writes.sum }

/-- The power of the memory is that of the traffic of all its controllers. -/
theorem MemoryPower.ofRun_eq (stats : Stats α) (config : Config) :
    ofRun stats config = (do
      let memory ← during .readMemoryConfig (MemoryConfig.ofConfig config)
      let traffic ← Traffic.ofStats stats
      let seconds ← elapsedSeconds stats
      return ofTraffic traffic.reads traffic.writes seconds memory) := by
  simp only [ofRun, Traffic.ofStats, bind_assoc, pure_bind]

end Power

/-! ## The first controller -/

/-- Further numbers do not change the whole part of a number that they are added to. -/
def Settles (first : Rat) (rest : List Rat) : Prop :=
  Scalar.trunc (first + rest.sum) = Scalar.trunc first

theorem Scalar.trunc_natCast (n : Nat) : Scalar.trunc (n : Rat) = n := by
  change (((n : Rat).num.tdiv (n : Rat).den : Int) : Rat) = n
  simp

/-- Only zeros leave the whole part of a sum of counters as it is. -/
theorem settles_natCast_iff (first : Nat) (rest : List Nat) :
    Settles first (rest.map Nat.cast) ↔ ∀ n ∈ rest, n = 0 := by
  rw [Settles, ← Nat.cast_list_sum, ← Nat.cast_add, Scalar.trunc_natCast, Scalar.trunc_natCast,
    Nat.cast_inj, Nat.add_eq_left, List.sum_eq_zero_iff]

theorem Stats.element_zero_eq_ok_iff {stats : Stats Rat} {name : String} {x : Rat} :
    stats.element name 0 = .ok x ↔ ∃ rest, stats.get? name = some (.list (x :: rest)) := by
  simp only [element, require]
  rcases stats.get? name with _ | y | _ | ⟨first, rest⟩
  all_goals simp [Value.get?, fail, bind, Except.bind, pure, Except.pure]

namespace Activity

variable {a : Activity Rat} {scope : Scope}

/-- A statistic that is a first element has a value if there is such an element. -/
theorem stat_first_eq_ok_iff {name counter : String} {x : Rat}
    (known : Statistics.formula? name = some (.trunc (.first counter))) :
    a.stat name scope = .ok x ↔
      ∃ first rest, a.stats.get? counter = some (.list (first :: rest)) ∧
        Scalar.trunc first = x := by
  rw [stat_eq_eval known, eval_trunc_eq_ok_iff]
  simp only [Formula.eval, Stats.element_zero_eq_ok_iff, exists_and_right]

/-- The estimator is given the whole part of what the first memory controller counted, and
the power of the memory is that of all controllers. They count the same if the others do not
change the whole part, which for whole numbers means that they counted nothing. -/
theorem countsTraffic_iff {config : Config} {power : MemoryPower Rat} {r w : Rat}
    (powered : MemoryPower.ofRun a.stats config = .ok power)
    (read : a.stat "memory.reads" scope = .ok r)
    (written : a.stat "memory.writes" scope = .ok w) :
    a.stat "memory.accesses" scope = .ok (r + w) ∧
      ∃ traffic memory seconds x xs y ys,
        Traffic.ofStats a.stats = .ok traffic ∧
        power = .ofTraffic traffic.reads traffic.writes seconds memory ∧
        a.stats.get? "dram.reads" = some (.list (x :: xs)) ∧ r = Scalar.trunc x ∧
        a.stats.get? "dram.writes" = some (.list (y :: ys)) ∧ w = Scalar.trunc y ∧
        (r = Scalar.trunc traffic.reads ∧ w = Scalar.trunc traffic.writes ↔
          Settles x xs ∧ Settles y ys) ∧
        ∀ (m n : Nat) (ms ns : List Nat),
          x :: xs = (m :: ms).map Nat.cast → y :: ys = (n :: ns).map Nat.cast →
          (r = Scalar.trunc traffic.reads ∧ w = Scalar.trunc traffic.writes ↔
            ∀ count ∈ ms ++ ns, count = 0) := by
  have accesses : a.stat "memory.accesses" scope = .ok (r + w) := by
    rw [stat_eq_eval rfl] at read written ⊢
    exact eval_add_eq_ok_iff.2 ⟨r, w, read, written, rfl⟩
  obtain ⟨x, xs, reads, rfl⟩ := (stat_first_eq_ok_iff rfl).1 read
  obtain ⟨y, ys, writes, rfl⟩ := (stat_first_eq_ok_iff rfl).1 written
  have traffic : Traffic.ofStats a.stats = .ok ⟨x + xs.sum, y + ys.sum⟩ := by
    simp only [Traffic.ofStats, Stats.require, reads, writes]
    rw [← List.sum_cons, ← List.sum_cons, ← Scalar.sum_eq, ← Scalar.sum_eq]
    rfl
  simp only [MemoryPower.ofRun_eq, bind_eq_ok_iff, pure_eq_ok_iff] at powered
  obtain ⟨memory, -, counted, found, seconds, -, rfl⟩ := powered
  cases traffic.symm.trans found
  have settled : Scalar.trunc x = Scalar.trunc (x + xs.sum) ∧
      Scalar.trunc y = Scalar.trunc (y + ys.sum) ↔ Settles x xs ∧ Settles y ys :=
    and_congr eq_comm eq_comm
  refine ⟨accesses, _, memory, seconds, x, xs, y, ys, found, rfl, reads, rfl, writes, rfl,
    settled, ?_⟩
  intro m n ms ns wholeReads wholeWrites
  cases wholeReads
  cases wholeWrites
  rw [settled, settles_natCast_iff, settles_natCast_iff, List.forall_mem_append]

/-- A run with memory controllers on a chip of one core. -/
def controllerRun (reads writes : List Rat) : Stats Rat :=
  .ofList [
    ("dram.reads", .list reads),
    ("dram.writes", .list writes),
    ("fs_to_cycles_cores", .list [1]),
    ("global.time", .scalar 0),
    ("performance_model.elapsed_time", .list [0]),
    ("performance_model.instruction_count", .list [0])]

def controllerConfig : Config :=
  .ofList [("perf_model/dram/num_controllers", "2")]

/-- The second of two memory controllers had nothing to do. -/
theorem countsTraffic_iff_idle :
    ∃ (a : Activity Rat) (power : MemoryPower Rat) (traffic : Traffic Rat),
      Activity.ofRun (controllerRun [5, 0] [2, 0]) ∅ Nuca.sliceChip {} = .ok a ∧
      MemoryPower.ofRun a.stats controllerConfig = .ok power ∧
      Traffic.ofStats a.stats = .ok traffic ∧
      a.stat "memory.accesses" .system = .ok (5 + 2) ∧
      5 = Scalar.trunc traffic.reads ∧ 2 = Scalar.trunc traffic.writes := by
  have shown : (do
      let a ← Activity.ofRun (controllerRun [5, 0] [2, 0]) ∅ Nuca.sliceChip {}
      let reads ← a.stat "memory.reads" .system
      let writes ← a.stat "memory.writes" .system
      return (reads, writes)) = .ok (5, 2) := by
    decide +kernel
  simp only [bind_eq_ok_iff, pure_eq_ok_iff, Prod.mk.injEq] at shown
  obtain ⟨a, created, _, read, _, written, rfl, rfl⟩ := shown
  have stats : a.stats = controllerRun [5, 0] [2, 0] := by
    obtain ⟨cores, -, rfl⟩ := Activity.ofRun_eq_ok created
    rfl
  have powered : (MemoryPower.ofRun a.stats controllerConfig).isOk = true := by
    rw [stats]
    decide +kernel
  obtain ⟨power, result⟩ := isOk_iff.1 powered
  obtain ⟨accesses, traffic, memory, seconds, x, xs, y, ys, found, -, reads, -, writes, -, -,
    whole⟩ := countsTraffic_iff result read written
  have lists : (controllerRun [5, 0] [2, 0]).get? "dram.reads" = some (.list [5, 0]) ∧
      (controllerRun [5, 0] [2, 0]).get? "dram.writes" = some (.list [2, 0]) := by
    decide +kernel
  rw [stats, lists.1, Option.some.injEq, Value.list.injEq] at reads
  rw [stats, lists.2, Option.some.injEq, Value.list.injEq] at writes
  refine ⟨a, power, traffic, created, result, found, accesses, ?_⟩
  exact (whole 5 2 [0] [0] reads.symm writes.symm).2 (by decide)

/-- The estimator is told of what the first of two memory controllers did, and of nothing
that the second one did. -/
theorem second_controller_uncounted :
    (MemoryPower.ofRun (controllerRun [4, 6] [5, 0]) controllerConfig).isOk = true ∧
      Traffic.ofStats (controllerRun [4, 6] [5, 0]) = .ok ⟨10, 5⟩ ∧
      (do
        let a ← Activity.ofRun (controllerRun [4, 6] [5, 0]) ∅ Nuca.sliceChip {}
        let reads ← a.stat "memory.reads" .system
        let writes ← a.stat "memory.writes" .system
        let accesses ← a.stat "memory.accesses" .system
        return (reads, writes, accesses)) = .ok (4, 5, 9) := by
  decide +kernel

end Activity

end ChipPower
