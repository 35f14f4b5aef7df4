import ChipPower.Config.Field
import ChipPower.Hierarchy.Basic
import ChipPower.Options

/-!
The activity of a run: its statistics with what every formula derives from them
for each core, and the highest cycle count, to which duty cycles relate.
-/

namespace ChipPower

/-! ## Counters of a core -/

/-- What is derived from the statistics for one core. -/
structure CoreCounters (α : Type) where
  instructions : α
  /-- Cycles for each femtosecond. -/
  cyclesScale : α
  cycles : α
  idleCycles : α
  fpInstructions : α
  fpMulDiv : α
  branchInstructions : α
  /-- Accesses to the integer units. -/
  intAccesses : α

/-- The kinds of micro-operations, with the fraction of the instructions that is
taken for each if no core model counted them. -/
inductive MicroOp
  | fpAddSub
  | fpMulDiv
  | branch
  | load
  | store
  | generic
  deriving DecidableEq, Repr

namespace MicroOp

/-- The name of a kind in statistics. -/
def name : MicroOp → String
  | .fpAddSub => "uop_fp_addsub"
  | .fpMulDiv => "uop_fp_muldiv"
  | .branch => "uop_branch"
  | .load => "uop_load"
  | .store => "uop_store"
  | .generic => "uop_generic"

variable {α : Type} [Scalar α]

/-- The assumed fraction of the instructions. -/
def fraction : MicroOp → α
  | .fpAddSub => 0.05
  | .fpMulDiv => 0.05
  | .branch => 0.15
  | .load => 0.25
  | .store => 0.10
  | .generic => 0.40

/-- The count of a kind of micro-operation on a core: as the interval model
counted it, else as the reorder-buffer model did, else estimated. -/
def count (stats : Stats α) (core : Nat) (instructions : α) (op : MicroOp) :
    Except Failure α :=
  if stats.contains ("interval_timer." ++ op.name) then
    stats.element ("interval_timer." ++ op.name) core
  else if stats.contains ("rob_timer." ++ op.name) then
    stats.element ("rob_timer." ++ op.name) core
  else .ok (instructions * op.fraction)

end MicroOp

section Cores

variable {α : Type} [Scalar α]

/-- The counters of a core. The time that a core is idle is what the run took
longer than the core; a simulator's own idle time is not reliable over short
intervals. -/
def CoreCounters.ofStats (stats : Stats α) (globalTime : α) (core : Nat) :
    Except Failure (CoreCounters α) := do
  let cyclesScale ← stats.element "fs_to_cycles_cores" core
  let instructions ← stats.element "performance_model.instruction_count" core
  let elapsed ← stats.element "performance_model.elapsed_time" core
  let count := MicroOp.count stats core instructions
  let fpMulDiv ← count .fpMulDiv
  let fpAddSub ← count .fpAddSub
  let branchInstructions ← count .branch
  let loads ← count .load
  let stores ← count .store
  let generic ← count .generic
  return {
    instructions, cyclesScale, fpMulDiv, branchInstructions
    cycles := cyclesScale * elapsed
    idleCycles := cyclesScale * Scalar.max 0.0 (globalTime - elapsed)
    fpInstructions := fpAddSub + fpMulDiv
    intAccesses := loads + stores + generic }

/-- The highest cycle count, or 1 if no core ran. -/
def CoreCounters.maxCycles (cores : List (CoreCounters α)) : α :=
  let highest := (cores.map (·.cycles)).foldl Scalar.max 0.0
  if Scalar.isZero highest then 1.0 else highest

end Cores

/-! ## The activity of a run -/

/-- A run, as formulas see it. -/
structure Activity (α : Type) where
  stats : Stats α
  config : Config
  hierarchy : Hierarchy
  options : Options α
  cores : List (CoreCounters α)
  maxCycles : α

/-- The cores whose elements make up the value of a bank or core. -/
inductive Sharing
  /-- Only the core itself. -/
  | own
  /-- The cores that share the L2 bank. -/
  | l2
  /-- The cores that share the L3 bank. -/
  | l3
  deriving DecidableEq, Repr

namespace Activity

variable {α : Type} [Scalar α]

/-- The activity of a run. Every core needs its cycle length, its instruction
count and its elapsed time. -/
def ofRun (stats : Stats α) (config : Config) (hierarchy : Hierarchy) (options : Options α) :
    Except Failure (Activity α) := do
  let _ ← stats.coreList "fs_to_cycles_cores" hierarchy.cores
  let _ ← stats.coreList "performance_model.instruction_count" hierarchy.cores
  let _ ← stats.coreList "performance_model.elapsed_time" hierarchy.cores
  let globalTime ← stats.scalar "global.time"
  let cores ← during .coreCounters
    ((List.range hierarchy.cores).mapM (CoreCounters.ofStats stats globalTime))
  return { stats, config, hierarchy, options, cores, maxCycles := CoreCounters.maxCycles cores }

/-- An activity is that of its run, with the counters of every core. -/
theorem ofRun_eq_ok {stats : Stats α} {config : Config} {hierarchy : Hierarchy}
    {options : Options α} {a : Activity α} (created : ofRun stats config hierarchy options = .ok a) :
    ∃ cores, cores.length = hierarchy.cores ∧
      a = ⟨stats, config, hierarchy, options, cores, CoreCounters.maxCycles cores⟩ := by
  simp only [ofRun, bind_eq_ok_iff] at created
  obtain ⟨-, -, -, -, -, -, time, -, cores, counted, same⟩ := created
  cases same
  have length := length_of_mapM_eq_ok (during_eq_ok_iff.1 counted)
  exact ⟨cores, length.trans List.length_range, rfl⟩

/-- The configuration and the options of a run are kept for later and have no part in what an
activity is otherwise. -/
theorem ofRun_withSettings {stats : Stats α} {config : Config} {hierarchy : Hierarchy}
    {options : Options α} {a : Activity α}
    (created : ofRun stats config hierarchy options = .ok a) (changed : Config)
    (others : Options α) :
    ofRun stats changed hierarchy others =
      .ok { a with config := changed, options := others } := by
  simp only [ofRun, bind_eq_ok_iff] at created ⊢
  obtain ⟨xs, scales, ys, instructions, zs, elapsed, time, timed, cores, counted, same⟩ := created
  cases same
  exact ⟨xs, scales, ys, instructions, zs, elapsed, time, timed, cores, counted, rfl⟩

variable (a : Activity α)

omit [Scalar α] in
/-- The core or bank of a scope. -/
def core (scope : Scope) : Except Failure Nat :=
  match scope.core? with
  | some core => .ok core
  | none => fail .onlyPerCore

/-- The counters of the core of a scope. -/
def counters (scope : Scope) : Except Failure (CoreCounters α) := do
  let core ← core scope
  match a.cores[core]? with
  | some counters => return counters
  | none => fail (.coreOutOfRange core a.cores.length)

/-- The range of the cores whose elements make up the value of a scope. -/
def sharers (sharing : Sharing) (scope : Scope) : Except Failure (Nat × Nat) := do
  let core ← core scope
  match sharing with
  | .own => return (core, core + 1)
  | .l2 => return a.hierarchy.l2Range core
  | .l3 => return a.hierarchy.l3Range core

/-- The fraction of the highest cycle count that was active, at most 1. -/
def dutyCycle (active : α) : α :=
  Scalar.min (active / a.maxCycles) 1.0

end Activity

end ChipPower
