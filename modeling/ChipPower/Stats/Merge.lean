import ChipPower.Config.Basic
import ChipPower.Stats.Basic

/-!
Merging the results of intervals. Most statistics add up; a few describe the
whole run, and of those the latest value counts. Merging goes through the
statistics in the order of their names and stops at the first one that cannot
be merged, leaving the rest as it was.
-/

namespace ChipPower

/-! ## Result sets -/

/-- Where a component of the chip is. -/
structure TopologyEntry where
  name : String
  location : Nat
  memory : Nat
  deriving DecidableEq, Repr

/-- The results of one interval. -/
structure ResultSet (α : Type) where
  results : Stats α
  config : Config := ∅
  topology : List TopologyEntry := []
  deriving DecidableEq

/-- The results of several intervals. -/
structure MergedResult (α : Type) where
  results : Stats α := ∅
  config : Config := ∅
  topology : List TopologyEntry := []
  /-- The number of intervals merged. -/
  intervals : Nat := 0
  deriving DecidableEq

/-! ## Policies -/

/-- How a statistic is merged. -/
inductive MergePolicy
  /-- The latest value counts. -/
  | copyAsIs
  /-- The latest value counts, which should be zero. -/
  | assertZero
  /-- The values add up. -/
  | additive
  deriving DecidableEq, Repr

namespace MergePolicy

/-- The statistics that are the same over all intervals. -/
def copiedNames : List String := [
  "fs_to_cycles", "fs_to_cycles_cores", "corefreq", "ipc", "walltime", "ncores",
  "roi.ipstotal", "roi.instrs", "roi.walltime", "time.walltime", "power.NOC",
  "power.Processor", "power.NUCA", "power.DRAM", "power.Core"]

/-- The statistics that should be zero. -/
def zeroNames : List String := [
  "global.time_begin", "performance_model.elapsed_time_begin", "barrier.global_time_begin"]

/-- The policy for a statistic. -/
def ofName (name : String) : MergePolicy :=
  if name ∈ copiedNames then .copyAsIs
  else if name ∈ zeroNames then .assertZero
  else .additive

/-- The name of a policy. -/
def name : MergePolicy → String
  | .copyAsIs => "CopyAsIs"
  | .assertZero => "AssertZero"
  | .additive => "Additive"

end MergePolicy

/-! ## Merging -/

section Merging

variable {α : Type} [Add α]

/-- The value of a statistic that has one value so far and is given another. -/
def Value.mergeAs (name : String) (old new : Value α) : Except Failure (Value α) :=
  match MergePolicy.ofName name with
  | .additive => during (.mergeStatistic name) (old.add new)
  | _ => .ok new

/-- The value of a statistic that may have a value so far and is given another. -/
def Value.mergeOnto (name : String) (old : Option (Value α)) (new : Value α) :
    Except Failure (Value α) :=
  match old with
  | none => .ok new
  | some old => old.mergeAs name new

/-- Merges statistics, up to the first that cannot be merged. -/
def Stats.mergeEntries (merged : Stats α) :
    List (String × Value α) → Stats α × Option Failure
  | [] => (merged, none)
  | (name, value) :: rest =>
    match Value.mergeOnto name (merged.get? name) value with
    | .ok value => Stats.mergeEntries (merged.insert name value) rest
    | .error failure => (merged, some failure)

namespace MergedResult

/-- Merges later statistics, and takes over a later configuration and topology
unless they are empty. A failure leaves all but the statistics alone. -/
def mergeParts (merged : MergedResult α) (results : Stats α) (config : Config)
    (topology : List TopologyEntry) (intervals : Nat) : MergedResult α × Option Failure :=
  match merged.results.mergeEntries results.toList with
  | (results, some failure) => ({ merged with results }, some failure)
  | (results, none) =>
    ({ results
       config := if config.isEmpty then merged.config else config
       topology := if topology.isEmpty then merged.topology else topology
       intervals := merged.intervals + intervals }, none)

/-- Merges the results of a later interval. -/
def absorb (merged : MergedResult α) (set : ResultSet α) : MergedResult α × Option Failure :=
  merged.mergeParts set.results set.config set.topology 1

/-- Merges the results of later intervals. -/
def merge (merged later : MergedResult α) : MergedResult α × Option Failure :=
  merged.mergeParts later.results later.config later.topology later.intervals

/-- Merges the results of later intervals one after the other, up to the first
that cannot be merged. -/
def absorbAll (merged : MergedResult α) : List (ResultSet α) → MergedResult α × Option Failure
  | [] => (merged, none)
  | set :: rest =>
    match merged.absorb set with
    | (merged, none) => merged.absorbAll rest
    | stopped => stopped

end MergedResult

end Merging

end ChipPower
