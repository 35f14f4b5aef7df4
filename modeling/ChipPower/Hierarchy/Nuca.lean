import ChipPower.Hierarchy.Basic
import ChipPower.Options

/-!
Mapping a NUCA cache onto the level whose place it takes: the level's
configuration and statistics become those of the NUCA cache. The mapping is a
list of assignments to configuration keys and one to statistics, all computed
from the state before; it stops at the first one that has no value.
-/

namespace ChipPower

/-- Assignments to the keys of a dictionary, some of which may have no value. -/
abbrev Assignments (β : Type) := List (String × Except Failure β)

/-- Carries out assignments, up to the first without a value. -/
def Dict.assign {β : Type} (d : Dict String β) :
    Assignments β → Dict String β × Option Failure
  | [] => (d, none)
  | (key, .ok value) :: rest => (d.insert key value).assign rest
  | (_, .error failure) :: _ => (d, some failure)

namespace Nuca

/-! ## Configuration -/

/-- The assignments to the configuration of a level. -/
def configAssignments (level : CacheLevel) (config : Config) : Assignments String :=
  let below := fun key => level.configSection ++ "/" ++ key
  [(below "data_access_time", config.require "perf_model/nuca/data_access_time" none),
   (below "associativity", config.require "perf_model/nuca/associativity" none),
   (below "cache_block_size", config.require "perf_model/l2_cache/cache_block_size" none),
   (below "cache_size", config.require "perf_model/nuca/cache_size" none),
   (below "writeback_time", .ok "0"),
   (below "dvfs_domain", .ok "global")]

/-! ## Statistics -/

section Statistics

variable {α : Type} [Scalar α]

/-- The loads of the cache. A dirty eviction causes a read, which counts as one
if implicit accesses do. -/
def loads (options : Options α) (stats : Stats α) : Except Failure (Value α) := do
  let reads ← stats.require "nuca-cache.reads"
  if options.implicitAccesses then reads.add (← stats.require "nuca-cache.dirty_evicts")
  else return reads

/-- The counters of processing in cache. -/
structure PicCounters (α : Type) where
  copies : Value α
  /-- Compares and searches. -/
  compares : Value α
  keyWrites : Value α

/-- The counters of processing in cache, of which all have to be there. -/
def picCounters (stats : Stats α) : Except Failure (PicCounters α) := do
  let copies ← stats.require "nuca-cache.pic_ops_copy"
  let compares ← stats.require "nuca-cache.pic_ops_cmp"
  let compares ← compares.add (← stats.require "nuca-cache.pic_ops_search")
  let keyWrites ← stats.require "nuca-cache.pic_key_writes"
  return { copies, compares, keyWrites }

/-- The operations that stay inside a bank. -/
def inBank (options : Options α) (operations : Value α) : Value α :=
  match options.inBankFraction with
  | some fraction => operations.map (· * fraction)
  | none => operations

/-- The assignments to the counters of processing in cache. -/
def picAssignments (label : String) (options : Options α) (stats : Stats α) :
    Assignments (Value α) :=
  let policy := options.bankMapPolicy.name
  match picCounters stats with
  | .error failure => [(label ++ ".pic_ops_copy", .error failure)]
  | .ok counters =>
    [(label ++ ".pic_ops_in_bank_copy_" ++ policy, .ok (inBank options counters.copies)),
     (label ++ ".pic_ops_in_bank_cmp_" ++ policy, .ok (inBank options counters.compares)),
     (label ++ ".pic_ops_copy", .ok counters.copies),
     (label ++ ".pic_ops_cmp", .ok counters.compares),
     (label ++ ".pic_key_writes", .ok counters.keyWrites)]

/-- The assignments to the statistics of a level. -/
def statAssignments (level : CacheLevel) (options : Options α) (stats : Stats α) :
    Assignments (Value α) :=
  let label := level.label
  [(label ++ ".loads", loads options stats),
   (label ++ ".stores", stats.require "nuca-cache.writes"),
   (label ++ ".load-misses", stats.require "nuca-cache.read-misses"),
   (label ++ ".store-misses", stats.require "nuca-cache.write-misses")] ++
  if stats.contains "nuca-cache.pic_ops_copy" then picAssignments label options stats else []

end Statistics

/-! ## The mapping -/

/-- A configuration and statistics, after as much of a mapping as went well. -/
structure Mapped (α : Type) where
  config : Config
  stats : Stats α
  failure : Option Failure := none

/-- Maps the NUCA cache onto a level. -/
def mapOnto {α : Type} [Scalar α] (level : CacheLevel) (options : Options α) (config : Config)
    (stats : Stats α) : Mapped α :=
  match config.assign (configAssignments level config) with
  | (config, some failure) => { config, stats, failure := some failure }
  | (config, none) =>
    let (stats, failure) := stats.assign (statAssignments level options stats)
    { config, stats, failure }

end Nuca

/-- Maps the NUCA cache onto its level, if it has one. -/
def Hierarchy.mapNuca {α : Type} [Scalar α] (h : Hierarchy) (options : Options α)
    (config : Config) (stats : Stats α) : Nuca.Mapped α :=
  match h.nucaLevel with
  | some level => Nuca.mapOnto level options config stats
  | none => { config, stats }

end ChipPower
