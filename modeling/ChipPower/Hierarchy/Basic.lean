import ChipPower.Config.Basic
import ChipPower.Stats.Merge

/-!
The cache hierarchy of a chip: how many banks each shared level has and which
cores share a bank. A non-uniform cache (NUCA) takes the place of a level that
the chip does not have, with one slice for each bank.
-/

namespace ChipPower

/-- A cache level that cores share. -/
inductive CacheLevel
  | l2
  | l3
  deriving DecidableEq, Repr

namespace CacheLevel

/-- The number of a level. -/
def number : CacheLevel → Nat
  | .l2 => 2
  | .l3 => 3

/-- The label of a level in statistics and reports. -/
def label : CacheLevel → String
  | .l2 => "L2"
  | .l3 => "L3"

/-- The level of a label. -/
def ofLabel? (label : String) : Option CacheLevel :=
  [l2, l3].find? fun level => level.label == label

/-- The configuration section of a level. -/
def configSection : CacheLevel → String
  | .l2 => "perf_model/l2_cache"
  | .l3 => "perf_model/l3_cache"

end CacheLevel

/-- The cache hierarchy of a chip. -/
structure Hierarchy where
  cores : Nat
  /-- The technology node in nm. -/
  technologyNode : Nat
  l2Banks : Nat
  privateL2s : Bool
  /-- How many cores share an L2 bank. -/
  l2Sharing : Nat
  l3Banks : Nat
  /-- How many cores share an L3 bank. -/
  l3Sharing : Nat
  /-- The level whose place NUCA takes. -/
  nucaLevel : Option CacheLevel
  deriving DecidableEq, Repr

/-! ## Banks -/

/-- The number of banks if each is shared by `sharing` cores. -/
def bankCount (cores sharing : Nat) : Except Failure Nat :=
  if sharing = 0 then fail .noSharingCores
  else .ok ((cores + sharing - 1) / sharing)

/-- The range of the cores of a bank, as its start and its end. -/
def bankRange (cores sharing bank : Nat) : Nat × Nat :=
  (min (sharing * bank) cores, min (sharing * bank + sharing) cores)

namespace Hierarchy

/-- The range of the cores of an L2 bank. -/
def l2Range (h : Hierarchy) (bank : Nat) : Nat × Nat :=
  bankRange h.cores h.l2Sharing bank

/-- The range of the cores of an L3 bank. -/
def l3Range (h : Hierarchy) (bank : Nat) : Nat × Nat :=
  bankRange h.cores h.l3Sharing bank

end Hierarchy

/-! ## Slices -/

/-- The number of slices, and of the cores that share one. -/
structure Slices where
  count : Nat
  sharing : Nat
  deriving DecidableEq, Repr

namespace Slices

/-- Slices that are interleaved at a fixed distance. -/
def interleaved (config : Config) (cores : Nat) : Except Failure Slices := do
  let sharing ← config.word "perf_model/dram_directory/interleaving" none
  let count ← during .countSlices (bankCount cores sharing)
  return { count, sharing }

/-- The locations of the slices that a topology lists, in its order. -/
def locations (topology : List TopologyEntry) : List Nat :=
  (topology.filter fun entry => entry.name == "nuca-cache").map (·.location)

/-- Slices at listed locations. Only those are supported that start at core 0
and lie one range of cores apart. `setting` is what the configuration says about
the locations. -/
def listed (setting : String) (locations : List Nat) (cores : Nat) : Except Failure Slices :=
  if locations.isEmpty then fail .noSlices
  else
    let count := locations.length
    let sharing := cores / count
    if locations = (List.range count).map (· * sharing) then .ok { count, sharing }
    else fail (.irregularSlices setting)

/-- The slices of a chip. -/
def ofConfig (config : Config) (topology : List TopologyEntry) (cores : Nat) :
    Except Failure Slices := do
  let setting ← config.require "perf_model/dram_directory/locations" none
  if setting = "interleaved" then interleaved config cores
  else listed setting (locations topology) cores

end Slices

/-! ## From the configuration -/

namespace Hierarchy

/-- The technology node if the configuration does not tell it. -/
def defaultTechnologyNode : Nat := 45

/-- Puts slices in the place of a level: of the L2 if there is none, else of the
L3. -/
def withSlices (h : Hierarchy) (slices : Slices) : Hierarchy :=
  if h.l2Banks = 0 then
    { h with l2Banks := slices.count, l2Sharing := slices.sharing, nucaLevel := some .l2 }
  else
    { h with l3Banks := slices.count, l3Sharing := slices.sharing, nucaLevel := some .l3 }

/-- The cores and L2 banks of a chip. An L2 without access time is only there to
reach the network and has no banks. -/
def withL2 (config : Config) : Except Failure Hierarchy := do
  let cores ← config.word "general/total_cores" none
  let technologyNode ←
    config.readOr Numeral.halfWord "power/technology_node" none defaultTechnologyNode
  let l2Sharing ← config.wordOr "perf_model/l2_cache/shared_cores" none 0
  let l3Sharing ← config.wordOr "perf_model/l3_cache/shared_cores" none 0
  let l2Time ← config.wordOr "perf_model/l2_cache/data_access_time" none 0
  let l2Banks ← if 0 < l2Time then during .countL2Banks (bankCount cores l2Sharing) else .ok 0
  return {
    cores, technologyNode, l2Banks, l2Sharing, l3Sharing
    privateL2s := l2Time = 0 ∨ l2Sharing = 1
    l3Banks := 0
    nucaLevel := none }

/-- The hierarchy of a chip. An L3 keeps NUCA out. -/
def ofConfig (config : Config) (topology : List TopologyEntry) : Except Failure Hierarchy := do
  let h ← withL2 config
  let levels ← config.word "perf_model/cache/levels" none
  if 3 ≤ levels then
    let l3Banks ← during .countL3Banks (bankCount h.cores h.l3Sharing)
    return { h with l3Banks }
  else if config.textOr "perf_model/nuca/enabled" none "false" = "true" then
    return h.withSlices (← Slices.ofConfig config topology h.cores)
  else return h

end Hierarchy

end ChipPower
