import ChipPower.Config.Basic
import ChipPower.Stack.Lens
import ChipPower.Stats.Basic

/-!
The power of the main memory. The estimator does not model it, so it is computed
from the number of reads and writes and from the power that one chip takes for
each of them.
-/

namespace ChipPower

/-- How the main memory is built. -/
structure MemoryConfig (α : Type) where
  sockets : α
  chipsPerDimm : α
  dimmsPerSocket : α
  /-- Whether the memory is stacked on the chip. -/
  stacked : Bool

/-- The power of the main memory, in W. -/
structure MemoryPower (α : Type) where
  dynamic : α
  static : α

namespace MemoryConfig

variable {α : Type} [Scalar α]

/-- The number of sockets, if the number of memory controllers is not given: one
for every `interleaving` cores. -/
def interleavedSockets (config : Config) : Except Failure α := do
  let cores : α ← config.scalar "general/total_cores" none
  let interleaving ← config.scalar "perf_model/dram/controllers_interleaving" none
  if Scalar.less 0.0 interleaving then return Scalar.ceil (cores / interleaving)
  else fail .badInterleaving

/-- How the memory of a configuration is built. -/
def ofConfig (config : Config) : Except Failure (MemoryConfig α) := do
  let controllers ← config.read Numeral.signedWord "perf_model/dram/num_controllers" none
  let sockets ←
    if 0 < controllers then .ok (Scalar.ofNat controllers.toNat) else interleavedSockets config
  let chipsPerDimm ← config.scalarOr "perf_model/dram/chips_per_dimm" none 8.0
  let dimmsPerSocket ← config.scalarOr "perf_model/dram/dimms_per_controller" none 4.0
  let stacked ← config.flagOr "power/3d_dram" none false
  return { sockets, chipsPerDimm, dimmsPerSocket, stacked }

/-- The number of chips. -/
def chips (memory : MemoryConfig α) : α :=
  memory.chipsPerDimm * memory.dimmsPerSocket * memory.sockets

end MemoryConfig

namespace MemoryPower

variable {α : Type} [Scalar α]

/-! ## Chips -/

/-- The power of a chip while it reads: activation, reading and data lines. -/
def reading : α := 0.388 + 0.271 + 0.019

/-- The power of a chip while it writes: activation, writing, data lines and
their termination. -/
def writing : α := 0.388 + 0.238 + 0.019 + 0.180

/-- The power of a chip at rest: standby and refresh. -/
def standby : α := 0.102 + 0.009

/-- The share of a chip in the interface of a module off the chip. -/
def offChipInterface : α := 0.175 / 8.0

/-- The share of a chip in the interface of stacked memory. -/
def stackedInterface : α := 0.00934 / 8.0

/-- The clock cycles in a time, or 1 if there are none. -/
def cycles (seconds : α) : α :=
  let cycles := seconds * 266.0 * 1e6
  if Scalar.isZero cycles then 1.0 else cycles

/-! ## The whole memory -/

/-- The power for a number of reads and writes in a time. -/
def ofTraffic (reads writes seconds : α) (memory : MemoryConfig α) : MemoryPower α :=
  let cycles := cycles seconds
  let readDuty := reads / memory.sockets / cycles
  let writeDuty := writes / memory.sockets / cycles
  let interface := if memory.stacked then stackedInterface else offChipInterface
  { dynamic := (readDuty * reading + writeDuty * writing) * memory.chips
    static := (standby + interface) * memory.chips }

/-- The metrics of the memory, as a report would list them. -/
def record (power : MemoryPower α) : Metrics α :=
  Dict.ofList [
    ("Peak Dynamic", power.dynamic),
    ("Runtime Dynamic", power.dynamic),
    ("Subthreshold Leakage", power.static),
    ("Subthreshold Leakage with power gating", power.static),
    ("Gate Leakage", 0.0),
    ("Area", 0.0)]

/-- The time of a run in seconds, as the first core counted it in
femtoseconds. -/
def elapsedSeconds (stats : Stats α) : Except Failure α := do
  return (← stats.element "performance_model.elapsed_time" 0) * 1e-15

/-- The power of the memory during a run. -/
def ofRun (stats : Stats α) (config : Config) : Except Failure (MemoryPower α) := do
  let memory ← during .readMemoryConfig (MemoryConfig.ofConfig config)
  let reads := (← stats.require "dram.reads").sum
  let writes := (← stats.require "dram.writes").sum
  let seconds ← elapsedSeconds stats
  return ofTraffic reads writes seconds memory

end MemoryPower

end ChipPower
