import ChipPower.Config.Basic

/-!
Fields of the estimator input that come straight from the configuration:
clocks, supply voltages and widths. A cache runs in the clock and voltage domain
of its core or in that of the whole system.
-/

namespace ChipPower.Config

/-- A field that the configuration determines. -/
inductive Field
  | coreClock
  | coreVdd
  | issueWidth
  | peakIssueWidth
  | aluPerCore
  | windowSize
  | machineType
  | l2Clock
  | l3Clock
  | nocClock
  | l2Vdd
  | l3Vdd
  | nocVdd
  deriving DecidableEq, Repr

namespace Field

/-- All fields. -/
def all : List Field := [
  .coreClock, .coreVdd, .issueWidth, .peakIssueWidth, .aluPerCore, .windowSize,
  .machineType, .l2Clock, .l3Clock, .nocClock, .l2Vdd, .l3Vdd, .nocVdd]

/-- The name of a field in templates. -/
def name : Field → String
  | .coreClock => "core_clock"
  | .coreVdd => "core_vdd"
  | .issueWidth => "issue_width"
  | .peakIssueWidth => "peak_issue_width"
  | .aluPerCore => "ALU_per_core"
  | .windowSize => "window_size"
  | .machineType => "machineType"
  | .l2Clock => "L2_clock"
  | .l3Clock => "L3_clock"
  | .nocClock => "NoC_clock"
  | .l2Vdd => "L2_vdd"
  | .l3Vdd => "L3_vdd"
  | .nocVdd => "NoC_vdd"

/-- The field of a name. -/
def ofName? (name : String) : Option Field :=
  all.find? fun field => field.name == name

/-- The field of a name that has to be one. -/
def ofName (name : String) : Except Failure Field :=
  match ofName? name with
  | some field => .ok field
  | none => fail (.unknownField name)

theorem ofName?_name (field : Field) : ofName? field.name = some field := by
  cases field <;> rfl

end Field

section Values

variable {α : Type} [Scalar α]

/-- The clock in MHz; the configuration has it in GHz. -/
def clock (config : Config) (core : Option Nat) : Except Failure α := do
  let gigahertz ← config.scalar "perf_model/core/frequency" core
  return gigahertz * 1000.0

/-- The supply voltage, zero if none is set. -/
def voltage (config : Config) (core : Option Nat) : Except Failure α :=
  config.scalarOr "power/vdd" core 0.0

/-- The number of instructions dispatched at a time. -/
def dispatchWidth (config : Config) (core : Option Nat) : Except Failure α := do
  return Scalar.ofNat (← config.word "perf_model/core/interval_timer/dispatch_width" core)

/-- The most instructions issued at a time, half as many again as dispatched. -/
def peakIssueWidth (config : Config) (core : Option Nat) : Except Failure α := do
  return Scalar.trunc ((← config.dispatchWidth core) * 1.5)

/-- The number of instructions in flight. -/
def windowSize (config : Config) (core : Option Nat) : Except Failure α := do
  return Scalar.ofNat (← config.word "perf_model/core/interval_timer/window_size" core)

/-- One for a core that issues in order, zero for all others. -/
def machineType (config : Config) (core : Option Nat) : Except Failure α := do
  let kind ← config.require "perf_model/core/type" core
  let inOrder ← config.flagOr "perf_model/core/rob_timer/in_order" core false
  return if kind = "rob" ∧ inOrder then 1.0 else 0.0

/-- A value of the domain that a cache runs in, of its core or of the whole
system. -/
def ofDomain (cache : String) (value : Config → Option Nat → Except Failure α)
    (config : Config) (core : Option Nat) : Except Failure α := do
  let key := cache ++ "/dvfs_domain"
  let domain ← config.require key core
  if domain = "core" then value config core
  else if domain = "global" then value config none
  else fail (.unknownDomain domain key)

/-- The value of a field. -/
def Field.resolve (config : Config) (scope : Scope) : Field → Except Failure α
  | .coreClock => config.clock scope.core?
  | .coreVdd => config.voltage scope.core?
  | .issueWidth => config.dispatchWidth scope.core?
  | .peakIssueWidth => config.peakIssueWidth scope.core?
  | .aluPerCore => config.peakIssueWidth scope.core?
  | .windowSize => config.windowSize scope.core?
  | .machineType => config.machineType scope.core?
  | .l2Clock => config.ofDomain "perf_model/l2_cache" clock scope.core?
  | .l3Clock => config.ofDomain "perf_model/l3_cache" clock scope.core?
  | .nocClock => config.clock none
  | .l2Vdd => config.ofDomain "perf_model/l2_cache" voltage scope.core?
  | .l3Vdd => config.ofDomain "perf_model/l3_cache" voltage scope.core?
  | .nocVdd => config.voltage none

end Values

end ChipPower.Config
