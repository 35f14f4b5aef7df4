import ChipPower.Dict
import ChipPower.Failure
import ChipPower.Numeric.Scalar

/-!
Lenses: the kinds of power, or the area, that a component's record is read
for. A record holds metrics by path, and a metric that is missing counts as
zero.
-/

namespace ChipPower

/-- The metrics of a component, by path. -/
abbrev Metrics (α : Type) := Dict String α

/-- What a record is read for. -/
inductive Lens
  /-- Dynamic power at run time. -/
  | dynamic
  /-- Leakage. -/
  | static
  /-- Dynamic power at run time and leakage. -/
  | total
  /-- Peak dynamic power and leakage. -/
  | peak
  /-- Peak dynamic power. -/
  | peakDynamic
  /-- Area. -/
  | area
  /-- Dynamic power at run time of processing in cache. -/
  | pic
  deriving DecidableEq, Repr

namespace Lens

/-- All lenses. -/
def all : List Lens := [.dynamic, .static, .total, .peak, .peakDynamic, .area, .pic]

/-- The name of a lens. -/
def name : Lens → String
  | .dynamic => "dynamic"
  | .static => "static"
  | .total => "total"
  | .peak => "peak"
  | .peakDynamic => "peakdynamic"
  | .area => "area"
  | .pic => "pic"

/-- The lens of a name. -/
def ofName? (name : String) : Option Lens :=
  all.find? fun lens => lens.name == name

/-- The lens of a name that has to be one. -/
def ofName (name : String) : Except Failure Lens :=
  match ofName? name with
  | some lens => .ok lens
  | none => fail (.unknownLens name)

end Lens

section Reading

variable {α : Type} [Scalar α]

/-- The path of a metric within a structure of a component, or in the whole
component. -/
def Metrics.path (structure? : Option String) (name : String) : String :=
  match structure? with
  | some part => part ++ "/" ++ name
  | none => name

/-- A metric of a structure of a component, or of the whole component. -/
def Metrics.read (record : Metrics α) (structure? : Option String) (name : String) : α :=
  (record.get? (Metrics.path structure? name)).getD 0.0

/-- The leakage of a structure of a component, or of the whole component. -/
def Metrics.leakage (record : Metrics α) (structure? : Option String) : α :=
  record.read structure? "Subthreshold Leakage with power gating" +
    record.read structure? "Gate Leakage"

namespace Lens

/-- What a structure of a component, or the whole component, has under a lens. -/
def value (record : Metrics α) (structure? : Option String) : Lens → α
  | .dynamic => record.read structure? "Runtime Dynamic"
  | .static => record.leakage structure?
  | .total => record.read structure? "Runtime Dynamic" + record.leakage structure?
  | .peak => record.read structure? "Peak Dynamic" + record.leakage structure?
  | .peakDynamic => record.read structure? "Peak Dynamic"
  | .area => record.read structure? "Area" + record.read structure? "Area Overhead"
  | .pic => record.read structure? "Runtime PIC Dynamic"

/-- The part of it that the interconnect has, which is reported only for dynamic
power at run time. -/
def interconnect (record : Metrics α) (structure? : Option String) : Lens → α
  | .dynamic | .total => record.read structure? "Runtime IC-total Dynamic"
  | _ => 0.0

end Lens

end Reading

end ChipPower
