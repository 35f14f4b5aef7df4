import ChipPower.Failure
import ChipPower.Numeric.Scalar
import ChipPower.Stack.Lens
import ChipPower.Stats.Markers

/-!
The options of a run.
-/

namespace ChipPower

/-- How the operands of operations inside a bank are laid out. -/
inductive BankMapPolicy
  /-- Spread over all ways of a set. -/
  | allWays
  /-- Spread over more sets. -/
  | moreSets
  deriving DecidableEq, Repr

namespace BankMapPolicy

/-- All policies. -/
def all : List BankMapPolicy := [.allWays, .moreSets]

/-- The name of a policy, with which the names of its statistics end. -/
def name : BankMapPolicy → String
  | .allWays => "all_ways"
  | .moreSets => "more_sets"

/-- The policy of a name. -/
def ofName? (name : String) : Option BankMapPolicy :=
  all.find? fun policy => policy.name == name

end BankMapPolicy

/-- The options of a run. -/
structure Options (α : Type) where
  /-- The lens of the summary. -/
  lens : Lens := .total
  bankMapPolicy : BankMapPolicy := .allWays
  /-- The fraction of the operations that stay inside a bank. If it is set, the
  in-bank counts come from it and not from counters of their own. -/
  inBankFraction : Option α := none
  /-- Whether accesses that a cache makes on its own count as accesses. -/
  implicitAccesses : Bool := false
  /-- Whether small items of a power stack stay. -/
  keepSmall : Bool := false
  markers : Markers := {}

/-- The fraction that an argument sets. A negative one sets none, and one above
1 is refused. -/
def Options.fractionOf {α : Type} [Scalar α] : Option α → Except Failure (Option α)
  | none => .ok none
  | some fraction =>
    if Scalar.less fraction 0.0 then .ok none
    else if Scalar.atMost fraction 1.0 then .ok (some fraction)
    else fail (.fractionAboveOne (Scalar.text fraction))

end ChipPower
