/-!
What a value belongs to: one core or cache bank, or the whole system.
-/

namespace ChipPower

/-- What a field or statistic is evaluated for. -/
inductive Scope
  /-- A core or a cache bank, by its number. -/
  | unit (index : Nat)
  | system
  deriving DecidableEq, Repr

namespace Scope

/-- The number of the core or bank. -/
def core? : Scope → Option Nat
  | .unit index => some index
  | .system => none

/-- The name of a scope in messages. -/
def label : Scope → String
  | .unit index => "#" ++ toString index
  | .system => "system"

end Scope

end ChipPower
