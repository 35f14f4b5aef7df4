import ChipPower.Activity.Statistic
import ChipPower.Activity.Geometry

/-!
An overview of an activity for people who look for mistakes in it: how many
formulas there are, and what the cores did.
-/

namespace ChipPower.Activity

variable {α : Type} [Scalar α]

/-- The line of a core. -/
def overviewLine (number : Nat) (core : CoreCounters α) : String :=
  "\n\t#" ++ toString number ++ ": " ++ Scalar.text core.instructions ++ " instructions, " ++
    Scalar.text core.cycles ++ " cycles (" ++ Scalar.text core.idleCycles ++ " idle)"

/-- The overview of an activity. -/
def overview (a : Activity α) : String :=
  toString a.cores.length ++ " cores, " ++ Scalar.text a.maxCycles ++ " max cycles, " ++
    toString Statistics.all.length ++ " statistic formulas, " ++
    toString CacheTuple.all.length ++ " tuple formulas" ++
    String.join (a.cores.mapIdx overviewLine)

end ChipPower.Activity
