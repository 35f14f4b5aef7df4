import ChipPower.Stack.Aggregate

/-!
The data of a stack, as plotting tools take it: the energy of each item during a
run, or its area under the area lens, and the labels in the order in which they
first appear.
-/

namespace ChipPower

/-- The data of a stack. -/
structure StackData (α : Type) where
  lens : Lens
  labels : List String
  /-- The values of each unit, by label. -/
  units : List (Dict String α)
  cores : Nat
  seconds : α

namespace StackData

/-- Adds a label that is not there yet. -/
def addLabel (labels : List String) (label : String) : List String :=
  if label ∈ labels then labels else labels ++ [label]

variable {α : Type} [Scalar α]

/-- The energy of an item during a time, or its area. -/
def quantity (lens : Lens) (seconds : α) (item : StackItem α) : α :=
  if lens = .area then item.value else item.value * seconds

/-- The values of a unit, by label. -/
def unitData (lens : Lens) (seconds : α) (unit : StackUnit α) : Dict String α :=
  Dict.ofList (unit.items.map fun item => (item.label, quantity lens seconds item))

/-- The data of a stack of a chip during a time. -/
def ofStack (stack : PowerStack α) (cores : Nat) (seconds : α) : StackData α where
  lens := stack.lens
  labels := ((stack.units.flatMap (·.items)).map (·.label)).foldl addLabel []
  units := stack.units.map (unitData stack.lens seconds)
  cores := cores
  seconds := seconds

end StackData

end ChipPower
