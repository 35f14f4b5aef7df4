import ChipPower.Numeric.SiPrefix
import ChipPower.Stack.Aggregate

/-!
The summary of a stack as a table: a row for each item with its power, its
energy and its share, and below them the sums over the core, the caches and the
whole chip. Under the area lens the rows show areas.
-/

namespace ChipPower.PowerStack

variable {α : Type} [Scalar α]

/-- A number in a column. -/
def column (x : α) : String :=
  Decimal.padLeft 6 (Scalar.fixed 4 x)

/-- The share of a value in a total, in percent. -/
def share (value total : α) : α :=
  if Scalar.isZero total then 0.0 else 100.0 * value / total

/-- A row of the table. -/
def row (lens : Lens) (seconds : α) (name : String) (value total : α) : String :=
  let head := "  " ++ Decimal.padRight 12 name ++ "    " ++ column value
  let foot := column (share value total) ++ "%\n"
  if lens = .area then head ++ " mm^2   " ++ foot
  else
    let energy := Prefixed.ofValue (value * seconds)
    head ++ " W   " ++ column energy.mantissa ++ " " ++ energy.unit.symbol ++ "J    " ++ foot

/-- The head of the table. -/
def header (lens : Lens) : String :=
  if lens = .area then "                         Area    Area %\n"
  else "                     Power     Energy    Energy %\n"

/-- The sum of the items whose categories satisfy `p`. -/
def sumOf (p : Category → Bool) (items : List (StackItem α)) : α :=
  ((items.filter fun item => item.category?.any p).map (·.value)).foldl (· + ·) 0.0

/-- The rows of a unit. -/
def unitRows (lens : Lens) (seconds : α) (unit : StackUnit α) : String :=
  let row := fun name value => row lens seconds name value unit.total
  String.join (unit.items.map fun item => row item.label item.value) ++ "\n" ++
    row "core" (sumOf Category.isCore unit.items) ++
    row "cache" (sumOf Category.isCache unit.items) ++
    row "total" unit.total

/-- The table of a stack during a time. -/
def summary (stack : PowerStack α) (seconds : α) : String :=
  header stack.lens ++ String.join (stack.units.map (unitRows stack.lens seconds))

end ChipPower.PowerStack
