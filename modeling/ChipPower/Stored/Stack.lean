import ChipPower.Json.Fields
import ChipPower.Json.Writer
import ChipPower.Stack.Data

/-!
Stored power stacks, and the stored data of a stack.
-/

namespace ChipPower

open Json (Reader)

/-! ## Enumerations -/

/-- Reads a stored lens. -/
def Lens.reader : Reader Lens :=
  .variant ofName?
    "one of `dynamic`, `static`, `total`, `peak`, `peakdynamic`, `area`, `pic`"

/-- The names of the categories, as messages list them. -/
def Category.expected : String :=
  "one of " ++ String.intercalate ", " (order.map fun category => "`" ++ category.name ++ "`")

/-- The category that a key of a stored dictionary names. -/
def Category.ofKey (key : String) : Except Json.Fault Category :=
  match ofName? key with
  | some category => .ok category
  | none => .error (.unknownVariant key expected)

/-! ## Stacks -/

/-- The fields of a stored item. -/
def StackItem.fields : List (Reader.Field (StackItem Float)) := [
  .needed "label" .text fun item label => { item with label },
  .needed "value" .float fun item value => { item with value }]

/-- Reads a stored item. -/
def StackItem.reader : Reader (StackItem Float) :=
  .record "StackItem" fields { label := "", value := 0.0 }

/-- The fields of a stored unit. -/
def StackUnit.fields : List (Reader.Field (StackUnit Float)) := [
  .needed "raw" (.dictOf Category.ofKey .float) fun unit raw => { unit with raw },
  .needed "items" (.list StackItem.reader) fun unit items => { unit with items },
  .needed "total" .float fun unit total => { unit with total },
  .needed "other" .float fun unit other => { unit with other },
  .needed "scale" .float fun unit scale => { unit with scale }]

/-- Reads a stored unit. -/
def StackUnit.reader : Reader (StackUnit Float) :=
  .record "StackUnit" fields { raw := ∅, items := [], total := 0.0, other := 0.0, scale := 0.0 }

namespace PowerStack

/-- The fields of a stored power stack. -/
def fields : List (Reader.Field (PowerStack Float)) := [
  .needed "power_type" Lens.reader fun stack lens => { stack with lens },
  .needed "units" (.list StackUnit.reader) fun stack units => { stack with units }]

/-- Reads a stored power stack. -/
def reader : Reader (PowerStack Float) :=
  .record "PowerStack" fields { lens := .total, units := [] }

/-- Reads the text of a stored power stack. -/
def ofText (text : String) : Except Json.Error (PowerStack Float) :=
  reader.run text

end PowerStack

/-! ## Data -/

/-- The text of a stored unit of data. -/
def StackData.storeUnit (unit : Dict String Float) : String :=
  Json.writeObject (unit.toList.map fun (label, x) => (label, Json.writeFloat x))

/-- The text of stored data of a stack. -/
def StackData.store (data : StackData Float) : String :=
  Json.writeObject [
    ("power_type", Json.writeString data.lens.name),
    ("labels", Json.writeList (data.labels.map Json.writeString)),
    ("data", Json.writeList (data.units.map storeUnit)),
    ("ncores", toString data.cores),
    ("time_s", Json.writeFloat data.seconds)]

end ChipPower
