import ChipPower.Json.Fields
import ChipPower.Json.Writer
import ChipPower.Report.Tree

/-!
Stored component trees: an object with a record for each component that is
unique, and a list of records for each that a chip has several of.
-/

namespace ChipPower

/-! ## Writing -/

/-- The text of stored metrics. -/
def Metrics.store (record : Metrics Float) : String :=
  Json.writeObject (record.toList.map fun (path, x) => (path, Json.writeFloat x))

/-- The text of a stored component. -/
def Component.store : Component Float → String
  | .single record => record.store
  | .instances records => Json.writeList (records.map Metrics.store)

/-- The text of a stored component tree. -/
def Tree.store (tree : Tree Float) : String :=
  Json.writeObject (tree.toList.map fun (label, component) => (label, component.store))

/-! ## Reading -/

open Json (Reader)

/-- The metrics of a document: an object of numbers. -/
def Metrics.ofJson? : Json → Option (Metrics Float)
  | .object members => do
    return Dict.ofList (← members.mapM fun
      | (path, .number n) => do return (path, ← n.float?)
      | _ => none)
  | _ => none

/-- The component of a document: metrics, or a list of them. -/
def Component.ofJson? : Json → Option (Component Float)
  | .array records => (records.mapM Metrics.ofJson?).map .instances
  | j => (Metrics.ofJson? j).map .single

/-- How deep lists and objects may be nested in a component, which is itself within
an object. -/
def Component.maxDepth : Nat := Reader.maxDepth - 1

/-- Reads a stored component. It is read as a whole before its form is looked at. -/
def Component.reader : Reader (Component Float) := do
  match ofJson? (← Reader.any maxDepth) with
  | some component => return component
  | none => Reader.refuse (.noVariant "Component")

/-- Reads a stored component tree. -/
def Tree.reader : Reader (Tree Float) :=
  .dict Component.reader

/-- Reads the text of a stored component tree. -/
def Tree.ofText (text : String) : Except Json.Error (Tree Float) :=
  reader.run text

end ChipPower
