import ChipPower.Json.Fields
import ChipPower.Stats.Merge

/-!
Stored result sets: the statistics of an interval, the configuration and the
topology.
-/

namespace ChipPower

open Json (Reader)

/-- The value of a document: a number, or a list of numbers. -/
def Value.ofJson? : Json → Option (Value Float)
  | .number n => n.float?.map .scalar
  | .array elements => do
    return .list (← elements.mapM fun
      | .number n => n.float?
      | _ => none)
  | _ => none

/-- How deep lists and objects may be nested in a value, which is itself within two
objects. -/
def Value.maxDepth : Nat := Reader.maxDepth - 2

/-- Reads a stored value. It is read as a whole before its form is looked at. -/
def Value.reader : Reader (Value Float) := do
  match ofJson? (← Reader.any maxDepth) with
  | some value => return value
  | none => Reader.refuse (.noVariant "Value")

/-- The fields of a stored entry of a topology. -/
def TopologyEntry.fields : List (Reader.Field TopologyEntry) := [
  .needed "name" .text fun entry name => { entry with name },
  .needed "location" .natural fun entry location => { entry with location },
  .needed "memory" .natural fun entry memory => { entry with memory }]

/-- Reads a stored entry of a topology. -/
def TopologyEntry.reader : Reader TopologyEntry :=
  .record "TopologyEntry" fields { name := "", location := 0, memory := 0 }

namespace ResultSet

/-- The fields of a stored result set. -/
def fields : List (Reader.Field (ResultSet Float)) := [
  .needed "results" (.dict Value.reader) fun set results => { set with results },
  .optional "config" (.dict .text) fun set config => { set with config },
  .optional "topology" (.list TopologyEntry.reader) fun set topology => { set with topology }]

/-- Reads a stored result set. -/
def reader : Reader (ResultSet Float) :=
  .record "ResultSet" fields { results := ∅, config := ∅, topology := [] }

/-- Reads the text of a stored result set. -/
def ofText (text : String) : Except Json.Error (ResultSet Float) :=
  reader.run text

end ResultSet

end ChipPower
