import ChipPower.Run.Files
import ChipPower.Stats.Markers
import ChipPower.Stored.ResultSet

/-!
Fetching result sets from a directory with one file for each interval. An
interval without a file has no result set.
-/

namespace ChipPower

/-- The path of the result set of an interval. -/
def Marker.path (directory : String) (index : Nat) : String :=
  Path.join directory (Marker.beginTag index ++ "_" ++ Marker.endTag index ++ ".json")

namespace Files

/-- The result set of an interval, if a directory has one. -/
def fetch (files : Files) (directory : String) (index : Nat) :
    Except Failure (Option (ResultSet Float)) :=
  let path := Marker.path directory index
  match files.find path with
  | .error .notFound => .ok none
  | .error e => during (.openResultSet path) (fail (.file e.message))
  | .ok .directory =>
    during (.parseResultSet path) (fail (.document FileError.isDirectory.message))
  | .ok (.text content) =>
    match ResultSet.ofText content with
    | .ok set => .ok (some set)
    | .error e => during (.parseResultSet path) (fail (.document e.message))

/-- The result sets in a directory. -/
def source (directory : String) : ResultSource Files Float := fun index files =>
  (files.fetch directory index, files)

/-- Gathers the result sets of markers from a directory. -/
def gather (files : Files) (directory : String) (markers : Markers) :
    Except Failure (Gathered Float) :=
  (markers.gather (source directory) files).1

end Files

end ChipPower
