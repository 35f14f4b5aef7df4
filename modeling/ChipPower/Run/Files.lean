import ChipPower.Dict

/-!
Files below a working directory. A path is looked up part by part; what stands
on the way to a file has to be a directory. Writing to a path replaces the text
of its file or makes a new one.
-/

namespace ChipPower

/-- What is at a path. -/
inductive Node
  | text (content : String)
  | directory
  deriving DecidableEq, Repr

/-- Files and directories, by the parts of their paths joined with slashes. -/
abbrev Files := Dict String Node

/-- Why a file cannot be used. -/
inductive FileError
  | notFound
  /-- A program whose file holds nothing that could be run. -/
  | badFormat
  | denied
  | notDirectory
  | isDirectory
  | nameTooLong
  | zeroInPath
  /-- A zero byte in what is handed to a program. -/
  | zeroInWord
  deriving DecidableEq, Repr

/-- What is wrong with a file. -/
def FileError.message : FileError → String
  | .notFound => "No such file or directory (os error 2)"
  | .badFormat => "Exec format error (os error 8)"
  | .denied => "Permission denied (os error 13)"
  | .notDirectory => "Not a directory (os error 20)"
  | .isDirectory => "Is a directory (os error 21)"
  | .nameTooLong => "File name too long (os error 36)"
  | .zeroInPath => "file name contained an unexpected NUL byte"
  | .zeroInWord => "nul byte found in provided data"

/-! ## Paths -/

/-- A path, taken apart. -/
structure Path where
  /-- Where the way starts: nowhere for the working directory, and the empty name
  for the root of all files. -/
  start : List String
  /-- The names on the way. One dot stays where it is, two lead back. -/
  names : List String
  /-- Whether a slash follows the last name, so that a directory is meant. -/
  slash : Bool
  deriving DecidableEq, Repr

namespace Path

/-- Takes a path apart at its slashes. -/
def ofText (path : String) : Path where
  start := if path.toList.head? = some '/' then [""] else []
  names := ((path.toList.splitOn '/').map String.ofList).filter (· != "")
  slash := path.toList.getLast? == some '/'

/-- The place that a name leads to, from another place. Two dots lead back, but
not above the root of all files. -/
def step (front : List String) (name : String) : List String :=
  if name = "." then front
  else if name = ".." then
    match front.getLast? with
    | none | some ".." => front ++ [".."]
    | some "" => front
    | some _ => front.dropLast
  else front ++ [name]

/-- The key of a place. -/
def key (place : List String) : String :=
  String.intercalate "/" place

/-- The path of a file within a directory. -/
def join (directory name : String) : String :=
  if directory = "" ∨ directory.endsWith "/" then directory ++ name
  else directory ++ "/" ++ name

/-- The keys of the places that a path leads through and to. -/
def keys (path : String) : List String :=
  let p := ofText path
  (List.range (p.names.length + 1)).map fun n => key ((p.names.take n).foldl step p.start)

end Path

/-! ## Looking up -/

/-- The longest name of a file, in bytes. -/
def maxNameSize : Nat := 255

/-- The longest path, in bytes. -/
def maxPathSize : Nat := 4095

/-- Takes apart the path of a file that is to be opened. -/
def Path.check (path : String) : Except FileError Path := do
  if path.contains '\x00' then throw .zeroInPath
  if path = "" then throw .notFound
  if maxPathSize < path.utf8ByteSize then throw .nameTooLong
  return ofText path

namespace Files

variable (files : Files)

/-- What is at a place. The root of all files, the working directory and the
directories around it are always there. -/
def node? (place : List String) : Option Node :=
  if place = [""] ∨ place.all (· == "..") then some .directory
  else files.get? (Path.key place)

/-- The place that a name leads to. -/
def lookUp (place : List String) (name : String) : Except FileError (List String) :=
  if maxNameSize < name.utf8ByteSize then .error .nameTooLong else .ok (Path.step place name)

/-- The place of the directory that a name leads to. -/
def enter (place : List String) (name : String) : Except FileError (List String) := do
  let place ← lookUp place name
  match files.node? place with
  | none => throw .notFound
  | some (.text _) => throw .notDirectory
  | some .directory => return place

/-- The place of the directory in which a path ends. -/
def enterAll (p : Path) : Except FileError (List String) :=
  p.names.dropLast.foldlM files.enter p.start

/-- The place that a path leads to, and what is there. -/
def locate (path : String) : Except FileError (List String × Node) := do
  let p ← Path.check path
  let place ← files.enterAll p
  let place ← p.names.getLast?.elim (.ok place) (lookUp place)
  match files.node? place, p.slash with
  | none, _ => throw .notFound
  | some (.text _), true => throw .notDirectory
  | some node, _ => return (place, node)

/-- What is at a path. -/
def find (path : String) : Except FileError Node :=
  (files.locate path).map (·.2)

/-- The text of the file at a path. -/
def read (path : String) : Except FileError String := do
  match ← files.find path with
  | .text content => return content
  | .directory => throw .isDirectory

/-! ## Writing -/

/-- Writes a text to the file at a path. A path with a slash at its end is that of
a directory, whether there is one or not. A write that fails is taken to leave the
file as it was, also where the file was made or emptied before the text did not go
in. -/
def write (path content : String) : Except FileError Files := do
  let p ← Path.check path
  let place ← files.enterAll p
  if p.slash then throw .isDirectory
  let place ← p.names.getLast?.elim (.ok place) (lookUp place)
  match files.node? place with
  | some .directory => throw .isDirectory
  | _ => return files.insert (Path.key place) (.text content)

end Files

end ChipPower
