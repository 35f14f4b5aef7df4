import ChipPower.Config.Basic
import ChipPower.Text.Lines

/-!
Configuration files: `[section]` headers and `key = value` lines. A key stands
below the latest section, `#` and `;` open a comment outside of quotes, and a
value may stand between quotes. A file is read on its own, into its assignments
in order; laying it over a configuration then sets one key after the other.
-/

namespace ChipPower

namespace Config

/-! ## Lines -/

/-- A line without its comment, where `quoted` tells whether a quote is open. -/
def dropCommentFrom (quoted : Bool) : List Char → List Char
  | [] => []
  | c :: rest =>
    if c = '"' then c :: dropCommentFrom (!quoted) rest
    else if (c = '#' || c = ';') && !quoted then []
    else c :: dropCommentFrom quoted rest

/-- A line without its comment. -/
def dropComment (line : List Char) : List Char :=
  dropCommentFrom false line

/-- A value without the quotes around it, if there are two. -/
def unquote (value : List Char) : List Char :=
  match value with
  | '"' :: rest =>
    match rest.reverse with
    | '"' :: front => front.reverse
    | _ => value
  | _ => value

/-- What a line of a configuration file says. -/
inductive Line
  | blank
  /-- A header. One without a name leads back to the keys of no section. -/
  | header (name : List Char)
  | assignment (key value : List Char)
  deriving DecidableEq, Repr

/-- Reads what follows the opening bracket of a header. -/
def Line.ofHeader (number : Nat) (text : List Char) : Except Failure Line :=
  match text.reverse with
  | ']' :: front => .ok (.header (Text.trim front.reverse))
  | _ => fail (.openSection number)

/-- Reads a line that is neither blank nor a header. -/
def Line.ofAssignment (number : Nat) (text : List Char) : Except Failure Line :=
  match Text.splitFirst '=' text with
  | none => fail (.noAssignment number (String.ofList text))
  | some (key, value) =>
    let key := Text.trim key
    if key.isEmpty then fail (.emptyKey number)
    else .ok (.assignment key (unquote (Text.trim value)))

/-- Reads a line. Lines are numbered from one. -/
def Line.read (number : Nat) (text : List Char) : Except Failure Line :=
  match Text.trim (dropComment text) with
  | [] => .ok .blank
  | '[' :: rest => Line.ofHeader number rest
  | text => Line.ofAssignment number text

/-! ## Files -/

/-- The key of an assignment below a section, of which an empty name is none. -/
def keyBelow (header key : List Char) : String :=
  String.ofList (if header.isEmpty then key else header ++ '/' :: key)

/-- The assignments of numbered lines that stand below a section. -/
def assignmentsFrom (header : List Char) (number : Nat) :
    List (List Char) → Except Failure (List (String × String))
  | [] => .ok []
  | text :: rest =>
    match Line.read number text with
    | .error failure => .error failure
    | .ok .blank => assignmentsFrom header (number + 1) rest
    | .ok (.header name) => assignmentsFrom name (number + 1) rest
    | .ok (.assignment key value) =>
      (assignmentsFrom header (number + 1) rest).map
        ((keyBelow header key, String.ofList value) :: ·)

/-- The assignments of a file, in order. -/
def assignments (text : String) : Except Failure (List (String × String)) :=
  assignmentsFrom [] 1 (Text.lines text.toList)

/-- Lays a file over a configuration. -/
def layer (base : Config) (text : String) : Except Failure Config :=
  (assignments text).map base.insertAll

end Config

end ChipPower
