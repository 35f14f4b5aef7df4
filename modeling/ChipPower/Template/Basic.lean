import ChipPower.Config.Field
import ChipPower.Activity.Geometry
import ChipPower.Activity.Statistic

/-!
Templates of the estimator input: lines that are either taken as they are or
bound to values that are filled in. A line is bound to a field of the
configuration, a statistic, or the list that describes a cache.
-/

namespace ChipPower

/-- What a line is bound to. -/
inductive BindingKind
  | field
  | statistic
  | tuple
  deriving DecidableEq, Repr

namespace BindingKind

/-- All kinds. -/
def all : List BindingKind := [.field, .statistic, .tuple]

/-- The name of a kind in messages. -/
def name : BindingKind → String
  | .field => "Cfg"
  | .statistic => "Stat"
  | .tuple => "Comb"

/-- Whether there is something of a name to bind to. -/
def knows (name : String) : BindingKind → Bool
  | .field => (Config.Field.ofName? name).isSome
  | .statistic => (Statistics.formula? name).isSome
  | .tuple => (CacheTuple.ofName? name).isSome

end BindingKind

/-- What the values of a line are. -/
structure Binding where
  kind : BindingKind
  name : String
  scope : Scope
  deriving DecidableEq, Repr

/-- A line of a template. -/
structure Entry where
  text : String
  binding : Option Binding := none
  deriving DecidableEq, Repr

/-- A template, as its lines. -/
abbrev Template := List Entry

namespace Template

/-- The bindings of a template. -/
def bindings (template : Template) : List Binding :=
  template.filterMap (·.binding)

/-- Checks that all bindings are to something that exists. -/
def validate (template : Template) : Except Failure Unit :=
  match template.bindings.find? fun binding => !binding.kind.knows binding.name with
  | none => .ok ()
  | some binding => fail (.unknownTemplateField binding.name binding.kind.name)

/-! ## Lines that many units share -/

/-- A line that is laid out for each of several units. -/
inductive Line
  | literal (text : String)
  /-- The unit's number between pieces of text. -/
  | numbered (pieces : List String)
  | bound (text : String) (kind : BindingKind) (name : String)
  deriving DecidableEq, Repr

/-- A line bound to a field of the configuration. -/
def Line.field (text name : String) : Line := .bound text .field name

/-- A line bound to a statistic. -/
def Line.statistic (text name : String) : Line := .bound text .statistic name

/-- A line bound to the list of a cache. -/
def Line.tuple (text name : String) : Line := .bound text .tuple name

/-- A line, laid out for a scope with a number. -/
def Line.entry (scope : Scope) (number : Nat) : Line → Entry
  | .literal text => { text }
  | .numbered pieces => { text := String.intercalate (toString number) pieces }
  | .bound text kind name => { text, binding := some { kind, name, scope } }

/-- Lines, laid out for a core or bank. -/
def unitEntries (lines : List Line) (unit : Nat) : Template :=
  lines.map (Line.entry (.unit unit) unit)

/-- Lines, laid out for the whole system. -/
def systemEntries (lines : List Line) : Template :=
  lines.map (Line.entry .system 0)

end Template

end ChipPower
