import ChipPower.Template.Basic
import ChipPower.Template.Placeholder

/-!
Rendering a template: each line becomes one line of the document, with the
values that its binding has in the activity of a run. The first line that cannot
be rendered decides the failure. Along the way the numbers are noted that were
rounded to powers of two.
-/

namespace ChipPower

/-- A document, as its lines. -/
abbrev Document := List String

/-- The text of a document. -/
def Document.text (document : Document) : String :=
  String.intercalate "\n" document

namespace Template

variable {α : Type} [Scalar α]

/-- The values of a binding. -/
def values (a : Activity α) (binding : Binding) (rounded : Rounded) :
    Except Failure (List α) × Rounded :=
  match binding.kind with
  | .field =>
    let value := do (← Config.Field.ofName binding.name).resolve a.config binding.scope
    (value.map ([·]), rounded)
  | .statistic => ((a.stat binding.name binding.scope).map ([·]), rounded)
  | .tuple => a.tuple binding.name binding.scope rounded

/-- The line of the document that a bound line becomes. -/
def renderBound (text : String) (binding : Binding) (values : Except Failure (List α)) :
    Except Failure String := do
  let values ← during (.evaluate binding.name binding.scope) values
  during (.renderLine binding.name binding.scope) (substitute text values)

/-- The line of the document that a line becomes. -/
def renderEntry (a : Activity α) (entry : Entry) (rounded : Rounded) :
    Except Failure String × Rounded :=
  match entry.binding with
  | none => (.ok entry.text, rounded)
  | some binding =>
    let (values, rounded) := values a binding rounded
    (renderBound entry.text binding values, rounded)

/-- Renders a template, up to the first line that cannot be rendered. -/
def render (a : Activity α) : Template → Rounded → Except Failure Document × Rounded
  | [], rounded => (.ok [], rounded)
  | entry :: rest, rounded =>
    match renderEntry a entry rounded with
    | (.error failure, rounded) => (.error failure, rounded)
    | (.ok line, rounded) =>
      let (document, rounded) := render a rest rounded
      (document.map (line :: ·), rounded)

end Template

end ChipPower
