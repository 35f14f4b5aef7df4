import ChipPower.Failure
import ChipPower.Numeric.Scalar

/-!
Placeholders of a line: a percent sign and a letter, where a value is filled in.
A line is split around its placeholders into segments, one more than there are
placeholders, and is filled in with as many values.
-/

namespace ChipPower

/-- What is filled in at a placeholder. -/
inductive Placeholder
  /-- The whole part of a finite value. -/
  | whole
  /-- A value with six places. -/
  | decimal
  deriving DecidableEq, Repr

namespace Placeholder

/-- The placeholder that a percent sign and a letter make. -/
def ofLetter? (c : Char) : Option Placeholder :=
  if c = 'i' ∨ c = 'd' ∨ c = 'u' then some .whole
  else if c = 'f' then some .decimal
  else none

/-- An integer cut to the range of signed 128-bit words. -/
def clampWord (n : Int) : Int :=
  let bound := Int.ofNat (Nat.pow 2 127)
  max (-bound) (min (bound - 1) n)

/-- The text of a value at a placeholder. -/
def format {α : Type} [Scalar α] (value : α) : Placeholder → Except Failure String
  | .whole =>
    if Scalar.isFinite value then .ok (toString (clampWord (Scalar.truncToInt value)))
    else fail (.notFinite (Scalar.text value))
  | .decimal => .ok (Scalar.fixed 6 value)

end Placeholder

/-- A line, split around its placeholders. -/
structure SplitLine where
  /-- The text before the first placeholder. -/
  head : List Char
  /-- The placeholders, each with the text that follows up to the next one. -/
  tail : List (Placeholder × List Char)
  deriving DecidableEq, Repr

namespace SplitLine

/-- Puts a character before a line. -/
def push (c : Char) (line : SplitLine) : SplitLine :=
  { line with head := c :: line.head }

/-- Puts a placeholder before a line. -/
def pushPlaceholder (p : Placeholder) (line : SplitLine) : SplitLine :=
  ⟨[], (p, line.head) :: line.tail⟩

/-- Splits a text around its placeholders. A percent sign that no such letter
follows is text. -/
def ofText : List Char → SplitLine
  | [] => ⟨[], []⟩
  | [c] => ⟨[c], []⟩
  | c :: d :: rest =>
    if c = '%' then
      match Placeholder.ofLetter? d with
      | some p => (ofText rest).pushPlaceholder p
      | none => (ofText (d :: rest)).push c
    else (ofText (d :: rest)).push c

/-- The segments around the placeholders. -/
def segments (line : SplitLine) : List (List Char) :=
  line.head :: line.tail.map (·.2)

/-- The placeholders. -/
def placeholders (line : SplitLine) : List Placeholder :=
  line.tail.map (·.1)

/-- The text that follows the head when values are filled in. -/
def fillTail {α : Type} [Scalar α] :
    List (Placeholder × List Char) → List α → Except Failure (List Char)
  | (p, segment) :: rest, value :: values => do
    let text ← p.format value
    return text.toList ++ segment ++ (← fillTail rest values)
  | _, _ => .ok []

/-- The line with a value at each placeholder. -/
def fill {α : Type} [Scalar α] (line : SplitLine) (values : List α) :
    Except Failure (List Char) :=
  if line.tail.length = values.length then do
    return line.head ++ (← fillTail line.tail values)
  else fail (.valueCount line.tail.length values.length)

theorem length_segments (line : SplitLine) :
    line.segments.length = line.placeholders.length + 1 := by
  simp [segments, placeholders]

end SplitLine

/-- Fills values into the placeholders of a text. -/
def substitute {α : Type} [Scalar α] (text : String) (values : List α) :
    Except Failure String := do
  return String.ofList (← (SplitLine.ofText text.toList).fill values)

end ChipPower
