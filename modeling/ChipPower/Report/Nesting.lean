import ChipPower.Text.Blank

/-!
Nesting by indentation. The lines of a block that name a structure open it, and
a structure stays open until a line follows that is indented as far or less.
-/

namespace ChipPower

/-- An open structure: how far its line is indented, and its name. -/
structure Level where
  indent : Nat
  name : List Char
  deriving DecidableEq, Repr

/-- The open structures, innermost first. -/
abbrev Nesting := List Level

namespace Nesting

/-- Opens a structure, after closing those that are indented as far or more. -/
def enter (nesting : Nesting) (indent : Nat) (name : List Char) : Nesting :=
  ⟨indent, Text.trim name⟩ :: nesting.dropWhile fun level => indent ≤ level.indent

/-- Names joined by slashes. -/
def join : List (List Char) → List Char
  | [] => []
  | [name] => name
  | name :: rest => name ++ '/' :: join rest

theorem join_eq_intercalate (names : List (List Char)) :
    join names = List.intercalate ['/'] names := by
  induction names with
  | nil => rfl
  | cons first rest ih =>
    cases rest with
    | nil => rw [List.intercalate_singleton, join]
    | cons second more =>
      rw [List.intercalate_cons_cons, ← ih, join]
      · simp
      · exact fun same => nomatch same

/-- The path of a metric within the open structures. -/
def path (nesting : Nesting) (name : List Char) : List Char :=
  Text.trim (join (nesting.reverse.map (·.name) ++ [name]))

end Nesting

end ChipPower
