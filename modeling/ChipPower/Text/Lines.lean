/-!
Lines and cuts of a text. A line ends at a line feed, and a carriage return
right before the feed belongs to the line end. Cutting at a separator takes its
occurrences from left to right without overlap. Main statement: a text is cut
in two at the first occurrence of a character, if there is one.
-/

namespace ChipPower.Text

/-! ## Lines -/

/-- Removes one carriage return at the end of a line. -/
def dropReturn (line : List Char) : List Char :=
  match line.reverse with
  | '\r' :: front => front.reverse
  | _ => line

/-- The lines of a text, where `current` holds the open line, last character
first. An empty open line at the end of the text is no line. -/
def linesFrom (current : List Char) : List Char → List (List Char)
  | [] => if current.isEmpty then [] else [current.reverse]
  | '\n' :: rest => dropReturn current.reverse :: linesFrom [] rest
  | c :: rest => linesFrom (c :: current) rest

/-- The lines of a text, without their line ends. -/
def lines (text : List Char) : List (List Char) :=
  linesFrom [] text

/-! ## Cuts -/

/-- The text before the first `c` and the text after it, if there is a `c`. -/
def splitFirst (c : Char) : List Char → Option (List Char × List Char)
  | [] => none
  | d :: rest =>
    if d = c then some ([], rest)
    else (splitFirst c rest).map fun (front, back) => (d :: front, back)

/-- Cuts a text at the occurrences of `separator`. `skip` characters still
belong to the occurrence last found, and `current` holds the open part, last
character first. -/
def splitFrom (separator : List Char) (skip : Nat) (current : List Char) :
    List Char → List (List Char)
  | [] => [current.reverse]
  | c :: rest =>
    match skip with
    | skip + 1 => splitFrom separator skip current rest
    | 0 =>
      if separator.isPrefixOf (c :: rest) then
        current.reverse :: splitFrom separator (separator.length - 1) [] rest
      else
        splitFrom separator 0 (c :: current) rest

/-- The parts of a text between the occurrences of a non-empty separator. -/
def splitOn (separator text : List Char) : List (List Char) :=
  splitFrom separator 0 [] text

theorem splitFirst_eq_none_iff {c : Char} {text : List Char} :
    splitFirst c text = none ↔ c ∉ text := by
  induction text with
  | nil => simp [splitFirst]
  | cons d rest ih =>
    by_cases h : d = c
    · simp [splitFirst, h]
    · simp [splitFirst, h, ih, Ne.symm h]

theorem splitFirst_append {c : Char} {front back : List Char} (h : c ∉ front) :
    splitFirst c (front ++ c :: back) = some (front, back) := by
  induction front with
  | nil => simp [splitFirst]
  | cons d rest ih =>
    simp only [List.mem_cons, not_or] at h
    simp [splitFirst, Ne.symm h.1, ih h.2]

end ChipPower.Text
