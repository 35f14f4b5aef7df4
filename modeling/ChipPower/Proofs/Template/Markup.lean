import ChipPower.Proofs.Template.Layout
import Mathlib.Data.List.TakeWhile

/-!
# The markup of a template

`Markup.scan` finds in a text what the estimator builds its tree of components from: the
tags that open and close a component, and the parameters. It looks at one character after
the other, so what stands before a tag does not matter as long as it opens none.

Of the lines of the built-in layout only few have a tag or tell how many units there are.
`Line.Leaves` says what a line leaves: nothing, or a mark in which the number of a core or
bank is still to be filled in. `Writes` lists the marks of several lines, and
`Writes.filter_markup` carries this over to the lines that are laid out for a number.
-/

namespace ChipPower

/-- A text with its characters written out. Decoding them from the text takes long to
evaluate. -/
structure Text.Spelled (text : String) where
  chars : List Char
  spells : text = String.ofList chars

theorem Text.Spelled.toList_eq {text : String} (spelled : Spelled text) :
    text.toList = spelled.chars := by
  rw [← String.toList_ofList (l := spelled.chars), ← spelled.spells]

/-! ## Scanning a text -/

/-- What a scan finds. -/
inductive Markup
  /-- A tag that opens a component, with the component's id if it has one. -/
  | opens (id : Option (List Char))
  /-- A tag that closes a component. -/
  | closes
  /-- A parameter. -/
  | sets (name value : List Char)
  deriving DecidableEq

namespace Markup

/-! What a scan looks for after an opening bracket. -/

def component : Text.Spelled "component" := ⟨_, rfl⟩

def componentId : Text.Spelled "component id=\"" := ⟨_, rfl⟩

def componentEnd : Text.Spelled "/component>" := ⟨_, rfl⟩

def paramName : Text.Spelled "param name=\"" := ⟨_, rfl⟩

def paramValue : Text.Spelled "\" value=\"" := ⟨_, rfl⟩

/-- What stands after a mark that a text starts with. -/
def after? (mark text : List Char) : Option (List Char) :=
  if mark.isPrefixOf text then some (text.drop mark.length) else none

/-- A text up to the next quotation mark. -/
def quoted (text : List Char) : List Char :=
  text.takeWhile (· ≠ '"')

/-- The parameter that a tag sets. -/
def param? (text : List Char) : Option Markup := do
  let named ← after? paramName.chars text
  let name := quoted named
  let valued ← after? paramValue.chars (named.drop name.length)
  return .sets name (quoted valued)

/-- What a tag stands for, by what comes after its bracket. -/
def ofTag? (text : List Char) : Option Markup :=
  if component.chars.isPrefixOf text then
    some (.opens ((after? componentId.chars text).map quoted))
  else if componentEnd.chars.isPrefixOf text then some .closes
  else param? text

/-- The markup of a text. -/
def scan : List Char → List Markup
  | [] => []
  | c :: rest => (if c = '<' then (ofTag? rest).toList else []) ++ scan rest

/-- What has no bracket is passed over. -/
theorem scan_append_of_not_mem {text : List Char} (plain : '<' ∉ text) (rest : List Char) :
    scan (text ++ rest) = scan rest := by
  induction text with
  | nil => rfl
  | cons c text ih =>
    rw [List.mem_cons, not_or] at plain
    rw [List.cons_append, scan, if_neg (Ne.symm plain.1), List.nil_append, ih plain.2]

theorem scan_of_not_mem {text : List Char} (plain : '<' ∉ text) : scan text = [] := by
  rw [← List.append_nil text, scan_append_of_not_mem plain, scan]

/-- A text is passed over up to its first bracket. -/
theorem scan_of_dropWhile {text rest : List Char}
    (first : text.dropWhile (· ≠ '<') = '<' :: rest) (more : List Char) :
    scan (text ++ more) = (ofTag? (rest ++ more)).toList ++ scan (rest ++ more) := by
  have plain : '<' ∉ text.takeWhile (· ≠ '<') := by
    intro member
    simpa using List.mem_takeWhile_imp member
  rw [← List.takeWhile_append_dropWhile (p := (· ≠ '<')) (l := text), first, List.append_assoc,
    scan_append_of_not_mem plain, List.cons_append, scan, if_pos rfl]

/-- A text in quotation marks ends at the first of them. -/
theorem quoted_append {text : List Char} (plain : '"' ∉ text) (rest : List Char) :
    quoted (text ++ '"' :: rest) = text := by
  have unquoted : ∀ c ∈ text, decide (c ≠ '"') = true := by
    intro c member
    rw [decide_eq_true_eq]
    rintro rfl
    exact plain member
  rw [quoted, List.takeWhile_append_of_pos unquoted]
  simp

/-- A mark is found where it stands. -/
theorem after?_append (mark rest : List Char) : after? mark (mark ++ rest) = some rest := by
  rw [after?, if_pos (List.isPrefixOf_iff_prefix.2 (List.prefix_append mark rest)),
    List.drop_left]

/-- A tag with an id opens the component of that id. -/
theorem ofTag?_component {id : List Char} (plain : '"' ∉ id) (rest : List Char) :
    ofTag? (componentId.chars ++ (id ++ '"' :: rest)) = some (.opens (some id)) := by
  have opened : component.chars.isPrefixOf (componentId.chars ++ (id ++ '"' :: rest)) = true := rfl
  rw [ofTag?, if_pos opened, after?_append, Option.map_some, quoted_append plain]

theorem ofTag?_param (text : List Char) :
    ofTag? (paramName.chars ++ text) = param? (paramName.chars ++ text) := rfl

theorem param?_append {name : List Char} (plain : '"' ∉ name) (rest : List Char) :
    param? (paramName.chars ++ (name ++ '"' :: rest)) =
      (after? paramValue.chars ('"' :: rest)).map fun valued => .sets name (quoted valued) := by
  rw [param?, after?_append]
  dsimp only [bind, Option.bind]
  rw [quoted_append plain, List.drop_left]
  cases after? paramValue.chars ('"' :: rest) <;> rfl

/-- A tag with a name and a value sets the parameter. -/
theorem param?_value {name value : List Char} (plain : '"' ∉ name ∧ '"' ∉ value)
    (rest : List Char) :
    param? (paramName.chars ++ (name ++ (paramValue.chars ++ (value ++ '"' :: rest)))) =
      some (.sets name value) := by
  have valued : paramValue.chars ++ (value ++ '"' :: rest) =
      '"' :: (paramValue.chars.tail ++ (value ++ '"' :: rest)) := rfl
  rw [valued, param?_append plain.1, ← valued, after?_append, Option.map_some,
    quoted_append plain.2]

end Markup

/-! ## Templates -/

/-- The markup of a line. -/
def Entry.markup (entry : Entry) : List Markup :=
  Markup.scan entry.text.toList

namespace Template

/-- The markup of a template, line by line. -/
def markup (template : Template) : List Markup :=
  template.flatMap Entry.markup

/-- The parameter that tells how many units there are of a kind. -/
def countName : Sharing → String
  | .own => "number_of_cores"
  | .l2 => "number_of_L2s"
  | .l3 => "number_of_L3s"

def countSpelled : (sharing : Sharing) → Text.Spelled (countName sharing)
  | .own => ⟨_, rfl⟩
  | .l2 => ⟨_, rfl⟩
  | .l3 => ⟨_, rfl⟩

/-- The names of the parameters that tell how many units there are. -/
def counted : List (List Char) :=
  [(countSpelled .own).chars, (countSpelled .l2).chars, (countSpelled .l3).chars]

/-- Whether some markup is a tag or tells how many units there are. -/
def isStructural : Markup → Bool
  | .opens _ | .closes => true
  | .sets name _ => counted.contains name

/-! ## What lines write -/

/-- Structural markup of a line, before the number of the line's unit is filled in. -/
inductive Mark
  /-- Opens a component whose id has the number in it. -/
  | opens (before after : List Char)
  /-- Opens a component whose id has no number. -/
  | names (id : List Char)
  | closes
  /-- Tells how many units there are of a kind. -/
  | counts (sharing : Sharing) (units : Nat)

/-- The markup for a number. -/
def Mark.markup (number : Nat) : Mark → Markup
  | .opens before after => .opens (some (before ++ (toString number).toList ++ after))
  | .names id => .opens (some id)
  | .closes => .closes
  | .counts sharing units => .sets (countSpelled sharing).chars (toString units).toList

/-- The structural markup of a text. -/
def structural (text : List Char) : List Markup :=
  (Markup.scan text).filter isStructural

open Markup in
/-- The mark that a line leaves, if it leaves one. A literal is matched with a text whose
characters are at hand. -/
inductive Line.Leaves : Line → Option Mark → Prop
  | literal (text : List Char) (silent : structural text = []) :
    Leaves (.literal (String.ofList text)) none
  | bound {kind : BindingKind} {name : String} (text : List Char)
    (silent : structural text = []) :
    Leaves (.bound (String.ofList text) kind name) none
  | closes (text : List Char) (one : structural text = [.closes]) :
    Leaves (.literal (String.ofList text)) (some .closes)
  | names (text id : List Char) (one : structural text = [.opens (some id)]) :
    Leaves (.literal (String.ofList text)) (some (.names id))
  | opens (piece tail before after : List Char) (others : List String)
    (start : piece.dropWhile (· ≠ '<') = '<' :: (componentId.chars ++ before))
    (stop : quoted tail = after ∧ '"' ∈ tail)
    (plain : '"' ∉ before ∧ '<' ∉ before ∧ '<' ∉ tail ∧ ∀ other ∈ others, '<' ∉ other.toList) :
    Leaves (.numbered (String.ofList piece :: String.ofList tail :: others))
      (some (.opens before after))
  | counts (sharing : Sharing) (units : Nat) (piece tail : List Char)
    (start : piece.dropWhile (· ≠ '<') =
      '<' :: (paramName.chars ++ ((countSpelled sharing).chars ++ paramValue.chars)))
    (silent : structural tail = []) (stop : tail.head? = some '"') :
    Leaves (Layout.count (String.ofList piece) units (String.ofList tail))
      (some (.counts sharing units))
  | other (units : Nat) (piece tail rest : List Char)
    (start : piece.dropWhile (· ≠ '<') = '<' :: (paramName.chars ++ rest))
    (silent : structural tail = [])
    (plain : quoted rest ∉ counted ∧ '"' ∈ rest ∧ '<' ∉ rest) :
    Leaves (Layout.count (String.ofList piece) units (String.ofList tail)) none

/-- The marks that lines leave, in their order. -/
inductive Writes : List Line → List Mark → Prop
  | nil : Writes [] []
  | skip {line : Line} {lines : List Line} {marks : List Mark} :
    line.Leaves none → Writes lines marks → Writes (line :: lines) marks
  | mark {line : Line} {lines : List Line} {mark : Mark} {marks : List Mark} :
    line.Leaves (some mark) → Writes lines marks → Writes (line :: lines) (mark :: marks)

/-! ## Lines that are laid out -/

theorem structural_append_of_not_mem {text : List Char} (plain : '<' ∉ text)
    (rest : List Char) : structural (text ++ rest) = structural rest := by
  rw [structural, Markup.scan_append_of_not_mem plain, structural]

theorem structural_of_dropWhile {text rest : List Char}
    (first : text.dropWhile (· ≠ '<') = '<' :: rest) (more : List Char) :
    structural (text ++ more) =
      (Markup.ofTag? (rest ++ more)).toList.filter isStructural ++ structural (rest ++ more) := by
  rw [structural, Markup.scan_of_dropWhile first, List.filter_append, structural]

/-- A number between two pieces of a text. -/
theorem toList_count (piece tail : List Char) (units : Nat) :
    (String.ofList piece ++ toString units ++ String.ofList tail).toList =
      piece ++ ((toString units).toList ++ tail) := by
  rw [String.toList_append, String.toList_append, String.toList_ofList, String.toList_ofList,
    List.append_assoc]

open Markup in
/-- A numbered line that opens a component has the number in the id and no other tag. -/
theorem structural_numbered {piece tail before after : List Char} {others : List String}
    (start : piece.dropWhile (· ≠ '<') = '<' :: (componentId.chars ++ before))
    (stop : quoted tail = after ∧ '"' ∈ tail)
    (plain : '"' ∉ before ∧ '<' ∉ before ∧ '<' ∉ tail ∧ ∀ other ∈ others, '<' ∉ other.toList)
    (number : Nat) :
    structural (String.intercalate (toString number)
      (String.ofList piece :: String.ofList tail :: others)).toList =
        [.opens (some (before ++ (toString number).toList ++ after))] := by
  obtain ⟨closed, quote⟩ := stop
  obtain ⟨beforeQuote, beforeTag, tailTag, othersTag⟩ := plain
  have digitsTag := Text.not_mem_toString (c := '<') (by decide) number
  -- the pieces after the first one have no tag, and the id ends in the second one
  have restTag : '<' ∉ List.intercalate (toString number).toList
      (tail :: others.map String.toList) :=
    Text.not_mem_intercalate (by decide) number
      (List.forall_mem_cons.2 ⟨tailTag, List.forall_mem_map.2 othersTag⟩)
  obtain ⟨part, more, rfl, partQuote⟩ := List.eq_append_cons_of_mem quote
  obtain ⟨rest, joined⟩ : ∃ rest, List.intercalate (toString number).toList
      ((part ++ '"' :: more) :: others.map String.toList) = part ++ '"' :: rest := by
    cases others with
    | nil => exact ⟨more, List.intercalate_singleton⟩
    | cons other others =>
      refine ⟨more ++ ((toString number).toList ++ List.intercalate (toString number).toList
        (other.toList :: others.map String.toList)), ?_⟩
      rw [List.map_cons, List.intercalate_cons_cons]
      simp
  rw [quoted_append partQuote] at closed
  subst closed
  have idQuote : '"' ∉ before ++ (toString number).toList ++ part := by
    simp only [List.mem_append, not_or]
    exact ⟨⟨beforeQuote, Text.not_mem_toString (by decide) number⟩, partQuote⟩
  have text : (componentId.chars ++ before) ++ ((toString number).toList ++ (part ++ '"' :: rest)) =
      componentId.chars ++ ((before ++ (toString number).toList ++ part) ++ '"' :: rest) := by
    simp
  have bracketless : '<' ∉ componentId.chars ++ before ++
      ((toString number).toList ++ (part ++ '"' :: rest)) := by
    have mark : '<' ∉ componentId.chars := by decide
    rw [joined] at restTag
    simp only [List.mem_append, not_or] at restTag ⊢
    exact ⟨⟨mark, beforeTag⟩, digitsTag, restTag⟩
  rw [String.toList_intercalate, List.map_cons, List.map_cons, String.toList_ofList,
    String.toList_ofList, List.intercalate_cons_cons, joined, List.append_assoc,
    structural_of_dropWhile start, structural, scan_of_not_mem bracketless, text,
    ofTag?_component idQuote]
  rfl

open Markup in
/-- A line that tells a count is seen with the count in it. -/
theorem structural_counts {sharing : Sharing} {units : Nat} {piece tail : List Char}
    (start : piece.dropWhile (· ≠ '<') =
      '<' :: (paramName.chars ++ ((countSpelled sharing).chars ++ paramValue.chars)))
    (silent : structural tail = []) (stop : tail.head? = some '"') :
    structural (String.ofList piece ++ toString units ++ String.ofList tail).toList =
      [.sets (countSpelled sharing).chars (toString units).toList] := by
  obtain ⟨rest, rfl⟩ := List.head?_eq_some_iff.1 stop
  have name : '"' ∉ (countSpelled sharing).chars ∧ '<' ∉ (countSpelled sharing).chars ∧
      (countSpelled sharing).chars ∈ counted := by
    cases sharing <;> decide
  have digitsQuote := Text.not_mem_toString (c := '"') (by decide) units
  have digitsTag := Text.not_mem_toString (c := '<') (by decide) units
  have text : paramName.chars ++ ((countSpelled sharing).chars ++ paramValue.chars) ++
      ((toString units).toList ++ '"' :: rest) = paramName.chars ++ ((countSpelled sharing).chars ++
        (paramValue.chars ++ ((toString units).toList ++ '"' :: rest))) := by
    simp
  have bracketless : '<' ∉ paramName.chars ++ ((countSpelled sharing).chars ++ paramValue.chars) ++
      (toString units).toList := by
    have marks : '<' ∉ paramName.chars ∧ '<' ∉ paramValue.chars := by decide
    simp only [List.mem_append, not_or]
    exact ⟨⟨marks.1, name.2.1, marks.2⟩, digitsTag⟩
  rw [toList_count, structural_of_dropWhile start, text, ofTag?_param,
    param?_value ⟨name.1, digitsQuote⟩, ← text, ← List.append_assoc,
    structural_append_of_not_mem bracketless, silent, List.append_nil]
  simp [isStructural, name.2.2]

open Markup in
/-- A line that tells a number of something else is not seen. -/
theorem structural_other {units : Nat} {piece tail rest : List Char}
    (start : piece.dropWhile (· ≠ '<') = '<' :: (paramName.chars ++ rest))
    (silent : structural tail = []) (plain : quoted rest ∉ counted ∧ '"' ∈ rest ∧ '<' ∉ rest) :
    structural (String.ofList piece ++ toString units ++ String.ofList tail).toList = [] := by
  obtain ⟨uncounted, quote, restTag⟩ := plain
  have digitsTag := Text.not_mem_toString (c := '<') (by decide) units
  have bracketless : '<' ∉ paramName.chars ++ rest ++ (toString units).toList := by
    have mark : '<' ∉ paramName.chars := by decide
    simp only [List.mem_append, not_or]
    exact ⟨⟨mark, restTag⟩, digitsTag⟩
  obtain ⟨name, more, rfl, nameQuote⟩ := List.eq_append_cons_of_mem quote
  rw [quoted_append nameQuote] at uncounted
  have text : paramName.chars ++ (name ++ '"' :: more) ++ ((toString units).toList ++ tail) =
      paramName.chars ++ (name ++ '"' :: (more ++ ((toString units).toList ++ tail))) := by
    simp
  have uninteresting : (ofTag? (paramName.chars ++ (name ++ '"' :: more) ++
      ((toString units).toList ++ tail))).toList.filter isStructural = [] := by
    rw [text, ofTag?_param, param?_append nameQuote]
    cases after? paramValue.chars ('"' :: (more ++ ((toString units).toList ++ tail))) with
    | none => rfl
    | some valued => simp [isStructural, uncounted]
  rw [toList_count, structural_of_dropWhile start, uninteresting, ← List.append_assoc,
    structural_append_of_not_mem bracketless, silent, List.append_nil]

/-- What a line leaves is the structural markup of what it is laid out as. -/
theorem Line.Leaves.structural_entry {line : Line} {mark : Option Mark}
    (leaves : line.Leaves mark) (scope : Scope) (number : Nat) :
    structural (line.entry scope number).text.toList =
      (mark.map (Mark.markup number)).toList := by
  cases leaves with
  | literal text silent => exact (congrArg structural String.toList_ofList).trans silent
  | bound text silent => exact (congrArg structural String.toList_ofList).trans silent
  | closes text one => exact (congrArg structural String.toList_ofList).trans one
  | names text id one => exact (congrArg structural String.toList_ofList).trans one
  | opens piece tail before after others start stop plain =>
    exact structural_numbered start stop plain number
  | counts sharing units piece tail start silent stop =>
    exact structural_counts start silent stop
  | other units piece tail rest start silent plain =>
    exact structural_other start silent plain

/-- The lines that are laid out for a number have the marks with the number filled in. -/
theorem Writes.filter_markup {lines : List Line} {marks : List Mark} (writes : Writes lines marks)
    (scope : Scope) (number : Nat) :
    (markup (lines.map (Line.entry scope number))).filter isStructural =
      marks.map (Mark.markup number) := by
  unfold markup
  induction writes with
  | nil => rfl
  | skip leaves _ ih =>
    have first := leaves.structural_entry scope number
    rw [List.map_cons, List.flatMap_cons, List.filter_append, ih, Entry.markup]
    unfold structural at first
    rw [first]
    rfl
  | mark leaves _ ih =>
    have first := leaves.structural_entry scope number
    rw [List.map_cons, List.flatMap_cons, List.filter_append, ih, Entry.markup]
    unfold structural at first
    rw [first]
    rfl

/-- None of these lines has two tags. -/
theorem Writes.length_le_one {lines : List Line} {marks : List Mark}
    (writes : Writes lines marks) (scope : Scope) (number : Nat) :
    ∀ entry ∈ lines.map (Line.entry scope number),
      (entry.markup.filter isStructural).length ≤ 1 := by
  have single {line : Line} {mark : Option Mark} (leaves : line.Leaves mark) :
      ((line.entry scope number).markup.filter isStructural).length ≤ 1 := by
    have first := leaves.structural_entry scope number
    unfold structural at first
    rw [Entry.markup, first]
    cases mark <;> simp
  induction writes with
  | nil => exact List.forall_mem_nil _
  | skip leaves _ ih => exact List.forall_mem_cons.2 ⟨single leaves, ih⟩
  | mark leaves _ ih => exact List.forall_mem_cons.2 ⟨single leaves, ih⟩

end Template
end ChipPower
