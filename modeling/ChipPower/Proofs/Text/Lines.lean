import ChipPower.Text.Blank
import ChipPower.Text.Lines
import Mathlib.Data.List.Forall2
import Mathlib.Data.List.TakeWhile

/-!
# Lines of a trimmed text

A text that is written line by line comes back line by line, except for blanks at
the ends of its lines: cutting into lines drops a carriage return, and trimming the
whole text drops the blanks of the last line.

* `Tight p text`: `text` is not empty and neither of its ends satisfies `p`. Trimming
  finds a tight text again between characters that satisfy `p`
  (`trimBoth_of_tight`).
* `Cut line seen`: `seen` is `line` without some blanks at its end.
* `forall₂_cut_lines_trim`: the lines of a trimmed text are those that were written,
  each up to such a cut.
-/

namespace ChipPower.Text

variable {p : Char → Bool}

/-! ## Runs -/

section Runs

variable {β : Type} {q : β → Bool} {front rest : List β}

/-- A run ends where something else follows. -/
theorem takeWhile_append_of_head (all : ∀ c ∈ front, q c = true)
    (stop : ∀ c ∈ rest.head?, q c = false) : (front ++ rest).takeWhile q = front := by
  rw [List.takeWhile_append_of_pos all]
  cases rest with
  | nil => exact List.append_nil front
  | cons c rest =>
    rw [List.takeWhile_cons, stop c rfl]
    exact List.append_nil front

theorem dropWhile_append_of_head (all : ∀ c ∈ front, q c = true)
    (stop : ∀ c ∈ rest.head?, q c = false) : (front ++ rest).dropWhile q = rest := by
  rw [List.dropWhile_append_of_pos all]
  cases rest with
  | nil => rfl
  | cons c rest =>
    rw [List.dropWhile_cons, stop c rfl]
    rfl

end Runs

/-! ## Tight texts -/

/-- A text that is not empty and has no `p` at either end. -/
structure Tight (p : Char → Bool) (text : List Char) : Prop where
  first : ∃ c rest, text = c :: rest ∧ p c = false
  last : ∃ front c, text = front ++ [c] ∧ p c = false

theorem tight_iff {text : List Char} :
    Tight p text ↔ (text.head?.any fun c => !p c) = true ∧
      (text.getLast?.any fun c => !p c) = true := by
  constructor
  · rintro ⟨⟨c, rest, same, first⟩, front, d, same', last⟩
    constructor
    · simp [same, first]
    · simp [same', last]
  · rintro ⟨first, last⟩
    cases text with
    | nil => cases first
    | cons c rest =>
      refine ⟨⟨c, rest, rfl, by simpa using first⟩, _, _,
        (List.dropLast_append_getLast (List.cons_ne_nil c rest)).symm, ?_⟩
      simpa [List.getLast?_eq_some_getLast] using last

instance (text : List Char) : Decidable (Tight p text) :=
  decidable_of_iff' _ tight_iff

theorem Tight.exists_mem {text : List Char} (tight : Tight p text) :
    ∃ c ∈ text, p c = false := by
  obtain ⟨c, rest, rfl, other⟩ := tight.first
  exact ⟨c, List.mem_cons_self, other⟩

/-- What stands between two tight texts does not matter. -/
theorem Tight.append {front back : List Char} (left : Tight p front) (right : Tight p back)
    (middle : List Char) : Tight p (front ++ middle ++ back) := by
  obtain ⟨c, rest, rfl, first⟩ := left.first
  obtain ⟨init, d, rfl, last⟩ := right.last
  exact ⟨⟨c, rest ++ middle ++ (init ++ [d]), by simp, first⟩,
    ⟨c :: rest ++ middle ++ init, d, by simp, last⟩⟩

theorem trimEnd_append_of_all {text post : List Char} (all : ∀ c ∈ post, p c = true) :
    trimEnd p (text ++ post) = trimEnd p text := by
  unfold trimEnd
  rw [List.reverse_append, List.dropWhile_append_of_pos]
  intro c member
  exact all c (List.mem_reverse.1 member)

theorem trimEnd_append_of_exists {front back : List Char} (other : ∃ c ∈ back, p c = false) :
    trimEnd p (front ++ back) = front ++ trimEnd p back := by
  obtain ⟨c, member, fails⟩ := other
  have stops : (back.reverse.dropWhile p).isEmpty = false := by
    rw [Bool.eq_false_iff, Ne, List.isEmpty_iff, List.dropWhile_eq_nil_iff]
    intro all
    rw [all c (List.mem_reverse.2 member)] at fails
    cases fails
  simp [trimEnd, List.dropWhile_append, stops]

theorem trimEnd_of_tight {text : List Char} (tight : Tight p text) : trimEnd p text = text := by
  obtain ⟨front, c, rfl, other⟩ := tight.last
  exact trimEnd_append_singleton_of_not other

/-- Trimming finds a tight text between characters that are trimmed. -/
theorem trimBoth_of_tight {pre text post : List Char} (tight : Tight p text)
    (before : ∀ c ∈ pre, p c = true) (after : ∀ c ∈ post, p c = true) :
    trimBoth p (pre ++ text ++ post) = text := by
  obtain ⟨c, rest, same, other⟩ := tight.first
  have start : trimStart p (pre ++ text ++ post) = text ++ post := by
    rw [trimStart, List.append_assoc, List.dropWhile_append_of_pos before, same, List.cons_append]
    exact trimStart_cons_of_not other
  rw [trimBoth, start, trimEnd_append_of_all after, trimEnd_of_tight tight]

theorem trimBoth_append_of_tight {text post : List Char} (tight : Tight p text)
    (after : ∀ c ∈ post, p c = true) : trimBoth p (text ++ post) = text :=
  @trimBoth_of_tight p [] text post tight (fun _ member => nomatch member) after

theorem trim_of_tight {text : List Char} (tight : Tight isBlank text) : trim text = text := by
  have trimmed := @trimBoth_append_of_tight isBlank text [] tight fun _ member => nomatch member
  rwa [List.append_nil] at trimmed

theorem trimStart_append_of_not {c : Char} (other : p c = false) (front back : List Char) :
    trimStart p (front ++ c :: back) = trimStart p front ++ c :: back := by
  induction front with
  | nil => exact trimStart_cons_of_not other
  | cons d front ih =>
    unfold trimStart at ih ⊢
    rw [List.cons_append, List.dropWhile_cons, List.dropWhile_cons, ih]
    split <;> rfl

theorem not_of_dropWhile_eq_cons {text rest : List Char} {c : Char}
    (start : text.dropWhile p = c :: rest) : p c = false := by
  have head := List.head?_dropWhile_not p text
  rwa [start] at head

/-- Trimming drops blanks from the end, also if there is nothing else. -/
theorem trim_append_of_all {text post : List Char} (blank : ∀ c ∈ post, isBlank c = true) :
    trim (text ++ post) = trim text := by
  unfold trim trimBoth trimStart
  rw [List.dropWhile_append]
  split
  · rename_i empty
    have none : post.dropWhile isBlank = [] := List.dropWhile_eq_nil_iff.2 blank
    rw [none, List.isEmpty_iff.1 empty]
  · exact trimEnd_append_of_all blank

/-! ## Cuts -/

/-- `Cut line seen`: `seen` is `line` without some of the blanks at its end. -/
def Cut (line seen : List Char) : Prop :=
  ∃ tail, line = seen ++ tail ∧ ∀ c ∈ tail, isBlank c = true

theorem cut_trimEnd (line : List Char) : Cut line (trimEnd isBlank line) := by
  refine ⟨(line.reverse.takeWhile isBlank).reverse, ?_, ?_⟩
  · unfold trimEnd
    rw [← List.reverse_append, List.takeWhile_append_dropWhile, List.reverse_reverse]
  · intro c member
    exact List.mem_takeWhile_imp (List.mem_reverse.1 member)

theorem cut_dropReturn (line : List Char) : Cut line (dropReturn line) := by
  unfold dropReturn
  split
  · rename_i front reversed
    refine ⟨['\r'], ?_, ?_⟩
    · rw [← List.reverse_reverse line, reversed, List.reverse_cons]
    · intro c member
      rw [List.mem_singleton.1 member]
      rfl
  · exact ⟨[], (List.append_nil line).symm, fun _ member => nomatch member⟩

/-- Without its blanks, a line with a part that ends tight keeps that part. -/
theorem Cut.exists_append {front back seen : List Char} {c : Char}
    (cut : Cut (front ++ [c] ++ back) seen) (other : isBlank c = false) :
    ∃ rest, seen = front ++ [c] ++ rest ∧ rest <+: back := by
  obtain ⟨tail, same, blank⟩ := cut
  rcases List.append_eq_append_iff.1 same with ⟨rest, long, short⟩ | ⟨rest, long, short⟩
  · exact ⟨rest, long, tail, short.symm⟩
  · rcases List.eq_nil_or_concat rest with rfl | ⟨init, d, rfl⟩
    · rw [List.append_nil] at long
      exact ⟨[], by rw [List.append_nil, long], List.nil_prefix⟩
    · -- the cut would take the character that is not blank
      rw [List.concat_eq_append, ← List.append_assoc] at long
      obtain ⟨-, ends⟩ := List.append_inj' long rfl
      have isLast : isBlank d = true := blank d (by rw [short]; simp)
      rw [← List.singleton_inj.1 ends, other] at isLast
      cases isLast

/-- A line that ends tight is not cut. -/
theorem Cut.eq_of_last {front seen : List Char} {c : Char} (cut : Cut (front ++ [c]) seen)
    (other : isBlank c = false) : seen = front ++ [c] := by
  rw [← List.append_nil (front ++ [c])] at cut
  obtain ⟨rest, same, none⟩ := cut.exists_append other
  rw [same, List.prefix_nil.1 none, List.append_nil]

/-- What is not blank is not cut off. -/
theorem Cut.mem {line seen : List Char} {c : Char} (cut : Cut line seen) (member : c ∈ line)
    (other : isBlank c = false) : c ∈ seen := by
  obtain ⟨tail, rfl, blank⟩ := cut
  rcases List.mem_append.1 member with stays | gone
  · exact stays
  · rw [blank c gone] at other
    cases other

/-- What trimming leaves is tight. -/
theorem tight_trim {text : List Char} (ne : trim text ≠ []) : Tight isBlank (trim text) := by
  obtain ⟨tail, same, -⟩ := cut_trimEnd (trimStart isBlank text)
  change trimStart isBlank text = trim text ++ tail at same
  constructor
  · obtain ⟨c, rest, trimmed⟩ := List.exists_cons_of_ne_nil ne
    rw [trimmed, List.cons_append] at same
    exact ⟨c, rest, trimmed, not_of_dropWhile_eq_cons same⟩
  · have back : trim text = ((trimStart isBlank text).reverse.dropWhile isBlank).reverse := rfl
    cases last : (trimStart isBlank text).reverse.dropWhile isBlank with
    | nil =>
      rw [back, last] at ne
      exact (ne rfl).elim
    | cons c rest =>
      rw [last, List.reverse_cons] at back
      exact ⟨rest.reverse, c, back, not_of_dropWhile_eq_cons last⟩

theorem trim_sublist (text : List Char) : (trim text).Sublist text := by
  obtain ⟨tail, same, -⟩ := cut_trimEnd (trimStart isBlank text)
  have front : (trim text).Sublist (trimStart isBlank text) := by
    rw [same]
    exact List.sublist_append_left _ tail
  exact front.trans (List.dropWhile_sublist isBlank)

/-- A text that starts with no blank starts alike when it is trimmed. -/
theorem trim_cons_of_not {c : Char} (other : isBlank c = false) (rest : List Char) :
    ∃ more, trim (c :: rest) = c :: more := by
  have trimmed : trim (c :: rest) = trimEnd isBlank (c :: rest) := by
    rw [trim, trimBoth, trimStart_cons_of_not other]
  obtain ⟨tail, same, blank⟩ := cut_trimEnd (c :: rest)
  rw [trimmed]
  cases seen : trimEnd isBlank (c :: rest) with
  | nil =>
    rw [seen, List.nil_append] at same
    rw [blank c (same ▸ List.mem_cons_self)] at other
    cases other
  | cons d more =>
    rw [seen, List.cons_append] at same
    cases same
    exact ⟨more, rfl⟩

/-! ## Lines -/

theorem dropReturn_append_singleton {c : Char} (other : c ≠ '\r') (front : List Char) :
    dropReturn (front ++ [c]) = front ++ [c] := by
  unfold dropReturn
  split
  · rename_i rest reversed
    rw [List.reverse_append] at reversed
    cases reversed
    exact (other rfl).elim
  · rfl

/-- A text of lines, each with a line feed at its end. -/
def unlines (lines : List (List Char)) : List Char :=
  lines.flatMap fun line => line ++ ['\n']

theorem linesFrom_append {line : List Char} (plain : '\n' ∉ line) (current rest : List Char) :
    linesFrom current (line ++ '\n' :: rest) =
      dropReturn (current.reverse ++ line) :: linesFrom [] rest := by
  induction line generalizing current with
  | nil => simp [linesFrom]
  | cons c line ih =>
    have other : c ≠ '\n' := fun same => plain (same ▸ List.mem_cons_self)
    have tail := ih (fun member => plain (List.mem_cons_of_mem c member)) (c :: current)
    rw [List.cons_append, linesFrom]
    · simpa using tail
    · exact other

theorem linesFrom_of_not_mem {line : List Char} (plain : '\n' ∉ line) (current : List Char)
    (ne : current.reverse ++ line ≠ []) :
    linesFrom current line = [current.reverse ++ line] := by
  induction line generalizing current with
  | nil =>
    have open_ : current.isEmpty = false := by
      cases current with
      | nil => exact (ne rfl).elim
      | cons c current => rfl
    simp [linesFrom, open_]
  | cons c line ih =>
    have other : c ≠ '\n' := fun same => plain (same ▸ List.mem_cons_self)
    have tail := ih (fun member => plain (List.mem_cons_of_mem c member)) (c :: current) (by simp)
    rw [linesFrom]
    · simpa using tail
    · exact other

/-- Lines come back from a text of them, if none of them ends in a carriage return. -/
theorem lines_unlines {written : List (List Char)} (plain : ∀ line ∈ written, '\n' ∉ line)
    (closed : ∀ line ∈ written, dropReturn line = line) : lines (unlines written) = written := by
  induction written with
  | nil => rfl
  | cons line rest ih =>
    have later := ih (fun line member => plain line (List.mem_cons_of_mem _ member))
      fun line member => closed line (List.mem_cons_of_mem _ member)
    have shape : unlines (line :: rest) = line ++ '\n' :: unlines rest := by
      rw [unlines, List.flatMap_cons, List.append_assoc]
      rfl
    rw [shape, lines, linesFrom_append (plain line List.mem_cons_self), List.reverse_nil,
      List.nil_append, closed line List.mem_cons_self]
    exact congrArg _ later

/-- A line feed parts a text, of which both parts have lines of their own. -/
theorem linesFrom_append_feed (current front back : List Char) :
    linesFrom current (front ++ '\n' :: back) =
      linesFrom current (front ++ ['\n']) ++ lines back := by
  induction front generalizing current with
  | nil => rfl
  | cons c front ih =>
    rw [List.cons_append, List.cons_append]
    by_cases feed : c = '\n'
    · subst feed
      rw [linesFrom, linesFrom, ih, List.cons_append]
    · rw [linesFrom, linesFrom, ih]
      · exact feed
      · exact feed

/-- A line feed after a text closes its last line, or it makes an empty line. -/
theorem linesFrom_feed_cases (current text : List Char) :
    linesFrom current (text ++ ['\n']) = linesFrom current text ++ [[]] ∨
      ∃ front last, linesFrom current text = front ++ [last] ∧
        linesFrom current (text ++ ['\n']) = front ++ [dropReturn last] := by
  induction text generalizing current with
  | nil =>
    cases current with
    | nil => exact .inl rfl
    | cons c current => exact .inr ⟨[], (c :: current).reverse, rfl, rfl⟩
  | cons c text ih =>
    rw [List.cons_append]
    by_cases feed : c = '\n'
    · subst feed
      rw [linesFrom, linesFrom]
      rcases ih [] with same | ⟨front, last, open_, closed⟩
      · left
        rw [same, List.cons_append]
      · right
        exact ⟨dropReturn current.reverse :: front, last, by rw [open_, List.cons_append],
          by rw [closed, List.cons_append]⟩
    · have plain : linesFrom current (c :: text) = linesFrom (c :: current) text := by
        rw [linesFrom]
        exact feed
      have closed : linesFrom current (c :: (text ++ ['\n'])) =
          linesFrom (c :: current) (text ++ ['\n']) := by
        rw [linesFrom]
        exact feed
      rw [plain, closed]
      exact ih (c :: current)

/-- The first line of a text that starts tight stands at its start. -/
theorem trim_unlines {first : List Char} {rest : List (List Char)} (tight : Tight isBlank first) :
    trim (unlines (first :: rest)) = trimEnd isBlank (unlines (first :: rest)) := by
  obtain ⟨c, tail, rfl, other⟩ := tight.first
  rw [trim, trimBoth]
  exact congrArg (trimEnd isBlank) (trimStart_cons_of_not other)

/-- Lines that are not blank come back from a text without the blanks at its end. -/
theorem forall₂_cut_lines_trimEnd {lines : List (List Char)} (ne : lines ≠ [])
    (plain : ∀ line ∈ lines, '\n' ∉ line) (solid : ∀ line ∈ lines, ∃ c ∈ line, isBlank c = false) :
    List.Forall₂ Cut lines (Text.lines (trimEnd isBlank (unlines lines))) := by
  induction lines with
  | nil => exact (ne rfl).elim
  | cons line rest ih =>
    have linePlain := plain line List.mem_cons_self
    have lineSolid := solid line List.mem_cons_self
    cases rest with
    | nil =>
      have feed : trimEnd isBlank (unlines [line]) = trimEnd isBlank line := by
        simp only [unlines, List.flatMap_cons, List.flatMap_nil, List.append_nil]
        exact trimEnd_append_of_all fun c member => by rw [List.mem_singleton.1 member]; rfl
      obtain ⟨tail, same, -⟩ := cut_trimEnd line
      have stays : '\n' ∉ trimEnd isBlank line := fun member =>
        linePlain (by rw [same]; exact List.mem_append_left _ member)
      have remains : trimEnd isBlank line ≠ [] := by
        intro gone
        obtain ⟨c, member, other⟩ := lineSolid
        have kept := (cut_trimEnd line).mem member other
        rw [gone] at kept
        cases kept
      rw [feed, Text.lines, linesFrom_of_not_mem stays [] remains]
      exact .cons (cut_trimEnd line) .nil
    | cons next more =>
      have later : List.Forall₂ Cut (next :: more)
          (Text.lines (trimEnd isBlank (unlines (next :: more)))) :=
        ih (List.cons_ne_nil next more) (fun line member => plain line (List.mem_cons_of_mem _ member))
          fun line member => solid line (List.mem_cons_of_mem _ member)
      have other : ∃ c ∈ unlines (next :: more), isBlank c = false := by
        obtain ⟨c, member, fails⟩ := solid next (List.mem_cons_of_mem _ List.mem_cons_self)
        exact ⟨c, by simp [unlines, member], fails⟩
      have split : unlines (line :: next :: more) =
          (line ++ ['\n']) ++ unlines (next :: more) := rfl
      rw [split, trimEnd_append_of_exists other, Text.lines, List.append_assoc,
        List.singleton_append, linesFrom_append linePlain]
      exact .cons (cut_dropReturn line) later

/-- The lines of a trimmed text are the written ones, each up to a cut. -/
theorem forall₂_cut_lines_trim {first : List Char} {rest : List (List Char)}
    (tight : Tight isBlank first) (plain : ∀ line ∈ first :: rest, '\n' ∉ line)
    (solid : ∀ line ∈ rest, ∃ c ∈ line, isBlank c = false) :
    List.Forall₂ Cut (first :: rest) (Text.lines (trim (unlines (first :: rest)))) := by
  rw [trim_unlines tight]
  refine forall₂_cut_lines_trimEnd (List.cons_ne_nil first rest) plain fun line member => ?_
  rcases List.mem_cons.1 member with rfl | later
  · exact tight.exists_mem
  · exact solid line later

end ChipPower.Text
