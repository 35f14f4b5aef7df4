import ChipPower.Config.File
import ChipPower.Proofs.Text.Lines

/-!
# Files laid over configurations

A file says the same over every configuration: what it sets, and whether it can be read
at all, shows when it is read over nothing, and its keys then take the place of those
below (`Config.overlaid`). Two files are laid one after the other by one file that has
the text of both, with a header without a name between them.

* `assignmentsFrom_append_header`: a header parts a file, of which the second part stands
  below that header whatever came before.
* `assignmentsFrom_feed`: the end of a file is the end of its last line.
* `ok_assignmentsFrom_congr`: where the lines of a part are counted from shows in
  failures only.
* `layFrom_eq`: it makes no difference whether the keys are set while the lines are read
  or after all of them.
-/

namespace ChipPower.Config

open Text

/-! ## Blanks at the end of a line -/

theorem prefix_of_dropCommentFrom (quoted : Bool) (line : List Char) :
    dropCommentFrom quoted line <+: line := by
  induction line generalizing quoted with
  | nil => exact List.prefix_refl []
  | cons c rest ih =>
    unfold dropCommentFrom
    split
    · exact List.cons_prefix_cons.2 ⟨rfl, ih _⟩
    · split
      · exact List.nil_prefix
      · exact List.cons_prefix_cons.2 ⟨rfl, ih _⟩

/-- Of blanks at the end of a line only blanks are left without the comment. -/
theorem dropCommentFrom_append {tail : List Char} (blank : ∀ c ∈ tail, isBlank c = true)
    (quoted : Bool) (seen : List Char) :
    ∃ rest, dropCommentFrom quoted (seen ++ tail) = dropCommentFrom quoted seen ++ rest ∧
      ∀ c ∈ rest, isBlank c = true := by
  induction seen generalizing quoted with
  | nil =>
    refine ⟨dropCommentFrom quoted tail, rfl, ?_⟩
    intro c member
    exact blank c ((prefix_of_dropCommentFrom quoted tail).subset member)
  | cons c seen ih =>
    rw [List.cons_append]
    unfold dropCommentFrom
    split
    · rcases ih (!quoted) with ⟨rest, same, restBlank⟩
      exact ⟨rest, by rw [same, List.cons_append], restBlank⟩
    · split
      · exact ⟨[], rfl, fun _ member => nomatch member⟩
      · rcases ih quoted with ⟨rest, same, restBlank⟩
        exact ⟨rest, by rw [same, List.cons_append], restBlank⟩

/-- A line says what it says without blanks at its end. -/
theorem Line.read_of_cut {line seen : List Char} (cut : Cut line seen) (number : Nat) :
    Line.read number line = Line.read number seen := by
  rcases cut with ⟨tail, rfl, blank⟩
  rcases dropCommentFrom_append blank false seen with ⟨rest, same, restBlank⟩
  have trimmed : trim (dropComment (seen ++ tail)) = trim (dropComment seen) := by
    unfold dropComment
    rw [same]
    exact trim_append_of_all restBlank
  unfold Line.read
  rw [trimmed]

/-! ## Numbers of lines -/

/-- What a line says does not depend on its number. -/
theorem Line.ok_read_congr {number other : Nat} {text : List Char} {line : Line}
    (ok : Line.read number text = .ok line) : Line.read other text = .ok line := by
  unfold Line.read at ok ⊢
  split at ok
  · exact ok
  · unfold Line.ofHeader at ok ⊢
    split at ok
    · exact ok
    · cases ok
  · unfold Line.ofAssignment at ok ⊢
    split at ok
    · cases ok
    · rename_i key value cut
      dsimp only at ok ⊢
      split at ok
      · cases ok
      · rename_i named
        rw [if_neg named]
        exact ok

theorem ok_assignmentsFrom_congr {header : List Char} {number other : Nat}
    {lines : List (List Char)} {entries : List (String × String)}
    (ok : assignmentsFrom header number lines = .ok entries) :
    assignmentsFrom header other lines = .ok entries := by
  induction lines generalizing header number other entries with
  | nil => exact ok
  | cons text rest ih =>
    unfold assignmentsFrom at ok ⊢
    cases said : Line.read number text with
    | error failure =>
      rw [said] at ok
      cases ok
    | ok line =>
      rw [said] at ok
      rw [Line.ok_read_congr said]
      cases line with
      | blank => exact ih ok
      | header name => exact ih ok
      | assignment key value =>
        rcases map_eq_ok_iff.1 ok with ⟨later, read, same⟩
        exact map_eq_ok_iff.2 ⟨later, ih read, same⟩

/-! ## Parts of a file -/

/-- Lines that say the same say the same after other lines. -/
theorem assignmentsFrom_append_congr {lines others : List (List Char)}
    (same : ∀ header number,
      assignmentsFrom header number lines = assignmentsFrom header number others)
    (front : List (List Char)) (header : List Char) (number : Nat) :
    assignmentsFrom header number (front ++ lines) =
      assignmentsFrom header number (front ++ others) := by
  induction front generalizing header number with
  | nil => exact same header number
  | cons text front ih =>
    rw [List.cons_append, List.cons_append, assignmentsFrom, assignmentsFrom]
    simp only [ih]

/-- A line feed at the end of a file says nothing. -/
theorem assignmentsFrom_feed (text header : List Char) (number : Nat) :
    assignmentsFrom header number (lines (text ++ ['\n'])) =
      assignmentsFrom header number (lines text) := by
  rcases linesFrom_feed_cases [] text with same | ⟨front, last, open_, closed⟩
  · -- the line that the feed ends has nothing in it
    unfold lines
    rw [same]
    have nothing : ∀ header number,
        assignmentsFrom header number [[]] = assignmentsFrom header number [] :=
      fun _ _ => rfl
    have appended := assignmentsFrom_append_congr nothing (linesFrom [] text) header number
    rw [List.append_nil] at appended
    exact appended
  · unfold lines
    rw [open_, closed]
    refine assignmentsFrom_append_congr ?_ front header number
    intro header number
    unfold assignmentsFrom
    rw [← Line.read_of_cut (cut_dropReturn last)]

/-- A header parts a file. What comes after it stands below it. -/
theorem assignmentsFrom_append_header {reset name : List Char}
    (resets : ∀ number, Line.read number reset = .ok (.header name))
    (front back : List (List Char)) (header : List Char) (number : Nat) :
    assignmentsFrom header number (front ++ reset :: back) =
      assignmentsFrom header number front >>= fun own =>
        (assignmentsFrom name (number + front.length + 1) back).map (own ++ ·) := by
  induction front generalizing header number with
  | nil =>
    rw [List.nil_append, assignmentsFrom, assignmentsFrom, resets]
    show assignmentsFrom name (number + 1) back =
      (assignmentsFrom name (number + 1) back).map ([] ++ ·)
    cases assignmentsFrom name (number + 1) back <;> rfl
  | cons text front ih =>
    have further : number + 1 + front.length + 1 = number + (text :: front).length + 1 := by
      rw [List.length_cons]
      omega
    rw [List.cons_append, assignmentsFrom, assignmentsFrom]
    cases Line.read number text with
    | error failure => rfl
    | ok line =>
      cases line with
      | blank =>
        dsimp only
        rw [ih, further]
      | header name =>
        dsimp only
        rw [ih, further]
      | assignment key value =>
        dsimp only
        rw [ih, further]
        cases assignmentsFrom header (number + 1) front with
        | error failure => rfl
        | ok own =>
          cases assignmentsFrom name (number + (text :: front).length + 1) back <;> rfl

/-- A file with the text of two files around an empty header has the assignments of
both. -/
theorem assignments_joined_eq_ok_iff {first second : String} {entries : List (String × String)} :
    assignments (first ++ "\n[]\n" ++ second) = .ok entries ↔
      ∃ own later, assignments first = .ok own ∧ assignments second = .ok later ∧
        entries = own ++ later := by
  have text : (first ++ "\n[]\n" ++ second).toList =
      first.toList ++ '\n' :: (['[', ']'] ++ '\n' :: second.toList) := by
    simp [String.toList_append]
  have parts : lines (first ++ "\n[]\n" ++ second).toList =
      lines (first.toList ++ ['\n']) ++ ['[', ']'] :: lines second.toList := by
    rw [text]
    exact (linesFrom_append_feed [] _ _).trans
      (congrArg _ (linesFrom_append (by decide) [] _))
  have resets : ∀ number, Line.read number ['[', ']'] = .ok (.header []) := fun _ => rfl
  unfold assignments
  rw [parts, assignmentsFrom_append_header resets, assignmentsFrom_feed]
  simp only [bind_eq_ok_iff]
  constructor
  · rintro ⟨own, ownRead, joined⟩
    rcases map_eq_ok_iff.1 joined with ⟨later, laterRead, rfl⟩
    exact ⟨own, later, ownRead, ok_assignmentsFrom_congr laterRead, rfl⟩
  · rintro ⟨own, later, ownRead, laterRead, rfl⟩
    exact ⟨own, ownRead, map_eq_ok_iff.2 ⟨later, ok_assignmentsFrom_congr laterRead, rfl⟩⟩

/-! ## Layers -/

/-- A configuration in which the keys of another one have its values. -/
def overlaid (base own : Config) : Config :=
  base.insertAll own.toList

theorem get?_overlaid (base own : Config) (key : String) :
    (base.overlaid own).get? key = (own.get? key).or (base.get? key) := by
  unfold overlaid
  rw [Dict.get?_insertAll, Dict.find_reverse own.sorted]
  rfl

/-- Assignments, one after the other, come to their last values laid over what was there. -/
theorem insertAll_eq_overlaid (base : Config) (entries : List (String × String)) :
    base.insertAll entries = base.overlaid (Dict.insertAll ∅ entries) := by
  apply Dict.ext_get?
  intro key
  rw [get?_overlaid, Dict.get?_insertAll, Dict.get?_insertAll, Dict.get?_empty, Option.or_none]

/-- Lays numbered lines below a section over a configuration, each as it is read. -/
def layFrom (header : List Char) (number : Nat) (config : Config) :
    List (List Char) → Except Failure Config
  | [] => .ok config
  | text :: rest =>
    match Line.read number text with
    | .error failure => .error failure
    | .ok .blank => layFrom header (number + 1) config rest
    | .ok (.header name) => layFrom name (number + 1) config rest
    | .ok (.assignment key value) =>
      layFrom header (number + 1)
        (config.insert (keyBelow header key) (String.ofList value)) rest

/-- Lines that are laid as they are read come to their assignments, laid one after the
other once all are read. -/
theorem layFrom_eq (header : List Char) (number : Nat) (config : Config)
    (lines : List (List Char)) :
    layFrom header number config lines =
      (assignmentsFrom header number lines).map config.insertAll := by
  induction lines generalizing header number config with
  | nil => rfl
  | cons text rest ih =>
    rw [layFrom, assignmentsFrom]
    cases Line.read number text with
    | error failure => rfl
    | ok line =>
      cases line with
      | blank => exact ih header (number + 1) config
      | header name => exact ih name (number + 1) config
      | assignment key value =>
        dsimp only
        rw [ih]
        cases assignmentsFrom header (number + 1) rest <;> rfl

theorem layer_eq_ok_iff {base result : Config} {text : String} :
    layer base text = .ok result ↔
      ∃ entries, assignments text = .ok entries ∧ base.insertAll entries = result :=
  map_eq_ok_iff

theorem layer_eq_overlaid (base : Config) (text : String) :
    layer base text = (layer ∅ text).map base.overlaid := by
  unfold layer
  cases assignments text with
  | error failure => rfl
  | ok entries => exact congrArg Except.ok (insertAll_eq_overlaid base entries)

/-- A file, laid line by line, says over a configuration what it says over nothing: it
fails alike, and otherwise its keys have their values and all others stay. Two files with
an empty header between them, read as one, are laid one over the other. -/
theorem layer_compositional (base : Config) (text : String) :
    layer base text = layFrom [] 1 base (lines text.toList) ∧
      layer base text = (layer ∅ text).map base.overlaid ∧
      (∀ own key, (base.overlaid own).get? key = (own.get? key).or (base.get? key)) ∧
      ∀ first second result, layer base (first ++ "\n[]\n" ++ second) = .ok result ↔
        ∃ between, layer base first = .ok between ∧ layer between second = .ok result := by
  refine ⟨(layFrom_eq [] 1 base _).symm, layer_eq_overlaid base text, get?_overlaid base, ?_⟩
  intro first second result
  simp only [layer_eq_ok_iff, assignments_joined_eq_ok_iff]
  constructor
  · rintro ⟨entries, ⟨own, later, ownRead, laterRead, rfl⟩, rfl⟩
    exact ⟨base.insertAll own, ⟨own, ownRead, rfl⟩, later, laterRead,
      (base.insertAll_append own later).symm⟩
  · rintro ⟨between, ⟨own, ownRead, rfl⟩, later, laterRead, rfl⟩
    exact ⟨own ++ later, ⟨own, later, ownRead, laterRead, rfl⟩, base.insertAll_append own later⟩

end ChipPower.Config
