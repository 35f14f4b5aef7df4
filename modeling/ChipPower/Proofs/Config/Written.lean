import ChipPower.Proofs.Config.Layering
import Mathlib.Algebra.Order.BigOperators.Group.List
import Mathlib.Algebra.Order.Ring.Nat
import Mathlib.Data.Bool.AllAny
import Mathlib.Data.List.DropRight
import Mathlib.Data.List.Perm.Subperm

/-!
# Written configurations

A configuration is written with one line for each key, which has the value between quotes,
and reading gives it back. Keys may be written in full, or below the headers of sections.

* `IsKey` and `IsValue` say what can be written, and `Writing.Writes` which texts are
  writings of a configuration.
* `Entry.read_text_eq_ok_iff`: a line is read as its key, trimmed, and its value, whatever the
  value holds. This is where comments, quotes, blanks and equals signs meet.
* `Writing.Writes.assignments_text_eq_ok_iff`: a writing is read line by line.
* `Writing.Writes.trim_eq`: if the keys that were read are those of the configuration, then
  they were not trimmed. They would be shorter otherwise.
-/

namespace ChipPower

namespace Dict

variable {κ α : Type} [Ord κ] [Std.LawfulEqOrd κ] [Std.TransOrd κ]

theorem keys_ofList_subset (entries : List (κ × α)) :
    (ofList entries).keys ⊆ entries.map (·.1) := by
  intro k member
  by_contra absent
  obtain ⟨⟨_, v⟩, entry, rfl⟩ := List.mem_map.1 member
  have found : (ofList entries).get? _ = some v :=
    find_eq_some_of_mem (ofList entries).nodup_keys entry
  rw [ofList, get?_insertAll_of_not_mem empty absent] at found
  cases found

/-- A dictionary that has as many keys as it was given entries has the keys of these. -/
theorem perm_keys_of_size {entries : List (κ × α)} (size : (ofList entries).size = entries.length) :
    (ofList entries).keys.Perm (entries.map (·.1)) := by
  refine (List.subperm_of_subset (nodup_keys _) (keys_ofList_subset entries)).perm_of_length_le ?_
  rw [List.length_map, keys, List.length_map]
  exact size.ge

end Dict

namespace Config

open Text

/-! ## Keys and values -/

/-- The characters that mean something outside of quotes. -/
def marks : List Char := ['\n', '=', '#', ';', '"']

/-- A key that can be written: it does not begin or end with a blank, it does not begin
like a header, and it has none of the marks. -/
structure IsKey (key : List Char) : Prop where
  tight : Tight isBlank key
  unmarked : ∀ c ∈ key, c ∉ marks
  noHeader : key.head? ≠ some '['

/-- A value that can be written, between quotes. -/
structure IsValue (value : List Char) : Prop where
  oneLine : '\n' ∉ value
  unquoted : '"' ∉ value

instance (key : List Char) : Decidable (IsKey key) :=
  decidable_of_iff (Tight isBlank key ∧ (key.all fun c => c ∉ marks) = true ∧
      key.head? ≠ some '[')
    ⟨fun ⟨tight, unmarked, noHeader⟩ => ⟨tight, List.all_iff_forall_prop.1 unmarked, noHeader⟩,
      fun ⟨tight, unmarked, noHeader⟩ => ⟨tight, List.all_iff_forall_prop.2 unmarked, noHeader⟩⟩

instance (value : List Char) : Decidable (IsValue value) :=
  decidable_of_iff ('\n' ∉ value ∧ '"' ∉ value)
    ⟨fun ⟨oneLine, unquoted⟩ => ⟨oneLine, unquoted⟩, fun ⟨oneLine, unquoted⟩ => ⟨oneLine, unquoted⟩⟩

/-! ## Texts -/

/-- What a line assigns: a key, and a value that stands between quotes. -/
structure Entry where
  key : List Char
  value : List Char

/-- A header with the entries below it. -/
structure Part where
  name : List Char
  entries : List Entry

/-- A configuration as it is written: the entries above all headers, and the parts. -/
structure Writing where
  top : List Entry
  parts : List Part

def Entry.text (entry : Entry) : List Char :=
  entry.key ++ [' ', '=', ' ', '"'] ++ entry.value ++ ['"']

def Part.header (part : Part) : List Char :=
  '[' :: part.name ++ [']']

def Part.lines (part : Part) : List (List Char) :=
  part.header :: part.entries.map Entry.text

/-- The key and the value that an entry stands for below a header. -/
def Part.setting (part : Part) (entry : Entry) : String × String :=
  (String.ofList (part.name ++ '/' :: entry.key), String.ofList entry.value)

namespace Writing

variable (writing : Writing)

def lines : List (List Char) :=
  writing.top.map Entry.text ++ writing.parts.flatMap Part.lines

def text : String :=
  String.ofList (unlines writing.lines)

/-- The keys and values that are written. -/
def settings : List (String × String) :=
  writing.top.map (fun entry => (String.ofList entry.key, String.ofList entry.value)) ++
    writing.parts.flatMap fun part => part.entries.map part.setting

/-- A writing has one line for each entry of a configuration, all of which can be written,
below headers that can be. -/
structure Writes (config : Config) : Prop where
  keys : ∀ entry ∈ config.toList, IsKey entry.1.toList
  values : ∀ entry ∈ config.toList, IsValue entry.2.toList
  names : ∀ part ∈ writing.parts, IsKey part.name
  perm : writing.settings.Perm config.toList

end Writing

/-! ## Reading a line -/

/-- Before a mark, and between quotes, a line has no comment. -/
theorem dropCommentFrom_append_of_unmarked {quoted : Bool} {front : List Char}
    (unmarked : ∀ c ∈ front, c ≠ '"' ∧ (quoted = false → c ≠ '#' ∧ c ≠ ';')) (rest : List Char) :
    dropCommentFrom quoted (front ++ rest) = front ++ dropCommentFrom quoted rest := by
  induction front with
  | nil => rfl
  | cons c front ih =>
    obtain ⟨noQuote, noComment⟩ := unmarked c List.mem_cons_self
    have stays : ((c = '#' || c = ';') && !quoted) = false := by
      cases quoted with
      | true => simp
      | false => simp [noComment rfl]
    rw [List.cons_append, dropCommentFrom, if_neg noQuote, stays, if_neg Bool.false_ne_true,
      ih fun d member => unmarked d (List.mem_cons_of_mem c member)]
    rfl

theorem plain_of_not_mem_marks {c : Char} (unmarked : c ∉ marks) :
    c ≠ '"' ∧ (false = false → c ≠ '#' ∧ c ≠ ';') := by
  simp only [marks, List.mem_cons, List.not_mem_nil, or_false, not_or] at unmarked
  exact ⟨unmarked.2.2.2.2, fun _ => ⟨unmarked.2.2.1, unmarked.2.2.2.1⟩⟩

/-! ## Reading an entry -/

/-- What trimming leaves of a key can start a line and be a key. -/
def Legible (key : List Char) : Prop :=
  trim key ≠ [] ∧ (trim key).head? ≠ some '['

/-- What a line says depends on what it starts with. -/
theorem Line.read_eq_ite {text rest : List Char} {c : Char}
    (trimmed : trim (dropComment text) = c :: rest) (number : Nat) :
    Line.read number text =
      if c = '[' then Line.ofHeader number rest else Line.ofAssignment number (c :: rest) := by
  unfold Line.read
  rw [trimmed]
  split
  · contradiction
  · rename_i rest' same
    cases same
    rw [if_pos rfl]
  · rename_i other
    rw [if_neg fun same => other rest (by rw [same])]

theorem Line.ofAssignment_append {key : List Char} (plain : '=' ∉ key) (value : List Char)
    (number : Nat) :
    Line.ofAssignment number (key ++ '=' :: value) =
      if (trim key).isEmpty then fail (.emptyKey number)
      else .ok (.assignment (trim key) (unquote (trim value))) := by
  rw [Line.ofAssignment, splitFirst_append plain]

namespace Entry

variable {entry : Entry}

theorem dropComment_text (unmarked : ∀ c ∈ entry.key, c ∉ marks) (value : IsValue entry.value) :
    dropComment entry.text = entry.text := by
  have inside : ∀ c ∈ entry.value, c ≠ '"' ∧ (true = false → c ≠ '#' ∧ c ≠ ';') :=
    fun c member => ⟨fun same => value.unquoted (same ▸ member), fun closed => nomatch closed⟩
  rw [text, List.append_assoc, List.append_assoc, dropComment,
    dropCommentFrom_append_of_unmarked fun c member => plain_of_not_mem_marks (unmarked c member)]
  show entry.key ++ ' ' :: '=' :: ' ' :: '"' :: dropCommentFrom true (entry.value ++ ['"']) = _
  rw [dropCommentFrom_append_of_unmarked inside]
  rfl

/-- What is read of an entry: its key after blanks, the equals sign, and the quoted value. -/
theorem trim_text :
    trim entry.text =
      trimStart isBlank (entry.key ++ [' ']) ++ '=' :: ([' ', '"'] ++ entry.value ++ ['"']) := by
  have shape : entry.text =
      (entry.key ++ [' ']) ++ '=' :: ([' ', '"'] ++ entry.value ++ ['"']) := by
    simp [text]
  rw [shape, trim, trimBoth, trimStart_append_of_not rfl, ← List.cons_append, ← List.append_assoc,
    trimEnd_append_singleton_of_not rfl]

/-- An entry is read with its key trimmed, if anything is left of it that does not look like
a header. -/
theorem read_text_eq_ok_iff (unmarked : ∀ c ∈ entry.key, c ∉ marks) (value : IsValue entry.value)
    {number : Nat} {line : Line} :
    Line.read number entry.text = .ok line ↔
      Legible entry.key ∧ line = .assignment (trim entry.key) entry.value := by
  have key : trim (trimStart isBlank (entry.key ++ [' '])) = trim entry.key := by
    have again : trim (trimStart isBlank (entry.key ++ [' '])) = trim (entry.key ++ [' ']) :=
      congrArg (trimEnd isBlank) (List.dropWhile_idempotent _ _)
    rw [again]
    exact trim_append_of_all fun c member => List.mem_singleton.1 member ▸ rfl
  have plain : '=' ∉ trimStart isBlank (entry.key ++ [' ']) := by
    intro member
    rcases List.mem_append.1 ((List.dropWhile_sublist _).subset member) with inKey | space
    · exact unmarked '=' inKey (by decide)
    · cases List.mem_singleton.1 space
  have quoted : trim ([' ', '"'] ++ entry.value ++ ['"']) = '"' :: (entry.value ++ ['"']) := by
    have tight : Tight isBlank ('"' :: (entry.value ++ ['"'])) :=
      ⟨⟨'"', _, rfl, rfl⟩, '"' :: entry.value, '"', rfl, rfl⟩
    have trimmed := @trimBoth_of_tight isBlank [' '] _ [] tight
      (fun c member => List.mem_singleton.1 member ▸ rfl) fun _ member => nomatch member
    rwa [List.append_nil] at trimmed
  have unquoted : unquote ('"' :: (entry.value ++ ['"'])) = entry.value := by
    simp [unquote]
  have assigned := Line.ofAssignment_append plain ([' ', '"'] ++ entry.value ++ ['"']) number
  rw [key, quoted, unquoted] at assigned
  have seen := (congrArg trim (dropComment_text unmarked value)).trans trim_text
  unfold Legible
  cases start : trimStart isBlank (entry.key ++ [' ']) with
  | nil =>
    have blank : trim entry.key = [] := by
      rw [← key, start]
      rfl
    rw [start, List.nil_append] at seen assigned
    rw [Line.read_eq_ite seen, if_neg (by decide), assigned, blank]
    simp [fail]
  | cons c rest =>
    have notBlank : isBlank c = false := not_of_dropWhile_eq_cons start
    obtain ⟨more, trimmed⟩ := trim_cons_of_not notBlank rest
    rw [start, trimmed] at key
    rw [start, List.cons_append] at seen assigned
    rw [Line.read_eq_ite seen, assigned, ← key]
    by_cases header : c = '['
    · simp [header, Line.ofHeader, fail]
    · simp [header, eq_comm]

end Entry

/-! ## Reading all lines -/

/-- An entry with the header that it stands below, of which an empty one is none. -/
structure Place where
  header : List Char
  entry : Entry

/-- What is written at a place. -/
def Place.setting (place : Place) : String × String :=
  (keyBelow place.header place.entry.key, String.ofList place.entry.value)

/-- What is read at a place. -/
def Place.read (place : Place) : String × String :=
  (keyBelow place.header (trim place.entry.key), String.ofList place.entry.value)

theorem Part.read_header {part : Part} (name : IsKey part.name) (number : Nat) :
    Line.read number part.header = .ok (.header part.name) := by
  have plain : dropComment part.header = part.header := by
    show '[' :: dropCommentFrom false (part.name ++ [']']) = _
    rw [dropCommentFrom_append_of_unmarked fun c member =>
      plain_of_not_mem_marks (name.unmarked c member)]
    rfl
  have seen : trim (dropComment part.header) = '[' :: (part.name ++ [']']) := by
    rw [plain, trim, trimBoth, header, List.cons_append, trimStart_cons_of_not rfl]
    exact @trimEnd_append_singleton_of_not isBlank ']' ('[' :: part.name) rfl
  rw [Line.read_eq_ite seen, if_pos rfl, Line.ofHeader, List.reverse_append]
  simp [trim_of_tight name.tight]

/-- Entries are read one after the other, if all of their keys can be. -/
theorem assignmentsFrom_entries_eq_ok_iff {entries : List Entry}
    (unmarked : ∀ entry ∈ entries, ∀ c ∈ entry.key, c ∉ marks)
    (values : ∀ entry ∈ entries, IsValue entry.value) (header : List Char) (number : Nat)
    (rest : List (List Char)) {all : List (String × String)} :
    assignmentsFrom header number (entries.map Entry.text ++ rest) = .ok all ↔
      (∀ entry ∈ entries, Legible entry.key) ∧
        ∃ later, assignmentsFrom header number rest = .ok later ∧
          all = (entries.map fun entry => Place.read ⟨header, entry⟩) ++ later := by
  induction entries generalizing number all with
  | nil => simp
  | cons entry entries ih =>
    have first := fun line => @Entry.read_text_eq_ok_iff entry (unmarked entry List.mem_cons_self)
      (values entry List.mem_cons_self) number line
    have ih := @ih (fun entry member => unmarked entry (List.mem_cons_of_mem _ member))
      (fun entry member => values entry (List.mem_cons_of_mem _ member)) (number + 1)
    rw [List.map_cons, List.cons_append, assignmentsFrom, List.forall_mem_cons]
    cases said : Line.read number entry.text with
    | error failure =>
      have illegible : ¬ Legible entry.key := fun legible => by
        have read := (first _).2 ⟨legible, rfl⟩
        rw [said] at read
        cases read
      simp [illegible]
    | ok line =>
      obtain ⟨legible, rfl⟩ := (first line).1 said
      simp only [map_eq_ok_iff, ih]
      constructor
      · rintro ⟨_, ⟨others, later, read, rfl⟩, rfl⟩
        exact ⟨⟨legible, others⟩, later, ok_assignmentsFrom_congr read, rfl⟩
      · rintro ⟨⟨-, others⟩, later, read, rfl⟩
        exact ⟨_, ⟨others, later, ok_assignmentsFrom_congr read, rfl⟩, rfl⟩

theorem assignmentsFrom_parts_eq_ok_iff {parts : List Part}
    (names : ∀ part ∈ parts, IsKey part.name)
    (unmarked : ∀ part ∈ parts, ∀ entry ∈ part.entries, ∀ c ∈ entry.key, c ∉ marks)
    (values : ∀ part ∈ parts, ∀ entry ∈ part.entries, IsValue entry.value) (header : List Char)
    (number : Nat) {all : List (String × String)} :
    assignmentsFrom header number (parts.flatMap Part.lines) = .ok all ↔
      (∀ part ∈ parts, ∀ entry ∈ part.entries, Legible entry.key) ∧
        all = parts.flatMap fun part => part.entries.map fun entry => Place.read ⟨part.name, entry⟩ := by
  induction parts generalizing header number all with
  | nil => simp [assignmentsFrom, eq_comm]
  | cons part parts ih =>
    have ih := fun later => @ih (fun part member => names part (List.mem_cons_of_mem _ member))
      (fun part member => unmarked part (List.mem_cons_of_mem _ member))
      (fun part member => values part (List.mem_cons_of_mem _ member)) part.name (number + 1) later
    rw [List.flatMap_cons, Part.lines, List.cons_append, assignmentsFrom,
      Part.read_header (names part List.mem_cons_self), List.forall_mem_cons, List.flatMap_cons]
    simp only [assignmentsFrom_entries_eq_ok_iff (unmarked part List.mem_cons_self)
      (values part List.mem_cons_self), ih]
    constructor
    · rintro ⟨first, later, ⟨others, rfl⟩, rfl⟩
      exact ⟨⟨first, others⟩, rfl⟩
    · rintro ⟨⟨first, others⟩, rfl⟩
      exact ⟨first, _, ⟨others, rfl⟩, rfl⟩

/-! ## Whole writings -/

namespace Writing

variable (writing : Writing)

/-- All entries with their headers. -/
def places : List Place :=
  writing.top.map (⟨[], ·⟩) ++ writing.parts.flatMap fun part => part.entries.map (⟨part.name, ·⟩)

variable {writing}

theorem mem_places_of_top {entry : Entry} (member : entry ∈ writing.top) :
    ⟨[], entry⟩ ∈ writing.places :=
  List.mem_append_left _ (List.mem_map_of_mem member)

theorem mem_places_of_part {part : Part} (listed : part ∈ writing.parts) {entry : Entry}
    (member : entry ∈ part.entries) : ⟨part.name, entry⟩ ∈ writing.places :=
  List.mem_append_right _ (List.mem_flatMap.2 ⟨part, listed, List.mem_map_of_mem member⟩)

theorem forall_mem_places_iff {P : Place → Prop} :
    (∀ place ∈ writing.places, P place) ↔
      (∀ entry ∈ writing.top, P ⟨[], entry⟩) ∧
        ∀ part ∈ writing.parts, ∀ entry ∈ part.entries, P ⟨part.name, entry⟩ := by
  simp only [places, List.forall_mem_append, List.forall_mem_map, List.forall_mem_flatMap]

theorem settings_eq (names : ∀ part ∈ writing.parts, IsKey part.name) :
    writing.settings = writing.places.map Place.setting := by
  have below : ∀ part ∈ writing.parts, part.entries.map part.setting =
      (part.entries.map (Place.mk part.name)).map Place.setting := by
    intro part member
    obtain ⟨c, rest, named, -⟩ := (names part member).tight.first
    rw [List.map_map]
    refine List.map_congr_left fun entry _ => ?_
    simp [Part.setting, Place.setting, keyBelow, named]
  rw [settings, places, List.map_append, List.map_map, List.map_flatMap, List.flatMap_congr below]
  rfl

variable {config : Config} (writes : writing.Writes config)
include writes

theorem Writes.setting_mem {place : Place} (member : place ∈ writing.places) :
    place.setting ∈ config.toList := by
  rw [← writes.perm.mem_iff, settings_eq writes.names]
  exact List.mem_map_of_mem member

theorem Writes.isValue {place : Place} (member : place ∈ writing.places) :
    IsValue place.entry.value := by
  have value := writes.values _ (writes.setting_mem member)
  rwa [Place.setting, String.toList_ofList] at value

theorem Writes.unmarked {place : Place} (member : place ∈ writing.places) :
    ∀ c ∈ place.entry.key, c ∉ marks := by
  intro c inKey
  apply (writes.keys _ (writes.setting_mem member)).unmarked
  rw [Place.setting, keyBelow, String.toList_ofList]
  split
  · exact inKey
  · exact List.mem_append_right _ (List.mem_cons_of_mem _ inKey)

theorem Writes.lines_text : Text.lines writing.text.toList = writing.lines := by
  have entries {place : Place} (member : place ∈ writing.places) :
      '\n' ∉ place.entry.text ∧ dropReturn place.entry.text = place.entry.text := by
    constructor
    · simp only [Entry.text, List.mem_append, not_or]
      refine ⟨⟨⟨fun inKey => ?_, by decide⟩, (writes.isValue member).oneLine⟩, by decide⟩
      exact writes.unmarked member '\n' inKey (by decide)
    · exact dropReturn_append_singleton (by decide) _
  have headers {part : Part} (listed : part ∈ writing.parts) :
      '\n' ∉ part.header ∧ dropReturn part.header = part.header := by
    constructor
    · simp only [Part.header, List.cons_append, List.mem_cons, List.mem_append, not_or]
      refine ⟨by decide, fun inName => ?_, by decide⟩
      exact (writes.names part listed).unmarked '\n' inName (by decide)
    · exact dropReturn_append_singleton (by decide) ('[' :: part.name)
  have both : ∀ line ∈ writing.lines, '\n' ∉ line ∧ dropReturn line = line := by
    simp only [lines, Part.lines, List.forall_mem_append, List.forall_mem_map,
      List.forall_mem_flatMap, List.forall_mem_cons]
    exact ⟨fun entry member => entries (mem_places_of_top member), fun part listed =>
      ⟨headers listed, fun entry member => entries (mem_places_of_part listed member)⟩⟩
  rw [text, String.toList_ofList]
  exact lines_unlines (fun line member => (both line member).1) fun line member =>
    (both line member).2

/-- A writing is read entry by entry, if all of the keys can be read. -/
theorem Writes.assignments_text_eq_ok_iff {all : List (String × String)} :
    assignments writing.text = .ok all ↔
      (∀ place ∈ writing.places, Legible place.entry.key) ∧
        all = writing.places.map Place.read := by
  have read : writing.places.map Place.read =
      (writing.top.map fun entry => Place.read ⟨[], entry⟩) ++
        writing.parts.flatMap fun part => part.entries.map fun entry =>
          Place.read ⟨part.name, entry⟩ := by
    simp only [places, List.map_append, List.map_flatMap, List.map_map]
    rfl
  rw [assignments, writes.lines_text, lines, assignmentsFrom_entries_eq_ok_iff
    (fun entry member => writes.unmarked (mem_places_of_top member))
    (fun entry member => writes.isValue (mem_places_of_top member)), forall_mem_places_iff, read]
  simp only [assignmentsFrom_parts_eq_ok_iff writes.names
    (fun part listed entry member => writes.unmarked (mem_places_of_part listed member))
    (fun part listed entry member => writes.isValue (mem_places_of_part listed member))]
  constructor
  · rintro ⟨first, _, ⟨others, rfl⟩, rfl⟩
    exact ⟨⟨first, others⟩, rfl⟩
  · rintro ⟨⟨first, others⟩, rfl⟩
    exact ⟨first, _, ⟨others, rfl⟩, rfl⟩

/-- If the keys are still those of the configuration once they are trimmed, then there was
nothing to trim. -/
theorem Writes.trim_eq (read : Dict.ofList (writing.places.map Place.read) = config) :
    ∀ place ∈ writing.places, trim place.entry.key = place.entry.key := by
  have settings := settings_eq writes.names
  have size : (Dict.ofList (writing.places.map Place.read)).size =
      (writing.places.map Place.read).length := by
    rw [read, Dict.size, ← writes.perm.length_eq, settings, List.length_map, List.length_map]
  have keys := Dict.perm_keys_of_size size
  rw [read] at keys
  -- trimming makes keys shorter, but all keys together are as long as before
  have lengths := ((keys.symm.trans (writes.perm.map _).symm).map String.length).sum_eq
  rw [settings] at lengths
  simp only [List.map_map] at lengths
  have shorter (place : Place) : place.read.1.length + place.entry.key.length =
      place.setting.1.length + (trim place.entry.key).length := by
    simp only [Place.read, Place.setting, keyBelow, String.length_ofList]
    split
    · exact add_comm _ _
    · simp only [List.length_append, List.length_cons]
      omega
  have trimmed (place : Place) := (trim_sublist place.entry.key).length_le
  intro place member
  by_contra cut
  have less : (trim place.entry.key).length < place.entry.key.length :=
    lt_of_le_of_ne (trimmed place) fun equal => cut ((trim_sublist _).eq_of_length equal)
  refine (List.sum_lt_sum _ _ ?_ ⟨place, member, ?_⟩).ne lengths
  · intro place _
    have := shorter place
    have := trimmed place
    simp only [Function.comp_apply]
    omega
  · have := shorter place
    simp only [Function.comp_apply]
    omega

/-- A configuration that can be written is read back as it is from its writings, with the keys in
full or below the headers of sections, as long as what stands below a header is a key too:
blanks in front of it would be lost, and nothing at all or the start of a header is no key. -/
theorem Writes.layer_text_eq_ok_iff :
    layer ∅ writing.text = .ok config ↔
      ∀ part ∈ writing.parts, ∀ entry ∈ part.entries, IsKey entry.key := by
  rw [layer_eq_ok_iff]
  constructor
  · rintro ⟨all, read, result⟩ part listed entry member
    obtain ⟨legible, rfl⟩ := writes.assignments_text_eq_ok_iff.1 read
    have place := mem_places_of_part listed member
    have whole : trim entry.key = entry.key := writes.trim_eq result _ place
    obtain ⟨ne, noHeader⟩ := legible _ place
    have tight := tight_trim ne
    rw [whole] at noHeader tight
    exact ⟨tight, writes.unmarked place, noHeader⟩
  · intro below
    have keys : ∀ place ∈ writing.places, IsKey place.entry.key := by
      refine forall_mem_places_iff.2 ⟨fun entry member => ?_, below⟩
      have key := writes.keys _ (writes.setting_mem (mem_places_of_top member))
      change IsKey (String.ofList entry.key).toList at key
      rwa [String.toList_ofList] at key
    have trimmed : ∀ place ∈ writing.places, trim place.entry.key = place.entry.key :=
      fun place member => trim_of_tight (keys place member).tight
    have read : writing.places.map Place.read = writing.settings := by
      rw [settings_eq writes.names]
      refine List.map_congr_left fun place member => ?_
      rw [Place.read, trimmed place member, Place.setting]
    refine ⟨_, writes.assignments_text_eq_ok_iff.2 ⟨fun place member => ?_, rfl⟩, ?_⟩
    · obtain ⟨c, rest, starts, -⟩ := (keys place member).tight.first
      have noHeader := (keys place member).noHeader
      rw [Legible, trimmed place member]
      exact ⟨by simp [starts], noHeader⟩
    · rw [read]
      exact Dict.ofList_of_perm writes.perm

end Writing

/-- Values that are empty, or full of what means something outside of quotes. -/
def quotedConfig : Config where
  toList := [("general/mode", " # [x] = 1; "), ("output", "")]
  sorted := by decide

def quotedWriting : Writing where
  top := [⟨"output".toList, []⟩]
  parts := [⟨"general".toList, [⟨"mode".toList, " # [x] = 1; ".toList⟩]⟩]

/-- Values between quotes come back as they were, whatever is in them. -/
theorem layer_text_eq_ok_iff_quoted :
    layer ∅ "output = \"\"\n[general]\nmode = \" # [x] = 1; \"\n" = .ok quotedConfig := by
  have writes : quotedWriting.Writes quotedConfig :=
    ⟨by decide, by decide, by decide, by decide⟩
  exact writes.layer_text_eq_ok_iff.2 (by decide)

/-- A key that a blank follows the section in. -/
def blankConfig : Config where
  toList := [("s/ k", "v")]
  sorted := by decide

def blankWriting : Writing where
  top := []
  parts := [⟨['s'], [⟨[' ', 'k'], ['v']⟩]⟩]

/-- Below a header, the blank in front of a key is lost. -/
theorem blank_below_header_lost :
    blankWriting.Writes blankConfig ∧ blankWriting.text = "[s]\n k = \"v\"\n" ∧
      layer ∅ blankWriting.text = .ok (Dict.ofList [("s/k", "v")]) ∧
      layer ∅ blankWriting.text ≠ .ok blankConfig := by
  have read : layer ∅ blankWriting.text = .ok (Dict.ofList [("s/k", "v")]) := rfl
  refine ⟨⟨by decide, by decide, by decide, by decide⟩, rfl, read, ?_⟩
  intro same
  have other : Dict.ofList [("s/k", "v")] = blankConfig := Except.ok.inj (read.symm.trans same)
  exact absurd other (by decide)

end Config

end ChipPower
