import ChipPower.Proofs.Report.Printed
import Mathlib.Data.Bool.AllAny

/-!
# Reading a printed block

A printed block is read back as its label and its metrics. Reading works on lines and
keeps a stack of open structures, printing works on a tree, and the two meet in the
script of a block.

* `PrintedLine.step` is what one printed line does to the open structures and to the
  record, and `Block.readLines_cut` says that reading the lines of a text, each up to
  blanks at its end, takes these steps.
* `PrintedStructures.foldl_script` is the induction over the tree. It keeps apart the
  open structures around the current ones, which every line leaves alone, and those
  that are still open from an earlier sibling, which the next one closes.

`Block.read_text` puts them together.
-/

namespace ChipPower

open Text

/-! ## Characters -/

theorem Block.isBlank_of_isNumberChar {c : Char} (number : Block.isNumberChar c = true) :
    isBlank c = false := by
  simp only [Block.isNumberChar, Bool.or_eq_true, beq_iff_eq] at number
  rcases number with (((digit | rfl) | rfl) | rfl) | rfl
  · simp only [Char.isDigit, Bool.and_eq_true, decide_eq_true_eq] at digit
    have low : 48 ≤ c.toNat := digit.1
    have high : c.toNat ≤ 57 := digit.2
    simp only [isBlank, Bool.or_eq_false_iff, Bool.and_eq_false_iff, decide_eq_false_iff_not,
      beq_eq_false_iff_ne]
    omega
  all_goals rfl

theorem Block.isSpace_of_not_isBlank {c : Char} (other : isBlank c = false) :
    Block.isSpace c = false := by
  simp only [Block.isSpace, beq_eq_false_iff_ne]
  rintro rfl
  cases other

/-! ## Paths -/

namespace Nesting

/-- What follows the last name follows the joined names. -/
theorem intercalate_append_last (names : List (List Char)) (last tail : List Char) :
    List.intercalate ['/'] (names ++ [last ++ tail]) =
      List.intercalate ['/'] (names ++ [last]) ++ tail := by
  induction names with
  | nil => simp
  | cons first rest ih =>
    rw [List.cons_append, List.cons_append, List.intercalate_cons_of_ne_nil (by simp),
      List.intercalate_cons_of_ne_nil (by simp), ih]
    simp

end Nesting

namespace PrintedName

theorem tight_intercalate {names : List PrintedName} (ne : names ≠ []) :
    Tight isBlank (List.intercalate ['/'] (names.map (·.chars))) := by
  induction names with
  | nil => exact (ne rfl).elim
  | cons first rest ih =>
    cases rest with
    | nil =>
      rw [List.map_singleton, List.intercalate_singleton]
      exact first.tight
    | cons second more =>
      rw [List.map_cons, List.intercalate_cons_of_ne_nil (by simp)]
      exact first.tight.append (ih (List.cons_ne_nil second more)) ['/']

/-- Inside of printed structures, the path of a name is the printed one, also with the
space that stands between the name and the equals sign. -/
theorem path_nesting {nesting : Nesting} {parents : List PrintedName}
    (names : nesting.reverse.map (·.name) = parents.map (·.chars)) (name : PrintedName) :
    String.ofList (nesting.path (name.chars ++ [' '])) = name.path parents := by
  have tight : Tight isBlank (List.intercalate ['/'] ((parents ++ [name]).map (·.chars))) :=
    tight_intercalate (by simp)
  have trimmed := @trimBoth_append_of_tight isBlank _ [' '] tight
    fun c member => by rw [List.mem_singleton.1 member]; rfl
  rw [List.map_append, List.map_singleton, ← Nesting.intercalate_append_last] at trimmed
  rw [Nesting.path, Nesting.join_eq_intercalate, names, trim, trimmed, path, List.map_append,
    List.map_singleton]

end PrintedName

/-! ## One line -/

variable {α : Type} [Scalar α]

/-- A number is taken from a text up to the space behind it, and read as a whole. -/
theorem Block.readValue_append {number rest : List Char}
    (digits : ∀ c ∈ number, Block.isNumberChar c = true) (nonempty : number ≠ [])
    (stop : ∀ c ∈ rest.head?, c = ' ') :
    (Block.readValue (number ++ rest) : Except Failure (Option α)) =
      match Scalar.read? number with
      | .ok x => .ok (some x)
      | .error reason =>
        during (.parseNumber (String.ofList number)) (fail (.malformedNumber reason)) := by
  have ends : ∀ c ∈ rest.head?, Block.isNumberChar c = false := by
    intro c member
    rw [stop c member]
    rfl
  have defined : "nan".toList.isPrefixOf rest = false := by
    cases rest with
    | nil => rfl
    | cons c rest =>
      obtain rfl := stop c rfl
      rfl
  have some_ : number.isEmpty = false := List.isEmpty_eq_false_iff.2 nonempty
  cases read : (Scalar.read? number : Except NumeralError α) <;>
    simp only [Block.readValue, takeWhile_append_of_head digits ends,
      dropWhile_append_of_head digits ends, defined, some_, read, Bool.false_eq_true, if_false]

theorem Block.isSpace_of_mem_replicate {c : Char} {n : Nat} (member : c ∈ List.replicate n ' ') :
    Block.isSpace c = true := by
  rw [List.eq_of_mem_replicate member]
  rfl

/-- A line with a name, an equals sign and something else, each behind spaces, is read as the
name and what is read of the rest. -/
theorem Block.readMetric_append {name rest : List Char}
    (starts : ∃ c tail, name = c :: tail ∧ Block.isSpace c = false) (plain : '=' ∉ name)
    (stop : ∀ c ∈ rest.head?, Block.isSpace c = false) (indent gap : Nat) :
    (Block.readMetric (List.replicate indent ' ' ++ (name ++ '=' ::
        (List.replicate gap ' ' ++ rest))) : Except Failure (Option (List Char × α))) =
      (Block.readValue rest).map (Option.map fun x => (name, x)) := by
  obtain ⟨c, tail, rfl, other⟩ := starts
  have start := @dropWhile_append_of_head _ Block.isSpace (List.replicate indent ' ')
    (c :: tail ++ '=' :: (List.replicate gap ' ' ++ rest))
    (fun _ => Block.isSpace_of_mem_replicate) (fun _ member => Option.some.inj member ▸ other)
  have value := @dropWhile_append_of_head _ Block.isSpace (List.replicate gap ' ') rest
    (fun _ => Block.isSpace_of_mem_replicate) stop
  rw [Block.readMetric, trimStart, start, splitFirst_append plain]
  simp only [trimStart, value]
  cases (Block.readValue rest : Except Failure (Option α)) <;> rfl

namespace PrintedMetric

theorem number_ne_nil (metric : PrintedMetric α) : metric.number ≠ [] := by
  intro empty
  have reads := metric.reads
  rw [empty] at reads
  cases reads

/-- A number is taken from the line as a whole, whatever is left of the unit. -/
theorem readValue_number (metric : PrintedMetric α) {rest : List Char}
    (unit : rest <+: ' ' :: metric.unit) :
    Block.readValue (metric.number ++ rest) = .ok (some metric.value) := by
  have stop : ∀ c ∈ rest.head?, c = ' ' := by
    intro c member
    cases rest with
    | nil => cases member
    | cons d rest =>
      cases member
      exact (List.cons_prefix_cons.1 unit).1
  rw [Block.readValue_append metric.digits metric.number_ne_nil stop, metric.reads]

/-- What is left of a metric's line keeps all but a part of the unit. -/
theorem eq_of_cut {metric : PrintedMetric α} {seen : List Char}
    (cut : Cut (PrintedLine.metric metric).text seen) :
    ∃ rest, rest <+: ' ' :: metric.unit ∧
      seen = List.replicate metric.indent ' ' ++ metric.name.chars ++ [' ', '=', ' '] ++
        metric.number ++ rest := by
  obtain ⟨init, last, number⟩ := (List.eq_nil_or_concat' metric.number).resolve_left
    metric.number_ne_nil
  have notBlank : isBlank last = false :=
    Block.isBlank_of_isNumberChar (metric.digits last (by rw [number]; simp))
  have shape : (PrintedLine.metric metric).text =
      (List.replicate metric.indent ' ' ++ metric.name.chars ++ [' ', '=', ' '] ++ init) ++
        [last] ++ ' ' :: metric.unit := by
    rw [PrintedLine.text, number]
    simp only [List.append_assoc]
  rw [shape] at cut
  obtain ⟨rest, same, unit⟩ := cut.exists_append notBlank
  refine ⟨rest, unit, ?_⟩
  rw [same, number]
  simp only [List.append_assoc]

/-- A metric's line is read as the name, the space behind it included, and the value. -/
theorem readMetric_of_cut {metric : PrintedMetric α} {seen : List Char}
    (cut : Cut (PrintedLine.metric metric).text seen) :
    Block.readMetric seen = .ok (some (metric.name.chars ++ [' '], metric.value)) := by
  obtain ⟨rest, unit, rfl⟩ := eq_of_cut cut
  obtain ⟨c, tail, name, notBlank⟩ := metric.name.tight.first
  obtain ⟨d, digits, number⟩ := List.exists_cons_of_ne_nil metric.number_ne_nil
  have shape : List.replicate metric.indent ' ' ++ metric.name.chars ++ [' ', '=', ' '] ++
      metric.number ++ rest = List.replicate metric.indent ' ' ++ ((metric.name.chars ++ [' ']) ++
        '=' :: (List.replicate 1 ' ' ++ (metric.number ++ rest))) := by
    simp
  have starts : ∃ c tail, metric.name.chars ++ [' '] = c :: tail ∧ Block.isSpace c = false :=
    ⟨c, tail ++ [' '], by rw [name]; rfl, Block.isSpace_of_not_isBlank notBlank⟩
  have plain : '=' ∉ metric.name.chars ++ [' '] := by
    rw [List.mem_append]
    rintro (member | member)
    · exact (metric.name.plain '=' member).2.1 rfl
    · cases List.mem_singleton.1 member
  have stop : ∀ c ∈ (metric.number ++ rest).head?, Block.isSpace c = false := by
    intro head member
    rw [number] at member
    cases member
    have digit : Block.isNumberChar d = true :=
      metric.digits d (by rw [number]; exact List.mem_cons_self)
    exact Block.isSpace_of_not_isBlank (Block.isBlank_of_isNumberChar digit)
  rw [shape, Block.readMetric_append starts plain stop, metric.readValue_number unit]
  rfl

end PrintedMetric

namespace PrintedLine

theorem solid (line : PrintedLine α) : ∃ c ∈ line.text, isBlank c = false := by
  cases line with
  | header indent name count => exact ⟨':', by simp [text], rfl⟩
  | metric metric => exact ⟨'=', by simp [text], rfl⟩

theorem plain_countText {c : Char} {count : Option Nat} (member : c ∈ countText count) :
    c ≠ '\n' ∧ c ≠ '=' := by
  cases count with
  | none => cases member
  | some n =>
    have words : ∀ d ∈ countHead, d ≠ '\n' ∧ d ≠ '=' := List.all_iff_forall_prop.1 rfl
    simp only [countText, List.mem_append, List.mem_singleton] at member
    rcases member with (member | member) | rfl
    · exact words c member
    · have digit := Nat.isDigit_of_mem_toDigits (by decide) (by decide) member
      constructor <;>
      · rintro rfl
        cases digit
    · decide

theorem plain_header {indent : Nat} {name : PrintedName} {count : Option Nat} {c : Char}
    (member : c ∈ (header indent name count : PrintedLine α).text) : c ≠ '\n' ∧ c ≠ '=' := by
  simp only [text, List.mem_append, List.mem_singleton] at member
  rcases member with ((member | member) | member) | rfl
  · rw [List.eq_of_mem_replicate member]
    decide
  · exact ⟨(name.plain c member).1, (name.plain c member).2.1⟩
  · exact plain_countText member
  · decide

theorem plain (line : PrintedLine α) : '\n' ∉ line.text := by
  cases line with
  | header indent name count => exact fun member => (plain_header member).1 rfl
  | metric line =>
    simp only [text, List.mem_append, List.mem_cons, List.not_mem_nil]
    rintro ((((member | member) | member) | member) | same | member)
    · cases List.eq_of_mem_replicate member
    · exact (line.name.plain '\n' member).1 rfl
    · simp at member
    · cases line.digits '\n' member
    · cases same
    · exact line.oneLine member

/-- A head is not cut, since it ends in a colon. -/
theorem eq_of_cut_header {indent : Nat} {name : PrintedName} {count : Option Nat}
    {seen : List Char} (cut : Cut (header indent name count : PrintedLine α).text seen) :
    seen = (header indent name count : PrintedLine α).text :=
  cut.eq_of_last rfl

section Header

variable (indent : Nat) (name : PrintedName) (count : Option Nat)

/-- A head consists of its indentation and of a part that begins with the name. -/
theorem header_split :
    (header indent name count : PrintedLine α).text.takeWhile Block.isSpace =
        List.replicate indent ' ' ∧
      (header indent name count : PrintedLine α).text.dropWhile Block.isSpace =
        name.chars ++ (countText count ++ [':']) := by
  obtain ⟨c, tail, chars, notBlank⟩ := name.tight.first
  have stop : ∀ d ∈ (name.chars ++ (countText count ++ [':'])).head?, Block.isSpace d = false := by
    intro d member
    rw [chars] at member
    cases member
    exact Block.isSpace_of_not_isBlank notBlank
  have shape : (header indent name count : PrintedLine α).text =
      List.replicate indent ' ' ++ (name.chars ++ (countText count ++ [':'])) := by
    simp only [text, List.append_assoc]
  rw [shape]
  exact ⟨takeWhile_append_of_head (fun _ => Block.isSpace_of_mem_replicate) stop,
    dropWhile_append_of_head (fun _ => Block.isSpace_of_mem_replicate) stop⟩

/-- The name of a structure is read up to the colon, or up to the bracket of the count. -/
theorem trim_structureName_header :
    trim (Block.structureName (header indent name count : PrintedLine α).text) = name.chars := by
  have whole : ∀ d ∈ name.chars, (d != ':' && d != '(') = true := fun d member => by
    simp [name.plain d member]
  obtain ⟨blank, ends, blanks⟩ : ∃ blank,
      ((countText count ++ [':']).takeWhile fun c => c != ':' && c != '(') = blank ∧
        ∀ d ∈ blank, isBlank d = true := by
    cases count with
    | none => exact ⟨[], rfl, fun _ member => nomatch member⟩
    | some n => exact ⟨[' '], rfl, fun d member => by rw [List.mem_singleton.1 member]; rfl⟩
  rw [Block.structureName, (header_split indent name count).2, List.takeWhile_append_of_pos whole,
    ends]
  exact trimBoth_append_of_tight name.tight blanks

/-- A head closes the structures that are indented as far or more, and opens its own. -/
theorem enter_header (nesting : Nesting) :
    nesting.enter (Block.indentOf (header indent name count : PrintedLine α).text)
        (Block.structureName (header indent name count : PrintedLine α).text) =
      ⟨indent, name.chars⟩ :: nesting.dropWhile fun level => indent ≤ level.indent := by
  rw [Nesting.enter, trim_structureName_header, Block.indentOf, (header_split indent name count).1,
    List.length_replicate]

end Header

/-- What a line does to the open structures and to the record. -/
def step : Nesting × Metrics α → PrintedLine α → Nesting × Metrics α
  | (nesting, record), header indent name _ =>
    (⟨indent, name.chars⟩ :: nesting.dropWhile fun level => indent ≤ level.indent, record)
  | (nesting, record), metric line =>
    (nesting, record.insert (String.ofList (nesting.path (line.name.chars ++ [' '])))
      line.value)

/-- Reading a line takes its step. -/
theorem readLines_cons (label : String) (nesting : Nesting) (record : Metrics α)
    {line : PrintedLine α} {seen : List Char} (cut : Cut line.text seen)
    (rest : List (List Char)) :
    Block.readLines label nesting record (seen :: rest) =
      Block.readLines label (step (nesting, record) line).1 (step (nesting, record) line).2 rest := by
  have notAll : seen.all isBlank = false := by
    obtain ⟨c, member, other⟩ := line.solid
    exact List.all_eq_false.2 ⟨c, cut.mem member other, by simp [other]⟩
  cases line with
  | header indent name count =>
    obtain rfl := eq_of_cut_header cut
    have noEquals : (header indent name count : PrintedLine α).text.contains '=' = false := by
      rw [List.contains_eq_mem, decide_eq_false_iff_not]
      exact fun member => (plain_header member).2 rfl
    rw [Block.readLines, notAll, noEquals, enter_header]
    rfl
  | metric line =>
    have equals : seen.contains '=' = true :=
      List.contains_iff_mem.2 (cut.mem (by simp [text]) rfl)
    rw [Block.readLines, notAll, equals, PrintedMetric.readMetric_of_cut cut]
    rfl

end PrintedLine

/-- Reading lines takes their steps one after the other. -/
theorem Block.readLines_cut (label : String) (nesting : Nesting)
    (record : Metrics α) {script : List (PrintedLine α)} {seen : List (List Char)}
    (cuts : List.Forall₂ Cut (script.map PrintedLine.text) seen) :
    Block.readLines label nesting record seen = .ok (script.foldl PrintedLine.step (nesting, record)).2 := by
  induction script generalizing nesting record seen with
  | nil =>
    cases cuts
    rfl
  | cons line rest ih =>
    cases cuts with
    | cons cut cuts =>
      rw [PrintedLine.readLines_cons label nesting record cut]
      exact ih _ _ cuts

/-! ## Trees of structures -/

/-- Inside of open structures, metrics go into the record under their names. -/
theorem PrintedMetric.foldl_metrics {nesting : Nesting} {parents : List PrintedName}
    (names : nesting.reverse.map (·.name) = parents.map (·.chars))
    (metrics : List (PrintedMetric α)) (record : Metrics α) :
    (metrics.map PrintedLine.metric).foldl PrintedLine.step (nesting, record) =
      (nesting, record.insertAll (metrics.map (·.entry parents))) := by
  induction metrics generalizing record with
  | nil => rfl
  | cons metric rest ih =>
    rw [List.map_cons, List.foldl_cons, PrintedLine.step, PrintedName.path_nesting names]
    exact ih _

/-- The structures at one indentation leave the open structures around them alone and
put their metrics into the record. Those that stay open after them are indented as far
or more, as are those that were open before. -/
theorem PrintedStructures.foldl_script (structures : PrintedStructures α) {indent : Nat}
    {closed open_ : Nesting} {parents : List PrintedName} (record : Metrics α)
    (inside : ∀ level ∈ closed, indent ≤ level.indent)
    (around : ∀ level ∈ open_, level.indent < indent)
    (names : open_.reverse.map (·.name) = parents.map (·.chars)) :
    ∃ closed', (∀ level ∈ closed', indent ≤ level.indent) ∧
      (structures.script indent).foldl PrintedLine.step (closed ++ open_, record) =
        (closed' ++ open_, record.insertAll (structures.entries parents)) := by
  induction structures generalizing indent closed open_ parents record with
  | none => exact ⟨closed, inside, rfl⟩
  | cons name count metrics deeper inner next ihInner ihNext =>
    have left : (closed ++ open_).dropWhile (fun level => indent ≤ level.indent) = open_ := by
      refine dropWhile_append_of_head (fun level member => decide_eq_true (inside level member)) ?_
      intro level member
      have outer := around level (List.mem_of_mem_head? member)
      exact decide_eq_false (by omega)
    have named : ((⟨indent, name.chars⟩ :: open_ : Nesting).reverse.map (·.name)) =
        (parents ++ [name]).map (·.chars) := by
      simp [names]
    have enclosing : ∀ level ∈ (⟨indent, name.chars⟩ :: open_ : Nesting),
        level.indent < indent + deeper + 1 := by
      intro level member
      rcases List.mem_cons.1 member with rfl | member
      · exact Nat.lt_succ_of_le (Nat.le_add_right _ _)
      · have := around level member
        omega
    obtain ⟨within, deep, innerRun⟩ := @ihInner _ [] _ _
      (record.insertAll (metrics.map (·.entry (parents ++ [name]))))
      (fun _ member => nomatch member) enclosing named
    rw [List.nil_append] at innerRun
    have stillInside : ∀ level ∈ within ++ [⟨indent, name.chars⟩], indent ≤ level.indent := by
      intro level member
      rcases List.mem_append.1 member with member | member
      · have := deep level member
        omega
      · rw [List.mem_singleton.1 member]
    have regrouped : within ++ ⟨indent, name.chars⟩ :: open_ =
        (within ++ [⟨indent, name.chars⟩]) ++ open_ := List.append_cons ..
    obtain ⟨after, later, nextRun⟩ := ihNext
      ((record.insertAll (metrics.map (·.entry (parents ++ [name])))).insertAll
        (inner.entries (parents ++ [name]))) stillInside around names
    refine ⟨after, later, ?_⟩
    rw [script, List.cons_append, List.cons_append, List.foldl_cons, PrintedLine.step, left,
      List.foldl_append, List.foldl_append, PrintedMetric.foldl_metrics named, innerRun, regrouped,
      nextRun, entries, Dict.insertAll_append, Dict.insertAll_append]

/-! ## Blocks -/

namespace PrintedBlock

theorem tight_firstLine (block : PrintedBlock α) : Tight isBlank block.firstLine := by
  obtain ⟨front, c, label, other⟩ := block.noBlank.last
  refine ⟨?_, ?_⟩
  · obtain ⟨d, rest, same, first⟩ := block.noBlank.first
    exact ⟨d, rest ++ List.replicate block.colons ':', by rw [firstLine, same]; rfl, first⟩
  · rw [firstLine]
    cases colons : block.colons with
    | zero => exact ⟨front, c, by simp [label], other⟩
    | succ n =>
      exact ⟨block.label ++ List.replicate n ':', ':', by simp [List.replicate_succ'], rfl⟩

/-- The label is what the first line says without its colons. -/
theorem labelOf_firstLine (block : PrintedBlock α) :
    Block.labelOf block.firstLine = String.ofList block.label := by
  have label := @trimBoth_append_of_tight (· == ':') _ (List.replicate block.colons ':')
    block.noColon fun c member => by simp [List.eq_of_mem_replicate member]
  rw [Block.labelOf, trim_of_tight block.tight_firstLine]
  exact congrArg String.ofList label

/-- The steps of a block's lines leave a record of its metrics. -/
theorem foldl_script (block : PrintedBlock α) :
    (block.script.foldl PrintedLine.step ([], ∅)).2 = Dict.ofList block.entries := by
  have metrics := @PrintedMetric.foldl_metrics α _ [] [] rfl block.metrics ∅
  obtain ⟨after, -, run⟩ := @PrintedStructures.foldl_script α _ block.structures block.indent
    [] [] [] ((∅ : Metrics α).insertAll (block.metrics.map (·.entry [])))
    (fun _ member => nomatch member) (fun _ member => nomatch member) rfl
  rw [List.append_nil] at run
  rw [script, List.foldl_append, metrics, run]
  exact (Dict.insertAll_append ∅ _ _).symm

theorem plain_lines (block : PrintedBlock α) :
    ∀ line ∈ block.firstLine :: block.script.map PrintedLine.text, '\n' ∉ line := by
  intro line member
  rcases List.mem_cons.1 member with rfl | member
  · rw [firstLine, List.mem_append]
    rintro (member | member)
    · exact block.oneLine member
    · cases List.eq_of_mem_replicate member
  · obtain ⟨printed, -, rfl⟩ := List.mem_map.1 member
    exact printed.plain

/-- A printed block is read as its label and a record of exactly its metrics, each under
its path; of metrics with one path, the last one printed counts. -/
theorem read_text (block : PrintedBlock α) :
    ∃ record, Block.read block.text = .ok { label := String.ofList block.label, record } ∧
      ∀ path, record.get? path = Dict.find path block.entries.reverse := by
  have cuts := forall₂_cut_lines_trim block.tight_firstLine block.plain_lines fun line member => by
    obtain ⟨printed, -, rfl⟩ := List.mem_map.1 member
    exact printed.solid
  refine ⟨Dict.ofList block.entries, ?_, Dict.get?_ofList block.entries⟩
  rw [Block.read]
  change List.Forall₂ Cut _ (lines (trim block.text)) at cuts
  generalize lines (trim block.text) = seen at cuts
  cases cuts with
  | @cons _ first _ rest head tail =>
    have same : first = block.firstLine := by
      obtain ⟨front, c, line, other⟩ := block.tight_firstLine.last
      rw [line] at head ⊢
      exact head.eq_of_last other
    simp only [same, labelOf_firstLine, Block.readLines_cut _ _ _ tail, foldl_script]
    rfl

/-- A core with a cache two levels in, after which a structure at the outer level
follows. -/
def smallCore : PrintedBlock Float where
  label := "Core".toList
  colons := 1
  metrics := []
  indent := 2
  structures :=
    .cons ⟨"Load Store Unit".toList, by decide, List.all_iff_forall_prop.1 rfl⟩ (some 2) [] 1
      (.cons ⟨"Data Cache".toList, by decide, List.all_iff_forall_prop.1 rfl⟩ none
        [{ indent := 7
           name := ⟨"Area".toList, by decide, List.all_iff_forall_prop.1 rfl⟩
           number := "2.5e+1".toList
           unit := "mm^2".toList
           value := Binary64.ofDecimal false 25 0
           digits := List.all_iff_forall_prop.1 rfl
           reads := rfl
           oneLine := by decide }] 0 .none .none)
      (.cons ⟨"L2".toList, by decide, List.all_iff_forall_prop.1 rfl⟩ none
        [{ indent := 4
           name := ⟨"Area".toList, by decide, List.all_iff_forall_prop.1 rfl⟩
           number := "4".toList
           unit := "mm^2".toList
           value := Binary64.ofDecimal false 4 0
           digits := List.all_iff_forall_prop.1 rfl
           reads := rfl
           oneLine := by decide }] 0 .none .none)
  noBlank := by decide
  noColon := by decide
  oneLine := by decide

/-- A number is read under the path of all names above it. -/
theorem read_text_smallCore :
    ∃ record : Metrics Float,
      Block.read ("Core:\n  Load Store Unit (Count: 2):\n    Data Cache:\n" ++
        "       Area = 2.5e+1 mm^2\n  L2:\n    Area = 4 mm^2\n").toList =
          .ok { label := "Core", record } ∧
        record.get? "Load Store Unit/Data Cache/Area" = some (Binary64.ofDecimal false 25 0) ∧
          record.get? "L2/Area" = some (Binary64.ofDecimal false 4 0) := by
  obtain ⟨record, read, metrics⟩ := read_text smallCore
  exact ⟨record, read, metrics _, metrics _⟩

end PrintedBlock

end ChipPower
