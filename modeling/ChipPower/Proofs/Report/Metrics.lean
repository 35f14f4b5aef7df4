import ChipPower.Proofs.Numeric.Decimals
import ChipPower.Proofs.Report.Levels
import ChipPower.Proofs.Report.RoundTrip

/-!
# Metric lines

Whatever else a block holds, a line with a name, an equals sign and a value is recorded under
the names of the structures that are open there. The one exception is a value that is written
`nan` without a sign: its line is passed over.

* `MetricLine` says what a metric line is, and `MetricLine.readMetric_text` what is read of it.
* `Block.readLines_cons_cases` is what one line of any kind does to a record,
  `Block.exists_readLines_append` and `Block.get?_of_not_sets` what the lines before and after
  a metric do.
* `MetricLine.recorded_iff`: which metric lines are recorded in every block.
-/

namespace ChipPower

open Text

variable {α : Type} [Scalar α]

/-! ## Where a line stands -/

namespace Block

/-- Whether a line opens a structure: it is not blank, and it has no equals sign. -/
def isHead (line : List Char) : Bool :=
  !line.all isBlank && !line.contains '='

/-- The structures that lines open, one after the other. -/
def heads (lines : List (List Char)) : List Level :=
  (lines.filter isHead).map fun line => ⟨indentOf line, structureName line⟩

/-- The path of a metric behind lines: the names of the structures that are still open, and
its own name. -/
def pathBehind (lines : List (List Char)) (name : List Char) : String :=
  String.ofList (trim (List.intercalate ['/']
    ((Nesting.remaining (heads lines)).map (fun level => trim level.name) ++ [name])))

/-- Behind `lines`, the line is read as a metric with the path. -/
def Sets (α : Type) [Scalar α] (lines : List (List Char)) (line : List Char) (path : String) :
    Prop :=
  ∃ name, ∃ x : α, readMetric line = .ok (some (name, x)) ∧ pathBehind lines name = path

theorem path_heads (lines : List (List Char)) (name : List Char) :
    String.ofList ((Nesting.enterAll (heads lines)).path name) = pathBehind lines name := by
  rw [Nesting.path_enterAll, pathBehind]

theorem heads_append_of_not {line : List Char} (other : isHead line = false)
    (lines : List (List Char)) : heads (lines ++ [line]) = heads lines := by
  rw [heads, List.filter_append, List.filter_cons, other]
  exact congrArg (List.map _) (List.append_nil _)

theorem enterAll_heads_append {line : List Char} (head : isHead line = true)
    (lines : List (List Char)) :
    Nesting.enterAll (heads (lines ++ [line])) =
      (Nesting.enterAll (heads lines)).enter (indentOf line) (structureName line) := by
  rw [heads, List.filter_append, List.filter_cons, head, List.map_append]
  exact Nesting.enterAll_append_singleton _ _

/-! ## Reading on -/

theorem readMetric_of_not_mem {line : List Char} (plain : '=' ∉ line) :
    readMetric (α := α) line = .ok none := by
  have cut : splitFirst '=' (trimStart isSpace line) = none :=
    splitFirst_eq_none_iff.2 fun member => plain ((List.dropWhile_sublist _).subset member)
  rw [readMetric, cut]

variable {label : String} {lines : List (List Char)} {record final : Metrics α}

/-- A line is either read as a metric, which goes into the record under its path, or as none,
which leaves the record alone. The structures that are open after it are those of all lines
so far. -/
theorem readLines_cons_cases {line : List Char} {rest : List (List Char)}
    (run : readLines label (Nesting.enterAll (heads lines)) record (line :: rest) = .ok final) :
    (∃ name x, readMetric line = .ok (some (name, x)) ∧
      readLines label (Nesting.enterAll (heads (lines ++ [line])))
        (record.insert (pathBehind lines name) x) rest = .ok final) ∨
      (readMetric (α := α) line = .ok none ∧
        readLines label (Nesting.enterAll (heads (lines ++ [line]))) record rest = .ok final) := by
  rw [readLines] at run
  by_cases blank : line.all isBlank = true
  · have plain : '=' ∉ line := by
      intro member
      cases List.all_eq_true.1 blank '=' member
    rw [if_pos blank] at run
    rw [heads_append_of_not (by rw [isHead, blank]; rfl)]
    exact .inr ⟨readMetric_of_not_mem plain, run⟩
  · rw [if_neg blank] at run
    by_cases equals : line.contains '=' = true
    · rw [heads_append_of_not (by rw [isHead, equals, Bool.not_true, Bool.and_false])]
      rw [if_pos equals] at run
      cases read : readMetric (α := α) line with
      | error failure =>
        rw [read] at run
        cases run
      | ok metric =>
        rw [read, during_ok] at run
        cases metric with
        | none => exact .inr ⟨rfl, run⟩
        | some metric =>
          refine .inl ⟨metric.1, metric.2, rfl, ?_⟩
          rw [← path_heads]
          exact run
    · have head : isHead line = true := by
        rw [Bool.not_eq_true] at blank equals
        rw [isHead, blank, equals]
        rfl
      rw [if_neg equals] at run
      rw [enterAll_heads_append head]
      refine .inr ⟨readMetric_of_not_mem fun member => ?_, run⟩
      exact equals (List.contains_iff_mem.2 member)

/-- Lines are read on from what the lines before them leave. -/
theorem exists_readLines_append {front rest : List (List Char)}
    (run : readLines label (Nesting.enterAll (heads lines)) record (front ++ rest) = .ok final) :
    ∃ middle, readLines label (Nesting.enterAll (heads (lines ++ front))) middle rest =
      .ok final := by
  induction front generalizing lines record with
  | nil =>
    rw [List.append_nil]
    exact ⟨record, run⟩
  | cons line front ih =>
    rw [List.append_cons]
    rcases readLines_cons_cases run with ⟨_, _, _, onward⟩ | ⟨-, onward⟩
    · exact ih onward
    · exact ih onward

/-- Lines leave the record alone under a path that none of them has. -/
theorem get?_of_not_sets {rest : List (List Char)} {path : String}
    (run : readLines label (Nesting.enterAll (heads lines)) record rest = .ok final)
    (others : ∀ front line back, rest = front ++ line :: back →
      ¬ Sets α (lines ++ front) line path) :
    final.get? path = record.get? path := by
  induction rest generalizing lines record with
  | nil =>
    cases run
    rfl
  | cons line rest ih =>
    have later : ∀ front next back, rest = front ++ next :: back →
        ¬ Sets α (lines ++ [line] ++ front) next path := by
      rintro front next back rfl
      rw [← List.append_cons]
      exact others (line :: front) next back rfl
    rcases readLines_cons_cases run with ⟨name, x, read, onward⟩ | ⟨-, onward⟩
    · have here := others [] line rest rfl
      rw [List.append_nil] at here
      have apart : path ≠ pathBehind lines name := fun same => here ⟨name, x, read, same.symm⟩
      rw [ih onward later, Dict.get?_insert_of_ne record apart]
    · exact ih onward later

end Block

/-! ## Metric lines -/

/-- The value of a metric as it is written: a decimal number, or `nan` with or without a
sign. -/
inductive MetricValue
  | decimal (number : Decimal.Written)
  | nan (sign : Decimal.Sign)

namespace MetricValue

def chars : MetricValue → List Char
  | decimal number => number.chars
  | nan sign => sign.chars ++ "nan".toList

/-- What a value stands for. One that is undefined counts as zero. -/
def Denotes (x : α) : MetricValue → Prop
  | decimal number => Scalar.ofLiteral? number.literal = some x
  | nan _ => x = 0.0

end MetricValue

/-- A line with a metric: spaces, a name, an equals sign, spaces, a value, and perhaps a unit
behind one more space. The name does not start with a space, which would belong to the spaces
before it. -/
structure MetricLine where
  indent : Nat
  name : List Char
  gap : Nat
  value : MetricValue
  unit : Option (List Char)
  starts : ∃ c rest, name = c :: rest ∧ c ≠ ' '
  plain : ∀ c ∈ name, c ≠ '=' ∧ c ≠ '\n'
  oneLine : ∀ chars ∈ unit, '\n' ∉ chars

namespace MetricLine

variable (line : MetricLine)

/-- The unit and the space before it. -/
def unitChars : List Char :=
  match line.unit with
  | none => []
  | some chars => ' ' :: chars

def text : List Char :=
  List.replicate line.indent ' ' ++ (line.name ++ '=' ::
    (List.replicate line.gap ' ' ++ (line.value.chars ++ line.unitChars)))

/-- Whenever a block with the line is read, its record has what the metric stands for under
the path of the metric, unless a later line has the same path. -/
def Recorded (α : Type) [Scalar α] : Prop :=
  ∀ {text first : List Char} {before after : List (List Char)} {block : Block α},
    Block.read text = .ok block →
    Text.lines (trim text) = first :: before ++ line.text :: after →
    (∀ front later back, after = front ++ later :: back →
      ¬ Block.Sets α (before ++ line.text :: front) later
        (Block.pathBehind before line.name)) →
    ∃ x, line.value.Denotes x ∧ block.record.get? (Block.pathBehind before line.name) = some x

end MetricLine

/-! ## Reading a metric line -/

theorem Decimal.Written.isNumberChar_of_mem {number : Decimal.Written} {c : Char}
    (member : c ∈ number.chars) : Block.isNumberChar c = true := by
  have digit : ∀ {digits : Decimal.Digits}, c ∈ digits.chars → Block.isNumberChar c = true := by
    intro digits member
    rw [Block.isNumberChar, digits.digits c member]
    rfl
  have sign : ∀ {sign : Decimal.Sign}, c ∈ sign.chars → Block.isNumberChar c = true := by
    intro sign member
    cases sign <;> simp only [Decimal.Sign.chars, List.mem_singleton, List.not_mem_nil] at member
    all_goals
      subst member
      rfl
  simp only [chars, List.mem_append] at member
  rcases member with member | member | member | member
  · exact sign member
  · exact digit member
  · rw [fractionChars] at member
    split at member
    · cases member
    · rcases List.mem_cons.1 member with rfl | member
      · rfl
      · exact digit member
  · rw [exponentChars] at member
    split at member
    · cases member
    · rcases List.mem_cons.1 member with rfl | member
      · rfl
      · exact (List.mem_append.1 member).elim sign digit

theorem Decimal.Written.chars_ne_nil (number : Decimal.Written) : number.chars ≠ [] := by
  apply List.append_ne_nil_of_right_ne_nil
  exact List.append_ne_nil_of_left_ne_nil number.whole.nonempty _

/-- A value starts where the spaces before it end. -/
theorem MetricValue.exists_cons (value : MetricValue) :
    ∃ c rest, value.chars = c :: rest ∧ Block.isSpace c = false := by
  cases value with
  | decimal number =>
    obtain ⟨c, rest, same⟩ := List.exists_cons_of_ne_nil number.chars_ne_nil
    have digit : Block.isNumberChar c = true :=
      number.isNumberChar_of_mem (by rw [same]; exact List.mem_cons_self)
    exact ⟨c, rest, same, Block.isSpace_of_not_isBlank (Block.isBlank_of_isNumberChar digit)⟩
  | nan sign => cases sign <;> exact ⟨_, _, rfl, rfl⟩

namespace MetricLine

variable (line : MetricLine)

theorem head_unitChars : ∀ c ∈ line.unitChars.head?, c = ' ' := by
  intro c member
  rw [unitChars] at member
  split at member
  · cases member
  · cases member
    rfl

/-- A metric line is read as its name and what is read of its value. -/
theorem readMetric_text :
    (Block.readMetric line.text : Except Failure (Option (List Char × α))) =
      (Block.readValue (line.value.chars ++ line.unitChars)).map
        (Option.map fun x => (line.name, x)) := by
  obtain ⟨c, rest, name, other⟩ := line.starts
  have noEquals : '=' ∉ line.name := fun member => (line.plain '=' member).1 rfl
  have stop : ∀ c ∈ (line.value.chars ++ line.unitChars).head?, Block.isSpace c = false := by
    obtain ⟨d, digits, value, stop⟩ := line.value.exists_cons
    intro head member
    rw [value] at member
    cases member
    exact stop
  exact Block.readMetric_append ⟨c, rest, name, beq_eq_false_iff_ne.2 other⟩ noEquals stop
    line.indent line.gap

/-- Of a value that is a number, or undefined with a sign, no line is passed over. -/
theorem exists_of_readMetric_text (signed : line.value ≠ .nan .none)
    {read : Option (List Char × α)} (success : Block.readMetric line.text = .ok read) :
    ∃ x, read = some (line.name, x) ∧ line.value.Denotes x := by
  rw [readMetric_text] at success
  obtain ⟨value, reads, rfl⟩ := map_eq_ok_iff.1 success
  cases written : line.value with
  | decimal number =>
    rw [written, MetricValue.chars, Block.readValue_append (fun _ => number.isNumberChar_of_mem)
      number.chars_ne_nil line.head_unitChars, Scalar.read?_chars] at reads
    cases denoted : (Scalar.ofLiteral? number.literal : Option α) with
    | none =>
      rw [denoted] at reads
      cases reads
    | some x =>
      rw [denoted] at reads
      cases reads
      exact ⟨x, rfl, denoted⟩
  | nan sign =>
    rw [written] at signed reads
    cases sign with
    | none => exact (signed rfl).elim
    | minus =>
      cases reads
      exact ⟨0.0, rfl, rfl⟩
    | plus =>
      cases reads
      exact ⟨0.0, rfl, rfl⟩

/-- An undefined value without a sign is passed over. -/
theorem readMetric_text_of_nan (unsigned : line.value = .nan .none) :
    (Block.readMetric line.text : Except Failure (Option (List Char × α))) = .ok none := by
  rw [readMetric_text, unsigned]
  rfl

/-! ## What is recorded -/

theorem recorded_of_ne (signed : line.value ≠ .nan .none) : line.Recorded α := by
  intro text first before after block read lines others
  rw [Block.read, lines, List.cons_append] at read
  obtain ⟨final, run, same⟩ := bind_eq_ok_iff.1 read
  cases same
  obtain ⟨record, onward⟩ := @Block.exists_readLines_append _ _ _ [] _ _ _ _ run
  rcases Block.readLines_cons_cases onward with ⟨name, x, metric, later⟩ | ⟨none_, -⟩
  · obtain ⟨y, same, denotes⟩ := line.exists_of_readMetric_text signed metric
    cases same
    have kept := Block.get?_of_not_sets later fun front next back split => by
      rw [List.nil_append, ← List.append_cons]
      exact others front next back split
    rw [List.nil_append, Dict.get?_insert_self] at kept
    exact ⟨x, denotes, kept⟩
  · obtain ⟨y, same, -⟩ := line.exists_of_readMetric_text signed none_
    cases same

/-- A block that has nothing but the line and a structure without metrics. -/
def blockText : List Char :=
  ['X', '\n'] ++ (line.text ++ ['\r', '\n', 'Y'])

theorem equals_mem_text : '=' ∈ line.text :=
  List.mem_append_right _ (List.mem_append_right _ List.mem_cons_self)

theorem feed_not_mem_text : '\n' ∉ line.text := by
  have value : '\n' ∉ line.value.chars := by
    cases line.value with
    | decimal number =>
      intro member
      cases number.isNumberChar_of_mem member
    | nan sign => cases sign <;> decide
  have unit : '\n' ∉ line.unitChars := by
    rw [unitChars]
    cases written : line.unit with
    | none => exact List.not_mem_nil
    | some chars =>
      rw [List.mem_cons, not_or]
      exact ⟨by decide, line.oneLine chars written⟩
  have name : '\n' ∉ line.name := fun member => (line.plain '\n' member).2 rfl
  have spaces : ∀ n, '\n' ∉ List.replicate n ' ' := by
    intro n member
    cases List.eq_of_mem_replicate member
  simp [text, value, unit, name, spaces]

theorem lines_blockText : Text.lines (trim line.blockText) = [['X'], line.text, ['Y']] := by
  have tight : Tight isBlank line.blockText :=
    ⟨⟨'X', _, rfl, rfl⟩, ⟨['X', '\n'] ++ (line.text ++ ['\r', '\n']), 'Y', by simp [blockText], rfl⟩⟩
  have plain : '\n' ∉ line.text ++ ['\r'] := by
    simp [line.feed_not_mem_text]
  have closed : dropReturn (line.text ++ ['\r']) = line.text := by
    simp [dropReturn]
  have first := @linesFrom_append ['X'] (by decide) [] (line.text ++ ['\r', '\n', 'Y'])
  have second := linesFrom_append plain [] ['Y']
  rw [List.reverse_nil, List.nil_append, closed, List.append_assoc] at second
  rw [trim_of_tight tight, Text.lines]
  exact first.trans (congrArg _ second)

theorem read_blockText (unsigned : line.value = .nan .none) :
    (Block.read line.blockText : Except Failure (Block α)) = .ok { label := "X", record := ∅ } := by
  have solid : ¬ line.text.all isBlank = true := by
    intro blank
    cases List.all_eq_true.1 blank '=' line.equals_mem_text
  have equals : line.text.contains '=' = true := List.contains_iff_mem.2 line.equals_mem_text
  rw [Block.read, lines_blockText]
  simp only [Block.readLines, if_neg solid, if_pos equals, line.readMetric_text_of_nan unsigned]
  rfl

theorem not_recorded_of_eq (unsigned : line.value = .nan .none) : ¬ line.Recorded α := by
  intro recorded
  have others : ∀ front later back, [['Y']] = front ++ later :: back →
      ¬ Block.Sets α ([] ++ line.text :: front) later (Block.pathBehind [] line.name) := by
    rintro front later back split ⟨name, x, metric, -⟩
    have same : later = ['Y'] := List.mem_singleton.1 (by rw [split]; simp)
    rw [same, Block.readMetric_of_not_mem (by decide)] at metric
    cases metric
  obtain ⟨x, -, found⟩ := @recorded _ ['X'] [] [['Y']] _ (line.read_blockText unsigned)
    line.lines_blockText others
  cases found

/-- A metric line is recorded in every block, with the number that it has or with zero for an
undefined one, unless it is undefined without a sign. -/
theorem recorded_iff : line.Recorded α ↔ line.value ≠ .nan .none :=
  ⟨fun recorded unsigned => line.not_recorded_of_eq unsigned recorded, line.recorded_of_ne⟩

/-- An area that is undefined. -/
def undefinedArea (sign : Decimal.Sign) : MetricLine where
  indent := 2
  name := "Area ".toList
  gap := 1
  value := .nan sign
  unit := some "mm^2".toList
  starts := ⟨'A', "rea ".toList, rfl, by decide⟩
  plain := List.all_iff_forall_prop.1 rfl
  oneLine := by decide

/-- The core has no area in its record, not even zero. -/
theorem undefinedArea_lost :
    ¬ (undefinedArea .none).Recorded Float ∧
      (undefinedArea .none).text = "  Area = nan mm^2".toList ∧
      ∃ block : Block Float, Block.read "Core:\n  Area = nan mm^2\n".toList = .ok block ∧
        block.label = "Core" ∧ block.record.get? "Area" = none :=
  ⟨not_recorded_of_eq _ rfl, rfl, _, rfl, rfl, rfl⟩

end MetricLine

end ChipPower
