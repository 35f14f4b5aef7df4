import ChipPower.Proofs.Failure.Traversal
import ChipPower.Template.Placeholder

/-!
# Placeholders of a text

A text is split at the pairs of a percent sign and the letter of a placeholder. No two pairs
overlap, as no letter is a percent sign, so the text determines its split: there is one line
only whose segments hold no such pair and that gives the text when pairs are put back between
its segments.

* `SplitLine.splitInduction`: a text is empty, begins with a pair, or with a character that
  makes none.
* `SplitLine.splits_ofText` and `SplitLine.Splits.eq_ofText`: the one line that splits a text.
* `SplitLine.fill_eq`: what filling values into a line comes to.
* `SplitLine.ofText_exact` puts them together.
-/

namespace ChipPower

/-! ## Pairs -/

namespace Placeholder

/-- The letters that make a placeholder behind a percent sign. -/
def letters : Placeholder → List Char
  | whole => ['i', 'd', 'u']
  | decimal => ['f']

/-- A letter makes the placeholder that it belongs to. -/
theorem ofLetter?_eq_some_iff {c : Char} {p : Placeholder} :
    ofLetter? c = some p ↔ c ∈ p.letters := by
  by_cases whole : c = 'i' ∨ c = 'd' ∨ c = 'u'
  · rw [ofLetter?, if_pos whole]
    rcases whole with rfl | rfl | rfl <;> cases p <;> decide
  · rw [ofLetter?, if_neg whole]
    by_cases decimal : c = 'f'
    · subst decimal
      cases p <;> decide
    · rw [if_neg decimal]
      refine iff_of_false (Option.some_ne_none p).symm fun letter => ?_
      cases p with
      | whole => exact whole (by simpa [letters] using letter)
      | decimal => exact decimal (List.mem_singleton.1 letter)

/-- A percent sign is no letter of a placeholder. -/
theorem percent_not_mem_letters (p : Placeholder) : '%' ∉ p.letters := by
  cases p <;> decide

end Placeholder

namespace SplitLine

/-- A percent sign and the letter of a placeholder. -/
def IsPair (pair : Char × Char) : Prop :=
  pair.1 = '%' ∧ pair.2 ∈ Placeholder.whole.letters ++ Placeholder.decimal.letters

instance : DecidablePred IsPair := fun _ => inferInstanceAs (Decidable (_ ∧ _))

theorem isPair_iff {c d : Char} : IsPair (c, d) ↔ c = '%' ∧ ∃ p : Placeholder, d ∈ p.letters := by
  refine and_congr_right fun _ => List.mem_append.trans ⟨?_, ?_⟩
  · rintro (whole | decimal)
    · exact ⟨.whole, whole⟩
    · exact ⟨.decimal, decimal⟩
  · rintro ⟨_ | _, letter⟩
    · exact .inl letter
    · exact .inr letter

/-- The pairs of a percent sign and the letter of a placeholder that stand in a text, one
behind the other. -/
def pairsIn (text : List Char) : List (Char × Char) :=
  (text.zip text.tail).filter IsPair

/-- A character makes no pair with the text behind it. -/
def Single (c : Char) (rest : List Char) : Prop :=
  ∀ d ∈ rest.head?, ¬ IsPair (c, d)

theorem single_nil (c : Char) : Single c [] := by
  simp [Single]

theorem single_cons_iff {c d : Char} {rest : List Char} :
    Single c (d :: rest) ↔ ¬ IsPair (c, d) := by
  simp [Single]

theorem pairsIn_cons_cons (c d : Char) (rest : List Char) :
    pairsIn (c :: d :: rest) =
      if IsPair (c, d) then (c, d) :: pairsIn (d :: rest) else pairsIn (d :: rest) := by
  simp [pairsIn, List.filter_cons]

/-- A character that makes no pair adds none. -/
theorem pairsIn_of_single {c : Char} {rest : List Char} (single : Single c rest) :
    pairsIn (c :: rest) = pairsIn rest := by
  cases rest with
  | nil => rfl
  | cons d rest => rw [pairsIn_cons_cons, if_neg (single_cons_iff.1 single)]

/-- A text has no pairs if neither its first character makes one nor the rest has any. -/
theorem pairsIn_cons_eq_nil_iff {c : Char} {rest : List Char} :
    pairsIn (c :: rest) = [] ↔ Single c rest ∧ pairsIn rest = [] := by
  by_cases single : Single c rest
  · rw [pairsIn_of_single single]
    exact (and_iff_right single).symm
  · refine iff_of_false (fun none => single ?_) fun both => single both.1
    cases rest with
    | nil => exact single_nil c
    | cons d rest =>
      refine single_cons_iff.2 fun isPair => ?_
      rw [pairsIn_cons_cons, if_pos isPair] at none
      cases none

/-- A letter is no percent sign, so no pair begins inside of another. -/
theorem single_of_mem_letters {p : Placeholder} {d : Char} (letter : d ∈ p.letters)
    (rest : List Char) : Single d rest := by
  rintro e - pair
  have percent := (isPair_iff.1 pair).1
  exact Placeholder.percent_not_mem_letters p (percent ▸ letter)

/-- A pair at the start of a text is one more than those behind it. -/
theorem pairsIn_pair {p : Placeholder} {d : Char} (letter : d ∈ p.letters) (rest : List Char) :
    pairsIn ('%' :: d :: rest) = ('%', d) :: pairsIn rest := by
  rw [pairsIn_cons_cons, if_pos (isPair_iff.2 ⟨rfl, p, letter⟩),
    pairsIn_of_single (single_of_mem_letters letter rest)]

/-! ## One step of splitting -/

/-- A pair is cut off as a placeholder. -/
theorem ofText_pair {p : Placeholder} {d : Char} (letter : d ∈ p.letters) (rest : List Char) :
    ofText ('%' :: d :: rest) = (ofText rest).pushPlaceholder p := by
  rw [ofText, if_pos rfl, Placeholder.ofLetter?_eq_some_iff.2 letter]

/-- A character that makes no pair belongs to the first segment. -/
theorem ofText_single {c : Char} {rest : List Char} (single : Single c rest) :
    ofText (c :: rest) = (ofText rest).push c := by
  cases rest with
  | nil => rfl
  | cons d rest =>
    by_cases percent : c = '%'
    · have unknown : Placeholder.ofLetter? d = none := by
        refine Option.eq_none_iff_forall_ne_some.2 fun p found => ?_
        exact single_cons_iff.1 single
          (isPair_iff.2 ⟨percent, p, Placeholder.ofLetter?_eq_some_iff.1 found⟩)
      rw [ofText, if_pos percent, unknown]
    · rw [ofText, if_neg percent]

/-- A text is empty, begins with a pair, or with a character that makes none. -/
theorem splitInduction {motive : List Char → Prop} (nil : motive [])
    (pair : ∀ p : Placeholder, ∀ d ∈ p.letters, ∀ rest, motive rest → motive ('%' :: d :: rest))
    (single : ∀ c rest, Single c rest → motive rest → motive (c :: rest)) (text : List Char) :
    motive text := by
  induction text using ofText.induct with
  | case1 => exact nil
  | case2 c => exact single c [] (single_nil c) nil
  | case3 d rest p found ih =>
    exact pair p d (Placeholder.ofLetter?_eq_some_iff.1 found) rest ih
  | case4 d rest unknown ih =>
    refine single '%' (d :: rest) (single_cons_iff.2 fun isPair => ?_) ih
    obtain ⟨-, p, letter⟩ := isPair_iff.1 isPair
    rw [Placeholder.ofLetter?_eq_some_iff.2 letter] at unknown
    cases unknown
  | case5 c d rest other ih =>
    exact single c (d :: rest) (single_cons_iff.2 fun isPair => other isPair.1) ih

/-! ## Putting texts between segments -/

/-- The segments of a line with texts between them. -/
def joinedWith (line : SplitLine) (between : List (List Char)) : List Char :=
  (List.zipWith (· ++ ·) line.segments (between ++ [[]])).flatten

theorem joinedWith_nil (line : SplitLine) : line.joinedWith [] = line.head := by
  simp [joinedWith, segments]

theorem joinedWith_cons (line : SplitLine) (text : List Char) (between : List (List Char)) :
    line.joinedWith (text :: between) = line.head ++ (text ++
      (List.zipWith (· ++ ·) (line.tail.map (·.2)) (between ++ [[]])).flatten) := by
  simp [joinedWith, segments]

/-- The first segment stands before all else. -/
theorem joinedWith_head (head : List Char) (tail : List (Placeholder × List Char))
    (between : List (List Char)) :
    joinedWith ⟨head, tail⟩ between = head ++ joinedWith ⟨[], tail⟩ between := by
  cases between with
  | nil => rw [joinedWith_nil, joinedWith_nil, List.append_nil]
  | cons text between => rw [joinedWith_cons, joinedWith_cons, List.nil_append]

/-- A character in front of the first segment stands in front of the text. -/
theorem joinedWith_push (c : Char) (line : SplitLine) (between : List (List Char)) :
    (line.push c).joinedWith between = c :: line.joinedWith between := by
  rw [push, joinedWith_head, joinedWith_head line.head]
  rfl

theorem joinedWith_pushPlaceholder (p : Placeholder) (line : SplitLine) (text : List Char)
    (between : List (List Char)) :
    (line.pushPlaceholder p).joinedWith (text :: between) = text ++ line.joinedWith between :=
  joinedWith_cons _ text between

/-! ## The split of a text -/

/-- `Splits text line`: the line has one more segment than placeholders, putting pairs back
gives the text if the letters are chosen well, and no segment holds a pair. -/
structure Splits (text : List Char) (line : SplitLine) : Prop where
  length : line.segments.length = line.placeholders.length + 1
  restores : ∃ chosen, List.Forall₂ (fun p d => d ∈ p.letters) line.placeholders chosen ∧
    line.joinedWith (chosen.map fun d => ['%', d]) = text
  plain : ∀ segment ∈ line.segments, pairsIn segment = []

/-- The placeholders are those of the pairs in the text, one by one. -/
theorem placeholders_ofText (text : List Char) :
    List.Forall₂ (fun p d => d ∈ Placeholder.letters p) (ofText text).placeholders
      ((pairsIn text).map (·.2)) := by
  induction text using splitInduction with
  | nil => exact .nil
  | pair p d letter rest ih =>
    rw [ofText_pair letter, pairsIn_pair letter]
    exact .cons letter ih
  | single c rest single ih =>
    rw [ofText_single single, pairsIn_of_single single]
    exact ih

/-- Putting the pairs back restores the text. -/
theorem joinedWith_ofText (text : List Char) :
    (ofText text).joinedWith (((pairsIn text).map (·.2)).map fun d => ['%', d]) = text := by
  induction text using splitInduction with
  | nil => rfl
  | pair p d letter rest ih =>
    rw [ofText_pair letter, pairsIn_pair letter, List.map_cons, List.map_cons,
      joinedWith_pushPlaceholder, ih]
    rfl
  | single c rest single ih =>
    rw [ofText_single single, pairsIn_of_single single, joinedWith_push, ih]

/-- A text starts with its first segment. -/
theorem exists_eq_head_append (text : List Char) : ∃ rest, text = (ofText text).head ++ rest := by
  have joined := joinedWith_head (ofText text).head (ofText text).tail
    (((pairsIn text).map (·.2)).map fun d => ['%', d])
  exact ⟨_, (joinedWith_ofText text).symm.trans joined⟩

theorem Single.of_append {c : Char} {front back : List Char} (single : Single c (front ++ back)) :
    Single c front := by
  cases front with
  | nil => exact single_nil c
  | cons d front => exact single

/-- No segment of a text holds a pair. -/
theorem pairsIn_segment_ofText (text : List Char) :
    ∀ segment ∈ (ofText text).segments, pairsIn segment = [] := by
  induction text using splitInduction with
  | nil =>
    intro segment member
    rw [List.mem_singleton.1 member]
    rfl
  | pair p d letter rest ih =>
    rw [ofText_pair letter]
    exact List.forall_mem_cons.2 ⟨rfl, ih⟩
  | single c rest single ih =>
    obtain ⟨first, others⟩ := List.forall_mem_cons.1 ih
    obtain ⟨back, split⟩ := exists_eq_head_append rest
    have alone : Single c (ofText rest).head := by
      rw [split] at single
      exact single.of_append
    rw [ofText_single single]
    exact List.forall_mem_cons.2 ⟨pairsIn_cons_eq_nil_iff.2 ⟨alone, first⟩, others⟩

/-- A text is split by the line that is found for it. -/
theorem splits_ofText (text : List Char) : Splits text (ofText text) where
  length := length_segments _
  restores := ⟨_, placeholders_ofText text, joinedWith_ofText text⟩
  plain := pairsIn_segment_ofText text

/-- A line is empty, or a character or a placeholder stands before another line. -/
theorem lineInduction {motive : SplitLine → Prop} (nil : motive ⟨[], []⟩)
    (push : ∀ c line, motive line → motive (line.push c))
    (pushPlaceholder : ∀ p line, motive line → motive (line.pushPlaceholder p))
    (line : SplitLine) : motive line := by
  obtain ⟨head, tail⟩ := line
  induction tail generalizing head with
  | nil =>
    induction head with
    | nil => exact nil
    | cons c head ih => exact push c ⟨head, []⟩ ih
  | cons placed tail atTail =>
    induction head with
    | nil => exact pushPlaceholder placed.1 ⟨placed.2, tail⟩ (atTail placed.2)
    | cons c head ih => exact push c ⟨head, placed :: tail⟩ ih

/-- Behind the first segment there is a percent sign or nothing, which makes no pair with the
last character of the segment. -/
theorem single_joinedWith {c : Char} {line : SplitLine} (single : Single c line.head)
    (chosen : List Char) : Single c (line.joinedWith (chosen.map fun d => ['%', d])) := by
  cases chosen with
  | nil =>
    rw [List.map_nil, joinedWith_nil]
    exact single
  | cons d chosen =>
    rw [List.map_cons, joinedWith_cons]
    rcases line with ⟨_ | ⟨first, head⟩, tail⟩
    · refine single_cons_iff.2 fun isPair => ?_
      obtain ⟨-, p, letter⟩ := isPair_iff.1 isPair
      exact Placeholder.percent_not_mem_letters p letter
    · exact single_cons_iff.2 (single_cons_iff.1 single)

/-- A line without pairs in its segments is the split of the text with pairs between them. -/
theorem ofText_joinedWith {line : SplitLine} {chosen : List Char}
    (letters : List.Forall₂ (fun p d => d ∈ Placeholder.letters p) line.placeholders chosen)
    (plain : ∀ segment ∈ line.segments, pairsIn segment = []) :
    ofText (line.joinedWith (chosen.map fun d => ['%', d])) = line := by
  induction line using lineInduction generalizing chosen with
  | nil =>
    cases letters
    rfl
  | push c line ih =>
    obtain ⟨first, others⟩ := List.forall_mem_cons.1 plain
    obtain ⟨single, head⟩ := pairsIn_cons_eq_nil_iff.1 first
    rw [joinedWith_push, ofText_single (single_joinedWith single chosen),
      ih letters (List.forall_mem_cons.2 ⟨head, others⟩)]
  | pushPlaceholder p line ih =>
    cases letters with
    | @cons _ d _ chosen letter letters =>
      have joined : (line.pushPlaceholder p).joinedWith ((d :: chosen).map fun d => ['%', d]) =
          '%' :: d :: line.joinedWith (chosen.map fun d => ['%', d]) :=
        joinedWith_pushPlaceholder p line ['%', d] _
      rw [joined, ofText_pair letter, ih letters (List.forall_mem_cons.1 plain).2]

/-- And by no other. -/
theorem Splits.eq_ofText {text : List Char} {line : SplitLine} (splits : Splits text line) :
    line = ofText text := by
  obtain ⟨chosen, letters, rfl⟩ := splits.restores
  exact (ofText_joinedWith letters splits.plain).symm

end SplitLine

/-! ## Filling values in -/

variable {α : Type} [Scalar α]

namespace Placeholder

/-- A value has no text only if it is infinite or undefined and its whole part is asked for. -/
theorem exists_format_iff {p : Placeholder} {value : α} :
    (∃ text, p.format value = .ok text) ↔ (p = .whole → Scalar.isFinite value = true) := by
  cases p with
  | whole =>
    rw [Placeholder.format]
    split
    · rename_i finite
      exact iff_of_true ⟨_, rfl⟩ fun _ => finite
    · rename_i infinite
      refine iff_of_false (fun shown => ?_) fun finite => infinite (finite rfl)
      obtain ⟨text, shown⟩ := shown
      cases shown
  | decimal =>
    refine iff_of_true ⟨_, rfl⟩ fun whole => ?_
    cases whole

/-- The texts of values at placeholders. -/
def formatAll (placeholders : List Placeholder) (values : List α) : Except Failure (List String) :=
  (placeholders.zip values).mapM fun place => place.1.format place.2

theorem formatAll_cons (p : Placeholder) (placeholders : List Placeholder) (value : α)
    (values : List α) :
    formatAll (p :: placeholders) (value :: values) = do
      return (← p.format value) :: (← formatAll placeholders values) :=
  List.mapM_cons

end Placeholder

namespace SplitLine

open Placeholder

/-- Values are filled in from the left, one for each placeholder. -/
theorem fillTail_eq {tail : List (Placeholder × List Char)} {values : List α}
    (count : tail.length = values.length) :
    fillTail tail values = (formatAll (tail.map (·.1)) values).map fun texts =>
      joinedWith ⟨[], tail⟩ (texts.map String.toList) := by
  induction tail generalizing values with
  | nil =>
    rw [List.length_nil, eq_comm, List.length_eq_zero_iff] at count
    rw [count]
    rfl
  | cons placed tail ih =>
    obtain ⟨p, segment⟩ := placed
    cases values with
    | nil => cases count
    | cons value values =>
      rw [fillTail, List.map_cons, formatAll_cons, ih (Nat.succ.inj count)]
      cases p.format value with
      | error failure => rfl
      | ok text =>
        cases formatAll (tail.map (·.1)) values with
        | error failure => rfl
        | ok texts =>
          have joined := joinedWith_pushPlaceholder p ⟨segment, tail⟩ text.toList
            (texts.map String.toList)
          rw [joinedWith_head segment, ← List.append_assoc] at joined
          exact congrArg Except.ok joined.symm

/-- Values are filled in if there is one for each placeholder: their texts stand between the
segments of the line. -/
theorem fill_eq (line : SplitLine) (values : List α) :
    line.fill values =
      if line.tail.length = values.length then
        (formatAll line.placeholders values).map fun texts =>
          line.joinedWith (texts.map String.toList)
      else fail (.valueCount line.tail.length values.length) := by
  by_cases count : line.tail.length = values.length
  · rw [fill, if_pos count, if_pos count, fillTail_eq count, placeholders]
    cases formatAll (line.tail.map (·.1)) values with
    | error failure => rfl
    | ok texts =>
      exact congrArg Except.ok
        (joinedWith_head line.head line.tail (texts.map String.toList)).symm
  · rw [fill, if_neg count, if_neg count]

/-- What is filled in for a text, if there are as many values as pairs and all have a text. -/
theorem substitute_eq_ok_iff {text filled : String} {values : List α} :
    substitute text values = .ok filled ↔
      values.length = (pairsIn text.toList).length ∧
        ∃ texts, formatAll (ofText text.toList).placeholders values = .ok texts ∧
          filled.toList = (ofText text.toList).joinedWith (texts.map String.toList) := by
  have places : (ofText text.toList).tail.length = (pairsIn text.toList).length := by
    have same := (placeholders_ofText text.toList).length_eq
    rwa [placeholders, List.length_map, List.length_map] at same
  rw [substitute, fill_eq, places]
  by_cases count : (pairsIn text.toList).length = values.length
  · simp only [if_pos count, bind_eq_ok_iff, map_eq_ok_iff, pure_eq_ok_iff]
    constructor
    · intro found
      obtain ⟨_, ⟨texts, formatted, rfl⟩, rfl⟩ := found
      exact ⟨count.symm, texts, formatted, String.toList_ofList⟩
    · intro found
      obtain ⟨-, texts, formatted, same⟩ := found
      exact ⟨_, ⟨texts, formatted, rfl⟩, by rw [← same, String.ofList_toList]⟩
  · rw [if_neg count]
    refine iff_of_false (fun filled => ?_) fun found => count found.1.symm
    cases filled

/-- A text is filled in if there is a value for each pair, a finite one for each whole number. -/
theorem exists_substitute_iff {text : String} {values : List α} :
    (∃ filled, substitute text values = .ok filled) ↔
      values.length = (pairsIn text.toList).length ∧
        ∀ place ∈ (ofText text.toList).placeholders.zip values,
          place.1 = .whole → Scalar.isFinite place.2 = true := by
  simp only [substitute_eq_ok_iff, exists_and_left, ← exists_format_iff]
  refine and_congr_right fun _ => Iff.trans ?_ exists_mapM_eq_ok_iff
  constructor
  · intro found
    obtain ⟨_, texts, formatted, -⟩ := found
    exact ⟨texts, formatted⟩
  · intro found
    obtain ⟨texts, formatted⟩ := found
    exact ⟨String.ofList _, texts, formatted, String.toList_ofList⟩

/-- The one line that splits a text is found, and values are filled in if there is one for each
pair of the text and those at placeholders for whole parts are finite: their texts stand
between the segments. -/
theorem ofText_exact (text : String) :
    Splits text.toList (ofText text.toList) ∧
      (∀ line, Splits text.toList line → line = ofText text.toList) ∧
      ∀ {α : Type} [Scalar α] (values : List α),
        ((∃ filled, substitute text values = .ok filled) ↔
          values.length = (pairsIn text.toList).length ∧
            ∀ place ∈ (ofText text.toList).placeholders.zip values,
              place.1 = .whole → Scalar.isFinite place.2 = true) ∧
        ∀ filled, substitute text values = .ok filled ↔
          values.length = (pairsIn text.toList).length ∧
            ∃ texts, formatAll (ofText text.toList).placeholders values = .ok texts ∧
              filled.toList = (ofText text.toList).joinedWith (texts.map String.toList) :=
  ⟨splits_ofText _, fun _ splits => splits.eq_ofText,
    fun _ => ⟨exists_substitute_iff, fun _ => substitute_eq_ok_iff⟩⟩

/-- The percent sign before a pair and the one at the end of a text are text. -/
example : ofText "%%i, %f at 50%".toList =
    ⟨['%'], [(.whole, [',', ' ']), (.decimal, " at 50%".toList)]⟩ := by
  decide

end SplitLine

end ChipPower
