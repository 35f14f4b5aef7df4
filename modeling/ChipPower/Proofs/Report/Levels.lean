import ChipPower.Report.Nesting
import Mathlib.Data.List.FinRange
import Mathlib.Data.List.Induction

/-!
# Open structures

`Nesting.enter` keeps a stack of open structures. Here the stack is replaced by what it holds:
of all structures that were entered, those that no later one has closed.

* `Nesting.remaining`: the structures that no later one closes, outermost first.
  `Nesting.remaining_eq` says by their positions which these are.
* `Nesting.reverse_enterAll`: the stack holds these.
* `Nesting.path_enterAll`: a path is made of their names.
* `Nesting.enterAll_holdsOpen` puts the three together, without the recursion.
-/

namespace ChipPower

open Text

namespace Nesting

/-! ## What stays open -/

/-- The levels that no later one closes, outermost first. A level is closed by one that is
indented as far or less. -/
def remaining : List Level → List Level
  | [] => []
  | level :: later =>
    if later.all fun other => level.indent < other.indent then level :: remaining later
    else remaining later

theorem remaining_sublist (levels : List Level) : (remaining levels).Sublist levels := by
  induction levels with
  | nil => exact .slnil
  | cons level later ih =>
    rw [remaining]
    split
    · exact ih.cons_cons level
    · exact ih.cons level

/-- Open levels are indented further and further. -/
theorem sorted_remaining (levels : List Level) :
    (remaining levels).Pairwise fun outer inner => outer.indent < inner.indent := by
  induction levels with
  | nil => exact .nil
  | cons level later ih =>
    rw [remaining]
    split
    · rename_i isOpen
      refine List.pairwise_cons.2 ⟨fun inner member => ?_, ih⟩
      exact of_decide_eq_true (List.all_eq_true.1 isOpen inner
        ((remaining_sublist later).subset member))
    · exact ih

/-- One more level closes those that are indented as far or more. -/
theorem remaining_append_singleton (levels : List Level) (last : Level) :
    remaining (levels ++ [last]) =
      (remaining levels).filter (fun level => level.indent < last.indent) ++ [last] := by
  induction levels with
  | nil => rfl
  | cons level later ih =>
    rw [List.cons_append, remaining, remaining, ih, List.all_append]
    by_cases isOpen : (later.all fun other => level.indent < other.indent) = true
    · rw [isOpen, if_pos rfl, Bool.true_and, List.filter_cons]
      by_cases further : level.indent < last.indent
      · simp [further]
      · simp [further]
    · rw [Bool.not_eq_true] at isOpen
      rw [isOpen]
      simp

/-! ## Positions -/

/-- No later level is indented as far as the one at this position, or less. -/
def StaysOpen (levels : List Level) (i : Fin levels.length) : Prop :=
  ∀ j, i < j → levels[i].indent < levels[j].indent

instance (levels : List Level) : DecidablePred (StaysOpen levels) := fun i =>
  inferInstanceAs (Decidable (∀ j, i < j → levels[i].indent < levels[j].indent))

/-- The positions of the levels that no later one closes, in order. -/
def openPositions (levels : List Level) : List (Fin levels.length) :=
  (List.finRange levels.length).filter (StaysOpen levels)

theorem staysOpen_zero_iff (level : Level) (later : List Level) :
    StaysOpen (level :: later) (0 : Fin (later.length + 1)) ↔
      (later.all fun other => level.indent < other.indent) = true := by
  rw [List.all_eq_true, List.forall_mem_iff_getElem]
  refine Fin.forall_fin_succ.trans ?_
  rw [Fin.forall_iff]
  simp [Fin.lt_def]

theorem staysOpen_succ_iff (level : Level) (later : List Level) (i : Fin later.length) :
    StaysOpen (level :: later) i.succ ↔ StaysOpen later i := by
  refine Fin.forall_fin_succ.trans ?_
  simp [StaysOpen]

theorem openPositions_cons (level : Level) (later : List Level) :
    openPositions (level :: later) =
      if later.all fun other => level.indent < other.indent then
        (0 : Fin (later.length + 1)) :: (openPositions later).map Fin.succ
      else (openPositions later).map Fin.succ := by
  have positions : List.finRange (level :: later).length =
      (0 : Fin (later.length + 1)) :: (List.finRange later.length).map Fin.succ :=
    List.finRange_succ
  have others : ((List.finRange later.length).map Fin.succ).filter (StaysOpen (level :: later)) =
      (openPositions later).map Fin.succ := by
    rw [List.filter_map, openPositions]
    exact congrArg _ (List.filter_congr fun i _ =>
      decide_eq_decide.2 (staysOpen_succ_iff level later i))
  rw [openPositions, positions, List.filter_cons, others]
  simp only [decide_eq_true_eq, staysOpen_zero_iff]

theorem remaining_eq (levels : List Level) :
    remaining levels = (openPositions levels).map fun i => levels[i] := by
  induction levels with
  | nil => rfl
  | cons level later ih =>
    rw [remaining, openPositions_cons, ih]
    split
    · rw [List.map_cons, List.map_map]
      rfl
    · rw [List.map_map]
      rfl

/-! ## The stack -/

/-- From a stack that is indented less and less, only the levels that are not less indented
are taken. -/
theorem dropWhile_eq_filter {nesting : Nesting}
    (sorted : nesting.Pairwise fun inner outer => outer.indent < inner.indent) (indent : Nat) :
    nesting.dropWhile (fun level => indent ≤ level.indent) =
      nesting.filter fun level => level.indent < indent := by
  induction nesting with
  | nil => rfl
  | cons top rest ih =>
    obtain ⟨less, sorted⟩ := List.pairwise_cons.1 sorted
    by_cases closed : indent ≤ top.indent
    · rw [List.dropWhile_cons, if_pos (decide_eq_true closed), ih sorted, List.filter_cons,
        if_neg (by simpa using closed)]
    · have kept : ∀ level ∈ top :: rest, decide (level.indent < indent) = true := by
        intro level member
        rcases List.mem_cons.1 member with rfl | member
        · exact decide_eq_true (by omega)
        · have := less level member
          exact decide_eq_true (by omega)
      rw [List.dropWhile_cons, if_neg (by simpa using closed), List.filter_eq_self.2 kept]

/-- Enters levels one after the other. -/
def enterAll (levels : List Level) : Nesting :=
  levels.foldl (fun nesting level => nesting.enter level.indent level.name) []

theorem enterAll_append_singleton (levels : List Level) (last : Level) :
    enterAll (levels ++ [last]) = (enterAll levels).enter last.indent last.name :=
  List.foldl_append

/-- A level as it is kept. -/
def trimmed (level : Level) : Level :=
  { level with name := trim level.name }

/-- The stack holds the levels that no later one has closed. -/
theorem reverse_enterAll (levels : List Level) :
    (enterAll levels).reverse = (remaining levels).map trimmed := by
  induction levels using List.reverseRecOn with
  | nil => rfl
  | append_singleton levels last ih =>
    have stack : enterAll levels = ((remaining levels).map trimmed).reverse := by
      rw [← ih, List.reverse_reverse]
    have sorted : (enterAll levels).Pairwise fun inner outer => outer.indent < inner.indent := by
      rw [stack, List.pairwise_reverse, List.pairwise_map]
      exact sorted_remaining levels
    rw [enterAll_append_singleton, enter, dropWhile_eq_filter sorted, List.reverse_cons,
      ← List.filter_reverse, ih, remaining_append_singleton, List.map_append, List.filter_map]
    rfl

/-- The levels of the stack are indented further and further, from the outermost on. -/
theorem sorted_enterAll (levels : List Level) :
    (enterAll levels).reverse.Pairwise fun outer inner => outer.indent < inner.indent := by
  rw [reverse_enterAll, List.pairwise_map]
  exact sorted_remaining levels

/-- A path consists of the names of the levels that no later one has closed, and of the name
itself. -/
theorem path_enterAll (levels : List Level) (name : List Char) :
    (enterAll levels).path name =
      trim (List.intercalate ['/']
        ((remaining levels).map (fun level => trim level.name) ++ [name])) := by
  rw [path, reverse_enterAll, List.map_map, join_eq_intercalate]
  rfl

/-- After any levels were entered, the stack holds those, with their names trimmed, that none
entered later closes, indented further and further. A path consists of their names and of the
name itself. -/
theorem enterAll_holdsOpen (levels : List Level) :
    (enterAll levels).reverse = (openPositions levels).map (fun i => trimmed levels[i]) ∧
      ((enterAll levels).reverse.Pairwise fun outer inner => outer.indent < inner.indent) ∧
      ∀ name, (enterAll levels).path name =
        trim (List.intercalate ['/']
          ((openPositions levels).map (fun i => trim levels[i].name) ++ [name])) := by
  refine ⟨?stack, sorted_enterAll levels, fun name => ?path⟩
  case stack =>
    rw [reverse_enterAll, remaining_eq, List.map_map]
    rfl
  case path =>
    rw [path_enterAll, remaining_eq, List.map_map]
    rfl

/-- The last level closes two at once. The third one had closed the second. -/
example : enterAll [⟨2, ['a']⟩, ⟨6, ['b']⟩, ⟨4, ['c']⟩, ⟨8, ['d']⟩, ⟨3, [' ', 'e']⟩] =
    [⟨3, ['e']⟩, ⟨2, ['a']⟩] := by
  decide

end Nesting

end ChipPower
