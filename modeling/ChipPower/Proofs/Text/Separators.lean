import ChipPower.Text.Lines

/-!
# Cuts of a joined text

Cutting a text at a separator takes apart what was joined with it, if no part has the
character that the separator starts with (`splitOn_intercalate`). Parts may be empty,
so that separators stand right after one another.
-/

namespace ChipPower.Text

variable {c : Char} {tail : List Char}

/-- The rest of an occurrence is passed over. -/
theorem splitFrom_length_append (separator skipped current rest : List Char) :
    splitFrom separator skipped.length current (skipped ++ rest) =
      splitFrom separator 0 current rest := by
  induction skipped with
  | nil => rfl
  | cons d skipped ih =>
    rw [List.length_cons, List.cons_append, splitFrom]
    exact ih

/-- An occurrence of the separator closes the open part. -/
theorem splitFrom_separator_append (current rest : List Char) :
    splitFrom (c :: tail) 0 current (c :: tail ++ rest) =
      current.reverse :: splitOn (c :: tail) rest := by
  have found : (c :: tail).isPrefixOf (c :: tail ++ rest) = true :=
    List.isPrefixOf_iff_prefix.2 (List.prefix_append (c :: tail) rest)
  rw [List.cons_append] at found ⊢
  rw [splitFrom, if_pos found, List.length_cons, Nat.add_sub_cancel, splitFrom_length_append]
  rfl

/-- Text without the first character of the separator belongs to the open part. -/
theorem splitFrom_append_of_not_mem {part : List Char} (plain : c ∉ part)
    (current rest : List Char) :
    splitFrom (c :: tail) 0 current (part ++ rest) =
      splitFrom (c :: tail) 0 (part.reverse ++ current) rest := by
  induction part generalizing current with
  | nil => rfl
  | cons d part ih =>
    have other : c ≠ d := fun same => plain (same ▸ List.mem_cons_self)
    have missed : (c :: tail).isPrefixOf (d :: (part ++ rest)) = false := by
      simp [List.isPrefixOf, other]
    rw [List.cons_append, splitFrom, missed, if_neg Bool.false_ne_true,
      ih (fun member => plain (List.mem_cons_of_mem d member)), List.reverse_cons,
      List.append_assoc, List.singleton_append]

/-- Joined parts come back from a cut at the separator. -/
theorem splitOn_intercalate {parts : List (List Char)} (ne : parts ≠ [])
    (plain : ∀ part ∈ parts, c ∉ part) :
    splitOn (c :: tail) (List.intercalate (c :: tail) parts) = parts := by
  induction parts with
  | nil => exact (ne rfl).elim
  | cons part rest ih =>
    have first := plain part List.mem_cons_self
    cases rest with
    | nil =>
      rw [List.intercalate_singleton, splitOn, ← List.append_nil part,
        splitFrom_append_of_not_mem first, splitFrom]
      simp
    | cons next more =>
      have later := ih (List.cons_ne_nil next more) fun part member =>
        plain part (List.mem_cons_of_mem _ member)
      rw [List.intercalate_cons_cons, splitOn, List.append_assoc,
        splitFrom_append_of_not_mem first, splitFrom_separator_append, later]
      simp

end ChipPower.Text
