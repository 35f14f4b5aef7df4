/-!
# Numbers in texts

A number is written with digits only, so a text that numbers are put into stays apart from
them wherever it has something else. No two numbers are written alike.
-/

namespace ChipPower.Text

theorem isDigit_of_mem_toString {n : Nat} {c : Char} (member : c ∈ (toString n).toList) :
    c.isDigit = true :=
  Nat.isDigit_of_mem_toDigits (by decide) (by decide) (Nat.toList_repr ▸ member)

/-- A character that is no digit does not occur in a number. -/
theorem not_mem_toString {c : Char} (other : c.isDigit = false) (n : Nat) :
    c ∉ (toString n).toList := by
  intro member
  rw [isDigit_of_mem_toString member] at other
  cases other

/-- A number between pieces of text brings in no character but digits. -/
theorem not_mem_intercalate {c : Char} (other : c.isDigit = false) (n : Nat)
    {pieces : List (List Char)} (plain : ∀ piece ∈ pieces, c ∉ piece) :
    c ∉ List.intercalate (toString n).toList pieces := by
  induction pieces with
  | nil => exact List.not_mem_nil
  | cons piece rest ih =>
    obtain ⟨head, tail⟩ := List.forall_mem_cons.1 plain
    cases rest with
    | nil => rwa [List.intercalate_singleton]
    | cons second rest =>
      rw [List.intercalate_cons_cons, List.mem_append, List.mem_append]
      rintro ((member | member) | member)
      · exact head member
      · exact not_mem_toString other n member
      · exact ih tail member

/-- A number can be read back from its digits. -/
theorem toString_inj {m n : Nat} : toString m = toString n ↔ m = n := by
  constructor
  · intro same
    have digits : Nat.toDigits 10 m = Nat.toDigits 10 n := by
      rw [← Nat.toList_repr, ← Nat.toList_repr]
      exact congrArg String.toList same
    rw [← Nat.ofDigitChars_ten_toDigits (n := m), digits, Nat.ofDigitChars_ten_toDigits]
  · exact congrArg toString

end ChipPower.Text
