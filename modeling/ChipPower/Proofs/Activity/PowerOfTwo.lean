import ChipPower.Activity.PowerOfTwo
import Mathlib.Algebra.Order.Ring.Nat
import Mathlib.Data.List.Forall2
import Mathlib.Order.Bounds.Basic

/-!
# Rounding up to a power of two

Rounding changes exactly the numbers between the powers of two among 64-bit words
(`PowerOfTwo.roundUp_ne_self_iff`), and these are the numbers that are noted
(`PowerOfTwo.contains_note`). As long as there is a power of two among the words that is
large enough, a number goes to the least such one (`PowerOfTwo.RoundsUp`), so that rounding
keeps the order and has nothing left to do the second time. No answer depends on what was
noted before (`PowerOfTwo.roundAll_roundsUp`).
-/

namespace ChipPower

namespace PowerOfTwo

theorem roundUp_of_le_one {n : Nat} (small : n ≤ 1) : roundUp n = n :=
  if_pos (.inl small)

theorem roundUp_of_lt {n : Nat} (large : 2 ^ 63 < n) : roundUp n = n :=
  if_pos (.inr large)

/-- Between the extremes there is a power of two to go to. -/
theorem roundUp_eq_pow {n : Nat} (two : 1 < n) (word : n ≤ 2 ^ 63) :
    roundUp n = 2 ^ ((n - 1).log2 + 1) := by
  refine if_neg ?_
  rintro (small | large)
  · omega
  · exact absurd word (not_le.2 large)

/-- Powers of two stay as they are, also those beyond words. -/
theorem roundUp_two_pow (k : Nat) : roundUp (2 ^ k) = 2 ^ k := by
  cases k with
  | zero => rfl
  | succ k =>
    by_cases word : 2 ^ (k + 1) ≤ 2 ^ 63
    · have positive := Nat.two_pow_pos k
      have doubled : 2 ^ (k + 1) = 2 ^ k * 2 := Nat.pow_succ 2 k
      have log : (2 ^ (k + 1) - 1).log2 = k :=
        (Nat.log2_eq_iff (by omega)).2 ⟨by omega, by omega⟩
      rw [roundUp_eq_pow (by omega) word, log]
    · exact roundUp_of_lt (not_le.1 word)

/-- The numbers that rounding changes, of which the notes speak. -/
theorem roundUp_ne_self_iff {n : Nat} :
    roundUp n ≠ n ↔ 0 < n ∧ n ≤ 2 ^ 63 ∧ ∀ k, n ≠ 2 ^ k := by
  constructor
  · intro changed
    refine ⟨?positive, ?word, ?noPower⟩
    case positive => exact Nat.pos_of_ne_zero fun zero => changed (roundUp_of_le_one (by omega))
    case word => exact not_lt.1 fun large => changed (roundUp_of_lt large)
    case noPower =>
      rintro k rfl
      exact changed (roundUp_two_pow k)
  · rintro ⟨positive, word, noPower⟩ same
    have two : 1 < n := lt_of_le_of_ne positive (noPower 0).symm
    rw [roundUp_eq_pow two word] at same
    exact noPower _ same.symm

/-- A number is noted if rounding changes it. What was noted before stays noted. -/
theorem contains_note (rounded : Rounded) (n m : Nat) :
    (note rounded n).contains m = true ↔ rounded.contains m = true ∨ m = n ∧ roundUp m ≠ m := by
  unfold note
  split
  · rename_i same
    refine ⟨.inl, ?_⟩
    rintro (noted | ⟨rfl, changed⟩)
    · exact noted
    · exact (changed same).elim
  · rename_i changed
    rw [Dict.contains, Dict.get?_insert]
    by_cases isNew : m = n
    · simp [isNew, changed]
    · simp [isNew, Dict.contains]

/-! ## The least power of two -/

/-- The powers of two that are at least `n`. -/
def powersFrom (n : Nat) : Set Nat :=
  {p | (∃ k, p = 2 ^ k) ∧ n ≤ p}

/-- No power of two in between is passed over. -/
theorem isLeast_roundUp {n : Nat} (positive : 1 ≤ n) (word : n ≤ 2 ^ 63) :
    IsLeast (powersFrom n) (roundUp n) := by
  rcases positive.eq_or_lt with rfl | two
  · rw [roundUp_of_le_one le_rfl]
    exact ⟨⟨⟨0, rfl⟩, le_rfl⟩, fun p member => member.2⟩
  · have below : n - 1 < 2 ^ ((n - 1).log2 + 1) := Nat.lt_log2_self
    rw [roundUp_eq_pow two word]
    refine ⟨⟨⟨_, rfl⟩, by omega⟩, ?_⟩
    rintro _ ⟨⟨k, rfl⟩, above⟩
    have log : (n - 1).log2 < k := (Nat.log2_lt (by omega)).2 (by omega)
    exact Nat.pow_le_pow_right two_pos log

theorem roundUp_le_of_le {n : Nat} (word : n ≤ 2 ^ 63) : roundUp n ≤ 2 ^ 63 := by
  rcases Nat.eq_zero_or_pos n with rfl | positive
  · rw [roundUp_of_le_one zero_le_one]
    exact word
  · exact (isLeast_roundUp positive word).2 ⟨⟨63, rfl⟩, word⟩

/-- Words stay words. -/
theorem roundUp_lt_of_lt {n : Nat} (word : n < 2 ^ 64) : roundUp n < 2 ^ 64 := by
  rcases le_or_gt n (2 ^ 63) with small | large
  · exact (roundUp_le_of_le small).trans_lt (by decide)
  · rwa [roundUp_of_lt large]

/-- What has been rounded is a power of two or beyond them, and stays. -/
theorem roundUp_roundUp (n : Nat) : roundUp (roundUp n) = roundUp n := by
  rcases Nat.eq_zero_or_pos n with rfl | positive
  · rw [roundUp_of_le_one zero_le_one, roundUp_of_le_one zero_le_one]
  · rcases le_or_gt n (2 ^ 63) with small | large
    · obtain ⟨⟨⟨k, power⟩, -⟩, -⟩ := isLeast_roundUp positive small
      rw [power, roundUp_two_pow]
    · rw [roundUp_of_lt large, roundUp_of_lt large]

theorem monotone_roundUp : Monotone roundUp := by
  intro n m le
  rcases Nat.eq_zero_or_pos n with rfl | positive
  · rw [roundUp_of_le_one zero_le_one]
    exact Nat.zero_le _
  · rcases le_or_gt m (2 ^ 63) with small | large
    · -- what the larger number goes to is one of the powers for the smaller one
      obtain ⟨⟨power, above⟩, -⟩ := isLeast_roundUp (le_trans positive le) small
      exact (isLeast_roundUp positive (le.trans small)).2 ⟨power, le.trans above⟩
    · rw [roundUp_of_lt large]
      rcases le_or_gt n (2 ^ 63) with word | beyond
      · exact (roundUp_le_of_le word).trans large.le
      · rwa [roundUp_of_lt beyond]

/-- `RoundsUp n m`: zero stays zero, another number goes to the least power of two that is at
least the number, and one above the powers of two among 64-bit words stays as it is. -/
structure RoundsUp (n m : Nat) : Prop where
  zero : n = 0 → m = 0
  least : 1 ≤ n → n ≤ 2 ^ 63 → IsLeast (powersFrom n) m
  large : 2 ^ 63 < n → m = n

/-- The three cases of `RoundsUp` settle what a number is rounded to. -/
theorem roundsUp_iff {n m : Nat} : RoundsUp n m ↔ m = roundUp n := by
  constructor
  · intro rounds
    rcases Nat.eq_zero_or_pos n with rfl | positive
    · rw [rounds.zero rfl, roundUp_of_le_one zero_le_one]
    · rcases le_or_gt n (2 ^ 63) with small | large
      · exact (rounds.least positive small).unique (isLeast_roundUp positive small)
      · rw [rounds.large large, roundUp_of_lt large]
  · rintro rfl
    refine ⟨?zero, isLeast_roundUp, roundUp_of_lt⟩
    case zero =>
      rintro rfl
      exact roundUp_of_le_one zero_le_one

/-! ## One number after the other -/

theorem answers_roundAll (rounded : Rounded) (ns : List Nat) :
    (roundAll rounded ns).1 = ns.map roundUp := by
  induction ns generalizing rounded with
  | nil => rfl
  | cons n rest ih => exact congrArg (roundUp n :: ·) (ih (note rounded n))

theorem contains_roundAll (rounded : Rounded) (ns : List Nat) (m : Nat) :
    (roundAll rounded ns).2.contains m = true ↔
      rounded.contains m = true ∨ m ∈ ns ∧ roundUp m ≠ m := by
  induction ns generalizing rounded with
  | nil => simp [roundAll]
  | cons n rest ih =>
    have later : (roundAll rounded (n :: rest)).2 = (roundAll (note rounded n) rest).2 := rfl
    rw [later, ih, contains_note, or_assoc, ← or_and_right, List.mem_cons]

/-- Rounding a number up comes to the least power of two that is large enough, with the
exceptions of zero and of the numbers above all powers among 64-bit words, and is never more
than such a word. It changes nothing the second time, and keeps the order of numbers. Every
number of a sequence is rounded like this whatever was noted before, and noted if that
changes it. -/
theorem roundAll_roundsUp :
    (∀ n m, RoundsUp n m ↔ m = roundUp n) ∧ (∀ n < 2 ^ 64, roundUp n < 2 ^ 64) ∧
      (∀ n, roundUp (roundUp n) = roundUp n) ∧ Monotone roundUp ∧
      ∀ rounded ns, List.Forall₂ RoundsUp ns (roundAll rounded ns).1 ∧
        ∀ m, (roundAll rounded ns).2.contains m = true ↔
          rounded.contains m = true ∨ m ∈ ns ∧ roundUp m ≠ m := by
  refine ⟨fun _ _ => roundsUp_iff, fun _ => roundUp_lt_of_lt, roundUp_roundUp,
    monotone_roundUp, fun rounded ns => ⟨?_, contains_roundAll rounded ns⟩⟩
  rw [answers_roundAll, List.forall₂_map_right_iff]
  exact List.forall₂_same.2 fun n _ => roundsUp_iff.2 rfl

/-- The last power of two among 64-bit words stays, the number before it goes there and the
one after it does not change, also where such numbers were met before. -/
theorem roundAll_roundsUp_lastPower :
    List.Forall₂ RoundsUp [5, 2 ^ 63 - 1, 2 ^ 63, 2 ^ 63 + 1, 5, 0]
        [8, 2 ^ 63, 2 ^ 63, 2 ^ 63 + 1, 8, 0] ∧
      (roundAll (.ofList [(5, ())]) [5, 2 ^ 63 - 1, 2 ^ 63, 2 ^ 63 + 1, 5, 0]).2.keys =
        [5, 2 ^ 63 - 1] := by
  refine ⟨?_, by decide⟩
  have answers : (roundAll (.ofList [(5, ())]) [5, 2 ^ 63 - 1, 2 ^ 63, 2 ^ 63 + 1, 5, 0]).1 =
      [8, 2 ^ 63, 2 ^ 63, 2 ^ 63 + 1, 8, 0] := by
    decide
  exact answers ▸ (roundAll_roundsUp.2.2.2.2 _ _).1

end PowerOfTwo

/-- Notes of the same numbers are the same. -/
theorem Rounded.ext {first second : Rounded}
    (same : ∀ n, first.contains n = true ↔ second.contains n = true) : first = second := by
  refine Dict.ext_get? fun n => ?_
  have present := same n
  rw [Dict.contains, Dict.contains] at present
  rcases left : first.get? n with _ | ⟨⟩ <;> rcases right : second.get? n with _ | ⟨⟩
  · rfl
  · simp [left, right] at present
  · simp [left, right] at present
  · rfl

end ChipPower
