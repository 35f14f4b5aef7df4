import ChipPower.Failure
import Mathlib.Data.List.Forall2

/-!
# Going through lists

What comes of a list whose elements are gone through one by one. It goes well if each
element does (`mapM_eq_ok_iff`), and else it fails as the first element does that fails
(`mapM_eq_error_iff`).
-/

namespace ChipPower

variable {β γ : Type} {f : β → Except Failure γ}

theorem mapM_eq_ok_iff {bs : List β} {cs : List γ} :
    bs.mapM f = .ok cs ↔ List.Forall₂ (fun b c => f b = .ok c) bs cs := by
  induction bs generalizing cs with
  | nil =>
    rw [List.mapM_nil, pure_eq_ok_iff, List.forall₂_nil_left_iff]
    exact eq_comm
  | cons b bs ih =>
    simp only [List.mapM_cons, bind_eq_ok_iff, pure_eq_ok_iff, ih]
    constructor
    · intro found
      obtain ⟨c, first, rest, others, rfl⟩ := found
      exact .cons first others
    · intro related
      cases related with
      | cons first others => exact ⟨_, first, _, others, rfl⟩

theorem exists_mapM_eq_ok_iff {bs : List β} :
    (∃ cs, bs.mapM f = .ok cs) ↔ ∀ b ∈ bs, ∃ c, f b = .ok c := by
  induction bs with
  | nil => exact iff_of_true ⟨[], rfl⟩ nofun
  | cons b bs ih =>
    simp only [List.mapM_cons, bind_eq_ok_iff, pure_eq_ok_iff, List.forall_mem_cons, ← ih]
    constructor
    · intro found
      obtain ⟨_, c, first, cs, others, rfl⟩ := found
      exact ⟨⟨c, first⟩, cs, others⟩
    · intro both
      obtain ⟨⟨c, first⟩, cs, others⟩ := both
      exact ⟨_, c, first, cs, others, rfl⟩

/-- An element that fails after others that do not is what going through the list fails as. -/
theorem mapM_eq_error_of_first {front back : List β} {b : β} {failure : Failure}
    (fine : ∀ other ∈ front, ∃ c, f other = .ok c) (failed : f b = .error failure) :
    (front ++ b :: back).mapM f = .error failure := by
  induction front with
  | nil =>
    rw [List.nil_append, List.mapM_cons, failed]
    rfl
  | cons first front ih =>
    obtain ⟨⟨c, well⟩, others⟩ := List.forall_mem_cons.1 fine
    rw [List.cons_append, List.mapM_cons, well, ih others]
    rfl

theorem exists_first_of_mapM_eq_error {bs : List β} {failure : Failure}
    (failed : bs.mapM f = .error failure) :
    ∃ front b back, bs = front ++ b :: back ∧ (∀ other ∈ front, ∃ c, f other = .ok c) ∧
      f b = .error failure := by
  induction bs with
  | nil => cases failed
  | cons first bs ih =>
    rw [List.mapM_cons] at failed
    cases result : f first with
    | error earlier =>
      rw [result] at failed
      cases failed
      exact ⟨[], first, bs, rfl, nofun, result⟩
    | ok c =>
      have later : bs.mapM f = .error failure := by
        rw [result] at failed
        cases others : bs.mapM f with
        | error other =>
          rw [others] at failed
          cases failed
          rfl
        | ok cs =>
          rw [others] at failed
          cases failed
      obtain ⟨front, b, back, rfl, fine, stops⟩ := ih later
      exact ⟨first :: front, b, back, rfl, List.forall_mem_cons.2 ⟨⟨c, result⟩, fine⟩, stops⟩

/-- Going through a list fails as its first element does that fails. -/
theorem mapM_eq_error_iff {bs : List β} {failure : Failure} :
    bs.mapM f = .error failure ↔
      ∃ front b back, bs = front ++ b :: back ∧ (∀ other ∈ front, ∃ c, f other = .ok c) ∧
        f b = .error failure := by
  refine ⟨exists_first_of_mapM_eq_error, fun first => ?_⟩
  obtain ⟨front, b, back, rfl, fine, failed⟩ := first
  exact mapM_eq_error_of_first fine failed

/-- If the result of each element that has one is known beforehand, so are those of a list. -/
theorem eq_map_of_mapM_eq_ok {value : β → γ} (known : ∀ b c, f b = .ok c → c = value b)
    {bs : List β} {cs : List γ} (mapped : bs.mapM f = .ok cs) : cs = bs.map value := by
  have same : List.Forall₂ (· = ·) (bs.map value) cs :=
    List.forall₂_map_left_iff.2
      ((mapM_eq_ok_iff.1 mapped).imp fun b c result => (known b c result).symm)
  rw [List.forall₂_eq_eq_eq] at same
  exact same.symm

end ChipPower
