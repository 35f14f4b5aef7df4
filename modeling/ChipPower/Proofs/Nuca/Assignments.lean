import ChipPower.Hierarchy.Nuca

/-!
# Assignments to a dictionary

What is found in a dictionary after assignments were carried out, all of them or as many as
went well. Those that went well as a whole are an insertion of entries
(`Dict.exists_insertAll`), so that they can be carried out once more without a change
(`Dict.assign_assign`).
-/

namespace ChipPower.Dict

variable {β : Type}

/-! ## As many as went well -/

/-- Which assignments go well does not depend on what was there before. -/
theorem assign_failure (d e : Dict String β) (assignments : Assignments β) :
    (d.assign assignments).2 = (e.assign assignments).2 := by
  induction assignments generalizing d e with
  | nil => rfl
  | cons assignment rest ih =>
    obtain ⟨key, _ | value⟩ := assignment
    · rfl
    · exact ih (d.insert key value) (e.insert key value)

/-- What two dictionaries agree on outlasts the same assignments. -/
theorem get?_assign_congr {d e : Dict String β} {key : String} (same : d.get? key = e.get? key)
    (assignments : Assignments β) :
    (d.assign assignments).1.get? key = (e.assign assignments).1.get? key := by
  induction assignments generalizing d e with
  | nil => exact same
  | cons assignment rest ih =>
    obtain ⟨assigned, _ | value⟩ := assignment
    · exact same
    · refine ih ?_
      rw [get?_insert, get?_insert, same]

theorem get?_assign_of_not_mem (d : Dict String β) {key : String} {assignments : Assignments β}
    (other : key ∉ assignments.map (·.1)) : (d.assign assignments).1.get? key = d.get? key := by
  induction assignments generalizing d with
  | nil => rfl
  | cons assignment rest ih =>
    rw [List.map_cons, List.mem_cons, not_or] at other
    obtain ⟨assigned, _ | value⟩ := assignment
    · rfl
    · exact (ih (d.insert assigned value) other.2).trans (d.get?_insert_of_ne other.1 value)

/-! ## All of them -/

theorem assign_ok (d : Dict String β) (entries : List (String × β)) :
    d.assign (entries.map fun entry => (entry.1, .ok entry.2)) = (d.insertAll entries, none) := by
  induction entries generalizing d with
  | nil => rfl
  | cons entry rest ih => exact ih (d.insert entry.1 entry.2)

theorem insertAll_insertAll_self (d : Dict String β) (entries : List (String × β)) :
    (d.insertAll entries).insertAll entries = d.insertAll entries := by
  apply ext_get?
  intro key
  rw [get?_insertAll, get?_insertAll]
  cases find key entries.reverse <;> rfl

variable {d after : Dict String β} {assignments : Assignments β}
  (carried : d.assign assignments = (after, none))

include carried

/-- Assignments that are all carried out have values, which are inserted in their order. -/
theorem exists_insertAll : ∃ entries : List (String × β),
    assignments = entries.map (fun entry => (entry.1, .ok entry.2)) ∧
      after = d.insertAll entries := by
  induction assignments generalizing d with
  | nil =>
    cases carried
    exact ⟨[], rfl, rfl⟩
  | cons assignment rest ih =>
    obtain ⟨key, _ | value⟩ := assignment
    · cases carried
    · obtain ⟨entries, rfl, rfl⟩ := ih carried
      exact ⟨(key, value) :: entries, rfl, rfl⟩

theorem get?_assign_of_mem (distinct : (assignments.map (·.1)).Nodup) {key : String}
    {result : Except Failure β} (assigned : (key, result) ∈ assignments) :
    ∃ value, result = .ok value ∧ after.get? key = some value := by
  obtain ⟨entries, rfl, rfl⟩ := exists_insertAll carried
  obtain ⟨⟨_, value⟩, member, same⟩ := List.mem_map.1 assigned
  cases same
  rw [List.map_map] at distinct
  exact ⟨value, rfl, d.get?_insertAll_of_mem distinct member⟩

/-- Carrying them out once more changes nothing. -/
theorem assign_assign : after.assign assignments = (after, none) := by
  obtain ⟨entries, rfl, rfl⟩ := exists_insertAll carried
  rw [assign_ok, insertAll_insertAll_self]

end ChipPower.Dict
