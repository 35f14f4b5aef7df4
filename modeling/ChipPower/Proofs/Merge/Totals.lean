import ChipPower.Stats.Value

/-!
# Totals of values

What the values of one statistic add up to over a run, said without the order in
which a merge meets them: single numbers are added from left to right, and lists
are added element by element as far as the shortest one goes.

`Value.Totals` is that notion. `Value.Totals.append` says how a total grows with
one more value, and `Value.Totals.kind_eq` that only values of one kind have a
total.
-/

namespace ChipPower

variable {α : Type} [Add α]

/-! ## Sums from left to right -/

/-- The sum of numbers from left to right, if there is a number to start from. -/
def leftSum? : List α → Option α
  | [] => none
  | x :: xs => some (xs.foldl (· + ·) x)

theorem leftSum?_append {xs : List α} {total : α} (sum : leftSum? xs = some total) (x : α) :
    leftSum? (xs ++ [x]) = some (total + x) := by
  cases xs with
  | nil => cases sum
  | cons first rest =>
    simp only [leftSum?, Option.some.injEq] at sum
    simp only [List.cons_append, leftSum?, List.foldl_append, List.foldl_cons, List.foldl_nil,
      sum]

omit [Add α] in
/-- What lists have at an index, in their order. Lists that are too short have
nothing there. -/
def column (index : Nat) (rows : List (List α)) : List α :=
  rows.filterMap fun row => row[index]?

/-! ## Values -/

/-- `Value.Totals values total`: `total` is the sum of `values` from left to right.
For lists, that is the sum element by element, cut to the shortest one. -/
inductive Value.Totals : List (Value α) → Value α → Prop
  | scalars {xs : List α} {total : α} :
    leftSum? xs = some total → Value.Totals (xs.map .scalar) (.scalar total)
  | lists {rows : List (List α)} {total : List α} :
    (∀ row ∈ rows, total.length ≤ row.length) →
    (∃ row ∈ rows, row.length = total.length) →
    (∀ index < total.length, total[index]? = leftSum? (column index rows)) →
    Value.Totals (rows.map .list) (.list total)

namespace Value.Totals

/-- One value is its own total. -/
theorem single (value : Value α) : Value.Totals [value] value := by
  cases value with
  | scalar x => exact @Value.Totals.scalars α _ [x] x rfl
  | list xs =>
    refine @Value.Totals.lists α _ [xs] xs ?_ ⟨xs, List.mem_singleton_self xs, rfl⟩ ?_
    · intro row member
      obtain rfl := List.mem_singleton.1 member
      exact Nat.le_refl _
    · intro index bound
      have alone : column index [xs] = [xs[index]] := by
        simp only [column, List.filterMap_cons, List.filterMap_nil, List.getElem?_eq_getElem bound]
      rw [alone]
      exact List.getElem?_eq_getElem bound

/-- A total with one more list: each element grows by that of the list, and the
shorter of the two sets the length. -/
theorem lists_append {rows : List (List α)} {total : List α}
    (atMost : ∀ row ∈ rows, total.length ≤ row.length)
    (shortest : ∃ row ∈ rows, row.length = total.length)
    (sums : ∀ index < total.length, total[index]? = leftSum? (column index rows))
    (ys : List α) :
    Value.Totals ((rows ++ [ys]).map .list) (.list (List.zipWith (· + ·) total ys)) := by
  have length : (List.zipWith (· + ·) total ys).length = min total.length ys.length :=
    List.length_zipWith
  refine .lists ?_ ?_ ?_
  · intro row member
    rcases List.mem_append.1 member with earlier | last
    · have := atMost row earlier
      omega
    · rw [List.mem_singleton.1 last]
      omega
  · obtain ⟨row, member, same⟩ := shortest
    rcases Nat.le_total total.length ys.length with short | short
    · exact ⟨row, List.mem_append_left _ member, by omega⟩
    · exact ⟨ys, List.mem_append_right _ (List.mem_singleton_self ys), by omega⟩
  · intro index bound
    have inTotal : index < total.length := by omega
    have inLast : index < ys.length := by omega
    have before : leftSum? (column index rows) = some total[index] := by
      rw [← sums index inTotal, List.getElem?_eq_getElem inTotal]
    have grown : column index (rows ++ [ys]) = column index rows ++ [ys[index]] := by
      simp only [column, List.filterMap_append, List.filterMap_cons, List.filterMap_nil,
        List.getElem?_eq_getElem inLast]
    rw [grown, leftSum?_append before, List.getElem?_eq_getElem bound, List.getElem_zipWith]

/-- The sum of a total and one more value is the total of all. -/
theorem append {values : List (Value α)} {total value next : Value α}
    (totals : Value.Totals values total) (added : total.add value = .ok next) :
    Value.Totals (values ++ [value]) next := by
  cases totals with
  | @scalars xs sum summed =>
    cases value with
    | scalar y =>
      cases added
      rw [← List.map_singleton, ← List.map_append]
      exact .scalars (leftSum?_append summed y)
    | list ys => cases added
  | @lists rows sums atMost shortest summed =>
    cases value with
    | scalar y => cases added
    | list ys =>
      cases added
      rw [← List.map_singleton, ← List.map_append]
      exact lists_append atMost shortest summed ys

/-- All values are of the kind of their total. -/
theorem kind_eq {values : List (Value α)} {total : Value α}
    (totals : Value.Totals values total) : ∀ value ∈ values, value.kind = total.kind := by
  intro value member
  cases totals with
  | scalars _ =>
    obtain ⟨x, -, rfl⟩ := List.mem_map.1 member
    rfl
  | lists _ _ _ =>
    obtain ⟨xs, -, rfl⟩ := List.mem_map.1 member
    rfl

/-- A total is that of some value at least. -/
theorem exists_mem {values : List (Value α)} {total : Value α}
    (totals : Value.Totals values total) : ∃ value, value ∈ values := by
  cases totals with
  | @scalars xs sum summed =>
    cases xs with
    | nil => cases summed
    | cons x rest => exact ⟨.scalar x, List.mem_cons_self⟩
  | lists _ shortest _ =>
    obtain ⟨row, member, -⟩ := shortest
    exact ⟨.list row, List.mem_map_of_mem member⟩

end Value.Totals

end ChipPower
