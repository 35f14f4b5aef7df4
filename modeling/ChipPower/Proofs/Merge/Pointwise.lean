import ChipPower.Stats.Merge

/-!
# Merging, name by name

`Stats.mergeEntries` walks through the later statistics in the order of their
names and changes the earlier ones on the way. Here the walk is replaced by what
it does to each name on its own.

* `Value.Merges` relates what two results have under one name to what their
  merge has under it, and `Value.Mergeable` says when there is such a value.
* `Stats.mergeEntries_eq_iff`: a merge succeeds with certain statistics exactly
  if every name has in them what `Value.Merges` gives it.
* `Stats.mergeEntries_succeeds_iff`: a merge succeeds exactly if every name is
  mergeable.

`MergedResult.mergeParts_eq_iff` and `MergedResult.mergeParts_succeeds_iff` carry
both over to results with their configuration and topology, so that later
modules never look into the walk.
-/

namespace ChipPower

variable {α : Type} [Add α]

/-! ## One name -/

/-- `Value.Merges name old new merged`: merging `new` onto `old` under `name`
leaves `merged`. Nothing stands for a result without that statistic. -/
inductive Value.Merges (name : String) :
    Option (Value α) → Option (Value α) → Option (Value α) → Prop
  | keep {old : Option (Value α)} : Value.Merges name old none old
  | fresh {new : Value α} : Value.Merges name none (some new) (some new)
  | replace {old new : Value α} :
    MergePolicy.ofName name ≠ .additive →
    Value.Merges name (some old) (some new) (some new)
  | total {old new sum : Value α} :
    MergePolicy.ofName name = .additive → old.add new = .ok sum →
    Value.Merges name (some old) (some new) (some sum)

omit [Add α] in
/-- What two results have under a name can be merged: if its values add up, the
two are of the same kind. -/
def Value.Mergeable (name : String) (old new : Option (Value α)) : Prop :=
  MergePolicy.ofName name = .additive → ∀ x ∈ old, ∀ y ∈ new, x.kind = y.kind

/-- Without a later value the earlier one stays. -/
theorem Value.Merges.eq_of_none {name : String} {old merged : Option (Value α)}
    (merges : Value.Merges name old none merged) : merged = old := by
  cases merges
  rfl

/-- A later value leaves a value. -/
theorem Value.Merges.exists_of_some {name : String} {old merged : Option (Value α)}
    {new : Value α} (merges : Value.Merges name old (some new) merged) :
    ∃ now, merged = some now := by
  cases merges with
  | fresh => exact ⟨_, rfl⟩
  | replace _ => exact ⟨_, rfl⟩
  | total _ _ => exact ⟨_, rfl⟩

/-- What a merge leaves under a name is determined. -/
theorem Value.Merges.unique {name : String} {old new first second : Option (Value α)}
    (left : Value.Merges name old new first) (right : Value.Merges name old new second) :
    first = second := by
  cases left with
  | keep => exact right.eq_of_none.symm
  | fresh =>
    cases right
    rfl
  | replace other =>
    cases right with
    | replace _ => rfl
    | total additive _ => exact (other additive).elim
  | total additive sum =>
    cases right with
    | replace other => exact (other additive).elim
    | total _ again => exact congrArg some (Except.ok.inj (sum.symm.trans again))

/-- There is a merged value exactly if the two can be merged. -/
theorem Value.exists_merges_iff {name : String} {old new : Option (Value α)} :
    (∃ merged, Value.Merges name old new merged) ↔ Value.Mergeable name old new := by
  constructor
  · rintro ⟨merged, merges⟩ additive x hx y hy
    cases merges with
    | keep => cases hy
    | fresh => cases hx
    | replace other => exact (other additive).elim
    | total _ sum =>
      cases hx
      cases hy
      exact Value.zipWith_eq_ok_iff.1 ⟨_, sum⟩
  · intro mergeable
    cases new with
    | none => exact ⟨old, .keep⟩
    | some y =>
      cases old with
      | none => exact ⟨some y, .fresh⟩
      | some x =>
        by_cases additive : MergePolicy.ofName name = .additive
        · have kinds : x.kind = y.kind := mergeable additive x rfl y rfl
          obtain ⟨sum, added⟩ := Value.zipWith_eq_ok_iff (f := (· + ·)).2 kinds
          exact ⟨some sum, .total additive added⟩
        · exact ⟨some y, .replace additive⟩

/-- The value that a walk puts under a name is the merged one. -/
theorem Value.mergeOnto_eq_ok_iff {name : String} {old : Option (Value α)}
    {new merged : Value α} :
    Value.mergeOnto name old new = .ok merged ↔
      Value.Merges name old (some new) (some merged) := by
  constructor
  · intro onto
    cases old with
    | none =>
      cases onto
      exact .fresh
    | some x =>
      simp only [Value.mergeOnto, Value.mergeAs] at onto
      split at onto
      · exact .total ‹_› (during_eq_ok_iff.1 onto)
      · cases onto
        exact .replace ‹_›
  · intro merges
    cases merges with
    | fresh => rfl
    | replace other => simp only [Value.mergeOnto, Value.mergeAs]
    | total additive sum =>
      simp only [Value.mergeOnto, Value.mergeAs, additive]
      exact during_eq_ok_iff.2 sum

/-! ## All names -/

omit [Add α] in
/-- No later entry has the name of the first one. -/
theorem Stats.find_rest {name : String} {value : Value α} {rest : List (String × Value α)}
    (sorted : ((name, value) :: rest).Pairwise fun a b => compare a.1 b.1 = .lt) :
    Dict.find name rest = none :=
  Dict.find_eq_none_of_lt (List.pairwise_cons.1 sorted).1

omit [Add α] in
/-- Under other names than that of the first entry, the rest has the same. -/
theorem Stats.find_cons_of_ne {name other : String} {value : Value α}
    {rest : List (String × Value α)} (ne : other ≠ name) :
    Dict.find other ((name, value) :: rest) = Dict.find other rest := by
  have differ : compare other name ≠ .eq := fun same =>
    ne (Std.LawfulEqOrd.eq_of_compare same)
  simp [Dict.find, differ]

/-- A merge succeeds with `results` exactly if every name has in `results` what
merging leaves under it. -/
theorem Stats.mergeEntries_eq_iff {merged results : Stats α}
    {entries : List (String × Value α)}
    (sorted : entries.Pairwise fun a b => compare a.1 b.1 = .lt) :
    merged.mergeEntries entries = (results, none) ↔
      ∀ name, Value.Merges name (merged.get? name) (Dict.find name entries)
        (results.get? name) := by
  induction entries generalizing merged with
  | nil =>
    constructor
    · intro same name
      cases same
      exact .keep
    · intro merges
      have same : merged = results :=
        Dict.ext_get? fun name => (merges name).eq_of_none.symm
      rw [same]
      rfl
  | cons entry rest ih =>
    obtain ⟨first, value⟩ := entry
    have absent := Stats.find_rest sorted
    have ih := fun merged : Stats α => @ih merged (List.pairwise_cons.1 sorted).2
    constructor
    · intro run name
      simp only [Stats.mergeEntries] at run
      split at run
      · rename_i now onto
        have merges := (ih _).1 run name
        by_cases same : name = first
        · subst same
          rw [absent, Dict.get?_insert_self] at merges
          rw [merges.eq_of_none, Dict.find_self]
          exact Value.mergeOnto_eq_ok_iff.1 onto
        · rw [Stats.find_cons_of_ne same]
          rwa [Dict.get?_insert_of_ne _ same] at merges
      · cases run
    · intro merges
      have head := merges first
      rw [Dict.find_self] at head
      obtain ⟨now, left⟩ := head.exists_of_some
      rw [left] at head
      simp only [Stats.mergeEntries, Value.mergeOnto_eq_ok_iff.2 head]
      refine (ih _).2 fun name => ?_
      by_cases same : name = first
      · subst same
        rw [absent, Dict.get?_insert_self, left]
        exact .keep
      · rw [Dict.get?_insert_of_ne _ same, ← Stats.find_cons_of_ne same]
        exact merges name

/-- A merge succeeds exactly if every name can be merged. -/
theorem Stats.mergeEntries_succeeds_iff {merged : Stats α}
    {entries : List (String × Value α)}
    (sorted : entries.Pairwise fun a b => compare a.1 b.1 = .lt) :
    (∃ results, merged.mergeEntries entries = (results, none)) ↔
      ∀ name, Value.Mergeable name (merged.get? name) (Dict.find name entries) := by
  constructor
  · rintro ⟨results, run⟩ name
    exact Value.exists_merges_iff.1 ⟨_, (Stats.mergeEntries_eq_iff sorted).1 run name⟩
  · intro mergeable
    induction entries generalizing merged with
    | nil => exact ⟨merged, rfl⟩
    | cons entry rest ih =>
      obtain ⟨first, value⟩ := entry
      have head := mergeable first
      rw [Dict.find_self] at head
      obtain ⟨left, merges⟩ := Value.exists_merges_iff.2 head
      obtain ⟨now, rfl⟩ := merges.exists_of_some
      simp only [Stats.mergeEntries, Value.mergeOnto_eq_ok_iff.2 merges]
      refine ih (List.pairwise_cons.1 sorted).2 fun name => ?_
      by_cases same : name = first
      · subst same
        rw [Stats.find_rest sorted]
        exact fun _ _ _ _ none => nomatch none
      · rw [Dict.get?_insert_of_ne _ same, ← Stats.find_cons_of_ne same]
        exact mergeable name

/-! ## Results -/

namespace MergedResult

/-- A merge succeeds with `after` exactly if every name has in it what merging
leaves, and it has the later configuration and topology unless they are empty. -/
theorem mergeParts_eq_iff {merged after : MergedResult α} {results : Stats α}
    {config : Config} {topology : List TopologyEntry} {intervals : Nat} :
    merged.mergeParts results config topology intervals = (after, none) ↔
      (∀ name, Value.Merges name (merged.results.get? name) (results.get? name)
        (after.results.get? name)) ∧
      after.config = (if config.isEmpty then merged.config else config) ∧
      after.topology = (if topology.isEmpty then merged.topology else topology) ∧
      after.intervals = merged.intervals + intervals := by
  have pointwise := fun left =>
    @Stats.mergeEntries_eq_iff α _ merged.results left results.toList results.sorted
  unfold mergeParts
  split
  · rename_i left failure run
    constructor
    · intro same
      cases same
    · rintro ⟨merges, -⟩
      rw [(pointwise _).2 merges] at run
      cases run
  · rename_i left run
    constructor
    · intro same
      cases same
      exact ⟨(pointwise _).1 run, rfl, rfl, rfl⟩
    · rintro ⟨merges, sameConfig, sameTopology, sameIntervals⟩
      rw [(pointwise _).2 merges] at run
      cases run
      rw [← sameConfig, ← sameTopology, ← sameIntervals]

/-- A merge succeeds exactly if every name can be merged. -/
theorem mergeParts_succeeds_iff {merged : MergedResult α} {results : Stats α}
    {config : Config} {topology : List TopologyEntry} {intervals : Nat} :
    (∃ after, merged.mergeParts results config topology intervals = (after, none)) ↔
      ∀ name, Value.Mergeable name (merged.results.get? name) (results.get? name) := by
  have pointwise :=
    @Stats.mergeEntries_succeeds_iff α _ merged.results results.toList results.sorted
  unfold mergeParts
  split
  · rename_i left failure run
    constructor
    · rintro ⟨after, same⟩
      cases same
    · intro mergeable
      obtain ⟨other, success⟩ := pointwise.2 mergeable
      rw [run] at success
      cases success
  · rename_i left run
    exact ⟨fun _ => pointwise.1 ⟨left, run⟩, fun _ => ⟨_, rfl⟩⟩

end MergedResult

end ChipPower
