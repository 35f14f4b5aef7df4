import ChipPower.Proofs.Merge.Pointwise
import Mathlib.Data.String.Basic

/-!
# Where a merge stops

A merge that fails has walked through the later statistics up to a first one that cannot be
merged. `Stats.FirstClash` says of two statistics, without the walk, which one that is, and
`MergedResult.StoppedAt` what is left then: the statistics with smaller names are merged,
and nothing else has changed.

* `Stats.mergeEntries_stops`: a walk that stops has merged the entries before the one it
  stops at.
* `MergedResult.mergeParts_stops_iff`: a merge fails exactly at the first clash.
* `MergedResult.failure_iff_firstClash`: the same for the results of an interval and for
  merged results.
-/

namespace ChipPower

variable {α : Type}

namespace Stats

/-! ## The statistics below a name -/

/-- The statistics with smaller names than a given one. -/
def below (stats : Stats α) (name : String) : Stats α where
  toList := stats.toList.filter fun entry => entry.1 < name
  sorted := stats.sorted.sublist List.filter_sublist

theorem find_filter_below {name other : String} (smaller : other < name)
    (entries : List (String × Value α)) :
    Dict.find other (entries.filter fun entry => entry.1 < name) = Dict.find other entries := by
  induction entries with
  | nil => rfl
  | cons entry rest ih =>
    by_cases same : other = entry.1
    · subst same
      rw [List.filter_cons, if_pos (decide_eq_true smaller), Dict.find_self, Dict.find_self]
    · rw [find_cons_of_ne same]
      by_cases kept : entry.1 < name
      · rw [List.filter_cons, if_pos (decide_eq_true kept), find_cons_of_ne same, ih]
      · rw [List.filter_cons, if_neg (by simpa using kept), ih]

theorem get?_below (stats : Stats α) {name other : String} (smaller : other < name) :
    (stats.below name).get? other = stats.get? other :=
  find_filter_below smaller stats.toList

theorem get?_below_of_not (stats : Stats α) {name other : String} (beyond : ¬ other < name) :
    (stats.below name).get? other = none := by
  refine Dict.find_eq_none_of_not_mem fun member => beyond ?_
  obtain ⟨entry, listed, rfl⟩ := List.mem_map.1 member
  exact of_decide_eq_true (List.mem_filter.1 listed).2

/-- The entries before one of sorted statistics are those with smaller names. -/
theorem toList_below {stats : Stats α} {front rest : List (String × Value α)} {name : String}
    {value : Value α} (entries : stats.toList = front ++ (name, value) :: rest) :
    (stats.below name).toList = front := by
  have sorted := stats.sorted
  rw [entries, List.pairwise_append, List.pairwise_cons] at sorted
  obtain ⟨-, ⟨after, -⟩, before⟩ := sorted
  have kept : ∀ entry ∈ front, decide (entry.1 < name) = true := fun entry member =>
    decide_eq_true (compare_lt_iff_lt.1 (before entry member _ List.mem_cons_self))
  have dropped : ∀ entry ∈ (name, value) :: rest, ¬ decide (entry.1 < name) = true := by
    intro entry member smaller
    have smaller := of_decide_eq_true smaller
    rcases List.mem_cons.1 member with rfl | member
    · exact lt_irrefl _ smaller
    · exact lt_asymm smaller (compare_lt_iff_lt.1 (after entry member))
  change stats.toList.filter _ = front
  rw [entries, List.filter_append, List.filter_eq_self.2 kept,
    List.filter_eq_nil_iff.2 dropped, List.append_nil]

/-! ## Clashes -/

/-- `old.Clashes new name x y`: under `name`, which adds up, are values of different
kinds. -/
structure Clashes (old new : Stats α) (name : String) (x y : Value α) : Prop where
  additive : MergePolicy.ofName name = .additive
  left : old.get? name = some x
  right : new.get? name = some y
  differ : x.kind ≠ y.kind

/-- The clash with the smallest name. Names are ordered by their characters, which is the order
of their bytes in UTF-8. -/
structure FirstClash (old new : Stats α) (name : String) (x y : Value α) : Prop where
  clashes : old.Clashes new name x y
  first : ∀ earlier < name, ∀ a b, ¬ old.Clashes new earlier a b

variable {old new : Stats α} {name : String}

/-- What cannot be merged under a name clashes. -/
theorem not_mergeable_iff :
    ¬ Value.Mergeable name (old.get? name) (new.get? name) ↔
      ∃ x y, old.Clashes new name x y := by
  constructor
  · intro blocked
    simp only [Value.Mergeable, not_forall] at blocked
    obtain ⟨additive, x, left, y, right, differ⟩ := blocked
    exact ⟨x, y, additive, left, right, differ⟩
  · intro ⟨x, y, clash⟩ mergeable
    exact clash.differ (mergeable clash.additive x clash.left y clash.right)

/-- There is at most one first clash. -/
theorem FirstClash.unique {other : String} {x y a b : Value α}
    (clash : old.FirstClash new name x y) (second : old.FirstClash new other a b) :
    name = other ∧ x = a ∧ y = b := by
  rcases lt_trichotomy name other with smaller | rfl | greater
  · exact (second.first name smaller x y clash.clashes).elim
  · have left := clash.clashes.left.symm.trans second.clashes.left
    have right := clash.clashes.right.symm.trans second.clashes.right
    exact ⟨rfl, Option.some.inj left, Option.some.inj right⟩
  · exact (clash.first other greater a b second.clashes).elim

end Stats

/-! ## The walk -/

variable [Add α]

theorem Value.add_eq_error_iff {x y : Value α} {failure : Failure} :
    x.add y = .error failure ↔
      x.kind ≠ y.kind ∧ failure = ⟨[], .kindMismatch x.kind y.kind⟩ := by
  cases x <;> cases y <;>
    simp [add, zipWith, kind, fail, Failure.ofCause, eq_comm]

/-- What cannot be put under a name is of another kind than what is there. -/
theorem Value.mergeOnto_eq_error_iff {name : String} {old : Option (Value α)} {new : Value α}
    {failure : Failure} :
    Value.mergeOnto name old new = .error failure ↔
      MergePolicy.ofName name = .additive ∧ ∃ x, old = some x ∧ x.kind ≠ new.kind ∧
        failure = ⟨[.mergeStatistic name], .kindMismatch x.kind new.kind⟩ := by
  cases old with
  | none => simp [mergeOnto]
  | some x =>
    simp only [mergeOnto, mergeAs]
    split
    · rename_i additive
      rw [during_eq_error_iff]
      simp only [add_eq_error_iff]
      constructor
      · rintro ⟨inner, ⟨differ, rfl⟩, rfl⟩
        exact ⟨additive, x, rfl, differ, rfl⟩
      · rintro ⟨-, _, same, differ, rfl⟩
        cases same
        exact ⟨_, ⟨differ, rfl⟩, rfl⟩
    · rename_i other
      constructor
      · intro onto
        cases onto
      · rintro ⟨additive, -⟩
        exact (other additive).elim

namespace Stats

/-- A walk that stops has merged the entries before the one it stops at. -/
theorem mergeEntries_stops {merged left : Stats α} {entries : List (String × Value α)}
    {failure : Failure} (stops : merged.mergeEntries entries = (left, some failure)) :
    ∃ front name value rest, entries = front ++ (name, value) :: rest ∧
      merged.mergeEntries front = (left, none) ∧
      Value.mergeOnto name (left.get? name) value = .error failure := by
  induction entries generalizing merged with
  | nil => cases stops
  | cons entry rest ih =>
    obtain ⟨first, value⟩ := entry
    rw [mergeEntries] at stops
    split at stops
    · rename_i now onto
      obtain ⟨front, name, blocked, later, rfl, run, fails⟩ := ih stops
      refine ⟨(first, value) :: front, name, blocked, later, rfl, ?_, fails⟩
      simp only [mergeEntries, onto, run]
    · rename_i cause onto
      cases stops
      exact ⟨[], first, value, rest, rfl, rfl, onto⟩

end Stats

namespace MergedResult

/-! ## What is left -/

/-- `merged.StoppedAt name results after`: of a merge with later `results` that stopped at
`name`, `after` is left. -/
structure StoppedAt (merged : MergedResult α) (name : String) (results : Stats α)
    (after : MergedResult α) : Prop where
  /-- A merge with the smaller names alone succeeds, and leaves the same. -/
  smaller : merged.mergeParts (results.below name) ∅ [] 0 = (after, none)
  merges : ∀ earlier < name, Value.Merges earlier (merged.results.get? earlier)
    (results.get? earlier) (after.results.get? earlier)
  beyond : ∀ later, ¬ later < name → after.results.get? later = merged.results.get? later
  config : after.config = merged.config
  topology : after.topology = merged.topology
  intervals : after.intervals = merged.intervals
  added : ∀ other, merged.results.contains other = false →
    after.results.contains other = true → other < name

variable {merged after : MergedResult α} {name : String} {results : Stats α}

/-- What a merge with the smaller names alone leaves is what is left. -/
theorem StoppedAt.of_smaller
    (smaller : merged.mergeParts (results.below name) ∅ [] 0 = (after, none)) :
    merged.StoppedAt name results after := by
  obtain ⟨merges, config, topology, intervals⟩ := mergeParts_eq_iff.1 smaller
  have beyond : ∀ later, ¬ later < name →
      after.results.get? later = merged.results.get? later := by
    intro later above
    have kept := merges later
    rw [Stats.get?_below_of_not results above] at kept
    exact kept.eq_of_none
  exact {
    smaller := smaller
    merges := by
      intro earlier below
      have merged := merges earlier
      rwa [Stats.get?_below results below] at merged
    beyond := beyond
    config := config
    topology := topology
    intervals := intervals
    added := by
      intro other absent present
      by_contra above
      rw [Dict.contains, beyond other above] at present
      rw [Dict.contains, present] at absent
      cases absent }

/-- Only one result can be left. -/
theorem StoppedAt.unique {second : MergedResult α}
    (stopped : merged.StoppedAt name results after)
    (again : merged.StoppedAt name results second) : after = second :=
  congrArg Prod.fst (stopped.smaller.symm.trans again.smaller)

variable {config : Config} {topology : List TopologyEntry} {intervals : Nat} {failure : Failure}

/-- A merge that fails has stopped at the first clash. -/
theorem exists_stoppedAt
    (fails : merged.mergeParts results config topology intervals = (after, some failure)) :
    ∃ name x y, merged.results.FirstClash results name x y ∧
      failure = ⟨[.mergeStatistic name], .kindMismatch x.kind y.kind⟩ ∧
      merged.StoppedAt name results after := by
  unfold mergeParts at fails
  split at fails
  · rename_i walked cause run
    cases fails
    obtain ⟨front, name, y, rest, entries, before, blocked⟩ := Stats.mergeEntries_stops run
    rw [← Stats.toList_below entries] at before
    have stopped : merged.StoppedAt name results { merged with results := walked } := by
      apply StoppedAt.of_smaller
      rw [mergeParts, before]
      rfl
    -- the walk has not yet come to the name that it stops at
    have untouched : walked.get? name = merged.results.get? name :=
      stopped.beyond name (lt_irrefl name)
    rw [untouched] at blocked
    obtain ⟨additive, x, left, differ, cause⟩ := Value.mergeOnto_eq_error_iff.1 blocked
    have listed : (name, y) ∈ results.toList := by
      rw [entries]
      exact List.mem_append_right _ List.mem_cons_self
    have right : results.get? name = some y :=
      Dict.find_eq_some_of_mem results.nodup_keys listed
    have first : ∀ earlier < name, ∀ a b, ¬ merged.results.Clashes results earlier a b := by
      intro earlier below a b clash
      have mergeable := Value.exists_merges_iff.1 ⟨_, stopped.merges earlier below⟩
      exact Stats.not_mergeable_iff.2 ⟨a, b, clash⟩ mergeable
    exact ⟨name, x, y, ⟨⟨additive, left, right, differ⟩, first⟩, cause, stopped⟩
  · cases fails

/-- A merge fails exactly if it stops at a first clash. -/
theorem mergeParts_stops_iff :
    merged.mergeParts results config topology intervals = (after, some failure) ↔
      ∃ name x y, merged.results.FirstClash results name x y ∧
        failure = ⟨[.mergeStatistic name], .kindMismatch x.kind y.kind⟩ ∧
        merged.StoppedAt name results after := by
  refine ⟨exists_stoppedAt, ?_⟩
  rintro ⟨name, x, y, clash, rfl, stopped⟩
  rcases run : merged.mergeParts results config topology intervals with ⟨other, _ | failure⟩
  · have mergeable := mergeParts_succeeds_iff.1 ⟨other, run⟩ name
    exact (Stats.not_mergeable_iff.2 ⟨x, y, clash.clashes⟩ mergeable).elim
  · obtain ⟨second, a, b, again, rfl, stoppedAgain⟩ := exists_stoppedAt run
    obtain ⟨rfl, rfl, rfl⟩ := clash.unique again
    rw [stopped.unique stoppedAgain]

/-- Whether later results are those of an interval or merged themselves, merging them fails
exactly at the first name that adds up and has values of different kinds. The failure tells
the name and the kinds, the names below are merged, and all else is as before. -/
theorem failure_iff_firstClash (merged after : MergedResult α) (failure : Failure) :
    (∀ set : ResultSet α, merged.absorb set = (after, some failure) ↔
      ∃ name x y, merged.results.FirstClash set.results name x y ∧
        failure = ⟨[.mergeStatistic name], .kindMismatch x.kind y.kind⟩ ∧
        merged.StoppedAt name set.results after) ∧
    (∀ later : MergedResult α, merged.merge later = (after, some failure) ↔
      ∃ name x y, merged.results.FirstClash later.results name x y ∧
        failure = ⟨[.mergeStatistic name], .kindMismatch x.kind y.kind⟩ ∧
        merged.StoppedAt name later.results after) :=
  ⟨fun _ => mergeParts_stops_iff, fun _ => mergeParts_stops_iff⟩

/-- Of the later statistics, only the one below the clash has been merged. -/
example :
    ({ results := Dict.ofList [("b", .scalar 1), ("c", .scalar 2)] } : MergedResult Nat).absorb
        { results := Dict.ofList [("a", .list [3]), ("b", .list [4]), ("c", .scalar 5)]
          config := Dict.ofList [("general/total_cores", "4")] } =
      ({ results := Dict.ofList [("a", .list [3]), ("b", .scalar 1), ("c", .scalar 2)] },
        some ⟨[.mergeStatistic "b"], .kindMismatch "scalar" "list"⟩) := by
  rfl

end MergedResult

end ChipPower
