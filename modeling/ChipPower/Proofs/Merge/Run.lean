import ChipPower.Proofs.Merge.Pointwise
import ChipPower.Proofs.Merge.Totals

/-!
# What a run of intervals leaves

`MergedResult.absorbAll` folds the result sets of a run into one result. The
invariant of the fold, `MergedResult.Summarizes`, describes a result by the sets
that were merged into it so far and never by the steps taken:

* a name whose values add up has their total, any other name its latest value,
* the configuration and the topology are the last ones that are not empty.

`MergedResult.absorb_cases` is the step: one more set either keeps the invariant
or clashes with an earlier set. `MergedResult.absorbAll_cases` carries it through
a run, and `MergedResult.absorbAll_outcome` says what a run from the beginning
leaves and when it fails.
-/

namespace ChipPower

variable {α : Type}

/-! ## The sets of a run -/

namespace ResultSet

/-- What the sets of a run have under a name, in the order of the run. -/
def observed (name : String) (sets : List (ResultSet α)) : List (Value α) :=
  sets.filterMap fun set => set.results.get? name

/-- The configuration of the last set that has one. -/
def lastConfig (sets : List (ResultSet α)) : Config :=
  ((sets.map (·.config)).filter fun config => !config.isEmpty).getLast?.getD ∅

/-- The topology of the last set that has one. -/
def lastTopology (sets : List (ResultSet α)) : List TopologyEntry :=
  ((sets.map (·.topology)).filter fun topology => !topology.isEmpty).getLast?.getD []

/-- Under a name, one set has a single number and another one a list. -/
def Mixed (name : String) (sets : List (ResultSet α)) : Prop :=
  ∃ s ∈ sets, ∃ t ∈ sets, ∃ x ys,
    s.results.get? name = some (.scalar x) ∧ t.results.get? name = some (.list ys)

theorem mem_observed_iff {name : String} {sets : List (ResultSet α)} {value : Value α} :
    value ∈ observed name sets ↔ ∃ set ∈ sets, set.results.get? name = some value :=
  List.mem_filterMap

theorem observed_append (name : String) (sets : List (ResultSet α)) (set : ResultSet α) :
    observed name (sets ++ [set]) = observed name sets ++ (set.results.get? name).toList := by
  unfold observed
  rw [List.filterMap_append, List.filterMap_cons, List.filterMap_nil]
  cases set.results.get? name <;> rfl

theorem lastConfig_append (sets : List (ResultSet α)) (set : ResultSet α) :
    lastConfig (sets ++ [set]) =
      if set.config.isEmpty then lastConfig sets else set.config := by
  unfold lastConfig
  cases empty : set.config.isEmpty <;>
    simp [List.filter_append, empty]

theorem lastTopology_append (sets : List (ResultSet α)) (set : ResultSet α) :
    lastTopology (sets ++ [set]) =
      if set.topology.isEmpty then lastTopology sets else set.topology := by
  unfold lastTopology
  cases empty : set.topology.isEmpty <;>
    simp [List.filter_append, empty]

/-- Two values of different kinds under a name mix kinds, whichever comes first. -/
theorem Mixed.of_kinds {name : String} {sets : List (ResultSet α)} {x y : Value α}
    (first : x ∈ observed name sets) (second : y ∈ observed name sets)
    (differ : x.kind ≠ y.kind) : Mixed name sets := by
  obtain ⟨s, sMember, sHas⟩ := mem_observed_iff.1 first
  obtain ⟨t, tMember, tHas⟩ := mem_observed_iff.1 second
  cases x with
  | scalar a =>
    cases y with
    | scalar b => exact (differ rfl).elim
    | list bs => exact ⟨s, sMember, t, tMember, a, bs, sHas, tHas⟩
  | list as =>
    cases y with
    | scalar b => exact ⟨t, tMember, s, sMember, b, as, tHas, sHas⟩
    | list bs => exact (differ rfl).elim

theorem Mixed.mono {name : String} {sets later : List (ResultSet α)}
    (mixed : Mixed name sets) : Mixed name (sets ++ later) := by
  obtain ⟨s, sMember, t, tMember, x, ys, sHas, tHas⟩ := mixed
  exact ⟨s, List.mem_append_left _ sMember, t, List.mem_append_left _ tMember, x, ys, sHas, tHas⟩

end ResultSet

/-- A policy adds up exactly for the names of neither list. -/
theorem MergePolicy.ofName_eq_additive_iff {name : String} :
    MergePolicy.ofName name = .additive ↔
      name ∉ MergePolicy.copiedNames ∧ name ∉ MergePolicy.zeroNames := by
  unfold MergePolicy.ofName
  split
  · rename_i copied
    simp [copied]
  · rename_i other
    split
    · rename_i zero
      simp [zero]
    · rename_i neither
      simp [other, neither]

variable [Add α]

/-! ## One name over a run -/

/-- `Value.Summary name values slot`: `slot` is what a result has under `name` after
a run in which the name had `values`. -/
inductive Value.Summary (name : String) : List (Value α) → Option (Value α) → Prop
  | absent : Value.Summary name [] none
  | latest {values : List (Value α)} {value : Value α} :
    MergePolicy.ofName name ≠ .additive → values.getLast? = some value →
    Value.Summary name values (some value)
  | total {values : List (Value α)} {value : Value α} :
    MergePolicy.ofName name = .additive → Value.Totals values value →
    Value.Summary name values (some value)

namespace Value.Summary

/-- Merging keeps a summary, with the later value added to the run. -/
theorem append {name : String} {values : List (Value α)} {old new next : Option (Value α)}
    (summary : Value.Summary name values old) (merges : Value.Merges name old new next) :
    Value.Summary name (values ++ new.toList) next := by
  cases merges with
  | keep =>
    rw [Option.toList_none, List.append_nil]
    exact summary
  | @fresh value =>
    cases summary
    by_cases additive : MergePolicy.ofName name = .additive
    · exact .total additive (.single value)
    · exact .latest additive rfl
  | @replace _ value other =>
    exact .latest other (by rw [Option.toList_some, List.getLast?_concat])
  | @total x y sum additive added =>
    cases summary with
    | latest other _ => exact (other additive).elim
    | total _ totals => exact .total additive (totals.append added)

/-- A name whose values do not add up has its latest one. -/
theorem eq_getLast? {name : String} {values : List (Value α)} {slot : Option (Value α)}
    (summary : Value.Summary name values slot) (other : MergePolicy.ofName name ≠ .additive) :
    slot = values.getLast? := by
  cases summary with
  | absent => rfl
  | latest _ last => exact last.symm
  | total additive _ => exact (other additive).elim

/-- A name whose values add up has their total. -/
theorem totals {name : String} {values : List (Value α)} {value : Value α}
    (summary : Value.Summary name values (some value))
    (additive : MergePolicy.ofName name = .additive) : Value.Totals values value := by
  cases summary with
  | latest other _ => exact (other additive).elim
  | total _ totals => exact totals

/-- A name has a value exactly if the run had one. -/
theorem isSome_iff {name : String} {values : List (Value α)} {slot : Option (Value α)}
    (summary : Value.Summary name values slot) :
    slot.isSome = true ↔ ∃ value, value ∈ values := by
  cases summary with
  | absent => simp
  | latest _ last => simpa using ⟨_, List.mem_of_getLast? last⟩
  | total _ totals => simpa using totals.exists_mem

end Value.Summary

/-! ## The invariant of a run -/

/-- `merged.Summarizes seen`: `merged` is what the sets `seen` leave. -/
structure MergedResult.Summarizes (merged : MergedResult α) (seen : List (ResultSet α)) :
    Prop where
  values : ∀ name,
    Value.Summary name (ResultSet.observed name seen) (merged.results.get? name)
  config : merged.config = ResultSet.lastConfig seen
  topology : merged.topology = ResultSet.lastTopology seen
  intervals : merged.intervals = seen.length

/-- Some name whose values add up mixes kinds, so that the sets have no merge. -/
def ResultSet.Clash (sets : List (ResultSet α)) : Prop :=
  ∃ name, MergePolicy.ofName name = .additive ∧ ResultSet.Mixed name sets

namespace MergedResult

/-- The empty result is what no sets leave. -/
theorem Summarizes.empty : Summarizes ({} : MergedResult α) [] where
  values _ := .absent
  config := rfl
  topology := rfl
  intervals := rfl

/-- Sets that are summarized by a result do not clash. -/
theorem Summarizes.not_clash {merged : MergedResult α} {seen : List (ResultSet α)}
    (summarizes : merged.Summarizes seen) : ¬ ResultSet.Clash seen := by
  rintro ⟨name, additive, s, sMember, t, tMember, x, ys, sHas, tHas⟩
  have first := ResultSet.mem_observed_iff.2 ⟨s, sMember, sHas⟩
  have second := ResultSet.mem_observed_iff.2 ⟨t, tMember, tHas⟩
  have summary := summarizes.values name
  generalize ResultSet.observed name seen = values at summary first second
  generalize merged.results.get? name = slot at summary
  cases summary with
  | absent => cases first
  | latest other _ => exact other additive
  | total _ totals =>
    have same : (Value.scalar x).kind = (Value.list ys).kind :=
      (totals.kind_eq _ first).trans (totals.kind_eq _ second).symm
    simp [Value.kind] at same

/-- A name that cannot be merged mixes kinds. -/
theorem Summarizes.clash_of_not_mergeable {merged : MergedResult α}
    {seen : List (ResultSet α)} (summarizes : merged.Summarizes seen) {set : ResultSet α}
    {name : String}
    (blocked : ¬ Value.Mergeable name (merged.results.get? name) (set.results.get? name)) :
    ResultSet.Clash (seen ++ [set]) := by
  simp only [Value.Mergeable, Classical.not_forall] at blocked
  obtain ⟨additive, x, xHas, y, yHas, differ⟩ := blocked
  have summary := summarizes.values name
  rw [Option.mem_def.1 xHas] at summary
  generalize run : ResultSet.observed name seen = values at summary
  cases summary with
  | latest other _ => exact (other additive).elim
  | total _ totals =>
    -- the merged value has the kind of any earlier one, which is in the run
    obtain ⟨z, zMember⟩ := totals.exists_mem
    have whole : ResultSet.observed name (seen ++ [set]) = values ++ [y] := by
      rw [ResultSet.observed_append, run, Option.mem_def.1 yHas, Option.toList_some]
    have first : z ∈ ResultSet.observed name (seen ++ [set]) := by
      rw [whole]
      exact List.mem_append_left _ zMember
    have second : y ∈ ResultSet.observed name (seen ++ [set]) := by
      rw [whole]
      exact List.mem_append_right _ (List.mem_singleton_self y)
    have kinds : z.kind ≠ y.kind := by
      rw [totals.kind_eq z zMember]
      exact differ
    exact ⟨name, additive, .of_kinds first second kinds⟩

/-- One more set is either merged, which keeps the invariant, or clashes. -/
theorem absorb_cases {merged : MergedResult α} {seen : List (ResultSet α)}
    (summarizes : merged.Summarizes seen) (set : ResultSet α) :
    (∃ after, merged.absorb set = (after, none) ∧ after.Summarizes (seen ++ [set])) ∨
      (∃ after failure, merged.absorb set = (after, some failure) ∧
        ResultSet.Clash (seen ++ [set])) := by
  rcases run : merged.absorb set with ⟨after, _ | failure⟩
  · obtain ⟨merges, config, topology, intervals⟩ := mergeParts_eq_iff.1 run
    refine .inl ⟨after, rfl, ⟨fun name => ?_, ?_, ?_, ?_⟩⟩
    · rw [ResultSet.observed_append]
      exact (summarizes.values name).append (merges name)
    · rw [config, ResultSet.lastConfig_append, summarizes.config]
    · rw [topology, ResultSet.lastTopology_append, summarizes.topology]
    · rw [intervals, summarizes.intervals, List.length_append, List.length_singleton]
  · refine .inr ⟨after, failure, rfl, ?_⟩
    have fails : ¬ ∃ other, merged.absorb set = (other, none) := by
      rintro ⟨other, success⟩
      rw [run] at success
      cases success
    obtain ⟨name, blocked⟩ :=
      Classical.not_forall.1 fun mergeable => fails (mergeParts_succeeds_iff.2 mergeable)
    exact summarizes.clash_of_not_mergeable blocked

/-- A run is either merged as a whole, which keeps the invariant, or clashes. -/
theorem absorbAll_cases {merged : MergedResult α} {seen : List (ResultSet α)}
    (summarizes : merged.Summarizes seen) (sets : List (ResultSet α)) :
    (∃ after, merged.absorbAll sets = (after, none) ∧ after.Summarizes (seen ++ sets)) ∨
      (∃ after failure, merged.absorbAll sets = (after, some failure) ∧
        ResultSet.Clash (seen ++ sets)) := by
  induction sets generalizing merged seen with
  | nil =>
    rw [List.append_nil]
    exact .inl ⟨merged, rfl, summarizes⟩
  | cons set rest ih =>
    rw [absorbAll, List.append_cons]
    rcases absorb_cases summarizes set with ⟨after, step, kept⟩ | ⟨after, failure, step, clash⟩
    · rw [step]
      exact ih kept
    · rw [step]
      obtain ⟨name, additive, mixed⟩ := clash
      exact .inr ⟨after, failure, rfl, name, additive, mixed.mono⟩

/-! ## A run from the beginning -/

theorem Summarizes.contains_iff {merged : MergedResult α} {seen : List (ResultSet α)}
    (summarizes : merged.Summarizes seen) (name : String) :
    merged.results.contains name = true ↔ ∃ set ∈ seen, set.results.contains name = true := by
  rw [Dict.contains, (summarizes.values name).isSome_iff]
  simp only [ResultSet.mem_observed_iff, Dict.contains, Option.isSome_iff_exists]
  exact ⟨fun ⟨value, set, member, has⟩ => ⟨set, member, value, has⟩,
    fun ⟨set, member, value, has⟩ => ⟨value, set, member, has⟩⟩

/-- A run that does not fail leaves a summary of its sets. -/
theorem summarizes_of_absorbAll {merged : MergedResult α} {sets : List (ResultSet α)}
    (run : ({} : MergedResult α).absorbAll sets = (merged, none)) : merged.Summarizes sets := by
  rcases absorbAll_cases Summarizes.empty sets with
    ⟨after, success, summarizes⟩ | ⟨after, failure, fails, -⟩
  · rw [run] at success
    cases success
    exact summarizes
  · rw [run] at fails
    cases fails

/-- A run fails exactly if its sets clash. -/
theorem absorbAll_fails_iff {sets : List (ResultSet α)} :
    (∃ after failure, ({} : MergedResult α).absorbAll sets = (after, some failure)) ↔
      ResultSet.Clash sets := by
  have outcome := absorbAll_cases Summarizes.empty sets
  rw [List.nil_append] at outcome
  rcases outcome with ⟨after, success, summarizes⟩ | ⟨after, failure, fails, clash⟩
  · constructor
    · rintro ⟨other, failure, fails⟩
      rw [success] at fails
      cases fails
    · exact fun clash => (summarizes.not_clash clash).elim
  · exact ⟨fun _ => clash, fun _ => ⟨after, failure, fails⟩⟩

/-- A run fails exactly if one of its sets has a single number and another one a list
under a name whose values add up. A run that does not fail leaves the names of its
sets, each with its total or its latest value, the last configuration and the last
topology that are not empty, and as many intervals as there were sets. -/
theorem absorbAll_outcome (sets : List (ResultSet α)) :
    ((∃ after failure, ({} : MergedResult α).absorbAll sets = (after, some failure)) ↔
      ∃ name, name ∉ MergePolicy.copiedNames ∧ name ∉ MergePolicy.zeroNames ∧
        ResultSet.Mixed name sets) ∧
    ∀ merged, ({} : MergedResult α).absorbAll sets = (merged, none) →
      (∀ name, merged.results.contains name = true ↔
        ∃ set ∈ sets, set.results.contains name = true) ∧
      (∀ name, name ∈ MergePolicy.copiedNames ∨ name ∈ MergePolicy.zeroNames →
        merged.results.get? name = (ResultSet.observed name sets).getLast?) ∧
      (∀ name value, name ∉ MergePolicy.copiedNames → name ∉ MergePolicy.zeroNames →
        merged.results.get? name = some value →
        Value.Totals (ResultSet.observed name sets) value) ∧
      merged.config = ResultSet.lastConfig sets ∧
      merged.topology = ResultSet.lastTopology sets ∧
      merged.intervals = sets.length := by
  constructor
  · rw [absorbAll_fails_iff, ResultSet.Clash]
    simp only [MergePolicy.ofName_eq_additive_iff, and_assoc]
  · intro merged run
    have summarizes := summarizes_of_absorbAll run
    refine ⟨summarizes.contains_iff, fun name listed => ?_,
      fun name value notCopied notZero has => ?_, summarizes.config, summarizes.topology,
      summarizes.intervals⟩
    · have other : MergePolicy.ofName name ≠ .additive := by
        rw [Ne, MergePolicy.ofName_eq_additive_iff]
        rintro ⟨notCopied, notZero⟩
        exact listed.elim notCopied notZero
      exact (summarizes.values name).eq_getLast? other
    · have summary := summarizes.values name
      rw [has] at summary
      exact summary.totals (MergePolicy.ofName_eq_additive_iff.2 ⟨notCopied, notZero⟩)

/-- Three intervals of a run: the lists get shorter, a name is missing in the middle,
and only the first interval has a configuration. -/
def threeIntervals : List (ResultSet Float) := [
  { results := Dict.ofList [("dram.reads", .list [0.1, 5.0, 1.0]), ("ncores", .scalar 4.0)]
    config := Dict.ofList [("general/total_cores", "4")] },
  { results := Dict.ofList [("L1-D.loads", .list [3.0, 4.0])] },
  { results := Dict.ofList [("dram.reads", .list [0.2, 7.0]), ("ncores", .scalar 2.0)] }]

/-- What the three intervals leave. -/
def threeMerged : MergedResult Float where
  results := Dict.ofList [
    ("L1-D.loads", .list [3.0, 4.0]), ("dram.reads", .list [0.1 + 0.2, 5.0 + 7.0]),
    ("ncores", .scalar 2.0)]
  config := Dict.ofList [("general/total_cores", "4")]
  intervals := 3

/-- The lists of the three intervals are added up as far as the shortest of them reaches, the
interval without one left out. -/
theorem absorbAll_outcome_threeIntervals :
    ({} : MergedResult Float).absorbAll threeIntervals = (threeMerged, none) ∧
      threeMerged.results.get? "dram.reads" = some (.list [0.1 + 0.2, 5.0 + 7.0]) ∧
      Value.Totals (ResultSet.observed "dram.reads" threeIntervals)
        (.list [0.1 + 0.2, 5.0 + 7.0]) := by
  have run : ({} : MergedResult Float).absorbAll threeIntervals = (threeMerged, none) := rfl
  have has : threeMerged.results.get? "dram.reads" =
      some (.list [0.1 + 0.2, 5.0 + 7.0]) := rfl
  obtain ⟨-, -, totals, -⟩ := (absorbAll_outcome threeIntervals).2 threeMerged run
  exact ⟨run, has, totals "dram.reads" _ (by decide) (by decide) has⟩

end MergedResult

end ChipPower
