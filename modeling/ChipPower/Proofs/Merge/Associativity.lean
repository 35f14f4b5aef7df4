import ChipPower.Proofs.Merge.Pointwise

/-!
# Merging is associative

Results of consecutive parts of a run can be merged in any grouping. The argument
needs no commutativity and no zero: each name is settled on its own
(`Value.merges_assoc_iff`), and a result in which every name can be merged exists,
so that the intermediate result of either grouping can be built from the names
(`MergedResult.exists_merge?_left_iff`, `MergedResult.exists_merge?_right_iff`).

Failures are part of the statement. `merge?` and `absorbed?` forget the partial
result and the cause of a failure, and `MergedResult.merge_associative` equates
what is left. The causes do differ: a part of a run may fail at another name than
the whole run does.
-/

namespace ChipPower

variable {α : Type} [Add α]

/-! ## One name -/

theorem zipWith_add_assoc (assoc : ∀ x y z : α, x + y + z = x + (y + z)) (xs ys zs : List α) :
    List.zipWith (· + ·) (List.zipWith (· + ·) xs ys) zs =
      List.zipWith (· + ·) xs (List.zipWith (· + ·) ys zs) := by
  induction xs generalizing ys zs with
  | nil => rfl
  | cons x xs ih =>
    cases ys with
    | nil => rfl
    | cons y ys =>
      cases zs with
      | nil => rfl
      | cons z zs => simp only [List.zipWith_cons_cons, assoc, ih]

/-- Adding three values succeeds in either grouping or in none, with the same sum. -/
theorem Value.add_assoc_iff (assoc : ∀ x y z : α, x + y + z = x + (y + z))
    {x y z sum : Value α} :
    (∃ xy, x.add y = .ok xy ∧ xy.add z = .ok sum) ↔
      ∃ yz, y.add z = .ok yz ∧ x.add yz = .ok sum := by
  cases x <;> cases y <;> cases z <;>
    simp [Value.add, Value.zipWith, fail, assoc, zipWith_add_assoc assoc]

namespace Value.Merges

/-- Onto nothing, anything is merged as it is. -/
theorem none_left {name : String} (new : Option (Value α)) :
    Value.Merges name none new new := by
  cases new with
  | none => exact .keep
  | some value => exact .fresh

/-- The latest of three values counts under a name whose values do not add up. -/
theorem replace_right {name : String} (other : MergePolicy.ofName name ≠ .additive)
    (old : Option (Value α)) (new : Value α) :
    Value.Merges name old (some new) (some new) := by
  cases old with
  | none => exact .fresh
  | some value => exact .replace other

end Value.Merges

/-- Merging three values under a name succeeds in either grouping or in none, with
the same outcome. -/
theorem Value.merges_assoc_iff (assoc : ∀ x y z : α, x + y + z = x + (y + z)) {name : String}
    {x y z merged : Option (Value α)} :
    (∃ xy, Value.Merges name x y xy ∧ Value.Merges name xy z merged) ↔
      ∃ yz, Value.Merges name y z yz ∧ Value.Merges name x yz merged := by
  constructor
  · rintro ⟨xy, first, second⟩
    cases second with
    | keep => exact ⟨y, .keep, first⟩
    | fresh =>
      -- nothing was there before, so neither of the first two is a value
      cases first
      exact ⟨_, .fresh, .fresh⟩
    | replace other => exact ⟨_, .replace_right other y _, .replace_right other x _⟩
    | @total xy z sum additive added =>
      cases first with
      | keep => exact ⟨_, .fresh, .total additive added⟩
      | fresh => exact ⟨_, .total additive added, .fresh⟩
      | replace other => exact (other additive).elim
      | total _ before =>
        obtain ⟨yz, after, whole⟩ := (Value.add_assoc_iff assoc).1 ⟨_, before, added⟩
        exact ⟨_, .total additive after, .total additive whole⟩
  · rintro ⟨yz, first, second⟩
    cases first with
    | keep => exact ⟨merged, second, .keep⟩
    | fresh => exact ⟨x, .keep, second⟩
    | replace other =>
      rw [second.unique (.replace_right other x _)]
      exact ⟨_, .replace_right other x _, .replace other⟩
    | @total y z yz additive added =>
      cases second with
      | fresh => exact ⟨_, .fresh, .total additive added⟩
      | replace other => exact (other additive).elim
      | total _ after =>
        obtain ⟨xy, before, whole⟩ := (Value.add_assoc_iff assoc).2 ⟨_, added, after⟩
        exact ⟨_, .total additive before, .total additive whole⟩

/-! ## Results -/

namespace MergedResult

/-- The result of merging, unless it failed. -/
def outcome? {α : Type} : MergedResult α × Option Failure → Option (MergedResult α)
  | (merged, none) => some merged
  | (_, some _) => none

omit [Add α] in
theorem outcome?_eq_some_iff {run : MergedResult α × Option Failure} {merged : MergedResult α} :
    outcome? run = some merged ↔ run = (merged, none) := by
  obtain ⟨left, _ | failure⟩ := run <;> simp [outcome?]

/-- Merges later results, unless that fails. -/
def merge? (merged later : MergedResult α) : Option (MergedResult α) :=
  outcome? (merged.merge later)

/-- Two results merge exactly to what the names, the configurations, the topologies
and the numbers of intervals say. -/
theorem merge?_eq_some_iff {merged later after : MergedResult α} :
    merged.merge? later = some after ↔
      (∀ name, Value.Merges name (merged.results.get? name) (later.results.get? name)
        (after.results.get? name)) ∧
      after.config = (if later.config.isEmpty then merged.config else later.config) ∧
      after.topology = (if later.topology.isEmpty then merged.topology else later.topology) ∧
      after.intervals = merged.intervals + later.intervals :=
  outcome?_eq_some_iff.trans mergeParts_eq_iff

/-- Results in which every name can be merged have a merge. -/
theorem exists_merge? {merged later : MergedResult α}
    (mergeable : ∀ name,
      ∃ slot, Value.Merges name (merged.results.get? name) (later.results.get? name) slot) :
    ∃ after, merged.merge? later = some after := by
  obtain ⟨after, run⟩ : ∃ after, merged.merge later = (after, none) :=
    mergeParts_succeeds_iff.2 fun name => Value.exists_merges_iff.1 (mergeable name)
  exact ⟨after, outcome?_eq_some_iff.2 run⟩

/-- Three results merged from the left, said name by name. -/
theorem exists_merge?_left_iff {a b c whole : MergedResult α} :
    (∃ ab, a.merge? b = some ab ∧ ab.merge? c = some whole) ↔
      (∀ name, ∃ slot, Value.Merges name (a.results.get? name) (b.results.get? name) slot ∧
        Value.Merges name slot (c.results.get? name) (whole.results.get? name)) ∧
      whole.config = (if c.config.isEmpty then
        (if b.config.isEmpty then a.config else b.config) else c.config) ∧
      whole.topology = (if c.topology.isEmpty then
        (if b.topology.isEmpty then a.topology else b.topology) else c.topology) ∧
      whole.intervals = a.intervals + b.intervals + c.intervals := by
  constructor
  · rintro ⟨ab, first, second⟩
    obtain ⟨names, config, topology, intervals⟩ := merge?_eq_some_iff.1 first
    rw [merge?_eq_some_iff, config, topology, intervals] at second
    exact ⟨fun name => ⟨_, names name, second.1 name⟩, second.2⟩
  · rintro ⟨names, rest⟩
    obtain ⟨ab, first⟩ := exists_merge? fun name => ⟨_, (names name).choose_spec.1⟩
    obtain ⟨left, config, topology, intervals⟩ := merge?_eq_some_iff.1 first
    refine ⟨ab, first, merge?_eq_some_iff.2 ⟨fun name => ?_, ?_⟩⟩
    · obtain ⟨slot, before, after⟩ := names name
      rw [(left name).unique before]
      exact after
    · rw [config, topology, intervals]
      exact rest

/-- Three results merged from the right, said name by name. -/
theorem exists_merge?_right_iff {a b c whole : MergedResult α} :
    (∃ bc, b.merge? c = some bc ∧ a.merge? bc = some whole) ↔
      (∀ name, ∃ slot, Value.Merges name (b.results.get? name) (c.results.get? name) slot ∧
        Value.Merges name (a.results.get? name) slot (whole.results.get? name)) ∧
      whole.config = (if c.config.isEmpty then
        (if b.config.isEmpty then a.config else b.config) else c.config) ∧
      whole.topology = (if c.topology.isEmpty then
        (if b.topology.isEmpty then a.topology else b.topology) else c.topology) ∧
      whole.intervals = a.intervals + b.intervals + c.intervals := by
  -- an empty later configuration leaves the choice to the two before it
  have later {β : Type} (empty : β → Bool) (x y z : β) :
      (if empty (if empty z then y else z) then x else if empty z then y else z) =
        if empty z then (if empty y then x else y) else z := by
    cases last : empty z <;> simp [last]
  constructor
  · rintro ⟨bc, first, second⟩
    obtain ⟨names, config, topology, intervals⟩ := merge?_eq_some_iff.1 first
    rw [merge?_eq_some_iff, config, topology, intervals, later Dict.isEmpty,
      later List.isEmpty, ← Nat.add_assoc] at second
    exact ⟨fun name => ⟨_, names name, second.1 name⟩, second.2⟩
  · rintro ⟨names, rest⟩
    obtain ⟨bc, first⟩ := exists_merge? fun name => ⟨_, (names name).choose_spec.1⟩
    obtain ⟨right, config, topology, intervals⟩ := merge?_eq_some_iff.1 first
    refine ⟨bc, first, merge?_eq_some_iff.2 ⟨fun name => ?_, ?_⟩⟩
    · obtain ⟨slot, before, after⟩ := names name
      rw [(right name).unique before]
      exact after
    · rw [config, topology, intervals, later Dict.isEmpty, later List.isEmpty, ← Nat.add_assoc]
      exact rest

/-- Three results have the same outcome in either grouping. -/
theorem merge?_assoc (assoc : ∀ x y z : α, x + y + z = x + (y + z)) (a b c : MergedResult α) :
    (a.merge? b).bind (·.merge? c) = (b.merge? c).bind a.merge? := by
  apply Option.ext
  intro whole
  rw [Option.bind_eq_some_iff, Option.bind_eq_some_iff, exists_merge?_left_iff,
    exists_merge?_right_iff]
  simp only [Value.merges_assoc_iff assoc]

theorem empty_merge? (merged : MergedResult α) :
    ({} : MergedResult α).merge? merged = some merged := by
  refine merge?_eq_some_iff.2 ⟨fun name => .none_left _, ?_, ?_, (Nat.zero_add _).symm⟩
  · split
    · exact Dict.eq_empty_of_isEmpty ‹_›
    · rfl
  · split
    · exact List.isEmpty_iff.1 ‹_›
    · rfl

theorem merge?_empty (merged : MergedResult α) :
    merged.merge? ({} : MergedResult α) = some merged :=
  merge?_eq_some_iff.2 ⟨fun _ => .keep, rfl, rfl, rfl⟩

/-! ## Runs in parts -/

/-- Merges a run onto earlier results, unless that fails. -/
def absorbAll? (merged : MergedResult α) (sets : List (ResultSet α)) :
    Option (MergedResult α) :=
  outcome? (merged.absorbAll sets)

/-- The result of a run, unless merging it fails. -/
def absorbed? (sets : List (ResultSet α)) : Option (MergedResult α) :=
  ({} : MergedResult α).absorbAll? sets

/-- Merges results in order, from the first one on. -/
def mergeAll? : List (MergedResult α) → Option (MergedResult α)
  | [] => some {}
  | first :: rest => rest.foldlM merge? first

omit [Add α] in
/-- The result of one interval. -/
def ofSet {α : Type} (set : ResultSet α) : MergedResult α where
  results := set.results
  config := set.config
  topology := set.topology
  intervals := 1

theorem absorbAll?_cons (merged : MergedResult α) (set : ResultSet α)
    (rest : List (ResultSet α)) :
    merged.absorbAll? (set :: rest) = (merged.merge? (ofSet set)).bind (·.absorbAll? rest) := by
  have same : merged.absorb set = merged.merge (ofSet set) := rfl
  unfold absorbAll? merge?
  rw [absorbAll, same]
  rcases merged.merge (ofSet set) with ⟨after, _ | failure⟩ <;> rfl

theorem absorbAll?_append (merged : MergedResult α) (sets later : List (ResultSet α)) :
    merged.absorbAll? (sets ++ later) =
      (merged.absorbAll? sets).bind (·.absorbAll? later) := by
  induction sets generalizing merged with
  | nil => rfl
  | cons set rest ih =>
    rw [List.cons_append, absorbAll?_cons, absorbAll?_cons, Option.bind_assoc]
    simp only [ih]

/-- Merging a run onto earlier results is merging the result of the run. -/
theorem absorbAll?_eq_bind (assoc : ∀ x y z : α, x + y + z = x + (y + z))
    (merged : MergedResult α) (sets : List (ResultSet α)) :
    merged.absorbAll? sets = (absorbed? sets).bind merged.merge? := by
  unfold absorbed?
  induction sets generalizing merged with
  | nil => exact (merge?_empty merged).symm
  | cons set rest ih =>
    rw [absorbAll?_cons, absorbAll?_cons, empty_merge?, Option.bind_some]
    generalize ({} : MergedResult α).absorbAll? rest = tail at ih
    simp only [ih]
    cases tail with
    | none => cases merged.merge? (ofSet set) <;> rfl
    | some last => exact merge?_assoc assoc merged (ofSet set) last

/-- Merging the results of consecutive parts onto earlier ones is merging the run. -/
theorem mapM_absorbed?_foldlM (assoc : ∀ x y z : α, x + y + z = x + (y + z))
    (merged : MergedResult α) (chunks : List (List (ResultSet α))) :
    (chunks.mapM absorbed?).bind (·.foldlM merge? merged) =
      merged.absorbAll? chunks.flatten := by
  induction chunks generalizing merged with
  | nil => rfl
  | cons chunk rest ih =>
    rw [List.flatten_cons, absorbAll?_append, absorbAll?_eq_bind assoc merged chunk,
      List.mapM_cons]
    cases absorbed? chunk with
    | none => rfl
    | some part =>
      simp only [Option.bind_some, ← ih]
      cases rest.mapM absorbed? with
      | none => cases merged.merge? part <;> rfl
      | some parts => rfl

/-- With an associative addition, three results have the same outcome in either
grouping, failures included. Hence a run can be cut into consecutive parts, each of
them merged on its own and the results merged in order, with the outcome that merging
the run set by set has. -/
theorem merge_associative (assoc : ∀ x y z : α, x + y + z = x + (y + z)) :
    (∀ a b c : MergedResult α, (a.merge? b).bind (·.merge? c) = (b.merge? c).bind a.merge?) ∧
    ∀ chunks : List (List (ResultSet α)),
      (chunks.mapM absorbed?).bind mergeAll? = absorbed? chunks.flatten := by
  refine ⟨merge?_assoc assoc, fun chunks => ?_⟩
  cases chunks with
  | nil => rfl
  | cons chunk rest =>
    have cut : absorbed? (chunk ++ rest.flatten) =
        (absorbed? chunk).bind (·.absorbAll? rest.flatten) := absorbAll?_append _ _ _
    rw [List.flatten_cons, cut, List.mapM_cons]
    cases absorbed? chunk with
    | none => rfl
    | some first =>
      rw [Option.bind_some, ← mapM_absorbed?_foldlM assoc]
      cases rest.mapM absorbed? with
      | none => rfl
      | some others => rfl

/-- A run of four intervals in which a list gets shorter and a name is missing from
the middle, cut into three parts of which one is empty. -/
theorem merge_associative_fourIntervals :
    (∀ x y z : Int, x + y + z = x + (y + z)) ∧
    (([[{ results := Dict.ofList [("dram.reads", .list [100, 5, 1]), ("ncores", .scalar 4)] },
        { results := Dict.ofList [("L1-D.loads", .list [3, 4])] }],
        [],
        [{ results := Dict.ofList [("dram.reads", .list [150, 7])] },
        { results := Dict.ofList [("dram.reads", .list [1]), ("ncores", .scalar 2)] }]] :
          List (List (ResultSet Int))).mapM absorbed?).bind mergeAll? =
      some {
        results := Dict.ofList [
          ("L1-D.loads", .list [3, 4]), ("dram.reads", .list [251]), ("ncores", .scalar 2)]
        intervals := 4 } :=
  ⟨Int.add_assoc, ((merge_associative Int.add_assoc).2 _).trans (by decide)⟩

end MergedResult

end ChipPower
