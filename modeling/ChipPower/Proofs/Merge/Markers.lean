import ChipPower.Proofs.Merge.Associativity
import ChipPower.Proofs.Merge.Run
import ChipPower.Stats.Markers
import Mathlib.Data.List.ReduceOption

/-!
# Gathering the markers of a run

What a range of markers leaves, for any source of result sets. A source may answer with
what it was asked before, so the calls themselves are part of what is said:
`ResultSource.Yields` relates the markers that a source was asked for, one after the other,
to the sets it answered with and the state it was left in, and `ResultSource.Stops` says
what a call is that ends a run.

* `Gathered.visit_eq_ok_iff` and `Gathered.visit_eq_error_iff` are the step,
* `Gathered.visitFrom_eq_ok_iff` and `Gathered.visitFrom_eq_error_iff` carry it through a
  run of markers,
* `ResultSource.noted` makes the calls visible, and asking it changes nothing else.

`Markers.gather_outcome` puts them together, and adds that the markers can be gathered in
two parts.
-/

namespace ChipPower

variable {α σ : Type}

/-! ## Calls -/

namespace ResultSource

/-- `source.Yields indices state sets after`: asked for the markers `indices` one after the
other, a source in `state` answers with `sets` and is left in `after`. -/
inductive Yields (source : ResultSource σ α) :
    List Nat → σ → List (Option (ResultSet α)) → σ → Prop
  | nil {state : σ} : Yields source [] state [] state
  | cons {index : Nat} {rest : List Nat} {state next after : σ} {set : Option (ResultSet α)}
    {sets : List (Option (ResultSet α))} :
    source index state = (.ok set, next) → Yields source rest next sets after →
    Yields source (index :: rest) state (set :: sets) after

/-- `source.Stops merged index state failure after`: asked for the marker `index`, a source
in `state` fails, or answers with a set that `merged` cannot absorb. It is left in `after`,
and `failure` is what the run ends with. -/
inductive Stops [Add α] (source : ResultSource σ α) (merged : MergedResult α) (index : Nat)
    (state : σ) : Failure → σ → Prop
  | fetch {failure : Failure} {after : σ} :
    source index state = (.error failure, after) →
    Stops source merged index state
      (failure.within (.fetchInterval (Marker.label index))) after
  | absorb {set : ResultSet α} {blocked : MergedResult α} {failure : Failure} {after : σ} :
    source index state = (.ok (some set), after) →
    merged.absorb set = (blocked, some failure) →
    Stops source merged index state
      (failure.within (.mergeInterval (Marker.label index))) after

/-- A source that notes the markers it is asked for. -/
def noted (source : ResultSource σ α) : ResultSource (σ × List Nat) α :=
  fun index (state, calls) =>
    ((source index state).1, (source index state).2, calls ++ [index])

theorem noted_eq_iff {source : ResultSource σ α} {index : Nat} {state after : σ}
    {calls later : List Nat} {answer : Except Failure (Option (ResultSet α))} :
    source.noted index (state, calls) = (answer, after, later) ↔
      source index state = (answer, after) ∧ later = calls ++ [index] := by
  simp only [noted, Prod.ext_iff, and_assoc, eq_comm (a := later)]

namespace Yields

variable {source : ResultSource σ α}

/-- What a source answers to two lists of markers, it answers to the one after the other. -/
theorem append_iff {first second : List Nat} {state after : σ}
    {sets : List (Option (ResultSet α))} :
    source.Yields (first ++ second) state sets after ↔
      ∃ front middle back, source.Yields first state front middle ∧
        source.Yields second middle back after ∧ sets = front ++ back := by
  induction first generalizing state sets with
  | nil =>
    constructor
    · intro yields
      exact ⟨[], state, sets, .nil, yields, rfl⟩
    · rintro ⟨_, _, back, ⟨⟩, yields, rfl⟩
      exact yields
  | cons index rest ih =>
    constructor
    · intro yields
      cases yields with
      | cons answered yields =>
        obtain ⟨front, middle, back, left, right, rfl⟩ := ih.1 yields
        exact ⟨_ :: front, middle, back, .cons answered left, right, rfl⟩
    · rintro ⟨_, middle, back, left, right, rfl⟩
      cases left with
      | cons answered left => exact .cons answered (ih.2 ⟨_, middle, back, left, right, rfl⟩)

theorem noted_iff {indices calls later : List Nat} {state after : σ}
    {sets : List (Option (ResultSet α))} :
    source.noted.Yields indices (state, calls) sets (after, later) ↔
      source.Yields indices state sets after ∧ later = calls ++ indices := by
  induction indices generalizing state calls sets with
  | nil =>
    rw [List.append_nil]
    constructor
    · rintro ⟨⟩
      exact ⟨.nil, rfl⟩
    · rintro ⟨⟨⟩, rfl⟩
      exact .nil
  | cons index rest ih =>
    constructor
    · intro yields
      cases yields with
      | @cons _ _ _ next _ _ _ answered yields =>
        obtain ⟨next, soFar⟩ := next
        obtain ⟨plain, rfl⟩ := noted_eq_iff.1 answered
        obtain ⟨rest, rfl⟩ := ih.1 yields
        exact ⟨.cons plain rest, List.append_assoc _ _ _⟩
    · rintro ⟨yields, rfl⟩
      cases yields with
      | cons answered yields =>
        exact .cons (noted_eq_iff.2 ⟨answered, rfl⟩) (ih.2 ⟨yields, List.append_cons _ _ _⟩)

end Yields

theorem Stops.noted_iff [Add α] {source : ResultSource σ α} {merged : MergedResult α}
    {index : Nat} {calls later : List Nat} {state after : σ} {failure : Failure} :
    source.noted.Stops merged index (state, calls) failure (after, later) ↔
      source.Stops merged index state failure after ∧ later = calls ++ [index] := by
  constructor
  · intro stops
    cases stops with
    | fetch failed =>
      obtain ⟨plain, rfl⟩ := noted_eq_iff.1 failed
      exact ⟨.fetch plain, rfl⟩
    | absorb answered blocked =>
      obtain ⟨plain, rfl⟩ := noted_eq_iff.1 answered
      exact ⟨.absorb plain blocked, rfl⟩
  · rintro ⟨stops, rfl⟩
    cases stops with
    | fetch failed => exact .fetch (noted_eq_iff.2 ⟨failed, rfl⟩)
    | absorb answered blocked => exact .absorb (noted_eq_iff.2 ⟨answered, rfl⟩) blocked

end ResultSource

/-! ## Sets -/

theorem reduceOption_cons {β : Type} (x : Option β) (xs : List (Option β)) :
    (x :: xs).reduceOption = x.toList ++ xs.reduceOption := by
  cases x <;> rfl

/-- A run that goes well goes well in two parts. -/
theorem MergedResult.absorbAll_append_iff [Add α] {merged last : MergedResult α}
    {sets later : List (ResultSet α)} :
    merged.absorbAll (sets ++ later) = (last, none) ↔
      ∃ middle, merged.absorbAll sets = (middle, none) ∧
        middle.absorbAll later = (last, none) := by
  have parts := Option.ext_iff.1 (absorbAll?_append merged sets later) last
  simpa only [absorbAll?, Option.bind_eq_some_iff, outcome?_eq_some_iff] using parts

/-- With an associative addition, a run goes well exactly if its two parts do and their
results merge. -/
theorem MergedResult.absorbAll_parts_iff [Add α] (assoc : ∀ x y z : α, x + y + z = x + (y + z))
    {merged : MergedResult α} {sets later : List (ResultSet α)} :
    ({} : MergedResult α).absorbAll (sets ++ later) = (merged, none) ↔
      ∃ front back, ({} : MergedResult α).absorbAll sets = (front, none) ∧
        ({} : MergedResult α).absorbAll later = (back, none) ∧
        front.merge back = (merged, none) := by
  rw [absorbAll_append_iff]
  apply exists_congr
  intro front
  have onto := Option.ext_iff.1 (absorbAll?_eq_bind assoc front later) merged
  simp only [absorbed?, absorbAll?, merge?, Option.bind_eq_some_iff,
    outcome?_eq_some_iff] at onto
  rw [onto, exists_and_left]

/-! ## Visits -/

namespace Gathered

variable [Add α] {source : ResultSource σ α} {gathered next : Gathered α} {index count : Nat}
  {state after : σ} {failure : Failure}

omit [Add α] in
theorem eq_iff {merged : MergedResult α} {visited : Nat} :
    (⟨merged, visited⟩ : Gathered α) = next ↔ next.merged = merged ∧ next.visited = visited := by
  obtain ⟨_, _⟩ := next
  rw [mk.injEq, eq_comm, eq_comm (a := visited)]

/-- A marker counts as visited with or without a set, which is absorbed if there is one. -/
theorem add_eq_ok_iff (index : Nat) {set : Option (ResultSet α)} :
    gathered.add index set = .ok next ↔
      gathered.merged.absorbAll set.toList = (next.merged, none) ∧
        next.visited = gathered.visited + 1 := by
  cases set with
  | none =>
    rw [add, Except.ok.injEq, eq_iff, Option.toList_none, MergedResult.absorbAll, Prod.mk.injEq,
      eq_comm (a := next.merged)]
    exact and_congr_left' (and_iff_left rfl).symm
  | some set =>
    rw [add, Option.toList_some, MergedResult.absorbAll]
    rcases gathered.merged.absorb set with ⟨onward, _ | blocked⟩
    · simp only [MergedResult.absorbAll, Except.ok.injEq, eq_iff, Prod.mk.injEq, and_true,
        eq_comm (a := onward)]
    · simp

/-- A visit that goes well absorbs the set of the marker, if it has one. -/
theorem visit_eq_ok_iff :
    gathered.visit source index state = (.ok next, after) ↔
      ∃ set, source index state = (.ok set, after) ∧
        gathered.merged.absorbAll set.toList = (next.merged, none) ∧
        next.visited = gathered.visited + 1 := by
  simp only [← add_eq_ok_iff index]
  rcases answer : source index state with ⟨failed | set, left⟩
  · simp [visit, answer]
  · simp [visit, answer, and_comm]

/-- A visit that goes wrong stops the run. -/
theorem visit_eq_error_iff :
    gathered.visit source index state = (.error failure, after) ↔
      source.Stops gathered.merged index state failure after := by
  constructor
  · intro stopped
    rcases answer : source index state with ⟨failed | _ | set, left⟩
    · rw [visit, answer] at stopped
      cases stopped
      exact .fetch answer
    · rw [visit, answer] at stopped
      cases stopped
    · rcases absorbed : gathered.merged.absorb set with ⟨onward, _ | blocked⟩
      · simp [visit, answer, add, absorbed] at stopped
      · simp only [visit, answer, add, absorbed] at stopped
        cases stopped
        exact .absorb answer absorbed
  · intro stops
    cases stops with
    | fetch failed => rw [visit, failed]
    | absorb answered blocked => simp only [visit, answered, add, blocked]

/-! ## Runs of visits -/

theorem visitFrom_succ_eq_ok_iff {last : Gathered α} :
    gathered.visitFrom source index (count + 1) state = (.ok last, after) ↔
      ∃ next between, gathered.visit source index state = (.ok next, between) ∧
        next.visitFrom source (index + 1) count between = (.ok last, after) := by
  rw [visitFrom]
  rcases gathered.visit source index state with ⟨failed | next, between⟩
  · simp
  · simp

theorem visitFrom_succ_eq_error_iff :
    gathered.visitFrom source index (count + 1) state = (.error failure, after) ↔
      gathered.visit source index state = (.error failure, after) ∨
      ∃ next between, gathered.visit source index state = (.ok next, between) ∧
        next.visitFrom source (index + 1) count between = (.error failure, after) := by
  rw [visitFrom]
  rcases gathered.visit source index state with ⟨failed | next, between⟩
  · simp
  · simp

/-- A run of visits that goes well absorbs the sets of its markers in their order. -/
theorem visitFrom_eq_ok_iff {last : Gathered α} :
    gathered.visitFrom source index count state = (.ok last, after) ↔
      ∃ sets, source.Yields (List.range' index count) state sets after ∧
        gathered.merged.absorbAll sets.reduceOption = (last.merged, none) ∧
        last.visited = gathered.visited + count := by
  induction count generalizing gathered index state with
  | zero =>
    constructor
    · intro run
      cases run
      exact ⟨[], .nil, rfl, rfl⟩
    · rintro ⟨_, ⟨⟩, absorbed, visited⟩
      have same : gathered = last := eq_iff.2 ⟨(Prod.mk.inj absorbed).1.symm, visited⟩
      rw [visitFrom, same]
  | succ count ih =>
    rw [visitFrom_succ_eq_ok_iff, List.range'_succ]
    constructor
    · rintro ⟨next, between, step, run⟩
      obtain ⟨set, answered, absorbed, visited⟩ := visit_eq_ok_iff.1 step
      obtain ⟨sets, yields, onward, total⟩ := ih.1 run
      refine ⟨set :: sets, .cons answered yields, ?_, by omega⟩
      rw [reduceOption_cons]
      exact MergedResult.absorbAll_append_iff.2 ⟨_, absorbed, onward⟩
    · rintro ⟨_, yields, absorbed, total⟩
      cases yields with
      | @cons _ _ _ between _ set sets answered yields =>
        rw [reduceOption_cons] at absorbed
        obtain ⟨merged, first, onward⟩ := MergedResult.absorbAll_append_iff.1 absorbed
        refine ⟨⟨merged, gathered.visited + 1⟩, between,
          visit_eq_ok_iff.2 ⟨set, answered, first, rfl⟩, ih.2 ⟨sets, yields, onward, ?_⟩⟩
        dsimp only
        omega

/-- A run of visits fails at the first marker that stops it: the markers before it were
absorbed, and those behind it are not asked for. -/
theorem visitFrom_eq_error_iff :
    gathered.visitFrom source index count state = (.error failure, after) ↔
      ∃ earlier stop later sets between merged,
        List.range' index count = earlier ++ stop :: later ∧
        source.Yields earlier state sets between ∧
        gathered.merged.absorbAll sets.reduceOption = (merged, none) ∧
        source.Stops merged stop between failure after := by
  induction count generalizing gathered index state with
  | zero =>
    constructor
    · intro run
      cases run
    · rintro ⟨earlier, stop, later, sets, between, merged, split, -⟩
      cases earlier <;> cases split
  | succ count ih =>
    rw [visitFrom_succ_eq_error_iff, List.range'_succ]
    constructor
    · rintro (stopped | ⟨next, between, step, run⟩)
      · exact ⟨[], index, _, [], state, gathered.merged, rfl, .nil, rfl,
          visit_eq_error_iff.1 stopped⟩
      · obtain ⟨set, answered, absorbed, -⟩ := visit_eq_ok_iff.1 step
        obtain ⟨earlier, stop, later, sets, last, merged, split, yields, onward, stops⟩ :=
          ih.1 run
        refine ⟨index :: earlier, stop, later, set :: sets, last, merged, ?_,
          .cons answered yields, ?_, stops⟩
        · rw [split, List.cons_append]
        · rw [reduceOption_cons]
          exact MergedResult.absorbAll_append_iff.2 ⟨_, absorbed, onward⟩
    · rintro ⟨earlier, stop, later, sets, last, merged, split, yields, absorbed, stops⟩
      cases yields with
      | nil =>
        cases split
        cases absorbed
        exact .inl (visit_eq_error_iff.2 stops)
      | @cons _ _ _ between _ set sets answered yields =>
        rw [List.cons_append, List.cons.injEq] at split
        obtain ⟨rfl, split⟩ := split
        rw [reduceOption_cons] at absorbed
        obtain ⟨next, first, onward⟩ := MergedResult.absorbAll_append_iff.1 absorbed
        exact .inr ⟨⟨next, gathered.visited + 1⟩, between,
          visit_eq_ok_iff.2 ⟨set, answered, first, rfl⟩,
          ih.2 ⟨_, stop, later, sets, last, merged, split, yields, onward, stops⟩⟩

end Gathered

/-! ## The markers of a run -/

namespace Markers

variable [Add α] {markers : Markers} {source : ResultSource σ α} {state after : σ}

theorem gather_eq_ok_iff {gathered : Gathered α} :
    markers.gather source state = (.ok gathered, after) ↔
      ∃ sets, source.Yields markers.indices state sets after ∧
        ({} : MergedResult α).absorbAll sets.reduceOption = (gathered.merged, none) ∧
        gathered.visited = markers.last - markers.first := by
  rw [gather, Gathered.visitFrom_eq_ok_iff]
  simp only [Nat.zero_add]
  rfl

theorem gather_eq_error_iff {failure : Failure} :
    markers.gather source state = (.error failure, after) ↔
      ∃ earlier stop later sets between merged,
        markers.indices = earlier ++ stop :: later ∧
        source.Yields earlier state sets between ∧
        ({} : MergedResult α).absorbAll sets.reduceOption = (merged, none) ∧
        source.Stops merged stop between failure after :=
  Gathered.visitFrom_eq_error_iff

/-- A source that notes its calls is asked for all markers, in their order, by a run that
goes well. -/
theorem gather_noted_eq_ok_iff {gathered : Gathered α} {calls : List Nat} :
    markers.gather source.noted (state, []) = (.ok gathered, after, calls) ↔
      markers.gather source state = (.ok gathered, after) ∧ calls = markers.indices := by
  simp only [gather_eq_ok_iff, ResultSource.Yields.noted_iff, List.nil_append]
  constructor
  · rintro ⟨sets, ⟨yields, rfl⟩, rest⟩
    exact ⟨⟨sets, yields, rest⟩, rfl⟩
  · rintro ⟨⟨sets, yields, rest⟩, rfl⟩
    exact ⟨sets, ⟨yields, rfl⟩, rest⟩

/-- By a run that fails it is asked for the markers up to the one that stops the run. -/
theorem gather_noted_eq_error_iff {failure : Failure} {calls : List Nat} :
    markers.gather source.noted (state, []) = (.error failure, after, calls) ↔
      ∃ earlier stop later sets between merged,
        markers.indices = earlier ++ stop :: later ∧ calls = earlier ++ [stop] ∧
        source.Yields earlier state sets between ∧
        ({} : MergedResult α).absorbAll sets.reduceOption = (merged, none) ∧
        source.Stops merged stop between failure after := by
  rw [gather_eq_error_iff]
  constructor
  · rintro ⟨earlier, stop, later, sets, ⟨between, soFar⟩, merged, split, yields, absorbed,
      stops⟩
    obtain ⟨plainYields, rfl⟩ := ResultSource.Yields.noted_iff.1 yields
    obtain ⟨plainStops, rfl⟩ := ResultSource.Stops.noted_iff.1 stops
    exact ⟨_, stop, later, sets, between, merged, split, rfl, plainYields, absorbed, plainStops⟩
  · rintro ⟨earlier, stop, later, sets, between, merged, split, rfl, yields, absorbed, stops⟩
    exact ⟨earlier, stop, later, sets, (between, earlier), merged, split,
      ResultSource.Yields.noted_iff.2 ⟨yields, rfl⟩, absorbed,
      ResultSource.Stops.noted_iff.2 ⟨stops, rfl⟩⟩

/-- Noting the calls changes neither the result nor what becomes of the source. -/
theorem gather_noted_iff {result : Except Failure (Gathered α)} :
    (∃ calls, markers.gather source.noted (state, []) = (result, after, calls)) ↔
      markers.gather source state = (result, after) := by
  cases result with
  | ok gathered =>
    simp only [gather_noted_eq_ok_iff, exists_and_left, exists_eq, and_true]
  | error failure =>
    simp only [gather_noted_eq_error_iff]
    rw [gather_eq_error_iff]
    constructor
    · rintro ⟨_, earlier, stop, later, sets, between, merged, split, -, rest⟩
      exact ⟨earlier, stop, later, sets, between, merged, split, rest⟩
    · rintro ⟨earlier, stop, later, sets, between, merged, split, rest⟩
      exact ⟨_, earlier, stop, later, sets, between, merged, split, rfl, rest⟩

theorem indices_split {middle : Nat} (low : markers.first ≤ middle)
    (high : middle ≤ markers.last) :
    markers.indices =
      ({ markers with last := middle } : Markers).indices ++
        ({ markers with first := middle } : Markers).indices := by
  have total : markers.last - markers.first =
      middle - markers.first + (markers.last - middle) := by omega
  have joined := List.range'_append_1 (s := markers.first) (m := middle - markers.first)
    (n := markers.last - middle)
  rw [Nat.add_sub_of_le low] at joined
  rw [indices, count, total, ← joined]
  rfl

/-- With an associative addition the markers can be gathered in two parts, the second with
the source as the first one left it, and the results merged. -/
theorem gather_parts_iff (assoc : ∀ x y z : α, x + y + z = x + (y + z)) {middle : Nat}
    (low : markers.first ≤ middle) (high : middle ≤ markers.last) {gathered : Gathered α} :
    markers.gather source state = (.ok gathered, after) ↔
      ∃ front between back,
        ({ markers with last := middle } : Markers).gather source state =
          (.ok front, between) ∧
        ({ markers with first := middle } : Markers).gather source between =
          (.ok back, after) ∧
        front.merged.merge back.merged = (gathered.merged, none) ∧
        gathered.visited = front.visited + back.visited := by
  simp only [gather_eq_ok_iff]
  rw [indices_split low high]
  constructor
  · rintro ⟨sets, yields, absorbed, visited⟩
    obtain ⟨first, between, second, left, right, rfl⟩ :=
      ResultSource.Yields.append_iff.1 yields
    rw [List.reduceOption_append, MergedResult.absorbAll_parts_iff assoc] at absorbed
    obtain ⟨front, back, before, behind, merged⟩ := absorbed
    refine ⟨⟨front, middle - markers.first⟩, between, ⟨back, markers.last - middle⟩,
      ⟨first, left, before, rfl⟩, ⟨second, right, behind, rfl⟩, merged, ?_⟩
    dsimp only
    omega
  · rintro ⟨front, between, back, ⟨first, left, before, seen⟩, ⟨second, right, behind, rest⟩,
      merged, visited⟩
    refine ⟨first ++ second,
      ResultSource.Yields.append_iff.2 ⟨first, between, second, left, right, rfl⟩, ?_, ?_⟩
    · rw [List.reduceOption_append, MergedResult.absorbAll_parts_iff assoc]
      exact ⟨_, _, before, behind, merged⟩
    · have seen : front.visited = middle - markers.first := seen
      have rest : back.visited = markers.last - middle := rest
      omega

/-- What gathering markers leaves, whatever the source and its state. A run that goes well
asked for every marker once, in ascending order, and absorbed the sets that there were, and
no others; a run that fails asked for no marker behind the one that stopped it. With an
associative addition the markers can be gathered in two parts. -/
theorem gather_outcome (markers : Markers) (source : ResultSource σ α) (state : σ) :
    (∀ gathered after calls,
      markers.gather source.noted (state, []) = (.ok gathered, after, calls) ↔
        calls = markers.indices ∧
          ∃ sets, source.Yields markers.indices state sets after ∧
            ({} : MergedResult α).absorbAll sets.reduceOption = (gathered.merged, none) ∧
            gathered.merged.intervals = sets.reduceOption.length ∧
            gathered.visited = markers.last - markers.first) ∧
    (∀ failure after calls,
      markers.gather source.noted (state, []) = (.error failure, after, calls) ↔
        ∃ earlier stop later sets between merged,
          markers.indices = earlier ++ stop :: later ∧ calls = earlier ++ [stop] ∧
          source.Yields earlier state sets between ∧
          ({} : MergedResult α).absorbAll sets.reduceOption = (merged, none) ∧
          source.Stops merged stop between failure after) ∧
    (∀ result after,
      (∃ calls, markers.gather source.noted (state, []) = (result, after, calls)) ↔
        markers.gather source state = (result, after)) ∧
    ((∀ x y z : α, x + y + z = x + (y + z)) →
      ∀ middle, markers.first ≤ middle → middle ≤ markers.last → ∀ gathered after,
        markers.gather source state = (.ok gathered, after) ↔
          ∃ front between back,
            ({ markers with last := middle } : Markers).gather source state =
              (.ok front, between) ∧
            ({ markers with first := middle } : Markers).gather source between =
              (.ok back, after) ∧
            front.merged.merge back.merged = (gathered.merged, none) ∧
            gathered.visited = front.visited + back.visited) := by
  refine ⟨?_, fun failure after calls => gather_noted_eq_error_iff,
    fun result after => gather_noted_iff,
    fun assoc middle low high gathered after => gather_parts_iff assoc low high⟩
  intro gathered after calls
  rw [gather_noted_eq_ok_iff, gather_eq_ok_iff, and_comm]
  refine and_congr_right fun _ => exists_congr fun sets => and_congr_right fun _ =>
    and_congr_right fun absorbed => ?_
  rw [and_iff_right (MergedResult.summarizes_of_absorbAll absorbed).intervals]

end Markers

/-- A source that counts what it is asked for and has sets for even markers only. -/
def ResultSource.everyOther : ResultSource Nat Int := fun index asked =>
  let set : ResultSet Int := { results := Dict.ofList [("dram.reads", .list [asked, index])] }
  (.ok (if index % 2 = 0 then some set else none), asked + 1)

/-- Split at a marker without a set, five markers are gathered with the same three intervals. -/
theorem Markers.gather_outcome_everyOther :
    (∀ x y z : Int, x + y + z = x + (y + z)) ∧ 64 ≤ 67 ∧ 67 ≤ 69 ∧
    ∃ front between back,
      ({ first := 64, last := 67 } : Markers).gather .everyOther 0 = (.ok front, between) ∧
      ({ first := 67, last := 69 } : Markers).gather .everyOther between = (.ok back, 5) ∧
      front.merged.merge back.merged =
        ({ results := Dict.ofList [("dram.reads", .list [6, 198])], intervals := 3 }, none) ∧
      5 = front.visited + back.visited :=
  ⟨Int.add_assoc, by decide, by decide,
    ((Markers.gather_outcome { first := 64, last := 69 } .everyOther 0).2.2.2 Int.add_assoc 67
      (by decide) (by decide)
      { merged :=
          { results := Dict.ofList [("dram.reads", .list [6, 198])], intervals := 3 }
        visited := 5 } 5).1 rfl⟩

end ChipPower
