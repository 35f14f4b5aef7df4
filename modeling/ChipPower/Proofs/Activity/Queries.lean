import ChipPower.Proofs.Activity.PowerOfTwo
import ChipPower.Template.Render

/-!
# Queries

What is asked of the activity of a run leaves nothing behind but the numbers that had to be
rounded to powers of two, and no answer depends on these. So the answers to a sequence of
queries are those that each query has by itself.

* `Query.Hands`: what a query hands to rounding. A template hands over the associativities of
  the caches whose lines are reached before one cannot be rendered.
* `Rounded.Adds`: what notes have gained, which is closed under steps done one after the
  other.
* `Query.ask_alone` is one query and `Query.askAll_alone` the sequence.

`Query.askAll_independent` says what a sequence answers and leaves.
-/

namespace ChipPower

/-! ## Queries -/

/-- What can be asked of the activity of a run. -/
inductive Query
  | statistic (name : String) (scope : Scope)
  | tuple (name : String) (scope : Scope)
  | roundUp (n : Nat)
  | render (template : Template)

/-- What is answered to a query. -/
inductive Answer (α : Type)
  | statistic (value : Except Failure α)
  | tuple (values : Except Failure (List α))
  | roundUp (n : Nat)
  | render (document : Except Failure Document)

namespace Query

variable {α : Type} [Scalar α] (a : Activity α)

/-- Answers a query, with the numbers that were rounded before and those that are rounded
after it. -/
def ask (rounded : Rounded) : Query → Answer α × Rounded
  | .statistic name scope => (.statistic (a.stat name scope), rounded)
  | .tuple name scope =>
    let (values, rounded) := a.tuple name scope rounded
    (.tuple values, rounded)
  | .roundUp n => (.roundUp (PowerOfTwo.roundUp n), PowerOfTwo.note rounded n)
  | .render template =>
    let (document, rounded) := Template.render a template rounded
    (.render document, rounded)

/-- Answers queries one after the other. A failure is an answer, also one that ends the program
and that nothing is asked after. -/
def askAll (rounded : Rounded) : List Query → List (Answer α) × Rounded
  | [] => ([], rounded)
  | query :: rest =>
    let (answer, rounded) := ask a rounded query
    let (answers, rounded) := askAll rounded rest
    (answer :: answers, rounded)

/-- `Hands a query n`: the answer to a query needs the number rounded. -/
inductive Hands : Query → Nat → Prop
  | roundUp (n : Nat) : Hands (.roundUp n) n
  | tuple {name : String} {scope : Scope} {cache : CacheTuple} {geometry : Geometry}
    (known : CacheTuple.ofName? name = some cache)
    (configured : a.geometry cache scope = .ok geometry) :
    Hands (.tuple name scope) geometry.associativity
  | render {front back : Template} {entry : Entry} {name : String} {scope : Scope} {n : Nat}
    (rendered : ∀ other ∈ front, ∃ line, (Template.renderEntry a other ∅).1 = .ok line)
    (bound : entry.binding = some ⟨.tuple, name, scope⟩)
    (handed : Hands (.tuple name scope) n) :
    Hands (.render (front ++ entry :: back)) n

end Query

/-! ## Notes -/

/-- `Adds before after handed`: the notes have gained the numbers among `handed` that
rounding changes, and lost none. -/
def Rounded.Adds (before after : Rounded) (handed : Nat → Prop) : Prop :=
  ∀ n, after.contains n = true ↔
    before.contains n = true ∨ handed n ∧ PowerOfTwo.roundUp n ≠ n

namespace Rounded.Adds

variable {before middle after : Rounded} {handed first second : Nat → Prop}

theorem nothing (none : ∀ n, ¬ handed n) : Adds before before handed := by
  intro n
  simp [none n]

theorem congr (adds : Adds before after first) (same : ∀ n, second n ↔ first n) :
    Adds before after second := by
  intro n
  rw [adds n, same n]

theorem note (n : Nat) (only : ∀ m, handed m ↔ m = n) :
    Adds before (PowerOfTwo.note before n) handed := by
  intro m
  rw [PowerOfTwo.contains_note, only]

theorem trans (left : Adds before middle first) (right : Adds middle after second)
    (both : ∀ n, handed n ↔ first n ∨ second n) : Adds before after handed := by
  intro n
  rw [right n, left n, both n, or_and_right, or_assoc]

end Rounded.Adds

/-! ## Single queries -/

namespace Query

variable {α : Type} [Scalar α] {a : Activity α}

/-- A tuple hands over the associativity of its cache, once that is configured. -/
theorem hands_tuple_iff {name : String} {scope : Scope} {n : Nat} :
    Hands a (.tuple name scope) n ↔
      ∃ cache geometry, CacheTuple.ofName? name = some cache ∧
        a.geometry cache scope = .ok geometry ∧ n = geometry.associativity := by
  constructor
  · intro handed
    cases handed with
    | tuple known configured => exact ⟨_, _, known, configured, rfl⟩
  · rintro ⟨cache, geometry, known, configured, rfl⟩
    exact .tuple known configured

/-- A tuple is the same whatever was rounded, and its associativity is rounded as soon as the
cache is known and configured. -/
theorem tuple_alone (name : String) (scope : Scope) (rounded : Rounded) :
    (a.tuple name scope rounded).1 = (a.tuple name scope ∅).1 ∧
      rounded.Adds (a.tuple name scope rounded).2 (Hands a (.tuple name scope)) := by
  unfold Activity.tuple
  rcases known : CacheTuple.ofName? name with _ | cache
  · refine ⟨rfl, .nothing fun n handed => ?_⟩
    obtain ⟨cache, -, known', -⟩ := hands_tuple_iff.1 handed
    cases known.symm.trans known'
  · dsimp only
    rcases configured : a.geometry cache scope with failure | geometry
    · refine ⟨rfl, .nothing fun n handed => ?_⟩
      obtain ⟨cache', geometry, known', configured', -⟩ := hands_tuple_iff.1 handed
      cases known.symm.trans known'
      cases configured.symm.trans configured'
    · refine ⟨rfl, .note geometry.associativity fun n => ?_⟩
      constructor
      · intro handed
        obtain ⟨cache', geometry', known', configured', isNumber⟩ := hands_tuple_iff.1 handed
        cases known.symm.trans known'
        cases configured.symm.trans configured'
        exact isNumber
      · rintro rfl
        exact .tuple known configured

/-- What a line of a template hands to rounding. -/
def EntryHands (a : Activity α) (entry : Entry) (n : Nat) : Prop :=
  ∃ name scope, entry.binding = some ⟨.tuple, name, scope⟩ ∧ Hands a (.tuple name scope) n

/-- Only tuples hand anything over. -/
theorem values_alone (binding : Binding) (rounded : Rounded) :
    (Template.values a binding rounded).1 = (Template.values a binding ∅).1 ∧
      rounded.Adds (Template.values a binding rounded).2 fun n =>
        binding.kind = .tuple ∧ Hands a (.tuple binding.name binding.scope) n := by
  obtain ⟨kind, name, scope⟩ := binding
  cases kind with
  | field => exact ⟨rfl, .nothing fun n handed => nomatch handed.1⟩
  | statistic => exact ⟨rfl, .nothing fun n handed => nomatch handed.1⟩
  | tuple =>
    obtain ⟨same, adds⟩ := tuple_alone (a := a) name scope rounded
    exact ⟨same, adds.congr fun n => and_iff_right rfl⟩

/-- A line is the same whatever was rounded, and hands over what its binding does. -/
theorem renderEntry_alone (entry : Entry) (rounded : Rounded) :
    (Template.renderEntry a entry rounded).1 = (Template.renderEntry a entry ∅).1 ∧
      rounded.Adds (Template.renderEntry a entry rounded).2 (EntryHands a entry) := by
  obtain ⟨text, _ | binding⟩ := entry
  · refine ⟨rfl, .nothing ?_⟩
    rintro n ⟨name, scope, bound, -⟩
    cases bound
  · obtain ⟨same, adds⟩ := values_alone (a := a) binding rounded
    refine ⟨congrArg (Template.renderBound text binding) same, adds.congr fun n => ?_⟩
    constructor
    · rintro ⟨name, scope, bound, handed⟩
      cases bound
      exact ⟨rfl, handed⟩
    · rintro ⟨isTuple, handed⟩
      exact ⟨binding.name, binding.scope, by rw [← isTuple], handed⟩

/-- A template hands over what its lines do, up to the first that cannot be rendered. -/
theorem hands_render_iff {template : Template} {n : Nat} :
    Hands a (.render template) n ↔
      ∃ front entry back, template = front ++ entry :: back ∧
        (∀ other ∈ front, ∃ line, (Template.renderEntry a other ∅).1 = .ok line) ∧
        EntryHands a entry n := by
  constructor
  · intro handed
    cases handed with
    | render rendered bound handed => exact ⟨_, _, _, rfl, rendered, _, _, bound, handed⟩
  · rintro ⟨front, entry, back, rfl, rendered, name, scope, bound, handed⟩
    exact .render rendered bound handed

/-- A template hands over what its first line does, and if that can be rendered, what the
rest of the template does. -/
theorem hands_render_cons_iff {entry : Entry} {rest : Template} {n : Nat} :
    Hands a (.render (entry :: rest)) n ↔
      EntryHands a entry n ∨
        (∃ line, (Template.renderEntry a entry ∅).1 = .ok line) ∧ Hands a (.render rest) n := by
  rw [hands_render_iff, hands_render_iff]
  constructor
  · rintro ⟨_ | ⟨first, front⟩, reached, back, split, rendered, handed⟩
    · cases split
      exact .inl handed
    · cases split
      obtain ⟨first, others⟩ := List.forall_mem_cons.1 rendered
      exact .inr ⟨first, front, reached, back, rfl, others, handed⟩
  · rintro (handed | ⟨first, front, reached, back, rfl, rendered, handed⟩)
    · exact ⟨[], entry, rest, rfl, nofun, handed⟩
    · exact ⟨entry :: front, reached, back, rfl, List.forall_mem_cons.2 ⟨first, rendered⟩, handed⟩

/-- A document is the same whatever was rounded. -/
theorem render_alone (template : Template) (rounded : Rounded) :
    (Template.render a template rounded).1 = (Template.render a template ∅).1 ∧
      rounded.Adds (Template.render a template rounded).2 (Hands a (.render template)) := by
  induction template generalizing rounded with
  | nil =>
    refine ⟨rfl, .nothing fun n handed => ?_⟩
    obtain ⟨front, entry, back, split, -⟩ := hands_render_iff.1 handed
    exact List.append_ne_nil_of_right_ne_nil front (List.cons_ne_nil entry back) split.symm
  | cons entry rest ih =>
    obtain ⟨same, adds⟩ := renderEntry_alone (a := a) entry rounded
    rw [Template.render, Template.render]
    rcases fresh : Template.renderEntry a entry ∅ with ⟨result, freshNotes⟩
    rcases used : Template.renderEntry a entry rounded with ⟨usedResult, notes⟩
    rw [used, fresh] at same
    rw [used] at adds
    obtain rfl : usedResult = result := same
    have renders (line : String) :
        (Template.renderEntry a entry ∅).1 = .ok line ↔ usedResult = .ok line := by rw [fresh]
    rcases usedResult with failure | line
    · refine ⟨rfl, adds.congr fun n => ?_⟩
      rw [hands_render_cons_iff]
      simp [renders]
    · obtain ⟨sameRest, addsRest⟩ := ih notes
      obtain ⟨sameFresh, -⟩ := ih freshNotes
      refine ⟨congrArg (Except.map (line :: ·)) (sameRest.trans sameFresh.symm),
        adds.trans addsRest fun n => ?_⟩
      rw [hands_render_cons_iff]
      simp [renders]

/-- A query is answered as it is by itself, and gains the notes of what it hands over. -/
theorem ask_alone (query : Query) (rounded : Rounded) :
    (ask a rounded query).1 = (ask a ∅ query).1 ∧
      rounded.Adds (ask a rounded query).2 (Hands a query) := by
  cases query with
  | statistic name scope => exact ⟨rfl, .nothing fun n handed => nomatch handed⟩
  | tuple name scope =>
    obtain ⟨same, adds⟩ := tuple_alone (a := a) name scope rounded
    exact ⟨congrArg Answer.tuple same, adds⟩
  | roundUp n =>
    refine ⟨rfl, .note n fun m => ⟨fun handed => ?_, ?_⟩⟩
    · cases handed
      rfl
    · rintro rfl
      exact .roundUp m
  | render template =>
    obtain ⟨same, adds⟩ := render_alone (a := a) template rounded
    exact ⟨congrArg Answer.render same, adds⟩

/-! ## Sequences of queries -/

/-- A sequence of queries gains the notes of what all of them hand over. -/
theorem askAll_alone (queries : List Query) (rounded : Rounded) :
    (askAll a rounded queries).1 = queries.map (fun query => (ask a ∅ query).1) ∧
      rounded.Adds (askAll a rounded queries).2 fun n => ∃ query ∈ queries, Hands a query n := by
  induction queries generalizing rounded with
  | nil => exact ⟨rfl, .nothing fun n handed => nomatch handed⟩
  | cons query rest ih =>
    obtain ⟨same, adds⟩ := ask_alone (a := a) query rounded
    obtain ⟨sameRest, addsRest⟩ := ih (ask a rounded query).2
    refine ⟨congrArg₂ List.cons same sameRest, adds.trans addsRest fun n => ?_⟩
    simp

theorem contains_askAll_iff (queries : List Query) (n : Nat) :
    (askAll a ∅ queries).2.contains n = true ↔
      (∃ query ∈ queries, Hands a query n) ∧ 0 < n ∧ n ≤ 2 ^ 63 ∧ ∀ k, n ≠ 2 ^ k := by
  rw [(askAll_alone queries ∅).2 n, PowerOfTwo.roundUp_ne_self_iff]
  exact or_iff_right nofun

/-- Queries to one run do not influence each other: each of them is answered as if it were
the only one. They leave a note of each number that was handed to rounding and is between
powers of two; the notes only grow, and neither order nor repetition matters to them. -/
theorem askAll_independent (a : Activity α) (queries : List Query) :
    (askAll a ∅ queries).1 = queries.map (fun query => (ask a ∅ query).1) ∧
      (∀ n, (askAll a ∅ queries).2.contains n = true ↔
        (∃ query ∈ queries, Hands a query n) ∧ 0 < n ∧ n ≤ 2 ^ 63 ∧ ∀ k, n ≠ 2 ^ k) ∧
      (∀ more n, (askAll a ∅ queries).2.contains n = true →
        (askAll a ∅ (queries ++ more)).2.contains n = true) ∧
      ∀ others, (∀ query, query ∈ others ↔ query ∈ queries) →
        (askAll a ∅ others).2 = (askAll a ∅ queries).2 := by
  refine ⟨(askAll_alone queries ∅).1, contains_askAll_iff queries, ?grows, ?order⟩
  case grows =>
    intro more n noted
    rw [contains_askAll_iff] at noted ⊢
    obtain ⟨⟨query, asked, handed⟩, between⟩ := noted
    exact ⟨⟨query, List.mem_append_left more asked, handed⟩, between⟩
  case order =>
    intro others same
    refine Rounded.ext fun n => ?_
    rw [contains_askAll_iff, contains_askAll_iff]
    simp only [same]

end Query

end ChipPower
