import ChipPower.Proofs.Activity.Queries
import ChipPower.Proofs.Failure.Traversal

/-!
# Rendering line by line

Each line of a document comes from the line of the template at its place, by itself: what
was rounded for the lines before does not show in it. A line that is bound to nothing stays
as it is, and any other has the values filled in that its binding has in a fresh activity
(`Becomes`). A template that cannot be rendered stops at its first such line (`Stops`), with
a failure that names what the line is bound to.

Fields are looked up in a configuration of their own here, which need not be the one that
statistics and tuples of the activity are computed from (`renderUnder`). Rendering is the
case of one configuration for both (`renderUnder_config`).

* `renderUnder_eq_mapM` goes by induction on the lines, for any notes.
* `freshLine_eq_ok_iff` and `freshLine_eq_error_iff` say what comes of one line.
* `Template.render_lineByLine` puts them together.
-/

namespace ChipPower

/-! ## Documents -/

/-- Each line of a document ends where a line feed follows it, and none follows the last. -/
theorem Document.text_append_feed {document : Document} (ne : document ≠ []) :
    document.text ++ "\n" = String.join (document.map (· ++ "\n")) := by
  induction document with
  | nil => exact absurd rfl ne
  | cons line rest ih =>
    cases rest with
    | nil => simp [text, String.join_cons]
    | cons next more =>
      have others := ih (List.cons_ne_nil next more)
      rw [text] at others ⊢
      rw [String.intercalate_cons_cons, List.map_cons, String.join_cons, ← others]
      simp only [String.append_assoc]

namespace Template

variable {α : Type} [Scalar α]

/-! ## A configuration for fields -/

/-- The values of a binding, with fields looked up in a configuration. -/
def valuesUnder (config : Config) (a : Activity α) (binding : Binding) (rounded : Rounded) :
    Except Failure (List α) × Rounded :=
  match binding.kind with
  | .field =>
    let value := do (← Config.Field.ofName binding.name).resolve config binding.scope
    (value.map ([·]), rounded)
  | .statistic | .tuple => values a binding rounded

/-- The line of the document that a line becomes, with fields looked up in a configuration. -/
def renderEntryUnder (config : Config) (a : Activity α) (entry : Entry) (rounded : Rounded) :
    Except Failure String × Rounded :=
  match entry.binding with
  | none => (.ok entry.text, rounded)
  | some binding =>
    let (values, rounded) := valuesUnder config a binding rounded
    (renderBound entry.text binding values, rounded)

/-- Renders a template, with fields looked up in a configuration. -/
def renderUnder (config : Config) (a : Activity α) :
    Template → Rounded → Except Failure Document × Rounded
  | [], rounded => (.ok [], rounded)
  | entry :: rest, rounded =>
    match renderEntryUnder config a entry rounded with
    | (.error failure, rounded) => (.error failure, rounded)
    | (.ok line, rounded) =>
      let (document, rounded) := renderUnder config a rest rounded
      (document.map (line :: ·), rounded)

variable {config : Config} {a : Activity α}

theorem valuesUnder_config (binding : Binding) (rounded : Rounded) :
    valuesUnder a.config a binding rounded = values a binding rounded := by
  obtain ⟨kind, name, scope⟩ := binding
  cases kind <;> rfl

theorem renderEntryUnder_config (entry : Entry) (rounded : Rounded) :
    renderEntryUnder a.config a entry rounded = renderEntry a entry rounded := by
  obtain ⟨text, _ | binding⟩ := entry
  · rfl
  · simp only [renderEntryUnder, renderEntry, valuesUnder_config]

/-- Rendering looks fields up in the configuration of the activity. -/
theorem renderUnder_config (template : Template) (rounded : Rounded) :
    renderUnder a.config a template rounded = render a template rounded := by
  induction template generalizing rounded with
  | nil => rfl
  | cons entry rest ih =>
    rw [renderUnder, render, renderEntryUnder_config]
    rcases renderEntry a entry rounded with ⟨failure | line, notes⟩
    · rfl
    · simp only [ih]

/-! ## Lines by themselves -/

/-- What a line becomes in a fresh activity. -/
def freshLine (config : Config) (a : Activity α) (entry : Entry) : Except Failure String :=
  (renderEntryUnder config a entry ∅).1

variable (config a) in
theorem valuesUnder_fresh (binding : Binding) (rounded : Rounded) :
    (valuesUnder config a binding rounded).1 = (valuesUnder config a binding ∅).1 := by
  unfold valuesUnder
  split
  · rfl
  · exact (Query.values_alone binding rounded).1
  · exact (Query.values_alone binding rounded).1

variable (config a) in
theorem renderEntryUnder_fresh (entry : Entry) (rounded : Rounded) :
    (renderEntryUnder config a entry rounded).1 = freshLine config a entry := by
  obtain ⟨text, _ | binding⟩ := entry
  · rfl
  · exact congrArg (renderBound text binding) (valuesUnder_fresh config a binding rounded)

/-- A document has for each line what that line becomes in a fresh activity. -/
theorem renderUnder_eq_mapM (template : Template) (rounded : Rounded) :
    (renderUnder config a template rounded).1 = template.mapM (freshLine config a) := by
  induction template generalizing rounded with
  | nil => rfl
  | cons entry rest ih =>
    have line := renderEntryUnder_fresh config a entry rounded
    rw [renderUnder, List.mapM_cons, ← line]
    rcases renderEntryUnder config a entry rounded with ⟨failure | text, notes⟩
    · rfl
    · show Except.map _ (renderUnder config a rest notes).1 = _
      rw [ih notes]
      cases rest.mapM (freshLine config a) <;> rfl

variable (config a) in
/-- `Becomes config a entry line`: a line of a template becomes a line of the document. One
that is bound to nothing stays as it is, whatever it looks like. -/
inductive Becomes : Entry → String → Prop
  | literal (text : String) : Becomes ⟨text, none⟩ text
  | bound {text line : String} {binding : Binding} {vs : List α}
    (evaluated : (valuesUnder config a binding ∅).1 = .ok vs)
    (filled : substitute text vs = .ok line) : Becomes ⟨text, some binding⟩ line

variable (config a) in
/-- `Stops config a entry binding failure`: a line of a template cannot be rendered, as what
it is bound to has no values, or as these cannot be filled in. -/
inductive Stops : Entry → Binding → Failure → Prop
  | evaluation {text : String} {binding : Binding} {failure : Failure}
    (failed : (valuesUnder config a binding ∅).1 = .error failure) :
    Stops ⟨text, some binding⟩ binding
      (failure.within (.evaluate binding.name binding.scope))
  | substitution {text : String} {binding : Binding} {vs : List α} {failure : Failure}
    (evaluated : (valuesUnder config a binding ∅).1 = .ok vs)
    (failed : substitute text vs = .error failure) :
    Stops ⟨text, some binding⟩ binding
      (failure.within (.renderLine binding.name binding.scope))

/-- What a line becomes, if it becomes anything. -/
theorem freshLine_eq_ok_iff {entry : Entry} {line : String} :
    freshLine config a entry = .ok line ↔ Becomes config a entry line := by
  constructor
  · intro rendered
    obtain ⟨text, _ | binding⟩ := entry
    · cases rendered
      exact .literal text
    · obtain ⟨vs, evaluated, filled⟩ := bind_eq_ok_iff.1 rendered
      exact .bound (during_eq_ok_iff.1 evaluated) (during_eq_ok_iff.1 filled)
  · intro becomes
    cases becomes with
    | literal => rfl
    | bound evaluated filled =>
      exact bind_eq_ok_iff.2
        ⟨_, during_eq_ok_iff.2 evaluated, during_eq_ok_iff.2 filled⟩

/-- A line stops a template if it is bound to something that has no values or whose values do
not go in. -/
theorem freshLine_eq_error_iff {entry : Entry} {failure : Failure} :
    freshLine config a entry = .error failure ↔ ∃ binding, Stops config a entry binding failure := by
  constructor
  · intro failed
    obtain ⟨text, _ | binding⟩ := entry
    · cases failed
    · refine ⟨binding, ?_⟩
      rcases evaluated : (valuesUnder config a binding ∅).1 with inner | vs
      · simp only [freshLine, renderEntryUnder, renderBound, evaluated] at failed
        cases failed
        exact .evaluation evaluated
      · simp only [freshLine, renderEntryUnder, renderBound, evaluated] at failed
        obtain ⟨inner, unfilled, rfl⟩ := during_eq_error_iff.1 failed
        exact .substitution evaluated unfilled
  · intro stopped
    obtain ⟨binding, stops⟩ := stopped
    cases stops with
    | evaluation failed =>
      simp only [freshLine, renderEntryUnder, renderBound, failed]
      rfl
    | substitution evaluated failed =>
      simp only [freshLine, renderEntryUnder, renderBound, evaluated]
      exact during_eq_error_iff.2 ⟨_, failed, rfl⟩

/-- The outermost text of a failure says that what a binding is to could not be used, with
its name and its scope. -/
def Names (binding : Binding) (failure : Failure) : Prop :=
  ∃ what ∈ ["evaluate", "render"], failure.texts.head? =
    some ("Unable to " ++ what ++ " " ++ Text.quote binding.name ++ " for " ++
      binding.scope.label)

/-- A failure names the binding of the line, whatever the cause. -/
theorem Stops.names {entry : Entry} {binding : Binding} {failure : Failure}
    (stops : Stops config a entry binding failure) :
    entry.binding = some binding ∧ Names binding failure := by
  cases stops with
  | evaluation => exact ⟨rfl, "evaluate", by simp, rfl⟩
  | substitution => exact ⟨rfl, "render", by simp, rfl⟩

/-! ## Templates -/

variable {template : Template} {rounded : Rounded}

/-- A document has a line for each line of its template. -/
theorem renderUnder_eq_ok_iff {document : Document} :
    (renderUnder config a template rounded).1 = .ok document ↔
      List.Forall₂ (Becomes config a) template document := by
  simp only [renderUnder_eq_mapM, mapM_eq_ok_iff, freshLine_eq_ok_iff]

/-- A template stops at the first line that cannot be rendered. -/
theorem renderUnder_eq_error_iff {failure : Failure} :
    (renderUnder config a template rounded).1 = .error failure ↔
      ∃ front entry back binding, template = front ++ entry :: back ∧
        (∀ other ∈ front, ∃ line, Becomes config a other line) ∧
        Stops config a entry binding failure := by
  simp only [renderUnder_eq_mapM, mapM_eq_error_iff, freshLine_eq_ok_iff, freshLine_eq_error_iff,
    exists_and_left]

/-- A template is rendered line by line. Its document, if there is one, has a line for each
of its lines, in their order, which is what that line becomes in a fresh activity, and the
text of a document has line feeds between its lines and none behind them. If there is no
document, the failure is that of the first line that stops it, and names its binding. -/
theorem render_lineByLine (config : Config) (a : Activity α) (template : Template)
    (rounded : Rounded) :
    renderUnder a.config a template rounded = render a template rounded ∧
      (∀ document, (renderUnder config a template rounded).1 = .ok document ↔
        List.Forall₂ (Becomes config a) template document) ∧
      (∀ failure, (renderUnder config a template rounded).1 = .error failure ↔
        ∃ front entry back binding, template = front ++ entry :: back ∧
          (∀ other ∈ front, ∃ line, Becomes config a other line) ∧
          Stops config a entry binding failure ∧
          entry.binding = some binding ∧ Names binding failure) ∧
      Document.text [] = "" ∧
      ∀ document : Document, document ≠ [] →
        document.text ++ "\n" = String.join (document.map (· ++ "\n")) := by
  refine ⟨renderUnder_config template rounded, fun document => renderUnder_eq_ok_iff, ?failure,
    rfl, fun document ne => Document.text_append_feed ne⟩
  case failure =>
    intro failure
    rw [renderUnder_eq_error_iff]
    constructor
    · intro stopped
      obtain ⟨front, entry, back, binding, split, fine, stops⟩ := stopped
      exact ⟨front, entry, back, binding, split, fine, stops, stops.names⟩
    · intro stopped
      obtain ⟨front, entry, back, binding, split, fine, stops, -⟩ := stopped
      exact ⟨front, entry, back, binding, split, fine, stops⟩

/-- A placeholder in a line that is bound to nothing is text like any other. -/
example (a : Activity Rat) : (render a [{ text := "at %i" }] ∅).1 = .ok ["at %i"] := rfl

end Template
end ChipPower
