import ChipPower.Proofs.Template.Lines
import ChipPower.Proofs.Template.Render

/-!
# Unknown names

A template is checked before it is rendered: is there something of each name that a line is
bound to? Evaluation looks names up once more and in other ways. The two agree: a template is
accepted exactly if none of its bindings has no values because there is nothing of its name
(`Template.validate_iff_namesKnown`).

* `BindingKind.unknown`: the cause that evaluation names. `valuesUnder_of_unknown` and
  `knowsNames_valuesUnder` are the two cases of a binding.
* No other failure of an evaluation is for want of a name: `Avoids` with
  `Cause.isUnknownName`, from what is known of formulas.
-/

namespace ChipPower

/-- Causes that say that there is nothing of a name. -/
def Cause.isUnknownName : Cause → Bool
  | .unknownField _ | .unknownStatistic _ | .unknownTuple _ => true
  | _ => false

theorem Cause.isMisfit_of_isUnknownName (cause : Cause) (unknown : cause.isUnknownName = true) :
    cause.isMisfit = true := by
  cases cause <;> first | rfl | cases unknown

/-- If a result is a failure, then not because there is nothing of a name. -/
abbrev KnowsNames {β : Type} (result : Except Failure β) : Prop :=
  Avoids Cause.isUnknownName result

/-- A result without a misfit is one without an unknown name. -/
theorem NoMisfit.knowsNames {β : Type} {result : Except Failure β} (fits : NoMisfit result) :
    KnowsNames result :=
  fits.avoids Cause.isMisfit_of_isUnknownName

namespace BindingKind

/-- The cause that there is nothing of a name to bind to. -/
def unknown (name : String) : BindingKind → Cause
  | .field => .unknownField name
  | .statistic => .unknownStatistic name
  | .tuple => .unknownTuple name

/-- What is said to be unknown then. -/
def noun : BindingKind → String
  | .field => "configuration field"
  | .statistic => "statistic"
  | .tuple => "tuple"

theorem isUnknownName_unknown (name : String) (kind : BindingKind) :
    (kind.unknown name).isUnknownName = true := by
  cases kind <;> rfl

theorem message_unknown (name : String) (kind : BindingKind) :
    (kind.unknown name).message = "Unknown " ++ kind.noun ++ " " ++ Text.quote name := by
  cases kind <;> rfl

end BindingKind

section Evaluation

variable {α : Type} [Scalar α] {a : Activity α}

omit [Scalar α] in
/-- A scope may be one that a formula cannot be evaluated for, but it has no name. -/
theorem Activity.reaches_names (scope : Scope) (sharing : Sharing) :
    a.Reaches Cause.isUnknownName scope sharing := by
  have core : KnowsNames (Activity.core scope) := by
    cases scope with
    | unit index => exact .ok index
    | system => exact .fail rfl
  refine ⟨core, fun _ => core.bind fun unit => ?_⟩
  split
  · exact .ok _
  · exact .fail rfl

theorem knowsNames_substitute (text : String) (values : List α) :
    KnowsNames (substitute text values) := by
  refine .bind ?_ fun chars => .ok _
  unfold SplitLine.fill
  split
  · exact (SplitLine.noMisfit_fillTail _ values).knowsNames.bind fun _ => .ok _
  · exact .fail rfl

end Evaluation

namespace Template

variable {α : Type} [Scalar α] {config : Config} {a : Activity α}

/-! ## Bindings -/

theorem valuesUnder_of_unknown {binding : Binding}
    (unknown : binding.kind.knows binding.name = false) (rounded : Rounded) :
    (valuesUnder config a binding rounded).1 = fail (binding.kind.unknown binding.name) := by
  obtain ⟨kind, name, scope⟩ := binding
  cases kind with
  | field =>
    have none : Config.Field.ofName? name = none :=
      Option.isNone_iff_eq_none.1 (Option.isSome_eq_false_iff.1 unknown)
    simp only [valuesUnder, Config.Field.ofName, none]
    rfl
  | statistic =>
    have none : Statistics.formula? name = none :=
      Option.isNone_iff_eq_none.1 (Option.isSome_eq_false_iff.1 unknown)
    simp only [valuesUnder, values, Activity.stat, none]
    rfl
  | tuple =>
    have none : CacheTuple.ofName? name = none :=
      Option.isNone_iff_eq_none.1 (Option.isSome_eq_false_iff.1 unknown)
    simp only [valuesUnder, values, Activity.tuple, none]
    rfl

theorem knowsNames_valuesUnder {binding : Binding}
    (known : binding.kind.knows binding.name = true) (rounded : Rounded) :
    KnowsNames (valuesUnder config a binding rounded).1 := by
  have values : KnowsNames (values a binding rounded).1 :=
    avoids_values Cause.isMisfit_of_isUnknownName known
      (fun sharing _ => a.reaches_names binding.scope sharing) rounded
  obtain ⟨kind, name, scope⟩ := binding
  cases kind with
  | field => exact (avoids_field Cause.isMisfit_of_isUnknownName known config scope).map _
  | statistic | tuple => exact values

variable (config a) in
/-- A binding is to something that exists exactly if its evaluation, whatever else may
become of it, does not fail for want of a name. -/
theorem knows_iff (binding : Binding) (rounded : Rounded) :
    binding.kind.knows binding.name = true ↔
      KnowsNames (valuesUnder config a binding rounded).1 := by
  constructor
  · intro known
    exact knowsNames_valuesUnder known rounded
  · intro names
    refine Bool.eq_true_of_not_eq_false fun unknown => ?_
    have named := names _ (valuesUnder_of_unknown unknown rounded)
    exact Bool.eq_false_iff.1 named (BindingKind.isUnknownName_unknown binding.name binding.kind)

theorem validate_eq_ok_iff {template : Template} :
    template.validate = .ok () ↔
      ∀ binding ∈ template.bindings, binding.kind.knows binding.name = true := by
  unfold validate
  split
  · rename_i found
    simpa using List.find?_eq_none.1 found
  · rename_i binding found
    have unknown := List.find?_some found
    have listed := List.mem_of_find?_eq_some found
    constructor
    · intro accepted
      cases accepted
    · intro known
      simp [known binding listed] at unknown

theorem mem_bindings {template : Template} {entry : Entry} {binding : Binding}
    (listed : entry ∈ template) (bound : entry.binding = some binding) :
    binding ∈ template.bindings :=
  List.mem_filterMap.2 ⟨entry, listed, bound⟩

/-! ## Templates -/

/-- What a line that became one of the document is bound to exists. -/
theorem Becomes.knows {entry : Entry} {line : String} (becomes : Becomes config a entry line)
    {binding : Binding} (bound : entry.binding = some binding) :
    binding.kind.knows binding.name = true := by
  cases becomes with
  | literal => cases bound
  | bound evaluated filled =>
    cases bound
    refine (knows_iff config a binding ∅).2 fun failure failed => ?_
    cases evaluated.symm.trans failed

/-- A line that is bound to something that exists does not stop a template for want of a
name. -/
theorem Stops.knowsNames {entry : Entry} {binding : Binding} {failure : Failure}
    (stops : Stops config a entry binding failure)
    (known : binding.kind.knows binding.name = true) : failure.cause.isUnknownName = false := by
  -- what was being done is noted in front of the failure, and the cause stays
  cases stops with
  | evaluation failed =>
    have named := knowsNames_valuesUnder known ∅ _ failed
    exact named
  | substitution _ failed =>
    have named := knowsNames_substitute _ _ _ failed
    exact named

/-- The check of a template accepts it exactly if no binding of it has no values because
there is nothing of its name, which then is what the failure says. So it accepts every
template that can be rendered, and one that it accepts is not stopped by an unknown name when
it is rendered. -/
theorem validate_iff_namesKnown (config : Config) (a : Activity α) (template : Template)
    (rounded : Rounded) :
    renderUnder a.config a template rounded = render a template rounded ∧
      (template.validate = .ok () ↔ ∀ binding ∈ template.bindings,
        KnowsNames (valuesUnder config a binding rounded).1) ∧
      (∀ binding, ¬ KnowsNames (valuesUnder config a binding rounded).1 → ∃ failure,
        (valuesUnder config a binding rounded).1 = .error failure ∧
        failure.message =
          "Unknown " ++ binding.kind.noun ++ " " ++ Text.quote binding.name) ∧
      (∀ document, (renderUnder config a template rounded).1 = .ok document →
        template.validate = .ok ()) ∧
      (template.validate = .ok () → KnowsNames (renderUnder config a template rounded).1) := by
  refine ⟨renderUnder_config template rounded, ?complete, ?named, ?rendered, ?accepted⟩
  case complete =>
    rw [validate_eq_ok_iff]
    simp only [← knows_iff config a]
  case named =>
    intro binding unnamed
    rw [← knows_iff, Bool.not_eq_true] at unnamed
    exact ⟨_, valuesUnder_of_unknown unnamed rounded,
      BindingKind.message_unknown binding.name binding.kind⟩
  case rendered =>
    intro document rendered
    have lines : List.Forall₂ (fun entry line => (∀ binding, entry.binding = some binding →
        binding.kind.knows binding.name = true) ∧ Becomes config a entry line)
        template document :=
      (renderUnder_eq_ok_iff.1 rendered).imp fun entry line becomes =>
        ⟨fun binding bound => becomes.knows bound, becomes⟩
    refine validate_eq_ok_iff.2 fun binding listed => ?_
    obtain ⟨entry, member, bound⟩ := List.mem_filterMap.1 listed
    exact ((List.forall₂_and_left _ _).1 lines).1 entry member binding bound
  case accepted =>
    intro accepted failure failed
    obtain ⟨front, entry, back, binding, rfl, -, stops⟩ := renderUnder_eq_error_iff.1 failed
    have listed : entry ∈ front ++ entry :: back := by simp
    exact stops.knowsNames (validate_eq_ok_iff.1 accepted binding
      (mem_bindings listed stops.names.1))

end Template
end ChipPower
