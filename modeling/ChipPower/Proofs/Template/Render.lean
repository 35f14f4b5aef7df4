import ChipPower.Proofs.Template.Layout

/-!
# Rendering the built-in layout

A run may lack a statistic or a key that a line needs, and then its document cannot be
rendered. What cannot happen with the built-in layout is that the layout is to blame:
that a line is bound to something unknown, has too few or too many placeholders, or is
laid out for a unit that the chip does not have (`Cause.isMisfit`).

* `NoMisfit` says this of a result, and holds of a sequence of steps if it does of each, as
  it does to avoid any other causes (`Avoids`).
* `Formula.avoids_eval` goes by induction on the formula, `Template.noMisfit_render` by
  induction on the lines.
* `Template.ofHierarchy_fits` puts this together with what the lines of the layout ask for.
-/

namespace ChipPower

/-- Causes that lie with a template and not with the run that it is rendered for. -/
def Cause.isMisfit : Cause → Bool
  | .unknownField _ | .unknownTemplateField .. | .unknownStatistic _ | .unknownTuple _
  | .valueCount .. | .onlyPerCore | .coreOutOfRange .. => true
  | _ => false

/-- If a result is a failure, then for none of some causes. -/
def Avoids (causes : Cause → Bool) {β : Type} (result : Except Failure β) : Prop :=
  ∀ failure, result = .error failure → causes failure.cause = false

namespace Avoids

variable {β γ : Type} {causes : Cause → Bool}

theorem ok (b : β) : Avoids causes (.ok b : Except Failure β) := by
  intro failure failed
  cases failed

theorem fail {cause : Cause} (other : causes cause = false) :
    Avoids causes (ChipPower.fail cause : Except Failure β) := by
  intro failure failed
  cases failed
  exact other

/-- The second step has to avoid the causes only for what the first one can come to. -/
theorem bind_of_ok {result : Except Failure β} {next : β → Except Failure γ}
    (first : Avoids causes result) (second : ∀ b, result = .ok b → Avoids causes (next b)) :
    Avoids causes (result >>= next) := by
  cases result with
  | error failure =>
    intro raised failed
    cases failed
    exact first failure rfl
  | ok b => exact second b rfl

theorem bind {result : Except Failure β} {next : β → Except Failure γ}
    (first : Avoids causes result) (second : ∀ b, Avoids causes (next b)) :
    Avoids causes (result >>= next) :=
  first.bind_of_ok fun b _ => second b

theorem map {result : Except Failure β} (first : Avoids causes result) (f : β → γ) :
    Avoids causes (result.map f) := by
  cases result with
  | error failure =>
    intro raised failed
    cases failed
    exact first failure rfl
  | ok b => exact ok (f b)

theorem during {result : Except Failure β} (first : Avoids causes result) (step : Step) :
    Avoids causes (ChipPower.during step result) := by
  cases result with
  | error failure =>
    intro raised failed
    cases failed
    exact first failure rfl
  | ok b => exact ok b

/-- Going through a list avoids what each of its elements does. -/
theorem mapM {f : β → Except Failure γ} (each : ∀ b, Avoids causes (f b)) (bs : List β) :
    Avoids causes (bs.mapM f) := by
  induction bs with
  | nil => exact ok []
  | cons b bs ih =>
    rw [List.mapM_cons]
    exact bind (each b) fun c => bind ih fun cs => ok (c :: cs)

end Avoids

/-- If a result is a failure, then not one of the template. -/
def NoMisfit {β : Type} (result : Except Failure β) : Prop :=
  ∀ failure, result = .error failure → failure.cause.isMisfit = false

/-! Not to fail for a misfit is to avoid the causes that are misfits. -/

namespace NoMisfit

variable {β γ : Type}

theorem ok (b : β) : NoMisfit (.ok b : Except Failure β) :=
  Avoids.ok b

theorem fail {cause : Cause} (fits : cause.isMisfit = false) :
    NoMisfit (ChipPower.fail cause : Except Failure β) :=
  Avoids.fail fits

theorem bind_of_ok {result : Except Failure β} {next : β → Except Failure γ}
    (first : NoMisfit result) (second : ∀ b, result = .ok b → NoMisfit (next b)) :
    NoMisfit (result >>= next) :=
  Avoids.bind_of_ok first second

theorem bind {result : Except Failure β} {next : β → Except Failure γ}
    (first : NoMisfit result) (second : ∀ b, NoMisfit (next b)) :
    NoMisfit (result >>= next) :=
  Avoids.bind first second

theorem map {result : Except Failure β} (first : NoMisfit result) (f : β → γ) :
    NoMisfit (result.map f) :=
  Avoids.map first f

theorem during {result : Except Failure β} (first : NoMisfit result) (step : Step) :
    NoMisfit (ChipPower.during step result) :=
  Avoids.during first step

theorem mapM {f : β → Except Failure γ} (each : ∀ b, NoMisfit (f b)) (bs : List β) :
    NoMisfit (bs.mapM f) :=
  Avoids.mapM each bs

/-- A result without a misfit avoids all causes that are misfits. -/
theorem avoids {causes : Cause → Bool} (misfits : ∀ cause, causes cause = true → cause.isMisfit)
    {result : Except Failure β} (fits : NoMisfit result) : Avoids causes result := by
  intro failure failed
  refine Bool.eq_false_iff.2 fun among => ?_
  exact Bool.eq_false_iff.1 (fits failure failed) (misfits failure.cause among)

end NoMisfit

/-! ## Configurations -/

namespace Config

variable (config : Config) (key : String) (core : Option Nat)

theorem noMisfit_require : NoMisfit (config.require key core) := by
  unfold require
  split
  · exact .ok _
  · exact .fail rfl

theorem noMisfit_parse {β : Type} (reader : List Char → Except NumeralError β)
    (value : String) : NoMisfit (parse reader key value) := by
  unfold parse
  split
  · exact .ok _
  · exact .fail rfl

theorem noMisfit_read {β : Type} (reader : List Char → Except NumeralError β) :
    NoMisfit (read reader config key core) :=
  (config.noMisfit_require key core).bind (noMisfit_parse key reader)

theorem noMisfit_readOr {β : Type} (reader : List Char → Except NumeralError β) (default : β) :
    NoMisfit (readOr reader config key core default) := by
  unfold readOr
  split
  · exact noMisfit_parse key reader _
  · exact .ok _

theorem noMisfit_flagOr (default : Bool) : NoMisfit (config.flagOr key core default) := by
  unfold flagOr parseFlag
  split
  · split
    · exact .ok _
    · exact .fail rfl
  · exact .ok _

section Fields

variable {α : Type} [Scalar α]

theorem noMisfit_clock : NoMisfit (config.clock core : Except Failure α) :=
  (config.noMisfit_read _ core _).bind fun _ => .ok _

theorem noMisfit_voltage : NoMisfit (config.voltage core : Except Failure α) :=
  config.noMisfit_readOr _ core _ _

theorem noMisfit_dispatchWidth : NoMisfit (config.dispatchWidth core : Except Failure α) :=
  (config.noMisfit_read _ core _).bind fun _ => .ok _

theorem noMisfit_peakIssueWidth : NoMisfit (config.peakIssueWidth core : Except Failure α) :=
  (config.noMisfit_dispatchWidth core).bind fun _ => .ok _

omit [Scalar α] in
theorem noMisfit_ofDomain (cache : String) {value : Config → Option Nat → Except Failure α}
    (each : ∀ core, NoMisfit (value config core)) :
    NoMisfit (config.ofDomain cache value core) := by
  refine (config.noMisfit_require _ core).bind fun domain => ?_
  split
  · exact each core
  · split
    · exact each none
    · exact .fail rfl

/-- A field may lack a key or have a text that cannot be read, and that is up to the
configuration. -/
theorem noMisfit_resolve (scope : Scope) (field : Field) :
    NoMisfit (field.resolve config scope : Except Failure α) := by
  cases field with
  | coreClock => exact config.noMisfit_clock _
  | coreVdd => exact config.noMisfit_voltage _
  | issueWidth => exact config.noMisfit_dispatchWidth _
  | peakIssueWidth | aluPerCore => exact config.noMisfit_peakIssueWidth _
  | windowSize => exact (config.noMisfit_read _ _ _).bind fun _ => .ok _
  | machineType =>
    exact (config.noMisfit_require _ _).bind fun _ =>
      (config.noMisfit_flagOr _ _ _).bind fun _ => .ok _
  | l2Clock | l3Clock => exact config.noMisfit_ofDomain _ _ fun core => config.noMisfit_clock core
  | nocClock => exact config.noMisfit_clock none
  | l2Vdd | l3Vdd => exact config.noMisfit_ofDomain _ _ fun core => config.noMisfit_voltage core
  | nocVdd => exact config.noMisfit_voltage none

end Fields

end Config

/-! ## Statistics -/

namespace Stats

variable {α : Type} (stats : Stats α)

theorem noMisfit_require (name : String) : NoMisfit (stats.require name) := by
  unfold require
  split
  · exact .ok _
  · exact .fail rfl

theorem noMisfit_list (name : String) : NoMisfit (stats.list name) := by
  refine (stats.noMisfit_require name).bind fun value => ?_
  cases value with
  | list xs => exact .ok xs
  | scalar x => exact .fail rfl

theorem noMisfit_element (name : String) (index : Nat) : NoMisfit (stats.element name index) := by
  refine (stats.noMisfit_require name).bind fun value => ?_
  split
  · exact .ok _
  · exact .fail rfl

variable [Scalar α]

theorem noMisfit_elementOrZero (name : String) (index : Nat) :
    NoMisfit (stats.elementOrZero name index) := by
  unfold elementOrZero
  split
  · exact stats.noMisfit_element name index
  · exact .ok _

/-- A sum stops at the first element that is missing, by induction on the elements that are
left. -/
theorem noMisfit_sumFrom (name : String) (total : α) (index count : Nat) :
    NoMisfit (stats.sumFrom name total index count) := by
  induction count generalizing total index with
  | zero => exact .ok total
  | succ count ih =>
    have next := stats.noMisfit_element name index
    unfold sumFrom
    split
    case h_1 failure failed =>
      intro raised same
      cases same
      exact next failure failed
    case h_2 x _ => exact ih (total + x) (index + 1)

theorem noMisfit_sumOver (name : String) (range : Nat × Nat) :
    NoMisfit (stats.sumOver name range) :=
  stats.noMisfit_sumFrom name _ _ _

theorem noMisfit_sumOverOrZero (name : String) (range : Nat × Nat) :
    NoMisfit (stats.sumOverOrZero name range) := by
  unfold sumOverOrZero
  split
  · exact stats.noMisfit_sumOver name range
  · exact .ok _

end Stats

/-! ## The network -/

namespace Network

variable {α : Type} [Scalar α]

theorem noMisfit_accesses (stats : Stats α) : NoMisfit (accesses stats) := by
  unfold accesses
  split
  · refine (NoMisfit.mapM (fun direction => ?_) directions).bind fun _ => .ok _
    exact (stats.noMisfit_require _).bind fun _ => .ok _
  · split
    · exact (stats.noMisfit_require packets).bind fun _ => .ok _
    · exact (stats.noMisfit_element _ 0).bind fun _ => .ok _

theorem noMisfit_linkDutyCycle (stats : Stats α) : NoMisfit (linkDutyCycle stats) := by
  refine (NoMisfit.mapM (fun direction => ?_) directions).bind fun uses => ?_
  · exact (stats.noMisfit_require _).bind fun _ => (stats.noMisfit_list _).bind fun _ => .ok _
  · exact (stats.noMisfit_element _ 0).bind fun _ => .ok _

theorem noMisfit_busDutyCycle (a : Activity α) : NoMisfit (busDutyCycle a) := by
  have time : NoMisfit (busTime a.stats) := by
    unfold busTime
    split <;> exact a.stats.noMisfit_element _ 0
  refine time.bind fun time => ?_
  split
  · exact .fail rfl
  · exact .ok _

/-- The network has no scope, so it can only lack its counters. -/
theorem noMisfit_dutyCycle (a : Activity α) : NoMisfit (dutyCycle a) := by
  unfold dutyCycle
  split
  · exact noMisfit_linkDutyCycle a.stats
  · split
    · exact .ok _
    · exact noMisfit_busDutyCycle a

end Network

/-! ## Formulas -/

section Formulas

variable {α : Type} [Scalar α] {a : Activity α} {scope : Scope}

omit [Scalar α] in
/-- There are counters for each core of the chip. -/
theorem noMisfit_counters (enough : a.cores.length = a.hierarchy.cores)
    (placed : ∃ unit < a.hierarchy.cores, scope = .unit unit) : NoMisfit (a.counters scope) := by
  obtain ⟨unit, below, rfl⟩ := placed
  have inRange : unit < a.cores.length := enough ▸ below
  have found : a.counters (.unit unit) = .ok a.cores[unit] := by
    simp [Activity.counters, Activity.core, Scope.core?, inRange, bind, Except.bind, pure,
      Except.pure]
  exact found ▸ .ok _

/-- `a.Reaches causes scope sharing`: what a formula reads of a scope is found, or missed for
none of some causes. Only for single cores there are counters. -/
def Activity.Reaches (a : Activity α) (causes : Cause → Bool) (scope : Scope)
    (sharing : Sharing) : Prop :=
  Avoids causes (Activity.core scope) ∧
    (sharing = .own → Avoids causes (a.counters scope))

section Evaluation

variable {causes : Cause → Bool} (misfits : ∀ cause, causes cause = true → cause.isMisfit)

omit [Scalar α] in
theorem avoids_sharers {sharing other : Sharing} (reached : a.Reaches causes scope other) :
    Avoids causes (a.sharers sharing scope) := by
  refine reached.1.bind fun core => ?_
  cases sharing <;> exact .ok _

include misfits

theorem avoids_evalAluDutyCycle (counters : Avoids causes (a.counters scope)) :
    Avoids causes (Formula.evalAluDutyCycle a scope) := by
  refine counters.bind fun core => ?_
  refine ((a.config.noMisfit_peakIssueWidth scope.core?).avoids misfits).bind fun alus => ?_
  split
  · exact .ok _
  · exact (NoMisfit.fail rfl).avoids misfits

/-- A formula fails for a misfit only where it reads a scope. -/
theorem Formula.avoids_eval (f : Formula)
    (reached : ∀ sharing ∈ f.reads, a.Reaches causes scope sharing) :
    Avoids causes (f.eval a scope : Except Failure α) := by
  induction f with
  | number | maxCycles => exact .ok _
  | counter c => exact ((reached .own (by simp [reads])).2 rfl).bind fun _ => .ok _
  | aluDutyCycle => exact avoids_evalAluDutyCycle misfits ((reached .own (by simp [reads])).2 rfl)
  | element name =>
    exact (reached .own (by simp [reads])).1.bind fun unit =>
      (a.stats.noMisfit_element name unit).avoids misfits
  | elementOrZero name =>
    exact (reached .own (by simp [reads])).1.bind fun unit =>
      (a.stats.noMisfit_elementOrZero name unit).avoids misfits
  | first name => exact (a.stats.noMisfit_element name 0).avoids misfits
  | sum sharing name =>
    exact (avoids_sharers (reached sharing (by simp [reads]))).bind fun range =>
      (a.stats.noMisfit_sumOver name range).avoids misfits
  | sumOrZero sharing name =>
    exact (avoids_sharers (reached sharing (by simp [reads]))).bind fun range =>
      (a.stats.noMisfit_sumOverOrZero name range).avoids misfits
  | trunc f ih | dutyCycle f ih => exact (ih reached).bind fun _ => .ok _
  | add f g first second | sub f g first second | mul f g first second =>
    obtain ⟨left, right⟩ := List.forall_mem_append.1 reached
    exact (first left).bind fun _ => (second right).bind fun _ => .ok _
  | withImplicit f g first second =>
    obtain ⟨left, right⟩ := List.forall_mem_append.1 reached
    refine (first left).bind fun x => ?_
    split
    · exact (second right).bind fun _ => .ok _
    · exact .ok x
  | ifPresent name f ih =>
    unfold eval
    split
    · exact ih reached
    · exact .ok _
  | byPolicy f g first second =>
    obtain ⟨left, right⟩ := List.forall_mem_append.1 reached
    unfold eval
    split
    · exact first left
    · exact second right
  | byFraction f g first second =>
    obtain ⟨left, right⟩ := List.forall_mem_append.1 reached
    unfold eval
    split
    · exact first left
    · exact second right
  | timesFraction f ih =>
    refine (ih reached).bind fun x => ?_
    split <;> exact .ok _
  | network figure =>
    cases figure with
    | kind => exact .ok _
    | accesses => exact (Network.noMisfit_accesses a.stats).avoids misfits
    | dutyCycle => exact (Network.noMisfit_dutyCycle a).avoids misfits

end Evaluation

omit [Scalar α] in
/-- The units that a chip has are found. -/
theorem reaches_of_placed (enough : a.cores.length = a.hierarchy.cores) {sharing : Sharing}
    (placed : ∃ unit < a.hierarchy.units sharing, scope = .unit unit) :
    a.Reaches Cause.isMisfit scope sharing := by
  obtain ⟨unit, below, rfl⟩ := placed
  refine ⟨.ok unit, fun own => ?_⟩
  subst own
  exact noMisfit_counters enough ⟨unit, below, rfl⟩

/-- The settings of a cache may be missing or malformed, and that is up to the configuration. -/
theorem Geometry.noMisfit_ofConfig (config : Config) (core : Nat) (cache : CacheTuple) :
    NoMisfit (ofConfig config core cache) := by
  have latency : NoMisfit (latencyOf config core cache) := by
    unfold latencyOf
    split
    · exact config.noMisfit_read _ _ _
    · exact config.noMisfit_readOr _ _ _ _
  refine (config.noMisfit_readOr _ _ _ _).bind fun _ => ?_
  refine (config.noMisfit_readOr _ _ _ _).bind fun _ => ?_
  refine (config.noMisfit_readOr _ _ _ _).bind fun _ => ?_
  exact latency.bind fun _ => .ok _

/-- A list for which there is no room in words is not the template's fault. -/
theorem Geometry.noMisfit_fields (g : Geometry) (cache : CacheTuple) :
    NoMisfit (g.fields cache) := by
  have product (a b : Nat) : NoMisfit (wordProduct a b) := by
    unfold wordProduct
    split
    · exact .ok _
    · exact .fail rfl
  have latency : NoMisfit (g.listedLatency cache) := by
    cases cache with
    | dcache => exact product 10 g.latency
    | icache | l2 | l3 => exact .ok _
  exact (product g.kibibytes 1024).bind fun _ => latency.bind fun _ => .ok _

end Formulas

/-! ## Lines -/

theorem SplitLine.noMisfit_fillTail {α : Type} [Scalar α]
    (tail : List (Placeholder × List Char)) (values : List α) :
    NoMisfit (fillTail tail values) := by
  fun_induction fillTail tail values with
  | case1 p segment rest value values ih =>
    have text : NoMisfit (p.format value) := by
      cases p with
      | whole =>
        simp only [Placeholder.format]
        split
        · exact .ok _
        · exact .fail rfl
      | decimal => exact .ok _
    exact text.bind fun _ => ih.bind fun _ => .ok _
  | case2 => exact .ok []

/-- If there are as many values as placeholders, all that can go wrong is a value that is not
finite. -/
theorem noMisfit_substitute {α : Type} [Scalar α] {text : String} {values : List α}
    (filled : SplitLine.countOf text.toList = values.length) :
    NoMisfit (substitute text values) := by
  have same : (SplitLine.ofText text.toList).tail.length = values.length := by
    rw [← filled]
    simp [SplitLine.countOf, SplitLine.placeholders]
  refine NoMisfit.bind ?_ fun chars => .ok _
  rw [SplitLine.fill, if_pos same]
  exact (SplitLine.noMisfit_fillTail _ values).bind fun _ => .ok _

namespace Template

variable {α : Type} [Scalar α] {a : Activity α}

/-- What a binding comes to has as many values as its kind and name tell beforehand. -/
theorem length_values {binding : Binding} {rounded : Rounded} {vs : List α}
    (evaluated : (values a binding rounded).1 = .ok vs) :
    vs.length = binding.kind.valueCount binding.name := by
  -- A field and a statistic have one value each, a list has those of the cache's geometry.
  have single {result : Except Failure α} (one : result.map ([·]) = .ok vs) : vs.length = 1 := by
    cases result with
    | error failure => cases one
    | ok x =>
      cases one
      rfl
  obtain ⟨kind, name, scope⟩ := binding
  cases kind with
  | field => exact single evaluated
  | statistic => exact single evaluated
  | tuple =>
    simp only [values, Activity.tuple] at evaluated
    split at evaluated
    · cases evaluated
    · rename_i cache found
      split at evaluated
      · cases evaluated
      · obtain ⟨words, listed, rfl⟩ := map_eq_ok_iff.1 evaluated
        simp [BindingKind.valueCount, found, Geometry.length_fields listed]

section Values

variable {causes : Cause → Bool} (misfits : ∀ cause, causes cause = true → cause.isMisfit)

include misfits

/-- A field that exists fails for want of its settings only. -/
theorem avoids_field {name : String} (known : BindingKind.knows name .field = true)
    (config : Config) (scope : Scope) :
    Avoids causes (do (← Config.Field.ofName name).resolve config scope : Except Failure α) := by
  obtain ⟨field, found⟩ := Option.isSome_iff_exists.1 known
  refine .bind ?_ fun _ => (config.noMisfit_resolve scope _).avoids misfits
  rw [Config.Field.ofName, found]
  exact .ok field

/-- A binding to something that exists fails for a misfit only where it reads its scope. -/
theorem avoids_values {binding : Binding} (known : binding.kind.knows binding.name = true)
    (reached : ∀ sharing ∈ binding.kind.reads binding.name,
      a.Reaches causes binding.scope sharing) (rounded : Rounded) :
    Avoids causes (values a binding rounded).1 := by
  obtain ⟨kind, name, scope⟩ := binding
  cases kind with
  | field => exact (avoids_field misfits known a.config scope).map _
  | statistic =>
    obtain ⟨formula, found⟩ := Option.isSome_iff_exists.1 known
    simp only [BindingKind.reads, found, Option.map_some, Option.getD_some] at reached
    refine Avoids.map ?_ _
    rw [Activity.stat, found]
    exact formula.avoids_eval misfits reached
  | tuple =>
    obtain ⟨cache, found⟩ := Option.isSome_iff_exists.1 known
    have geometry : Avoids causes (a.geometry cache scope) :=
      (reached cache.sharing (by simp [BindingKind.reads, found])).1.bind fun core =>
        (Geometry.noMisfit_ofConfig a.config core cache).avoids misfits
    simp only [values, Activity.tuple, found]
    split
    · rename_i failure failed
      intro raised same
      cases same
      exact geometry failure failed
    · rename_i g _
      exact ((g.noMisfit_fields cache).avoids misfits).map _

end Values

/-- A binding that fits is known and has its units. -/
theorem noMisfit_values (enough : a.cores.length = a.hierarchy.cores) {text : String}
    {binding : Binding} (fits : binding.Fits a.hierarchy text) (rounded : Rounded) :
    NoMisfit (values a binding rounded).1 :=
  avoids_values (fun _ => id) fits.known
    (fun sharing read => reaches_of_placed enough (fits.placed sharing read)) rounded

/-- A line that fits has a value for each of its placeholders. -/
theorem noMisfit_renderEntry (enough : a.cores.length = a.hierarchy.cores) {entry : Entry}
    (fits : entry.Fits a.hierarchy) (rounded : Rounded) :
    NoMisfit (renderEntry a entry rounded).1 := by
  obtain ⟨text, _ | binding⟩ := entry
  · exact .ok text
  · refine ((noMisfit_values enough fits rounded).during _).bind_of_ok fun vs evaluated => ?_
    have length := length_values (during_eq_ok_iff.1 evaluated)
    exact (noMisfit_substitute (fits.filled.trans length.symm)).during _

/-- By induction on the lines: the first that fails is one that fits. -/
theorem noMisfit_render (enough : a.cores.length = a.hierarchy.cores) {template : Template}
    (fits : ∀ entry ∈ template, entry.Fits a.hierarchy) (rounded : Rounded) :
    NoMisfit (render a template rounded).1 := by
  induction template generalizing rounded with
  | nil => exact .ok []
  | cons entry rest ih =>
    obtain ⟨first, others⟩ := List.forall_mem_cons.1 fits
    have line := noMisfit_renderEntry enough first rounded
    unfold render
    split
    case h_1 failure _ failed =>
      intro raised same
      cases same
      exact line failure (by rw [failed])
    case h_2 text rounded _ => exact (ih others rounded).map _

/-- Whatever the hierarchy, the built-in layout fits its statistics: each line is bound to
something that exists, for as many values as it has placeholders, and for a core or bank
that there is. So a check accepts it, and when it is rendered for a run, values fill
their placeholders and the layout is never to blame for a failure. -/
theorem ofHierarchy_fits (h : Hierarchy) :
    (∀ entry ∈ ofHierarchy h, entry.Fits h) ∧
      (ofHierarchy h).validate = .ok () ∧
      ∀ (stats : Stats α) (config : Config) (options : Options α) (a : Activity α),
        Activity.ofRun stats config h options = .ok a → ∀ rounded,
          (∀ entry ∈ ofHierarchy h, ∀ binding, entry.binding = some binding →
            ∀ vs, (values a binding rounded).1 = .ok vs →
              SplitLine.countOf entry.text.toList = vs.length) ∧
          NoMisfit (render a (ofHierarchy h) rounded).1 := by
  have fits := fits_of_mem_ofHierarchy h
  have bindingFits {entry binding} (listed : entry ∈ ofHierarchy h)
      (bound : entry.binding = some binding) : binding.Fits h entry.text := by
    have entryFits := fits entry listed
    rwa [Entry.Fits, bound] at entryFits
  refine ⟨fits, ?checked, ?rendered⟩
  case checked =>
    have unknown : (ofHierarchy h).bindings.find? (fun binding =>
        !binding.kind.knows binding.name) = none := by
      refine List.find?_eq_none.2 fun binding member => ?_
      obtain ⟨entry, listed, bound⟩ := List.mem_filterMap.1 member
      simp [(bindingFits listed bound).known]
    rw [validate, unknown]
  case rendered =>
    intro stats config options a created rounded
    obtain ⟨cores, enough, rfl⟩ := Activity.ofRun_eq_ok created
    refine ⟨?_, noMisfit_render enough fits rounded⟩
    intro entry listed binding bound vs evaluated
    exact (bindingFits listed bound).filled.trans (length_values evaluated).symm

/-- The statistics of two cores that did nothing. -/
def idleRun : Stats Rat :=
  .ofList [
    ("fs_to_cycles_cores", .list [1, 1]),
    ("performance_model.instruction_count", .list [0, 0]),
    ("performance_model.elapsed_time", .list [0, 0]),
    ("global.time", .scalar 0)]

/-- Two cores with an L2 bank of their own each and one L3 bank. -/
def idleChip : Hierarchy where
  cores := 2
  technologyNode := 45
  l2Banks := 2
  privateL2s := true
  l2Sharing := 1
  l3Banks := 1
  l3Sharing := 2
  nucaLevel := none

/-- A run that has nothing but what an activity needs. -/
theorem ofHierarchy_fits_idleRun :
    ∃ a, Activity.ofRun idleRun ∅ idleChip {} = .ok a ∧
      NoMisfit (render a (ofHierarchy idleChip) ∅).1 := by
  have created : (Activity.ofRun idleRun ∅ idleChip {}).isOk = true := by decide +kernel
  cases run : Activity.ofRun idleRun ∅ idleChip {} with
  | error failure =>
    rw [run] at created
    cases created
  | ok a => exact ⟨a, rfl, ((ofHierarchy_fits idleChip).2.2 _ _ _ a run ∅).2⟩

end Template
end ChipPower
