import ChipPower.Proofs.Template.Layout

/-!
# What a core or bank counts is its own

A statistic of a core is computed from that core's elements, and one of a bank from those
of the cores that share it. So two runs that agree on these elements (`Stats.AgreeOn`) give
the same answer, whatever other cores counted and whatever a list holds past the last core.
Duty cycles are another matter: they relate to the highest cycle count of all cores.

* `Stats.AgreeOn.element`, `Stats.AgreeOn.sumFrom`: what the accessors find.
* `Activity.AgreeAt`: what two activities have in common for a unit. `Formula.eval_congr`
  goes by induction on the formula, for the formulas that do not read the whole system.
* `Template.stat_isolated` puts this together with what the lines of a unit are bound to.
-/

namespace ChipPower

/-- The range of the cores whose elements make up the value of a unit. -/
def Hierarchy.sharers (h : Hierarchy) : Sharing → Nat → Nat × Nat
  | .own, unit => (unit, unit + 1)
  | .l2, unit => h.l2Range unit
  | .l3, unit => h.l3Range unit

theorem Hierarchy.sharers_le_cores (h : Hierarchy) {sharing : Sharing} {unit : Nat}
    (inside : unit < h.units sharing) : (h.sharers sharing unit).2 ≤ h.cores := by
  cases sharing with
  | own => exact inside
  | l2 => exact Nat.min_le_right _ _
  | l3 => exact Nat.min_le_right _ _

/-! ## Elements in a range -/

namespace Stats

variable {α : Type}

/-- An element of a statistic, if there is one. -/
def element? (stats : Stats α) (name : String) (index : Nat) : Option α :=
  (stats.get? name).bind (·.get? index)

/-- Two runs have statistics of the same names, and for the cores of a range the same
elements of each, or none in either. -/
structure AgreeOn (range : Nat × Nat) (s t : Stats α) : Prop where
  names : ∀ name, Dict.contains s name = Dict.contains t name
  elements : ∀ name index, range.1 ≤ index → index < range.2 →
    s.element? name index = t.element? name index

/-- A statistic may take other values outside of a range. -/
theorem agreeOn_insert {range : Nat × Nat} {s : Stats α} {name : String} {old new : Value α}
    (found : s.get? name = some old)
    (same : ∀ index, range.1 ≤ index → index < range.2 → old.get? index = new.get? index) :
    s.AgreeOn range (s.insert name new) := by
  refine ⟨?names, ?elements⟩
  case names =>
    intro other
    unfold Dict.contains
    rw [Dict.get?_insert]
    split
    · rename_i eq
      rw [eq, found]
      rfl
    · rfl
  case elements =>
    intro other index above below
    unfold element?
    rw [Dict.get?_insert]
    split
    · rename_i eq
      rw [eq, found]
      exact same index above below
    · rfl

theorem element_eq (stats : Stats α) (name : String) (index : Nat) :
    stats.element name index =
      if stats.contains name then
        match stats.element? name index with
        | some x => .ok x
        | none => fail (.noElement name index)
      else fail (.missingStatistic name) := by
  unfold element require element? Dict.contains
  cases stats.get? name with
  | none => rfl
  | some value => cases value.get? index <;> rfl

namespace AgreeOn

variable {range : Nat × Nat} {s t : Stats α} (agree : s.AgreeOn range t)

include agree

theorem element {index : Nat} (above : range.1 ≤ index) (below : index < range.2)
    (name : String) : s.element name index = t.element name index := by
  rw [element_eq, element_eq, agree.names, agree.elements name index above below]

variable [Scalar α]

theorem elementOrZero {index : Nat} (above : range.1 ≤ index) (below : index < range.2)
    (name : String) : s.elementOrZero name index = t.elementOrZero name index := by
  unfold Stats.elementOrZero
  rw [agree.names, agree.element above below]

theorem sumFrom (name : String) (total : α) (index count : Nat) (above : range.1 ≤ index)
    (below : index + count ≤ range.2) :
    s.sumFrom name total index count = t.sumFrom name total index count := by
  induction count generalizing total index with
  | zero => rfl
  | succ count ih =>
    have here := agree.element above (by omega) name
    unfold Stats.sumFrom
    rw [here]
    cases t.element name index with
    | error failure => rfl
    | ok x => exact ih (total + x) (index + 1) (by omega) (by omega)

theorem sumOver (name : String) : s.sumOver name range = t.sumOver name range := by
  unfold Stats.sumOver
  rcases Nat.lt_or_ge range.1 range.2 with filled | empty
  · exact agree.sumFrom name _ range.1 _ (Nat.le_refl _) (by omega)
  · have none : range.2 - range.1 = 0 := by omega
    rw [none]
    rfl

theorem sumOverOrZero (name : String) :
    s.sumOverOrZero name range = t.sumOverOrZero name range := by
  unfold Stats.sumOverOrZero
  rw [agree.names, agree.sumOver]

theorem count {core : Nat} (above : range.1 ≤ core) (below : core < range.2) :
    MicroOp.count s core = MicroOp.count t core := by
  funext instructions op
  unfold MicroOp.count
  rw [agree.names, agree.names, agree.element above below, agree.element above below]

/-- The counters of a core come from its own elements and the time of the run. -/
theorem coreCounters {core : Nat} (above : range.1 ≤ core) (below : core < range.2) (time : α) :
    CoreCounters.ofStats s time core = CoreCounters.ofStats t time core := by
  unfold CoreCounters.ofStats
  rw [agree.element above below, agree.element above below, agree.element above below,
    agree.count above below]

end AgreeOn
end Stats

/-! ## Activities -/

namespace Activity

variable {α : Type} [Scalar α]

theorem stats_of_ofRun {stats : Stats α} {config : Config} {h : Hierarchy} {options : Options α}
    {a : Activity α} (created : ofRun stats config h options = .ok a) :
    a.stats = stats ∧ a.hierarchy = h ∧ a.options = options := by
  obtain ⟨cores, -, rfl⟩ := ofRun_eq_ok created
  exact ⟨rfl, rfl, rfl⟩

/-- Every core of an activity has the counters that its statistics come to. -/
theorem counters_of_ofRun {stats : Stats α} {config : Config} {h : Hierarchy}
    {options : Options α} {a : Activity α} (created : ofRun stats config h options = .ok a)
    {core : Nat} (below : core < h.cores) :
    ∃ time counters, stats.scalar "global.time" = .ok time ∧
      CoreCounters.ofStats stats time core = .ok counters ∧
      a.counters (.unit core) = .ok counters := by
  simp only [ofRun, bind_eq_ok_iff] at created
  obtain ⟨-, -, -, -, -, -, time, timed, cores, counted, same⟩ := created
  cases same
  have listed : (List.range h.cores)[core]? = some core := List.getElem?_range below
  obtain ⟨computed, found, eq⟩ := getElem?_of_mapM_eq_ok (during_eq_ok_iff.1 counted) listed
  refine ⟨time, computed, timed, eq, ?_⟩
  simp [Activity.counters, Activity.core, Scope.core?, found, bind, Except.bind, pure, Except.pure]

/-- What two activities have in common for a unit. Only cores have counters. -/
structure AgreeAt (sharing : Sharing) (unit : Nat) (a b : Activity α) : Prop where
  hierarchy : a.hierarchy = b.hierarchy
  options : a.options = b.options
  stats : a.stats.AgreeOn (a.hierarchy.sharers sharing unit) b.stats
  counters : sharing = .own → a.counters (.unit unit) = b.counters (.unit unit)

theorem agreeAt_of_ofRun {s t : Stats α} {config : Config} {h : Hierarchy} {options : Options α}
    {a b : Activity α} (first : ofRun s config h options = .ok a)
    (second : ofRun t config h options = .ok b) {sharing : Sharing} {unit : Nat}
    (inside : unit < h.units sharing)
    (time : sharing = .own → s.scalar "global.time" = t.scalar "global.time")
    (agree : s.AgreeOn (h.sharers sharing unit) t) : AgreeAt sharing unit a b := by
  obtain ⟨statsA, hierarchyA, optionsA⟩ := stats_of_ofRun first
  obtain ⟨statsB, hierarchyB, optionsB⟩ := stats_of_ofRun second
  refine ⟨hierarchyA.trans hierarchyB.symm, optionsA.trans optionsB.symm, ?_, ?_⟩
  · rw [statsA, statsB, hierarchyA]
    exact agree
  · intro own
    subst own
    obtain ⟨timeA, _, timedA, computedA, countersA⟩ := counters_of_ofRun first inside
    obtain ⟨timeB, _, timedB, computedB, countersB⟩ := counters_of_ofRun second inside
    have same : timeA = timeB := Except.ok.inj (timedA.symm.trans ((time rfl).trans timedB))
    rw [countersA, countersB, ← computedA, ← computedB, same]
    exact agree.coreCounters (Nat.le_refl unit) (Nat.lt_succ_self unit) timeB

omit [Scalar α] in
theorem sharers_unit (a : Activity α) (sharing : Sharing) (unit : Nat) :
    a.sharers sharing (.unit unit) = .ok (a.hierarchy.sharers sharing unit) := by
  cases sharing <;> rfl

end Activity

/-! ## Formulas -/

/-- Whether a formula reads what belongs to the whole system: the highest cycle count of
all cores, the network, or a statistic of the system. -/
def Formula.readsSystem : Formula → Bool
  | .maxCycles | .dutyCycle _ | .aluDutyCycle | .first _ | .network _ => true
  | .trunc f | .timesFraction f | .ifPresent _ f => f.readsSystem
  | .add f g | .sub f g | .mul f g | .withImplicit f g | .byPolicy f g | .byFraction f g =>
    f.readsSystem || g.readsSystem
  | .number .. | .counter _ | .element _ | .elementOrZero _ | .sum .. | .sumOrZero .. => false

/-- A formula that reads only the elements of a unit has one answer in activities that
agree on them. -/
theorem Formula.eval_congr {α : Type} [Scalar α] {sharing : Sharing} {unit : Nat}
    {a b : Activity α} (agree : Activity.AgreeAt sharing unit a b) (f : Formula)
    (own : ∀ other ∈ f.reads, other = sharing) (apart : f.readsSystem = false) :
    f.eval a (.unit unit) = f.eval b (.unit unit) := by
  have options := agree.options
  -- the element of a core is that of its unit, and sums go over the unit's range
  have above (same : sharing = .own) : (a.hierarchy.sharers sharing unit).1 ≤ unit := by
    rw [same]
    exact Nat.le_refl unit
  have below (same : sharing = .own) : unit < (a.hierarchy.sharers sharing unit).2 := by
    rw [same]
    exact Nat.lt_succ_self unit
  have element (name : String) (same : sharing = .own) :
      a.stats.element name unit = b.stats.element name unit :=
    agree.stats.element (above same) (below same) name
  induction f with
  | number | maxCycles | first | network | dutyCycle | aluDutyCycle => first | rfl | cases apart
  | counter c =>
    have same : sharing = .own := (own .own (by simp [reads])).symm
    unfold eval
    rw [agree.counters same]
  | element name => exact element name (own .own (by simp [reads])).symm
  | elementOrZero name =>
    have same : sharing = .own := (own .own (by simp [reads])).symm
    exact agree.stats.elementOrZero (above same) (below same) name
  | sum other name =>
    obtain rfl := own other (by simp [reads])
    unfold eval
    rw [a.sharers_unit, b.sharers_unit, ← agree.hierarchy]
    exact agree.stats.sumOver name
  | sumOrZero other name =>
    obtain rfl := own other (by simp [reads])
    unfold eval
    rw [a.sharers_unit, b.sharers_unit, ← agree.hierarchy]
    exact agree.stats.sumOverOrZero name
  | trunc f ih =>
    unfold eval
    rw [ih own apart]
  | timesFraction f ih =>
    unfold eval
    rw [ih own apart, options]
  | ifPresent name f ih =>
    unfold eval
    rw [ih own apart, agree.stats.names]
  | add f g ihf ihg | sub f g ihf ihg | mul f g ihf ihg =>
    obtain ⟨ownF, ownG⟩ := List.forall_mem_append.1 own
    obtain ⟨apartF, apartG⟩ := Bool.or_eq_false_iff.1 apart
    unfold eval
    rw [ihf ownF apartF, ihg ownG apartG]
  | withImplicit f g ihf ihg | byPolicy f g ihf ihg | byFraction f g ihf ihg =>
    obtain ⟨ownF, ownG⟩ := List.forall_mem_append.1 own
    obtain ⟨apartF, apartG⟩ := Bool.or_eq_false_iff.1 apart
    unfold eval
    rw [ihf ownF apartF, ihg ownG apartG, options]

/-! ## The lines of a unit -/

namespace Template

open Layout

/-- The statistic that a line is bound to. -/
def Line.statistic? : Line → Option String
  | .bound _ .statistic name => some name
  | _ => none

/-- The statistics of a unit of the built-in layout. -/
def Layout.statisticsOf (sharing : Sharing) : List String :=
  (linesOf sharing).filterMap Line.statistic?

/-- Whether a statistic is a duty cycle, by its name. -/
def IsDutyCycle (name : String) : Prop :=
  "duty_cycle".toList <:+ name.toList

instance : DecidablePred IsDutyCycle := fun name =>
  inferInstanceAs (Decidable ("duty_cycle".toList <:+ name.toList))

/-- A statistic of a unit has a formula that reads no other unit. -/
theorem formula_of_mem_statisticsOf {sharing : Sharing} {name : String}
    (listed : name ∈ statisticsOf sharing) :
    ∃ f, Statistics.formula? name = some f ∧ ∀ other ∈ f.reads, other = sharing := by
  obtain ⟨line, member, bound⟩ := List.mem_filterMap.1 listed
  have known := known_linesOf sharing line member
  unfold Line.statistic? at bound
  split at bound
  · cases bound
    simp only [Line.known, BindingKind.knows, BindingKind.reads, Bool.and_eq_true,
      List.all_eq_true, List.contains_iff_mem, List.mem_singleton] at known
    obtain ⟨f, found⟩ := Option.isSome_iff_exists.1 known.1
    refine ⟨f, found, ?_⟩
    rw [found] at known
    exact known.2
  · cases bound

/-- The statistics of a unit that read the whole system are the duty cycles. -/
theorem isDutyCycle_iff (sharing : Sharing) :
    ∀ name ∈ statisticsOf sharing,
      IsDutyCycle name ↔ (Statistics.formula? name).any Formula.readsSystem = true := by
  cases sharing <;> decide +kernel

variable {α : Type} [Scalar α] {s t : Stats α} {config : Config} {h : Hierarchy}
  {options : Options α} {a b : Activity α}

/-- The statistics that the built-in layout has for a core or bank, duty cycles apart, are
the same in two runs that agree on the elements of its cores, which all are cores of the
chip. The duty cycles are those that read the whole system. -/
theorem stat_isolated (first : Activity.ofRun s config h options = .ok a)
    (second : Activity.ofRun t config h options = .ok b) {sharing : Sharing} {unit : Nat}
    (inside : unit < h.units sharing)
    (time : sharing = .own → s.scalar "global.time" = t.scalar "global.time")
    (agree : s.AgreeOn (h.sharers sharing unit) t) :
    (h.sharers sharing unit).2 ≤ h.cores ∧
      ∀ name ∈ statisticsOf sharing,
        (IsDutyCycle name ↔ (Statistics.formula? name).any Formula.readsSystem = true) ∧
          (¬ IsDutyCycle name → a.stat name (.unit unit) = b.stat name (.unit unit)) := by
  refine ⟨h.sharers_le_cores inside, ?_⟩
  intro name listed
  have system := isDutyCycle_iff sharing name listed
  refine ⟨system, ?_⟩
  intro plain
  obtain ⟨f, found, own⟩ := formula_of_mem_statisticsOf listed
  have apart : f.readsSystem = false := by
    rw [system, found] at plain
    exact Bool.eq_false_iff.2 plain
  unfold Activity.stat
  rw [found]
  exact f.eval_congr (Activity.agreeAt_of_ofRun first second inside time agree) own apart

/-- Four cores, of which two at a time share an L2 bank. -/
def pairedChip : Hierarchy where
  cores := 4
  technologyNode := 45
  l2Banks := 2
  privateL2s := false
  l2Sharing := 2
  l3Banks := 0
  l3Sharing := 0
  nucaLevel := none

/-- Four cores that loaded from the L2. -/
def pairedRun : Stats Rat :=
  .ofList [
    ("fs_to_cycles_cores", .list [1, 1, 1, 1]),
    ("performance_model.instruction_count", .list [0, 0, 0, 0]),
    ("performance_model.elapsed_time", .list [0, 0, 0, 0]),
    ("global.time", .scalar 0),
    ("L2.loads", .list [1, 2, 3, 4])]

/-- What the first two cores loaded, and an element past the last core, are nothing to the
second bank. -/
theorem stat_isolated_secondBank :
    ∃ a b, Activity.ofRun pairedRun ∅ pairedChip {} = .ok a ∧
      Activity.ofRun (pairedRun.insert "L2.loads" (.list [10, 20, 3, 4, 50])) ∅ pairedChip {} =
        .ok b ∧
      a.stat "L2.read_accesses" (.unit 1) = b.stat "L2.read_accesses" (.unit 1) := by
  have firstCreated : (Activity.ofRun pairedRun ∅ pairedChip {}).isOk = true := by
    decide +kernel
  have secondCreated : (Activity.ofRun (pairedRun.insert "L2.loads" (.list [10, 20, 3, 4, 50]))
      ∅ pairedChip {}).isOk = true := by
    decide +kernel
  obtain ⟨a, first⟩ := isOk_iff.1 firstCreated
  obtain ⟨b, second⟩ := isOk_iff.1 secondCreated
  have agree : pairedRun.AgreeOn (pairedChip.sharers .l2 1)
      (pairedRun.insert "L2.loads" (.list [10, 20, 3, 4, 50])) := by
    have loaded : pairedRun.get? "L2.loads" = some (.list [1, 2, 3, 4]) := by decide +kernel
    refine Stats.agreeOn_insert loaded ?_
    intro index above below
    have range : pairedChip.sharers .l2 1 = (2, 4) := by decide
    rw [range] at above below
    have cases : index = 2 ∨ index = 3 := by omega
    rcases cases with rfl | rfl <;> rfl
  refine ⟨a, b, first, second, ?_⟩
  exact ((stat_isolated first second (by decide) (by intro own; cases own) agree).2
    "L2.read_accesses" (by decide +kernel)).2 (by decide +kernel)

end Template
end ChipPower
