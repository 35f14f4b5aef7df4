import ChipPower.Proofs.Text.Digits
import ChipPower.Template.Layout
import ChipPower.Template.Render

/-!
# What the built-in layout asks for

A bound line can be filled in if its name stands for something, if it has as many
placeholders as there are values, and if it is laid out for a unit that the chip has:
a formula that reads a counter of a core needs a core, and one that adds up what the
cores of a bank counted needs a bank. `Entry.Fits` says so for one line, and
`fits_of_mem_ofHierarchy` for all lines of the layout, however many cores and banks
there are.

The lines of a unit are checked once, before they are laid out for each unit of its
kind: `Line.known` for what they are bound to, `Line.Filled` for their placeholders.
-/

namespace ChipPower

/-! ## What is read -/

/-- How many units there are of a kind. -/
def Hierarchy.units (h : Hierarchy) : Sharing → Nat
  | .own => h.cores
  | .l2 => h.l2Banks
  | .l3 => h.l3Banks

/-- The units that a formula reads. Statistics of the whole system and of the network
belong to none. -/
def Formula.reads : Formula → List Sharing
  | .counter _ | .element _ | .elementOrZero _ | .aluDutyCycle => [.own]
  | .sum sharing _ | .sumOrZero sharing _ => [sharing]
  | .trunc f | .dutyCycle f | .timesFraction f | .ifPresent _ f => f.reads
  | .add f g | .sub f g | .mul f g | .withImplicit f g | .byPolicy f g | .byFraction f g =>
    f.reads ++ g.reads
  | .number .. | .maxCycles | .first _ | .network _ => []

namespace CacheTuple

/-- The units that a cache belongs to. -/
def sharing : CacheTuple → Sharing
  | .icache | .dcache => .own
  | .l2 => .l2
  | .l3 => .l3

/-- The length of a cache's list. -/
def fieldCount : CacheTuple → Nat
  | .icache | .dcache | .l2 => 8
  | .l3 => 7

end CacheTuple

/-- A list that evaluates has the length that its cache calls for. -/
theorem Geometry.length_fields {g : Geometry} {cache : CacheTuple} {words : List Nat}
    (listed : g.fields cache = .ok words) : words.length = cache.fieldCount := by
  obtain ⟨bytes, latency, -, -, rfl⟩ := fields_eq_ok_iff.1 listed
  cases cache <;> rfl

namespace BindingKind

/-- The units that something of a name reads. A field of the configuration looks for
the plain key where there is no unit. -/
def reads (name : String) : BindingKind → List Sharing
  | .field => []
  | .statistic => ((Statistics.formula? name).map Formula.reads).getD []
  | .tuple => ((CacheTuple.ofName? name).map CacheTuple.sharing).toList

/-- How many values something of a name has. -/
def valueCount (name : String) : BindingKind → Nat
  | .field | .statistic => 1
  | .tuple => ((CacheTuple.ofName? name).map CacheTuple.fieldCount).getD 0

end BindingKind

/-- How many placeholders a text has. -/
def SplitLine.countOf (text : List Char) : Nat :=
  (SplitLine.ofText text).placeholders.length

/-- What a text is bound to exists, fills its placeholders, and reads only the unit that
it is laid out for. -/
structure Binding.Fits (h : Hierarchy) (text : String) (binding : Binding) : Prop where
  known : binding.kind.knows binding.name = true
  filled : SplitLine.countOf text.toList = binding.kind.valueCount binding.name
  placed : ∀ sharing ∈ binding.kind.reads binding.name,
    ∃ unit < h.units sharing, binding.scope = .unit unit

/-- A line is bound to what fits it, or there is nothing to fill in. -/
def Entry.Fits (h : Hierarchy) (entry : Entry) : Prop :=
  match entry.binding with
  | none => SplitLine.countOf entry.text.toList = 0
  | some binding => binding.Fits h entry.text

/-! ## Texts without placeholders -/

/-- Without a percent sign there is no placeholder. -/
theorem SplitLine.countOf_of_not_mem {text : List Char} (plain : '%' ∉ text) :
    countOf text = 0 := by
  unfold countOf
  fun_induction ofText text with
  | case1 => rfl
  | case2 c => rfl
  | case3 d rest p letter ih => simp at plain
  | case4 d rest letter ih => simp at plain
  | case5 c d rest mark ih => exact ih fun member => plain (List.mem_cons_of_mem c member)

namespace Template

/-! ## Lines before they are laid out -/

namespace Line

/-- What a line is bound to exists and reads only allowed units. -/
def known (allowed : List Sharing) : Line → Bool
  | .literal _ | .numbered _ => true
  | .bound _ kind name => kind.knows name && (kind.reads name).all allowed.contains

/-- A line has a placeholder for each value. -/
inductive Filled : Line → Prop
  | literal {text : String} (plain : '%' ∉ text.toList) : Filled (.literal text)
  | numbered {pieces : List String} (plain : ∀ piece ∈ pieces, '%' ∉ piece.toList) :
    Filled (.numbered pieces)
  | bound {text : String} {kind : BindingKind} {name : String}
    (filled : SplitLine.countOf text.toList = kind.valueCount name) :
    Filled (.bound text kind name)

theorem known_literal (allowed : List Sharing) (text : String) :
    (literal text).known allowed = true := rfl

/-- A line that is known and filled fits the hierarchy in any scope in which all units that it
may read are there. -/
theorem fits_entry {line : Line} {allowed : List Sharing} (known : line.known allowed = true)
    (filled : line.Filled) {h : Hierarchy} {scope : Scope}
    (placed : ∀ sharing ∈ allowed, ∃ unit < h.units sharing, scope = .unit unit)
    (number : Nat) : (line.entry scope number).Fits h := by
  cases filled with
  | literal plain => exact SplitLine.countOf_of_not_mem plain
  | numbered plain =>
    rename_i pieces
    refine SplitLine.countOf_of_not_mem ?_
    show '%' ∉ (String.intercalate (toString number) pieces).toList
    rw [String.toList_intercalate]
    exact Text.not_mem_intercalate (by decide) number (List.forall_mem_map.2 plain)
  | bound filled =>
    simp only [Line.known, Bool.and_eq_true, List.all_eq_true, List.contains_iff_mem] at known
    exact ⟨known.1, filled, fun sharing member => placed sharing (known.2 sharing member)⟩

/-! The characters of a literal are at hand, while decoding them from a text takes long
to evaluate. So placeholders are counted in `String.ofList`, which literals are. -/

theorem filled_literal (text : List Char) (plain : '%' ∉ text) :
    (literal (String.ofList text)).Filled :=
  .literal (String.toList_ofList ▸ plain)

theorem filled_bound (text : List Char) {kind : BindingKind} {name : String}
    (filled : SplitLine.countOf text = kind.valueCount name) :
    (bound (String.ofList text) kind name).Filled :=
  .bound (String.toList_ofList ▸ filled)

theorem filled_count {before after : List Char} (plain : '%' ∉ before ∧ '%' ∉ after) (n : Nat) :
    (Layout.count (String.ofList before) n (String.ofList after)).Filled := by
  refine .literal ?_
  simp only [String.toList_append, String.toList_ofList, List.mem_append]
  rintro ((member | member) | member)
  · exact plain.1 member
  · exact Text.not_mem_toString (by decide) n member
  · exact plain.2 member

end Line

/-! ## The lines of the layout -/

open Layout

/-- The lines of a unit. -/
def Layout.linesOf : Sharing → List Line
  | .own => core
  | .l2 => l2Bank
  | .l3 => l3Bank

/-- The lines of a unit read nothing but that unit. -/
theorem known_linesOf (sharing : Sharing) :
    ∀ line ∈ linesOf sharing, line.known [sharing] = true :=
  List.all_eq_true.1 (by cases sharing <;> decide +kernel)

/-- The lines of the whole system are bound to nothing of a unit. -/
theorem known_system (h : Hierarchy) :
    (∀ line ∈ head h, line.known [] = true) ∧
      (∀ line ∈ divider ++ networkHead, line.known [] = true) ∧
      (∀ line ∈ networkDomain, line.known [] = true) ∧
      ∀ line ∈ network ++ memoryController ++ networkInterface ++ pcie ++ flash ++ foot,
        line.known [] = true := by
  have closed : ((divider ++ networkHead).all (Line.known []) &&
      networkDomain.all (Line.known []) &&
      (network ++ memoryController ++ networkInterface ++ pcie ++ flash ++ foot).all
        (Line.known [])) = true := by
    decide +kernel
  simp only [Bool.and_eq_true, List.all_eq_true] at closed
  refine ⟨?_, closed.1.1, closed.1.2, closed.2⟩
  -- The counts are those of `h`, so this list is not closed and is taken line by line.
  repeat'
    first
    | refine List.forall_mem_cons.2 ⟨?_, ?_⟩
    | exact List.forall_mem_nil _
    | exact Line.known_literal _ _
    | decide +kernel

set_option maxRecDepth 4000 in
/-- All lines of the layout have as many placeholders as they have values. -/
theorem filled_lines (h : Hierarchy) :
    (∀ line ∈ head h, line.Filled) ∧ (∀ line ∈ core, line.Filled) ∧
      (∀ line ∈ l2Bank, line.Filled) ∧ (∀ line ∈ l3Bank, line.Filled) ∧
      (∀ line ∈ divider ++ networkHead, line.Filled) ∧ (∀ line ∈ networkDomain, line.Filled) ∧
      ∀ line ∈ network ++ memoryController ++ networkInterface ++ pcie ++ flash ++ foot,
        line.Filled := by
  repeat'
    first
    | refine ⟨?_, ?_⟩
    | refine List.forall_mem_append.2 ⟨?_, ?_⟩
    | refine List.forall_mem_cons.2 ⟨?_, ?_⟩
    | exact List.forall_mem_nil _
    | exact Line.filled_literal _ (by decide +kernel)
    | exact Line.filled_bound _ (by decide +kernel)
    | exact Line.filled_count (by decide +kernel) _
    | exact .numbered (by decide +kernel)

section Entries

variable (h : Hierarchy)

/-- The lines of a kind of unit fit when they are laid out for each unit there is. -/
theorem fits_units {lines : List Line} (sharing : Sharing)
    (known : ∀ line ∈ lines, line.known [sharing] = true) (filled : ∀ line ∈ lines, line.Filled) :
    ∀ entry ∈ units lines (h.units sharing), entry.Fits h := by
  intro entry member
  obtain ⟨unit, below, member⟩ := List.mem_flatMap.1 member
  obtain ⟨line, listed, rfl⟩ := List.mem_map.1 member
  refine Line.fits_entry (known line listed) (filled line listed) ?_ unit
  intro other same
  obtain rfl := List.mem_singleton.1 same
  exact ⟨unit, List.mem_range.1 below, rfl⟩

/-- The lines of the whole system fit in whatever scope they stand. -/
theorem fits_map {lines : List Line} (scope : Scope)
    (known : ∀ line ∈ lines, line.known [] = true) (filled : ∀ line ∈ lines, line.Filled) :
    ∀ entry ∈ lines.map (Line.entry scope 0), entry.Fits h := by
  refine List.forall_mem_map.2 fun line member => ?_
  exact Line.fits_entry (known line member) (filled line member) (by simp) 0

/-- Every line of the built-in layout fits the hierarchy it is laid out for. -/
theorem fits_of_mem_ofHierarchy : ∀ entry ∈ ofHierarchy h, entry.Fits h := by
  obtain ⟨headFilled, coreFilled, l2Filled, l3Filled, networkFilled, domainFilled, restFilled⟩ :=
    filled_lines h
  obtain ⟨headKnown, networkKnown, domainKnown, restKnown⟩ := known_system h
  unfold ofHierarchy systemEntries
  refine List.forall_mem_append.2 ⟨List.forall_mem_append.2 ⟨List.forall_mem_append.2
    ⟨List.forall_mem_append.2 ⟨List.forall_mem_append.2 ⟨List.forall_mem_append.2
      ⟨?head, ?core⟩, ?l2⟩, ?l3⟩, ?network⟩, ?domain⟩, ?rest⟩
  case head => exact fits_map h .system headKnown headFilled
  case core => exact fits_units h .own (known_linesOf .own) coreFilled
  case l2 => exact fits_units h .l2 (known_linesOf .l2) l2Filled
  case l3 => exact fits_units h .l3 (known_linesOf .l3) l3Filled
  case network => exact fits_map h .system networkKnown networkFilled
  case domain => exact fits_map h (networkScope h) domainKnown domainFilled
  case rest => exact fits_map h .system restKnown restFilled

end Entries

end Template
end ChipPower
