import ChipPower.Stack.Data
import Mathlib.Data.List.Forall2

/-!
# The labels of a stack's data

The labels are gathered over all items of all units, one after the other, and only a label
that is not there yet is added. What such a walk keeps is that its labels are those of the
items met so far, each once, in the order in which they first appeared
(`FirstAppearances`). The values of a unit are set item by item under their labels, so that
of several items with one label the last one counts (`IsLast`).

`StackData.ofStack_labels` puts both together: the labels are exactly those under which some
unit has a value.
-/

namespace ChipPower

namespace StackData

/-! ## The walk over the items -/

/-- `FirstAppearances met labels`: the labels are those that were met, in the order in which
they first appeared. -/
structure FirstAppearances (met labels : List String) : Prop where
  mem_iff : ∀ label, label ∈ labels ↔ label ∈ met
  ordered : labels.Pairwise fun first later => met.idxOf first < met.idxOf later

namespace FirstAppearances

variable {met labels : List String}

theorem empty : FirstAppearances [] [] where
  mem_iff _ := .rfl
  ordered := .nil

/-- Labels that first appear one after the other are different. -/
theorem nodup (appeared : FirstAppearances met labels) : labels.Nodup :=
  appeared.ordered.imp fun before same => Nat.ne_of_lt before (congrArg met.idxOf same)

/-- One more label that is met goes to the end, unless it was met before. -/
theorem addLabel (appeared : FirstAppearances met labels) (label : String) :
    FirstAppearances (met ++ [label]) (addLabel labels label) := by
  have kept : labels.Pairwise fun first later =>
      (met ++ [label]).idxOf first < (met ++ [label]).idxOf later := by
    refine appeared.ordered.imp_of_mem fun {first later} listed other before => ?_
    rwa [List.idxOf_append_of_mem ((appeared.mem_iff first).1 listed),
      List.idxOf_append_of_mem ((appeared.mem_iff later).1 other)]
  unfold StackData.addLabel
  split
  · rename_i listed
    refine ⟨fun other => ?_, kept⟩
    rw [List.mem_append, List.mem_singleton, ← appeared.mem_iff other]
    constructor
    · exact .inl
    · rintro (before | rfl)
      · exact before
      · exact listed
  · rename_i isNew
    have unmet : label ∉ met := fun member => isNew ((appeared.mem_iff label).2 member)
    refine ⟨fun other => ?_, List.pairwise_append.2 ⟨kept, List.pairwise_singleton _ _, ?_⟩⟩
    · rw [List.mem_append, List.mem_append, appeared.mem_iff]
    · intro first listed later last
      obtain rfl := List.mem_singleton.1 last
      have before : first ∈ met := (appeared.mem_iff first).1 listed
      rw [List.idxOf_append_of_mem before, List.idxOf_append_of_notMem unmet]
      exact Nat.lt_add_right _ (List.idxOf_lt_length_of_mem before)

/-- What one label keeps, a whole walk keeps. -/
theorem foldl (appeared : FirstAppearances met labels) (others : List String) :
    FirstAppearances (met ++ others) (others.foldl StackData.addLabel labels) := by
  induction others generalizing met labels with
  | nil => rwa [List.append_nil]
  | cons label others ih =>
    rw [List.foldl_cons, List.append_cons]
    exact ih (appeared.addLabel label)

end FirstAppearances

/-! ## The values of a unit -/

section Values

variable {α : Type}

/-- `IsLast items item`: an item of a list has no other of its label behind it. -/
def IsLast (items : List (StackItem α)) (item : StackItem α) : Prop :=
  ∃ before after, items = before ++ item :: after ∧ ∀ other ∈ after, other.label ≠ item.label

/-- Of the items with a label one is the last. -/
theorem exists_isLast {items : List (StackItem α)} {item : StackItem α} (listed : item ∈ items) :
    ∃ last, IsLast items last ∧ last.label = item.label := by
  induction items generalizing item with
  | nil => cases listed
  | cons first rest ih =>
    by_cases again : ∃ other ∈ rest, other.label = item.label
    · obtain ⟨other, later, same⟩ := again
      obtain ⟨last, ⟨before, after, rfl, none⟩, label⟩ := ih later
      exact ⟨last, ⟨first :: before, after, rfl, none⟩, label.trans same⟩
    · rcases List.mem_cons.1 listed with rfl | later
      · exact ⟨item, ⟨[], rest, rfl, fun other member same => again ⟨other, member, same⟩⟩, rfl⟩
      · exact absurd ⟨item, later, rfl⟩ again

variable [Scalar α]

/-- `ValuesOf lens seconds unit values`: there are values under exactly the labels of a unit's
items, and under each that of the last item, times the seconds unless it is an area. -/
structure ValuesOf (lens : Lens) (seconds : α) (unit : StackUnit α) (values : Dict String α) :
    Prop where
  labels : ∀ label, values.contains label = true ↔ label ∈ unit.items.map (·.label)
  last : ∀ item, IsLast unit.items item → values.get? item.label =
    some (if lens = .area then item.value else item.value * seconds)

/-- The items before are set first, and those behind have other labels. -/
theorem get?_unitData_of_isLast {lens : Lens} {seconds : α} {unit : StackUnit α}
    {item : StackItem α} (last : IsLast unit.items item) :
    (unitData lens seconds unit).get? item.label = some (quantity lens seconds item) := by
  obtain ⟨before, after, items, none⟩ := last
  have later : Dict.find item.label
      (after.map fun item => (item.label, quantity lens seconds item)).reverse = .none := by
    refine Dict.find_eq_none_of_not_mem fun member => ?_
    rw [List.map_reverse, List.mem_reverse, List.map_map] at member
    obtain ⟨other, behind, same⟩ := List.mem_map.1 member
    exact none other behind same
  rw [unitData, Dict.get?_ofList, items, List.map_append, List.map_cons, List.reverse_append,
    List.reverse_cons, List.append_assoc, Dict.find_append, later]
  exact Dict.find_self _ _ _

/-- What is set for a unit, item by item, are the values of its items. -/
theorem valuesOf_unitData (lens : Lens) (seconds : α) (unit : StackUnit α) :
    ValuesOf lens seconds unit (unitData lens seconds unit) where
  last _ last := get?_unitData_of_isLast last
  labels label := by
    constructor
    · intro kept
      by_contra absent
      have missing : (unitData lens seconds unit).get? label = none := by
        refine Dict.get?_insertAll_of_not_mem .empty ?_
        rwa [List.map_map]
      rw [Dict.contains, missing] at kept
      cases kept
    · intro listed
      obtain ⟨item, member, rfl⟩ := List.mem_map.1 listed
      obtain ⟨last, isLast, same⟩ := exists_isLast member
      rw [← same, Dict.contains, get?_unitData_of_isLast isLast]
      rfl

end Values

/-! ## The data of a stack -/

/-- The labels of a stack's items, in the order of its units and their items. -/
def itemLabels {α : Type} (stack : PowerStack α) : List String :=
  stack.units.flatMap fun unit => unit.items.map (·.label)

/-- Whatever the units of a stack and the labels of their items are, its data list every label
once, in the order in which they first appear. These are exactly the labels under which some
unit has a value, and each unit has those of its items, with the value of the last item. -/
theorem ofStack_labels {α : Type} [Scalar α] (stack : PowerStack α) (cores : Nat) (seconds : α) :
    (ofStack stack cores seconds).labels.Nodup ∧
      FirstAppearances (itemLabels stack) (ofStack stack cores seconds).labels ∧
      (∀ label, label ∈ (ofStack stack cores seconds).labels ↔
        ∃ values ∈ (ofStack stack cores seconds).units, values.contains label = true) ∧
      List.Forall₂ (ValuesOf stack.lens seconds) stack.units
        (ofStack stack cores seconds).units := by
  have appeared : FirstAppearances (itemLabels stack) (ofStack stack cores seconds).labels := by
    simpa [itemLabels, ofStack, List.map_flatMap] using
      FirstAppearances.empty.foldl (itemLabels stack)
  have values : List.Forall₂ (ValuesOf stack.lens seconds) stack.units
      (stack.units.map (unitData stack.lens seconds)) :=
    List.forall₂_map_right_iff.2
      (List.forall₂_same.2 fun unit _ => valuesOf_unitData stack.lens seconds unit)
  refine ⟨appeared.nodup, appeared, fun label => ?_, values⟩
  rw [appeared.mem_iff]
  constructor
  · intro met
    obtain ⟨unit, listed, inside⟩ := List.mem_flatMap.1 met
    exact ⟨unitData stack.lens seconds unit, List.mem_map_of_mem listed,
      ((valuesOf_unitData stack.lens seconds unit).labels label).2 inside⟩
  · rintro ⟨_, listed, kept⟩
    obtain ⟨unit, member, rfl⟩ := List.mem_map.1 listed
    exact List.mem_flatMap.2
      ⟨unit, member, ((valuesOf_unitData stack.lens seconds unit).labels label).1 kept⟩

/-- Two units that have a label in common, which the first of them lists twice. -/
example :
    let units : List (StackUnit Rat) := [
      ⟨∅, [⟨"l2", 1⟩, ⟨"noc", 2⟩, ⟨"l2", 3⟩], 6, 0, 1⟩,
      ⟨∅, [⟨"dram", 5⟩, ⟨"l2", 4⟩], 9, 0, 1⟩]
    let data := ofStack ⟨.total, units⟩ 2 10
    data.labels = ["l2", "noc", "dram"] ∧
      data.units.map (·.toList) = [[("l2", 30), ("noc", 20)], [("dram", 50), ("l2", 40)]] := by
  cbv

end StackData

end ChipPower
