import ChipPower.Proofs.Template.Markup
import Mathlib.Data.List.Nodup

/-!
# The components of the built-in layout

A scan of the layout goes one level down at each tag that opens a component and back up at
each that closes one (`Markup.nest`). A core or bank comes back to the level it started at,
whatever level that was, so any number of them does, and the whole layout ends where it
began.

The ids of the components fall into families by what they start with: those of the cores,
those of the banks of each level, and the others. Within a family they are told apart by
their number, which no two units share, and by the part of the unit.
-/

namespace ChipPower

/-! ## Levels of a scan -/

namespace Markup

def isOpening : Markup → Bool
  | .opens _ => true
  | _ => false

def isClosing : Markup → Bool
  | .closes => true
  | _ => false

@[simp] theorem countP_isOpening_opens (id : Option (List Char)) (rest : List Markup) :
    (opens id :: rest).countP isOpening = rest.countP isOpening + 1 :=
  List.countP_cons_of_pos rfl

@[simp] theorem countP_isClosing_opens (id : Option (List Char)) (rest : List Markup) :
    (opens id :: rest).countP isClosing = rest.countP isClosing :=
  List.countP_cons_of_neg Bool.false_ne_true

@[simp] theorem countP_isOpening_closes (rest : List Markup) :
    (closes :: rest).countP isOpening = rest.countP isOpening :=
  List.countP_cons_of_neg Bool.false_ne_true

@[simp] theorem countP_isClosing_closes (rest : List Markup) :
    (closes :: rest).countP isClosing = rest.countP isClosing + 1 :=
  List.countP_cons_of_pos rfl

/-- The level that a scan ends at, if it never closes more than was opened. -/
def nest : Nat → List Markup → Option Nat
  | level, [] => some level
  | level, .opens _ :: rest => nest (level + 1) rest
  | level, .sets _ _ :: rest => nest level rest
  | 0, .closes :: _ => none
  | level + 1, .closes :: rest => nest level rest

/-- A scan goes on at the level that it has reached. -/
theorem nest_append (level : Nat) (front back : List Markup) :
    nest level (front ++ back) = (nest level front).bind fun inner => nest inner back := by
  fun_induction nest level front with
  | case1 level => rfl
  | case2 level id rest ih => exact ih
  | case3 level name value rest ih => exact ih
  | case4 rest => rfl
  | case5 level rest ih => exact ih

/-- What keeps the level can be repeated. -/
theorem nest_flatMap {ι : Type} {units : ι → List Markup}
    (kept : ∀ level unit, nest level (units unit) = some level) (level : Nat) (list : List ι) :
    nest level (list.flatMap units) = some level := by
  induction list with
  | nil => rfl
  | cons unit list ih =>
    rw [List.flatMap_cons, nest_append, kept, Option.bind_some, ih]

/-- A scan that starts at a level never closes more than was opened. -/
def StaysAbove (level : Nat) (list : List Markup) : Prop :=
  ∀ front, front <+: list → front.countP isClosing ≤ level + front.countP isOpening

/-- It is enough to look at what begins with the first mark. -/
theorem staysAbove_cons {level : Nat} {first : Markup} {rest : List Markup}
    (inside : ∀ inner, inner <+: rest →
      (first :: inner).countP isClosing ≤ level + (first :: inner).countP isOpening) :
    StaysAbove level (first :: rest) := by
  intro front ahead
  rcases List.prefix_cons_iff.1 ahead with rfl | ⟨inner, rfl, shorter⟩
  · exact Nat.zero_le _
  · exact inside inner shorter

/-- The levels of a scan count what was opened and not closed since. -/
theorem staysAbove_of_nest {level last : Nat} {list : List Markup}
    (nested : nest level list = some last) :
    StaysAbove level list ∧
      level + list.countP isOpening = last + list.countP isClosing := by
  fun_induction nest level list with
  | case1 level =>
    cases nested
    refine ⟨?_, rfl⟩
    intro front ahead
    rw [List.prefix_nil.1 ahead]
    exact Nat.zero_le _
  | case2 level id rest ih =>
    obtain ⟨inside, total⟩ := ih nested
    refine ⟨staysAbove_cons ?_, ?_⟩
    · intro inner shorter
      have bound := inside inner shorter
      simp only [countP_isOpening_opens, countP_isClosing_opens]
      omega
    · simp only [countP_isOpening_opens, countP_isClosing_opens]
      omega
  | case3 level name value rest ih =>
    obtain ⟨inside, total⟩ := ih nested
    refine ⟨staysAbove_cons ?_, ?_⟩
    · intro inner shorter
      exact inside inner shorter
    · exact total
  | case4 rest => cases nested
  | case5 level rest ih =>
    obtain ⟨inside, total⟩ := ih nested
    refine ⟨staysAbove_cons ?_, ?_⟩
    · intro inner shorter
      have bound := inside inner shorter
      simp only [countP_isOpening_closes, countP_isClosing_closes]
      omega
    · simp only [countP_isOpening_closes, countP_isClosing_closes]
      omega

/-- The id of the component that a tag opens. -/
def id? : Markup → Option (List Char)
  | .opens id => id
  | _ => none

/-- The value of a parameter, if it is the one of a name. -/
def value? (name : List Char) : Markup → Option (List Char)
  | .sets other value => if other = name then some value else none
  | _ => none

end Markup

namespace Template

open Layout

/-! ## What templates say about components -/

/-- The ids of the components of a template. -/
def ids (template : Template) : List (List Char) :=
  template.markup.filterMap Markup.id?

/-- The values that a template gives to a parameter. -/
def params (name : List Char) (template : Template) : List (List Char) :=
  template.markup.filterMap (Markup.value? name)

/-- A template of components inside of components. -/
structure Nested (template : Template) : Prop where
  /-- No line has more than one tag or count. -/
  single : ∀ entry ∈ template, (entry.markup.filter isStructural).length ≤ 1
  /-- At no point more was closed than opened. -/
  inside : ∀ front, front <+: template.markup →
    front.countP Markup.isClosing ≤ front.countP Markup.isOpening
  closed : template.markup.countP Markup.isOpening = template.markup.countP Markup.isClosing
  identified : Markup.opens none ∉ template.markup
  distinct : template.ids.Nodup

/-! Only structural markup counts for any of this. -/

/-- Parameters leave the level as it is. -/
theorem nest_filter (level : Nat) (list : List Markup) :
    Markup.nest level (list.filter isStructural) = Markup.nest level list := by
  fun_induction Markup.nest level list with
  | case1 level => rfl
  | case2 level id rest ih => exact ih
  | case3 level name value rest ih =>
    rw [List.filter_cons]
    split
    · exact ih
    · exact ih
  | case4 rest => rfl
  | case5 level rest ih => exact ih

theorem filterMap_filter {β : Type} {f : Markup → Option β}
    (nothing : ∀ markup, isStructural markup = false → f markup = none) (list : List Markup) :
    (list.filter isStructural).filterMap f = list.filterMap f := by
  rw [List.filterMap_filter]
  congr 1
  funext markup
  cases structural : isStructural markup with
  | true => rfl
  | false => exact (nothing markup structural).symm

theorem ids_eq (template : Template) :
    template.ids = (template.markup.filter isStructural).filterMap Markup.id? := by
  refine (filterMap_filter ?_ _).symm
  intro markup plain
  cases markup with
  | opens id => cases plain
  | closes => cases plain
  | sets name value => rfl

theorem params_eq {name : List Char} (interesting : name ∈ counted) (template : Template) :
    template.params name = (template.markup.filter isStructural).filterMap (Markup.value? name) := by
  refine (filterMap_filter ?_ _).symm
  intro markup plain
  cases markup with
  | opens id => rfl
  | closes => rfl
  | sets other value =>
    refine if_neg ?_
    rintro rfl
    exact Bool.eq_false_iff.1 plain (List.contains_iff_mem.2 interesting)

/-! ## The marks of the layout -/

/-- What the ids of units start with. -/
def stem : Sharing → String
  | .own => "system.core"
  | .l2 => "system.L2"
  | .l3 => "system.L3"

def stemSpelled : (sharing : Sharing) → Text.Spelled (stem sharing)
  | .own => ⟨_, rfl⟩
  | .l2 => ⟨_, rfl⟩
  | .l3 => ⟨_, rfl⟩

/-- The parts of a unit, by what their ids end in. Only cores have parts. -/
def parts : Sharing → List (List Char)
  | .own => [
    (⟨_, rfl⟩ : Text.Spelled ".predictor").chars,
    (⟨_, rfl⟩ : Text.Spelled ".itlb").chars,
    (⟨_, rfl⟩ : Text.Spelled ".icache").chars,
    (⟨_, rfl⟩ : Text.Spelled ".dtlb").chars,
    (⟨_, rfl⟩ : Text.Spelled ".dcache").chars,
    (⟨_, rfl⟩ : Text.Spelled ".BTB").chars]
  | .l2 | .l3 => []

/-- What opens before the cores and stays open behind the banks. -/
def headIds : List (List Char) := [
  (⟨_, rfl⟩ : Text.Spelled "root").chars,
  (⟨_, rfl⟩ : Text.Spelled "system").chars]

/-- What stands behind the banks, each closed again at once. -/
def restIds : List (List Char) := [
  (⟨_, rfl⟩ : Text.Spelled "system.NoC0").chars,
  (⟨_, rfl⟩ : Text.Spelled "system.mc").chars,
  (⟨_, rfl⟩ : Text.Spelled "system.niu").chars,
  (⟨_, rfl⟩ : Text.Spelled "system.pcie").chars,
  (⟨_, rfl⟩ : Text.Spelled "system.flashc").chars]

/-- A unit has its parts inside. -/
def unitMarks (sharing : Sharing) : List Mark :=
  .opens (stemSpelled sharing).chars [] ::
    (parts sharing).flatMap (fun part => [.opens (stemSpelled sharing).chars part, .closes]) ++
    [.closes]

/-- The document and the system open, and the system tells how many units there are. -/
def headMarks (h : Hierarchy) : List Mark :=
  headIds.map .names ++ [.counts .own h.cores, .counts .l2 h.l2Banks, .counts .l3 h.l3Banks]

/-- What comes after the banks, with the end of the system and that of the document. -/
def restMarks : List Mark :=
  restIds.flatMap (fun id => [.names id, .closes]) ++ [.closes, .closes]

set_option maxRecDepth 4000 in
/-- What the lines of the layout leave, part by part, looked up line by line. -/
theorem writes_lines (h : Hierarchy) :
    Writes (head h) (headMarks h) ∧ Writes core (unitMarks .own) ∧
      Writes l2Bank (unitMarks .l2) ∧ Writes l3Bank (unitMarks .l3) ∧
      Writes (divider ++ networkHead) (restMarks.take 1) ∧ Writes networkDomain [] ∧
      Writes (network ++ memoryController ++ networkInterface ++ pcie ++ flash ++ foot)
        (restMarks.drop 1) := by
  repeat'
    first
    | refine ⟨?_, ?_⟩
    | exact .nil
    | refine .skip (.literal _ (by decide +kernel)) ?_
    | refine .skip (.bound _ (by decide +kernel)) ?_
    | refine .mark (.closes _ (by decide +kernel)) ?_
    | refine .mark (.names _ _ (by decide +kernel)) ?_
    | refine .mark (.opens _ _ _ _ _ (by decide +kernel) (by decide +kernel) (by decide +kernel)) ?_
    | refine .mark (.counts _ _ _ _ (by decide +kernel) (by decide +kernel) (by decide +kernel)) ?_
    | refine .skip (.other _ _ _ _ rfl (by decide +kernel) (by decide +kernel)) ?_

/-! ## The layout of a hierarchy -/

/-- The structural markup of units that are numbered from zero. -/
def unitsMarkup (h : Hierarchy) (sharing : Sharing) : List Markup :=
  (List.range (h.units sharing)).flatMap fun number =>
    (unitMarks sharing).map (Mark.markup number)

/-- The structural markup of the layout for a hierarchy. -/
def skeleton (h : Hierarchy) : List Markup :=
  (headMarks h).map (Mark.markup 0) ++ unitsMarkup h .own ++ unitsMarkup h .l2 ++
    unitsMarkup h .l3 ++ restMarks.map (Mark.markup 0)

theorem filter_markup_append (first second : Template) :
    (markup (first ++ second)).filter isStructural =
      (markup first).filter isStructural ++ (markup second).filter isStructural := by
  rw [markup, List.flatMap_append, List.filter_append, markup, markup]

/-- Units are laid out one behind the other, each with its number. -/
theorem filter_markup_units {lines : List Line} {marks : List Mark} (writes : Writes lines marks)
    (count : Nat) :
    (markup (units lines count)).filter isStructural =
      (List.range count).flatMap fun number => marks.map (Mark.markup number) := by
  rw [markup, units, List.flatMap_assoc, List.filter_flatMap]
  congr 1
  funext number
  exact writes.filter_markup (.unit number) number

/-- The structural markup of a layout is its skeleton. -/
theorem filter_markup_ofHierarchy (h : Hierarchy) :
    (ofHierarchy h).markup.filter isStructural = skeleton h := by
  obtain ⟨headWrites, coreWrites, l2Writes, l3Writes, networkWrites, domainWrites, restWrites⟩ :=
    writes_lines h
  have head := headWrites.filter_markup .system 0
  have network := networkWrites.filter_markup .system 0
  have domain := domainWrites.filter_markup (networkScope h) 0
  have rest := restWrites.filter_markup .system 0
  unfold ofHierarchy systemEntries
  rw [filter_markup_append, filter_markup_append, filter_markup_append, filter_markup_append,
    filter_markup_append, filter_markup_append, head, filter_markup_units coreWrites,
    filter_markup_units l2Writes, filter_markup_units l3Writes, network, domain, rest,
    List.map_nil, List.append_nil, List.append_assoc _ (List.map _ _) (List.map _ _),
    ← List.map_append, List.take_append_drop]
  rfl

theorem length_le_one_of_mem_units {lines : List Line} {marks : List Mark}
    (writes : Writes lines marks) (count : Nat) :
    ∀ entry ∈ units lines count, (entry.markup.filter isStructural).length ≤ 1 := by
  intro entry member
  obtain ⟨number, -, listed⟩ := List.mem_flatMap.1 member
  exact writes.length_le_one (.unit number) number entry listed

/-- No line of a layout has two tags. -/
theorem length_le_one_of_mem_ofHierarchy (h : Hierarchy) :
    ∀ entry ∈ ofHierarchy h, (entry.markup.filter isStructural).length ≤ 1 := by
  obtain ⟨headWrites, coreWrites, l2Writes, l3Writes, networkWrites, domainWrites, restWrites⟩ :=
    writes_lines h
  unfold ofHierarchy systemEntries
  refine List.forall_mem_append.2 ⟨List.forall_mem_append.2 ⟨List.forall_mem_append.2
    ⟨List.forall_mem_append.2 ⟨List.forall_mem_append.2 ⟨List.forall_mem_append.2
      ⟨?head, ?core⟩, ?l2⟩, ?l3⟩, ?network⟩, ?domain⟩, ?rest⟩
  case head => exact headWrites.length_le_one .system 0
  case core => exact length_le_one_of_mem_units coreWrites h.cores
  case l2 => exact length_le_one_of_mem_units l2Writes h.l2Banks
  case l3 => exact length_le_one_of_mem_units l3Writes h.l3Banks
  case network => exact networkWrites.length_le_one .system 0
  case domain => exact domainWrites.length_le_one (networkScope h) 0
  case rest => exact restWrites.length_le_one .system 0

/-! ## Nesting -/

/-- A unit comes back to the level it was opened at. -/
theorem nest_unit (sharing : Sharing) (level number : Nat) :
    Markup.nest level ((unitMarks sharing).map (Mark.markup number)) = some level := by
  cases sharing <;> rfl

/-- The layout ends where it began. -/
theorem nest_skeleton (h : Hierarchy) : Markup.nest 0 (skeleton h) = some 0 := by
  have units (level : Nat) (sharing : Sharing) :
      Markup.nest level (unitsMarkup h sharing) = some level :=
    Markup.nest_flatMap (fun level number => nest_unit sharing level number) level _
  have head : Markup.nest 0 ((headMarks h).map (Mark.markup 0)) = some 2 := rfl
  have rest : Markup.nest 2 (restMarks.map (Mark.markup 0)) = some 0 := rfl
  simp only [skeleton, Markup.nest_append, head, units, rest, Option.bind_some]

theorem markup_ne_opens_none (mark : Mark) (number : Nat) :
    mark.markup number ≠ .opens none := by
  intro same
  cases mark <;> cases same

/-- All components have ids. -/
theorem opens_none_not_mem_skeleton (h : Hierarchy) : Markup.opens none ∉ skeleton h := by
  have marked (marks : List Mark) (number : Nat) :
      Markup.opens none ∉ marks.map (Mark.markup number) := by
    intro member
    obtain ⟨mark, -, same⟩ := List.mem_map.1 member
    exact markup_ne_opens_none mark number same
  have units (sharing : Sharing) : Markup.opens none ∉ unitsMarkup h sharing := by
    intro member
    obtain ⟨number, -, listed⟩ := List.mem_flatMap.1 member
    exact marked _ number listed
  simp only [skeleton, List.mem_append, not_or]
  exact ⟨⟨⟨⟨marked _ 0, units .own⟩, units .l2⟩, units .l3⟩, marked _ 0⟩

/-! ## Ids -/

/-- The id of a unit or of a part of it. -/
def unitId (sharing : Sharing) (number : Nat) (part : List Char) : List Char :=
  (stemSpelled sharing).chars ++ (toString number).toList ++ part

/-- The ids of a unit and of its parts. -/
def unitIds (sharing : Sharing) (number : Nat) : List (List Char) :=
  ([] :: parts sharing).map (unitId sharing number)

/-- A unit opens components with these ids. -/
theorem filterMap_id?_unit (sharing : Sharing) (number : Nat) :
    ((unitMarks sharing).map (Mark.markup number)).filterMap Markup.id? =
      unitIds sharing number := by
  cases sharing <;> rfl

/-- The number of a unit can be read from the ids of its parts. -/
theorem takeWhile_drop_unitId {sharing : Sharing} {part : List Char}
    (listed : part ∈ [] :: parts sharing) (number : Nat) :
    ((unitId sharing number part).drop (stemSpelled sharing).chars.length).takeWhile Char.isDigit =
      (toString number).toList := by
  have start : part.takeWhile Char.isDigit = [] := by
    revert part
    cases sharing <;> decide
  rw [unitId, List.append_assoc, List.drop_left,
    List.takeWhile_append_of_pos (fun _ => Text.isDigit_of_mem_toString), start, List.append_nil]

/-- The ids of units of a kind differ in their number or in their part. -/
theorem nodup_unitIds (sharing : Sharing) (count : Nat) :
    ((List.range count).flatMap (unitIds sharing)).Nodup := by
  refine List.nodup_flatMap.2 ⟨?inside, ?apart⟩
  case inside =>
    intro number _
    have distinct : ([] :: parts sharing).Nodup := by cases sharing <;> decide
    exact distinct.map fun _ _ same => List.append_cancel_left same
  case apart =>
    refine List.nodup_range.imp ?_
    intro number other differ id first second
    obtain ⟨part, listed, rfl⟩ := List.mem_map.1 first
    obtain ⟨otherPart, otherListed, same⟩ := List.mem_map.1 second
    have digits := takeWhile_drop_unitId otherListed other
    rw [same, takeWhile_drop_unitId listed number] at digits
    exact differ (Text.toString_inj.1 (String.toList_injective digits))

/-- Different ids that can be told from those of other families by their first nine
characters. -/
structure Family where
  ids : List (List Char)
  starts : List (List Char)
  distinct : ids.Nodup
  within : ∀ id ∈ ids, id.take 9 ∈ starts

/-- Families whose starts differ have no id in common. -/
theorem nodup_flatMap_ids {families : List Family} (apart : (families.flatMap (·.starts)).Nodup) :
    (families.flatMap (·.ids)).Nodup := by
  refine List.nodup_flatMap.2 ⟨fun family _ => family.distinct, ?_⟩
  refine (List.nodup_flatMap.1 apart).2.imp ?_
  intro first second disjoint id inFirst inSecond
  exact disjoint (first.within id inFirst) (second.within id inSecond)

/-- The ids of the units of a kind, which start with the stem of the kind. -/
def unitFamily (h : Hierarchy) (sharing : Sharing) : Family where
  ids := (List.range (h.units sharing)).flatMap (unitIds sharing)
  starts := [(stemSpelled sharing).chars.take 9]
  distinct := nodup_unitIds sharing (h.units sharing)
  within := by
    intro id member
    obtain ⟨number, -, listed⟩ := List.mem_flatMap.1 member
    obtain ⟨part, -, rfl⟩ := List.mem_map.1 listed
    have long : 9 ≤ (stemSpelled sharing).chars.length := by cases sharing <;> decide
    rw [List.mem_singleton, unitId, List.append_assoc, List.take_append_of_le_length long]

/-- The families of the ids of a layout, in its order. -/
def families (h : Hierarchy) : List Family := [
  ⟨headIds, headIds, by decide, by decide⟩,
  unitFamily h .own,
  unitFamily h .l2,
  unitFamily h .l3,
  ⟨restIds, restIds.map (·.take 9), by decide, fun _ => List.mem_map_of_mem⟩]

theorem nodup_starts (h : Hierarchy) : ((families h).flatMap (·.starts)).Nodup := by
  have starts : (families h).flatMap (·.starts) =
      headIds ++ [Sharing.own, .l2, .l3].map (fun sharing => (stemSpelled sharing).chars.take 9) ++
        restIds.map (·.take 9) := rfl
  rw [starts]
  decide

/-- The ids of a layout are those of the families, in their order. -/
theorem ids_ofHierarchy (h : Hierarchy) :
    (ofHierarchy h).ids = (families h).flatMap (·.ids) := by
  have units (sharing : Sharing) :
      (unitsMarkup h sharing).filterMap Markup.id? = (unitFamily h sharing).ids := by
    rw [unitsMarkup, List.filterMap_flatMap]
    congr 1
    funext number
    exact filterMap_id?_unit sharing number
  have head : ((headMarks h).map (Mark.markup 0)).filterMap Markup.id? = headIds := rfl
  have rest : (restMarks.map (Mark.markup 0)).filterMap Markup.id? = restIds := rfl
  rw [ids_eq, filter_markup_ofHierarchy]
  simp only [skeleton, List.filterMap_append, head, units, rest, families, List.flatMap_cons,
    List.flatMap_nil, List.append_nil, List.append_assoc]

/-! ## Numbers of units -/

/-- Whether an id is a stem with a number. -/
def isNumbered (stem id : List Char) : Bool :=
  match Markup.after? stem id with
  | some digits => !digits.isEmpty && digits.all Char.isDigit
  | none => false

/-- A unit has an id of its stem and its number, and a part of a unit has more in it. -/
theorem isNumbered_unitId (sharing : Sharing) (number : Nat) (part : List Char) :
    isNumbered (stemSpelled sharing).chars (unitId sharing number part) =
      part.all Char.isDigit := by
  have digits : (toString number).toList.all Char.isDigit = true :=
    List.all_eq_true.2 fun _ => Text.isDigit_of_mem_toString
  rw [isNumbered, unitId, List.append_assoc, Markup.after?_append]
  simp only [List.all_append, digits, Bool.true_and]
  simp

/-- Stems of different kinds are told apart. -/
theorem isNumbered_of_ne {sharing other : Sharing} (differ : sharing ≠ other) (number : Nat)
    (part : List Char) :
    isNumbered (stemSpelled sharing).chars (unitId other number part) = false := by
  cases sharing <;> cases other <;> first | rfl | exact (differ rfl).elim

theorem filter_isNumbered_unitIds (sharing other : Sharing) (number : Nat) :
    (unitIds other number).filter (isNumbered (stemSpelled sharing).chars) =
      if sharing = other then [unitId sharing number []] else [] := by
  split
  · rename_i same
    subst same
    have lettered : ∀ part ∈ parts sharing, part.all Char.isDigit = false := by
      cases sharing <;> decide
    have inner : ((parts sharing).map (unitId sharing number)).filter
        (isNumbered (stemSpelled sharing).chars) = [] := by
      rw [List.filter_eq_nil_iff, List.forall_mem_map]
      intro part listed
      rw [isNumbered_unitId, lettered part listed]
      exact Bool.false_ne_true
    rw [unitIds, List.map_cons, List.filter_cons, isNumbered_unitId, inner]
    rfl
  · rename_i differ
    rw [unitIds, List.filter_eq_nil_iff, List.forall_mem_map]
    intro part _
    rw [isNumbered_of_ne differ]
    exact Bool.false_ne_true

/-- The ids of a stem with a number are those of the units, in the order of their numbers. -/
theorem filter_isNumbered_ids (h : Hierarchy) (sharing : Sharing) :
    (ofHierarchy h).ids.filter (isNumbered (stemSpelled sharing).chars) =
      (List.range (h.units sharing)).map fun number => unitId sharing number [] := by
  have units (other : Sharing) :
      (unitFamily h other).ids.filter (isNumbered (stemSpelled sharing).chars) =
        if sharing = other then (List.range (h.units sharing)).map fun number =>
          unitId sharing number [] else [] := by
    rw [unitFamily, List.filter_flatMap]
    simp only [filter_isNumbered_unitIds]
    split
    · rename_i same
      subst same
      exact List.map_eq_flatMap.symm
    · simp
  have head : headIds.filter (isNumbered (stemSpelled sharing).chars) = [] := by
    cases sharing <;> decide
  have rest : restIds.filter (isNumbered (stemSpelled sharing).chars) = [] := by
    cases sharing <;> decide
  rw [ids_ofHierarchy]
  simp only [families, List.flatMap_cons, List.flatMap_nil, List.filter_append, units, head, rest]
  cases sharing <;> simp

/-- Each count is told once. -/
theorem params_countName (h : Hierarchy) (sharing : Sharing) :
    (ofHierarchy h).params (countSpelled sharing).chars =
      [(toString (h.units sharing)).toList] := by
  have interesting : (countSpelled sharing).chars ∈ counted := by cases sharing <;> decide
  have units (other : Sharing) :
      (unitsMarkup h other).filterMap (Markup.value? (countSpelled sharing).chars) = [] := by
    have silent (number : Nat) : ((unitMarks other).map (Mark.markup number)).filterMap
        (Markup.value? (countSpelled sharing).chars) = [] := by
      cases other <;> rfl
    rw [unitsMarkup, List.filterMap_flatMap]
    simp only [silent]
    simp
  have head : ((headMarks h).map (Mark.markup 0)).filterMap
      (Markup.value? (countSpelled sharing).chars) = [(toString (h.units sharing)).toList] := by
    cases sharing <;> rfl
  have rest : (restMarks.map (Mark.markup 0)).filterMap
      (Markup.value? (countSpelled sharing).chars) = [] := rfl
  rw [params_eq interesting, filter_markup_ofHierarchy]
  simp only [skeleton, List.filterMap_append, head, units, rest, List.append_nil]

/-- Whatever the hierarchy, the built-in layout nests its components, which have different
ids. The lines that open a core, an L2 bank or an L3 bank are those of the numbers below the
count that the layout tells, in their order. -/
theorem ofHierarchy_nested (h : Hierarchy) :
    (ofHierarchy h).Nested ∧ ∀ sharing,
      (ofHierarchy h).ids.filter (isNumbered (stem sharing).toList) =
        (List.range (h.units sharing)).map
          (fun number => (stem sharing ++ toString number).toList) ∧
      (ofHierarchy h).params (countName sharing).toList =
        [(toString (h.units sharing)).toList] := by
  have nested : Markup.nest 0 (ofHierarchy h).markup = some 0 := by
    rw [← nest_filter, filter_markup_ofHierarchy, nest_skeleton]
  obtain ⟨inside, closed⟩ := Markup.staysAbove_of_nest nested
  refine ⟨⟨length_le_one_of_mem_ofHierarchy h, ?inside, ?closed, ?identified, ?distinct⟩, ?units⟩
  case inside =>
    intro front ahead
    have bound := inside front ahead
    omega
  case closed => omega
  case identified =>
    intro member
    refine opens_none_not_mem_skeleton h ?_
    rw [← filter_markup_ofHierarchy]
    exact List.mem_filter.2 ⟨member, rfl⟩
  case distinct =>
    rw [ids_ofHierarchy]
    exact nodup_flatMap_ids (nodup_starts h)
  case units =>
    intro sharing
    have texts : (fun number : Nat => (stem sharing ++ toString number).toList) =
        fun number => unitId sharing number [] := by
      funext number
      rw [String.toList_append, (stemSpelled sharing).toList_eq, unitId, List.append_nil]
    rw [texts, (stemSpelled sharing).toList_eq, (countSpelled sharing).toList_eq]
    exact ⟨filter_isNumbered_ids h sharing, params_countName h sharing⟩

end Template
end ChipPower
