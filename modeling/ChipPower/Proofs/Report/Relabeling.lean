import ChipPower.Proofs.Report.Components
import ChipPower.Proofs.Stack.Conservation

/-!
# The level that stands for NUCA

A report names the level that stands for NUCA like any other level. Reading it under the
label of NUCA gives the tree that is read without a level, with that one label changed, as
long as no block says that it is NUCA itself (`Tree.ofReport_relabeled`).

* `Dict.rename` moves what is at one key to another, and `Dict.get?_rename` says what is
  where after that.
* `Tree.addBlock_relabeled` is one block and `Tree.addBlocks_relabeled` the run: reading goes
  on with the relabeled tree, or fails as it does without a level.
* `Reading.Moves`: two readings that differ in where the records of the L3 are. In exact
  arithmetic they have the same in all categories but those of the L3 and NUCA.

`Tree.relabeling_moves_power` puts this together.
-/

namespace ChipPower

/-! ## Keys -/

namespace Dict

variable {κ β : Type} [Ord κ] [DecidableEq κ]

/-- Moves the value at a key to another. -/
def rename [Std.TransOrd κ] (old new : κ) (d : Dict κ β) : Dict κ β :=
  ofList (d.toList.map fun entry => (if entry.1 = old then new else entry.1, entry.2))

variable [Std.LawfulEqOrd κ] {old new : κ}

/-- Where no value is at the new key, the value of the old one is found there. -/
theorem find_rename (different : old ≠ new) {entries : List (κ × β)}
    (free : find new entries = none) (k : κ) :
    find k (entries.map fun entry => (if entry.1 = old then new else entry.1, entry.2)) =
      if k = new then find old entries else if k = old then none else find k entries := by
  induction entries with
  | nil => simp [find]
  | cons entry rest ih =>
    obtain ⟨k', v⟩ := entry
    have other : new ≠ k' := by
      rintro rfl
      rw [find_self] at free
      cases free
    have free' : find new rest = none := by simpa [find, other] using free
    rw [List.map_cons, find, ih free']
    simp only [find, Std.LawfulEqOrd.compare_eq_iff_eq]
    grind

variable [Std.TransOrd κ]

/-- Where no value is at the new key, only the two keys have changed. -/
theorem get?_rename (different : old ≠ new) {d : Dict κ β} (free : d.get? new = none) (k : κ) :
    (d.rename old new).get? k =
      if k = new then d.get? old else if k = old then none else d.get? k := by
  have free' : find new d.toList.reverse = none := (find_reverse d.sorted new).trans free
  rw [rename, get?_ofList, ← List.map_reverse, find_rename different free', find_reverse d.sorted,
    find_reverse d.sorted]
  rfl

/-- What is set at the old key before it is renamed is at the new one after that. -/
theorem rename_insert_old (different : old ≠ new) {d : Dict κ β} (free : d.get? new = none)
    (v : β) : (d.insert old v).rename old new = (d.rename old new).insert new v := by
  have free' : (d.insert old v).get? new = none := by
    rwa [get?_insert_of_ne d different.symm]
  refine ext_get? fun k => ?_
  simp only [get?_rename different free', get?_rename different free, get?_insert]
  grind

/-- All other keys can be set before or after. -/
theorem rename_insert (different : old ≠ new) {d : Dict κ β} (free : d.get? new = none) {key : κ}
    (notOld : key ≠ old) (notNew : key ≠ new) (v : β) :
    (d.insert key v).rename old new = (d.rename old new).insert key v := by
  have free' : (d.insert key v).get? new = none := by
    rwa [get?_insert_of_ne d notNew.symm]
  refine ext_get? fun k => ?_
  simp only [get?_rename different free', get?_rename different free, get?_insert]
  grind

omit [DecidableEq κ] in
theorem isEmpty_eq_true_iff {d : Dict κ β} : d.isEmpty = true ↔ ∀ k, d.get? k = none := by
  constructor
  · intro isEmpty k
    rw [eq_empty_of_isEmpty isEmpty, get?_empty]
  · intro nothing
    rw [ext_get? (b := ∅) nothing]
    rfl

theorem isEmpty_rename (different : old ≠ new) {d : Dict κ β} (free : d.get? new = none) :
    (d.rename old new).isEmpty = d.isEmpty := by
  rw [Bool.eq_iff_iff, isEmpty_eq_true_iff, isEmpty_eq_true_iff]
  simp only [get?_rename different free]
  constructor
  · intro nothing k
    have atNew := nothing new
    have atKey := nothing k
    grind
  · intro nothing k
    simp [nothing]

end Dict

/-! ## Reading under another label -/

namespace Tree

variable {α : Type}

/-- No level has the label of NUCA by itself. -/
theorem label_ne_nucaLabel (level : CacheLevel) : level.label ≠ nucaLabel := by
  cases level <;> decide

/-- The tree of blocks that do not say that they are NUCA: nothing is under its label, and
what is under that of a level is a list of records. -/
structure Unmarked (tree : Tree α) (level : CacheLevel) : Prop where
  nuca : tree.get? nucaLabel = none
  several : ∀ record, tree.get? level.label ≠ some (.single record)

theorem Unmarked.empty (level : CacheLevel) : Unmarked (∅ : Tree α) level where
  nuca := rfl
  several _ := nofun

/-- The tree with the label of a level changed to that of NUCA. -/
def relabeled (level : CacheLevel) (tree : Tree α) : Tree α :=
  tree.rename level.label nucaLabel

variable {tree : Tree α} {level : CacheLevel} {block : Block α}

theorem get?_relabeled (free : tree.get? nucaLabel = none) (label : String) :
    (tree.relabeled level).get? label =
      if label = nucaLabel then tree.get? level.label
      else if label = level.label then none
      else tree.get? label :=
  Dict.get?_rename (label_ne_nucaLabel level) free label

/-- All other labels have what they had. -/
theorem get?_relabeled_of_ne (free : tree.get? nucaLabel = none) {label : String}
    (notLevel : label ≠ level.label) (notNuca : label ≠ nucaLabel) :
    (tree.relabeled level).get? label = tree.get? label := by
  rw [get?_relabeled free, if_neg notNuca, if_neg notLevel]

theorem relabeled_insert (free : tree.get? nucaLabel = none) {label : String}
    (notLevel : label ≠ level.label) (notNuca : label ≠ nucaLabel) (component : Component α) :
    relabeled level (tree.insert label component) =
      (tree.relabeled level).insert label component :=
  Dict.rename_insert (label_ne_nucaLabel level) free notLevel notNuca component

theorem relabeled_insert_level (free : tree.get? nucaLabel = none) (component : Component α) :
    relabeled level (tree.insert level.label component) =
      (tree.relabeled level).insert nucaLabel component :=
  Dict.rename_insert_old (label_ne_nucaLabel level) free component

/-- Without a level every label is kept as it is. -/
theorem labelFor_none (label : String) : labelFor none label = label := rfl

/-- A record is added to a list of records under its label. -/
theorem addInstance_ok {label : String} {record : Metrics α} {after : Tree α}
    (added : tree.addInstance label record = .ok after) :
    ∃ records, after = tree.insert label (.instances records) := by
  unfold addInstance at added
  split at added
  · cases added
    exact ⟨_, rfl⟩
  · cases added
    exact ⟨_, rfl⟩
  · cases added

/-- A single record is put under its label. -/
theorem addSingle_ok {label : String} {record : Metrics α} {after : Tree α}
    (added : tree.addSingle label record = .ok after) :
    after = tree.insert label (.single record) := by
  unfold addSingle at added
  split at added
  · cases added
    rfl
  · cases added

/-- A record of another label is added to the relabeled tree as it is to the tree. -/
theorem addInstance_relabeled (free : tree.get? nucaLabel = none) {label : String}
    (notLevel : label ≠ level.label) (notNuca : label ≠ nucaLabel) (record : Metrics α) :
    (tree.relabeled level).addInstance label record =
      (tree.addInstance label record).map (relabeled level) := by
  rw [addInstance, addInstance, get?_relabeled_of_ne free notLevel notNuca]
  rcases tree.get? label with _ | single | instances
  · exact congrArg Except.ok (relabeled_insert free notLevel notNuca _).symm
  · rfl
  · exact congrArg Except.ok (relabeled_insert free notLevel notNuca _).symm

/-- A record of the level is added under the label of NUCA as it is under that of the level, as
both have the same records so far. -/
theorem addInstance_relabeled_level (unmarked : tree.Unmarked level) (record : Metrics α) :
    (tree.relabeled level).addInstance nucaLabel record =
      (tree.addInstance level.label record).map (relabeled level) := by
  rw [addInstance, addInstance, get?_relabeled unmarked.nuca, if_pos rfl]
  rcases found : tree.get? level.label with _ | single | instances
  · exact congrArg Except.ok (relabeled_insert_level unmarked.nuca _).symm
  · exact (unmarked.several single found).elim
  · exact congrArg Except.ok (relabeled_insert_level unmarked.nuca _).symm

/-- So is a single record, of which the level has none. -/
theorem addSingle_relabeled (free : tree.get? nucaLabel = none) {label : String}
    (notLevel : label ≠ level.label) (notNuca : label ≠ nucaLabel) (record : Metrics α) :
    (tree.relabeled level).addSingle label record =
      (tree.addSingle label record).map (relabeled level) := by
  rw [addSingle, addSingle, get?_relabeled_of_ne free notLevel notNuca]
  rcases tree.get? label with _ | component
  · exact congrArg Except.ok (relabeled_insert free notLevel notNuca _).symm
  · rfl

/-- A block that does not say that it is NUCA is added to the relabeled tree as it is added to
the tree, or fails as it does there. -/
theorem addBlock_relabeled (unmarked : tree.Unmarked level) (notNuca : block.label ≠ nucaLabel) :
    (tree.relabeled level).addBlock (some level) block =
      (tree.addBlock none block).map (relabeled level) := by
  unfold addBlock
  by_cases repeated : block.label ∈ repeatedLabels
  · rw [if_pos repeated, if_pos repeated]
    by_cases isLevel : block.label = level.label
    · have stands : labelFor (some level) block.label = nucaLabel :=
        if_pos (congrArg some isLevel.symm)
      rw [stands, labelFor_none, isLevel]
      exact addInstance_relabeled_level unmarked block.record
    · have other : ¬ some level.label = some block.label := fun same =>
        isLevel (Option.some.inj same).symm
      have stands : labelFor (some level) block.label = block.label := if_neg other
      rw [stands]
      exact addInstance_relabeled unmarked.nuca isLevel notNuca block.record
  · rw [if_neg repeated, if_neg repeated]
    have notLevel : block.label ≠ level.label := fun same =>
      repeated (same ▸ label_mem_repeatedLabels level)
    exact addSingle_relabeled unmarked.nuca notLevel notNuca block.record

/-- A block that does not say that it is NUCA keeps the tree without one. -/
theorem Unmarked.addBlock (unmarked : tree.Unmarked level) (notNuca : block.label ≠ nucaLabel)
    {after : Tree α} (added : tree.addBlock none block = .ok after) : after.Unmarked level := by
  unfold Tree.addBlock at added
  split at added
  · rw [labelFor_none] at added
    obtain ⟨records, rfl⟩ := addInstance_ok added
    constructor
    · rw [Dict.get?_insert_of_ne _ (Ne.symm notNuca)]
      exact unmarked.nuca
    · intro record
      rw [Dict.get?_insert]
      split
      · nofun
      · exact unmarked.several record
  · rename_i unique
    obtain rfl := addSingle_ok added
    have notLevel : level.label ≠ block.label := fun same =>
      unique (same ▸ label_mem_repeatedLabels level)
    constructor
    · rw [Dict.get?_insert_of_ne _ (Ne.symm notNuca)]
      exact unmarked.nuca
    · intro record
      rw [Dict.get?_insert_of_ne _ notLevel]
      exact unmarked.several record

/-! ## Whole reports -/

section Reports

variable [Scalar α]

/-- The blocks that are read of texts, up to the first text that cannot be read or whose
block cannot be added. -/
def metBlocks (nucaLevel : Option CacheLevel) (tree : Tree α) : List (List Char) → List (Block α)
  | [] => []
  | text :: rest =>
    match Block.read text with
    | .error _ => []
    | .ok block =>
      block ::
        match tree.addBlock nucaLevel block with
        | .error _ => []
        | .ok after => metBlocks nucaLevel after rest

/-- Reading texts with the level goes on with the tree that reading them without it has, but
for the label of the level, and stops where that stops. -/
theorem addBlocks_relabeled (unmarked : tree.Unmarked level) {texts : List (List Char)}
    (plain : ∀ block ∈ metBlocks none tree texts, block.label ≠ nucaLabel) :
    (∃ after, addBlocks none tree texts = .ok after ∧ after.Unmarked level ∧
        addBlocks (some level) (tree.relabeled level) texts = .ok (after.relabeled level)) ∨
      ∃ failure, addBlocks none tree texts = .error failure ∧
        addBlocks (some level) (tree.relabeled level) texts = .error failure := by
  induction texts generalizing tree with
  | nil => exact .inl ⟨tree, rfl, unmarked, rfl⟩
  | cons text rest ih =>
    rw [metBlocks] at plain
    rw [addBlocks, addBlocks]
    rcases read : (Block.read text : Except Failure (Block α)) with failure | block
    · exact .inr ⟨failure, rfl, rfl⟩
    · rw [read] at plain
      have notNuca : block.label ≠ nucaLabel := plain block List.mem_cons_self
      dsimp only at plain ⊢
      rw [addBlock_relabeled unmarked notNuca]
      rcases added : tree.addBlock none block with failure | after
      · exact .inr ⟨failure, rfl, rfl⟩
      · rw [added] at plain
        exact ih (unmarked.addBlock notNuca added) fun other met =>
          plain other (List.mem_cons_of_mem _ met)

/-- No block that is read of a report says that it is NUCA. -/
def NamesNoNuca (α : Type) [Scalar α] (report : String) : Prop :=
  ∀ block ∈ metBlocks none (∅ : Tree α) (blockTexts report.toList), block.label ≠ nucaLabel

variable {report : String}

/-- A report of which no block says that it is NUCA is read with a level as it is read
without one, but for the label of the level; and it fails as it fails without one. -/
theorem ofReport_relabeled (plain : NamesNoNuca α report) (level : CacheLevel) :
    (∃ tree : Tree α, ofReport none report = .ok tree ∧ tree.Unmarked level ∧
        ofReport (some level) report = .ok (tree.relabeled level)) ∨
      ∃ failure, (ofReport none report : Except Failure (Tree α)) = .error failure ∧
        (ofReport (some level) report : Except Failure (Tree α)) = .error failure := by
  have blank : (∅ : Tree α).relabeled level = ∅ := rfl
  have run := addBlocks_relabeled (Unmarked.empty level) plain
  rw [blank] at run
  unfold ofReport
  rcases run with ⟨tree, without, unmarked, withLevel⟩ | ⟨failure, without, withLevel⟩
  · have same : (tree.relabeled level).isEmpty = tree.isEmpty :=
      Dict.isEmpty_rename (label_ne_nucaLabel level) unmarked.nuca
    simp only [without, withLevel, bind, Except.bind, same]
    split
    · exact .inr ⟨_, rfl, rfl⟩
    · exact .inl ⟨tree, rfl, unmarked, rfl⟩
  · rw [without, withLevel]
    exact .inr ⟨failure, rfl, rfl⟩

end Reports

/-- The memory has a label of its own, which is neither that of NUCA nor that of a level. -/
theorem Unmarked.insertMemory [Scalar α] (unmarked : tree.Unmarked level)
    (power : MemoryPower α) : (tree.insertMemory power).Unmarked level := by
  have notLevel : level.label ≠ memoryLabel := by cases level <;> decide
  constructor
  · rw [Tree.insertMemory, Dict.get?_insert_of_ne _ (by decide)]
    exact unmarked.nuca
  · intro record
    rw [Tree.insertMemory, Dict.get?_insert_of_ne _ notLevel]
    exact unmarked.several record

theorem relabeled_insertMemory [Scalar α] (free : tree.get? nucaLabel = none)
    (power : MemoryPower α) :
    (tree.relabeled level).insertMemory power = (tree.insertMemory power).relabeled level := by
  have notLevel : memoryLabel ≠ level.label := by cases level <;> decide
  exact (relabeled_insert free notLevel (by decide) _).symm

end Tree

/-! ## Stacks -/

namespace Reading

variable {α : Type} {tree : Tree α}

/-- A tree whose L3 stands for NUCA is read like the tree before. -/
theorem ofTree_relabeled (free : tree.get? Tree.nucaLabel = none) :
    ofTree (tree.relabeled .l3) =
      (ofTree tree).map fun reading => { reading with tree := tree.relabeled .l3 } := by
  have cores : (tree.relabeled .l3).instances "Core" = tree.instances "Core" := by
    rw [Tree.instances, Tree.get?_relabeled_of_ne free (by decide) (by decide), Tree.instances]
  have single (label : String) (notLevel : label ≠ CacheLevel.l3.label)
      (notNuca : label ≠ Tree.nucaLabel) :
      (tree.relabeled .l3).single? label = tree.single? label := by
    rw [Tree.single?, Tree.get?_relabeled_of_ne free notLevel notNuca, Tree.single?]
  rw [ofTree, ofTree, cores, single "Processor" (by decide) (by decide),
    single Tree.memoryLabel (by decide) (by decide)]
  rcases tree.instances "Core" with _ | ⟨core, rest⟩
  · rfl
  · rcases tree.single? "Processor" with _ | processor
    · rfl
    · rcases tree.single? Tree.memoryLabel with _ | memory <;> rfl

variable (reading : Reading Rat) (moved : Tree Rat) (lens : Lens)

/-- The categories that read the records of the L3 or of NUCA. -/
def movable : List Category := [.l3, .nuca, .nucaIc]

/-- All other categories do not read the tree beyond the records of the reading. -/
theorem net_withTree {category : Category} (fixed : category ∉ movable) :
    net { reading with tree := moved } lens category = reading.net lens category := by
  cases category with
  | l3 | nuca | nucaIc => exact (fixed (by decide)).elim
  | _ => rfl

theorem attributed_withTree :
    attributed { reading with tree := moved } lens = reading.attributed lens := by
  rw [attributed, attributed, Category.filter_within]
  rfl

/-- Nor does their value depend on it, the rest of the core included. -/
theorem value_withTree {category : Category} (fixed : category ∉ movable) :
    value { reading with tree := moved } lens category = reading.value lens category := by
  by_cases rest : category = .coreOther
  · subst rest
    rw [value, value, if_pos rfl, if_pos rfl, coreRest, coreRest, attributed_withTree]
  · rw [value_eq_net _ _ _ rest, value_eq_net _ _ _ rest, net_withTree _ _ _ fixed]

end Reading

/-- The records of the L3 are kept as those of NUCA, of which there were none. -/
structure Reading.Moves (before after : Reading Rat) : Prop where
  withTree : after = { before with tree := after.tree }
  l3 : after.tree.instances "L3" = []
  nuca : after.tree.instances Tree.nucaLabel = before.tree.instances "L3"
  noNuca : before.tree.instances Tree.nucaLabel = []

namespace Reading.Moves

variable {before after : Reading Rat} (moves : before.Moves after) (lens : Lens)
include moves

/-- All other categories keep their value. -/
theorem value_eq {category : Category} (fixed : category ∉ movable) :
    after.value lens category = before.value lens category := by
  rw [moves.withTree, value_withTree before after.tree lens fixed]

theorem reported_l3 : after.reported lens .l3 = 0 := by
  rw [reported, moves.l3]
  exact Scalar.sum_eq []

/-- There is no L3 any more. -/
theorem value_l3 : after.value lens .l3 = 0 := by
  rw [value_eq_net _ _ _ (by decide), net_eq _ _ _ rfl, moves.reported_l3]

theorem reported_nuca : after.reported lens .nuca = before.reported lens .l3 := by
  rw [reported, reported, moves.nuca]

/-- What the L3 had is with NUCA, its interconnect beside it. -/
theorem value_nuca_add_nucaIc :
    after.value lens .nuca + after.value lens .nucaIc = before.value lens .l3 := by
  rw [value_add_value _ _ rfl rfl (by decide), moves.reported_nuca lens,
    value_eq_net _ _ _ (by decide), net_eq _ _ _ rfl]

/-- Nothing is lost or gained by the move. -/
theorem sum_value_eq :
    (Category.order.map (after.value lens)).sum =
      (Category.order.map (before.value lens)).sum := by
  have noNuca : before.reported lens .nuca = 0 := by
    rw [reported, moves.noNuca]
    exact Scalar.sum_eq []
  have attributed : after.attributed lens = before.attributed lens := by
    rw [moves.withTree, attributed_withTree]
  have fixed (category : Category) (fixed : category ∉ movable)
      (alone : category.interconnect? = none) (known : category ≠ .coreOther) :
      after.reported lens category = before.reported lens category := by
    have same := moves.value_eq lens fixed
    rwa [value_eq_net _ _ _ known, value_eq_net _ _ _ known, net_eq _ _ _ alone,
      net_eq _ _ _ alone] at same
  have unmoved : Category.coreOther ∉ movable := by decide
  have rest : after.coreRest lens = before.coreRest lens := moves.value_eq lens unmoved
  rw [sum_value, sum_value, attributed, rest, moves.reported_l3, noNuca, moves.reported_nuca,
    fixed .noc (by decide) rfl (by decide), fixed .dram (by decide) rfl (by decide)]
  ring

end Reading.Moves

/-- Relabeling an L3 moves its records. -/
theorem Reading.moves_of_relabeled {tree : Tree Rat} (unmarked : tree.Unmarked .l3)
    {before after : Reading Rat} (read : ofTree tree = .ok before)
    (readMoved : ofTree (tree.relabeled .l3) = .ok after) : before.Moves after := by
  rw [ofTree_relabeled unmarked.nuca, read] at readMoved
  cases readMoved
  obtain ⟨rfl, -⟩ := ofTree_eq_ok_iff.1 read
  have free := unmarked.nuca
  constructor
  case withTree => rfl
  case l3 =>
    have gone : (before.tree.relabeled .l3).get? "L3" = none := Tree.get?_relabeled free "L3"
    rw [Tree.instances, gone]
  case nuca =>
    have there : (before.tree.relabeled .l3).get? Tree.nucaLabel = before.tree.get? "L3" :=
      Tree.get?_relabeled free Tree.nucaLabel
    rw [Tree.instances, there, Tree.instances]
  case noNuca => rw [Tree.instances, free]

namespace Tree

/-- If no block of a report says that it is NUCA, reading the report with a level that stands
for NUCA changes the label of that level and nothing else. If the level is the L3, its power
is that of NUCA in the stack, and all else stays where it is. -/
theorem relabeling_moves_power (report : String) :
    (∀ (α : Type) [Scalar α], NamesNoNuca α report → ∀ level,
      (∃ tree : Tree α, ofReport none report = .ok tree ∧ tree.contains nucaLabel = false ∧
          ofReport (some level) report = .ok (tree.relabeled level)) ∨
        ∃ failure, (ofReport none report : Except Failure (Tree α)) = .error failure ∧
          (ofReport (some level) report : Except Failure (Tree α)) = .error failure) ∧
      (NamesNoNuca Rat report → ∀ before after : Tree Rat, ofReport none report = .ok before →
        ofReport (some .l3) report = .ok after → ∀ power lens keepSmall,
          (PowerStack.ofTree (before.insertMemory power) lens keepSmall).isOk =
              (PowerStack.ofTree (after.insertMemory power) lens keepSmall).isOk ∧
            ∀ unit moved, (before.insertMemory power).HasUnit lens keepSmall unit →
              (after.insertMemory power).HasUnit lens keepSmall moved →
                moved.get .l3 = 0 ∧
                moved.get .nuca + moved.get .nucaIc = unit.get .l3 ∧
                (∀ category, category ≠ .l3 → category ≠ .nuca → category ≠ .nucaIc →
                  moved.get category = unit.get category) ∧
                moved.total = unit.total) := by
  refine ⟨?labels, ?power⟩
  case labels =>
    intro α _ plain level
    rcases ofReport_relabeled plain level with
      ⟨tree, without, unmarked, withLevel⟩ | ⟨failure, without, withLevel⟩
    · refine .inl ⟨tree, without, ?_, withLevel⟩
      rw [Dict.contains, unmarked.nuca, Option.isSome_none]
    · exact .inr ⟨failure, without, withLevel⟩
  case power =>
    intro plain before after without withLevel power lens keepSmall
    rcases ofReport_relabeled plain .l3 with
      ⟨tree, without', unmarked, withLevel'⟩ | ⟨failure, without', -⟩
    · cases without.symm.trans without'
      cases withLevel.symm.trans withLevel'
      rw [relabeled_insertMemory unmarked.nuca]
      have unmarked := unmarked.insertMemory power
      constructor
      · rw [PowerStack.isOk_ofTree, PowerStack.isOk_ofTree,
          Reading.ofTree_relabeled unmarked.nuca]
        rcases Reading.ofTree (before.insertMemory power) with failure | reading <;> rfl
      · intro unit moved has hasMoved
        rcases has.exists_reading with ⟨reading, read, get, total⟩
        rcases hasMoved.exists_reading with ⟨movedReading, readMoved, getMoved, totalMoved⟩
        have moves := Reading.moves_of_relabeled unmarked read readMoved
        refine ⟨?_, ?_, ?_, ?_⟩
        · rw [getMoved, moves.value_l3]
        · rw [getMoved, getMoved, get, moves.value_nuca_add_nucaIc]
        · intro category notL3 notNuca notInterconnect
          have fixed : category ∉ Reading.movable := by
            simp [Reading.movable, notL3, notNuca, notInterconnect]
          rw [getMoved, get, moves.value_eq lens fixed]
        · rw [totalMoved, total, Scalar.sum_eq, Scalar.sum_eq, moves.sum_value_eq]
    · cases without.symm.trans without'

/-- The blocks of a chip with two slices of NUCA in the place of an L3. -/
def thirdLevelTexts : List (List Char) := [
  "\nL3:\n  Runtime Dynamic = 4 W\n  Runtime IC-total Dynamic = 3 W\n".toList,
  "\nCore:\n  Runtime Dynamic = 5 W\n".toList, "\nProcessor:\n  Area = 10 mm^2\n".toList,
  "\nL3:\n  Runtime Dynamic = 6 W\n".toList]

/-- Their report. -/
def thirdLevelReport : String :=
  reportText "McPAT".toList "45 nm".toList thirdLevelTexts "Done".toList

/-- What is read of them without a level. -/
def thirdLevel : Tree Rat := Dict.ofList [
  ("Core", .instances [Dict.ofList [("Runtime Dynamic", 5)]]),
  ("L3", .instances [
    Dict.ofList [("Runtime Dynamic", 4), ("Runtime IC-total Dynamic", 3)],
    Dict.ofList [("Runtime Dynamic", 6)]]),
  ("Processor", .single (Dict.ofList [("Area", 10)]))]

/-- The report is taken apart into the texts that it was made of. -/
theorem blockTexts_thirdLevelReport : blockTexts thirdLevelReport.toList = thirdLevelTexts :=
  blockTexts_reportText (by decide)

theorem namesNoNuca_thirdLevelReport : NamesNoNuca Rat thirdLevelReport := by
  have labels : (metBlocks none (∅ : Tree Rat) thirdLevelTexts).map (·.label) =
      ["L3", "Core", "Processor", "L3"] := rfl
  intro block met isNuca
  rw [blockTexts_thirdLevelReport] at met
  have listed := List.mem_map_of_mem (f := (·.label)) met
  rw [labels, isNuca] at listed
  exact absurd listed (by decide)

theorem ofReport_thirdLevelReport : ofReport none thirdLevelReport = .ok thirdLevel := by
  rw [ofReport_eq_ok_iff, blockTexts_thirdLevelReport]
  exact ⟨rfl, rfl⟩

/-- The interconnect of the first slice, a part of it while it was an L3, is listed beside the
slices, which have the same with it. -/
theorem relabeling_moves_power_thirdLevel :
    NamesNoNuca Rat thirdLevelReport ∧
      ofReport (some .l3) thirdLevelReport = .ok (thirdLevel.relabeled .l3) ∧
      ∃ unit moved, (thirdLevel.insertMemory ⟨7, 0⟩).HasUnit .dynamic false unit ∧
        ((thirdLevel.relabeled .l3).insertMemory ⟨7, 0⟩).HasUnit .dynamic false moved ∧
        moved.get .l3 = 0 ∧ moved.get .nuca + moved.get .nucaIc = unit.get .l3 ∧
        moved.total = unit.total := by
  have plain := namesNoNuca_thirdLevelReport
  have before := ofReport_thirdLevelReport
  have ⟨labels, power⟩ := relabeling_moves_power thirdLevelReport
  have after : ofReport (some .l3) thirdLevelReport = .ok (thirdLevel.relabeled .l3) := by
    rcases labels Rat plain .l3 with ⟨tree, without, -, withLevel⟩ | ⟨failure, without, -⟩
    · cases before.symm.trans without
      exact withLevel
    · cases before.symm.trans without
  have ⟨accepted, moves⟩ := power plain _ _ before after ⟨7, 0⟩ .dynamic false
  have isOk : (PowerStack.ofTree (thirdLevel.insertMemory ⟨7, 0⟩) .dynamic false).isOk = true := by
    rw [PowerStack.isOk_ofTree]
    rfl
  obtain ⟨unit, hasUnit⟩ := exists_hasUnit_iff.2 isOk
  obtain ⟨moved, hasMoved⟩ := exists_hasUnit_iff.2 (accepted ▸ isOk)
  obtain ⟨l3, nuca, -, total⟩ := moves unit moved hasUnit hasMoved
  exact ⟨plain, after, unit, moved, hasUnit, hasMoved, l3, nuca, total⟩

end Tree

end ChipPower
