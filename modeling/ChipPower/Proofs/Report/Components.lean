import ChipPower.Proofs.Text.Separators
import ChipPower.Report.Tree
import Mathlib.Data.List.Forall2
import Mathlib.Data.List.Pairwise

/-!
# The components of a report

A report keeps the components of its blocks, none lost, doubled or moved.

* `Compatible`: two blocks can be in one report. They are kept apart, or both are
  components that a chip has several of.
* `Tree.Keeps`: the invariant of reading blocks. The tree has under each label what
  the blocks up to now make of it, and they are compatible.
* `Tree.addBlock_cases` is one block and `Tree.addBlocks_cases` the run: either the
  invariant goes on, or a block cannot be read, or two blocks are not compatible.

`Tree.ofReport_components` says which reports have a tree and what is in it.
-/

namespace ChipPower

variable {α : Type}

/-! ## Labels -/

namespace Tree

/-- The labels of a report that can stand in one tree: those that are not repeated are
there once, and NUCA is not there beside the level that stands for it. -/
structure Admissible (nucaLevel : Option CacheLevel) (labels : List String) : Prop where
  once : (labels.filter fun label => label ∉ repeatedLabels).Nodup
  apart : ∀ level, nucaLevel = some level → level.label ∈ labels → nucaLabel ∉ labels

theorem label_mem_repeatedLabels (level : CacheLevel) : level.label ∈ repeatedLabels := by
  cases level <;> decide

theorem nucaLabel_not_mem_repeatedLabels : nucaLabel ∉ repeatedLabels := by
  decide

/-- A label that is not repeated is kept as it is. -/
theorem labelFor_of_not_mem {label : String} (other : label ∉ repeatedLabels)
    (nucaLevel : Option CacheLevel) : labelFor nucaLevel label = label := by
  unfold labelFor
  split
  · rename_i stands
    obtain ⟨level, -, same⟩ := Option.map_eq_some_iff.1 stands
    exact (other (same ▸ label_mem_repeatedLabels level)).elim
  · rfl

/-- A label is kept as it is, unless it is the level that stands for NUCA. -/
theorem labelFor_cases (nucaLevel : Option CacheLevel) (label : String) :
    labelFor nucaLevel label = label ∨
      ∃ level, nucaLevel = some level ∧ label = level.label ∧
        labelFor nucaLevel label = nucaLabel := by
  unfold labelFor
  split
  · rename_i stands
    obtain ⟨level, isLevel, same⟩ := Option.map_eq_some_iff.1 stands
    exact .inr ⟨level, isLevel, same.symm, rfl⟩
  · exact .inl rfl

/-- Two repeated labels that are kept as one are one. -/
theorem eq_of_labelFor_eq {nucaLevel : Option CacheLevel} {first second : String}
    (left : first ∈ repeatedLabels) (right : second ∈ repeatedLabels)
    (same : labelFor nucaLevel first = labelFor nucaLevel second) : first = second := by
  rcases labelFor_cases nucaLevel first with
    stays | ⟨level, isLevel, rfl, moves⟩ <;>
  rcases labelFor_cases nucaLevel second with
    stays' | ⟨level', isLevel', rfl, moves'⟩
  · rw [← stays, same, stays']
  · rw [stays, moves'] at same
    exact (nucaLabel_not_mem_repeatedLabels (same ▸ left)).elim
  · rw [stays', moves] at same
    exact (nucaLabel_not_mem_repeatedLabels (same ▸ right)).elim
  · rw [Option.some.inj (isLevel.symm.trans isLevel')]

end Tree

/-! ## Compatible blocks -/

/-- Whether a chip has several of a block's component. -/
def Block.Repeated (block : Block α) : Prop :=
  block.label ∈ Tree.repeatedLabels

instance (block : Block α) : Decidable block.Repeated :=
  inferInstanceAs (Decidable (block.label ∈ Tree.repeatedLabels))

/-- Two blocks that are kept under one label are both of a component that a chip has
several of. -/
def Block.Compatible (nucaLevel : Option CacheLevel) (first second : Block α) : Prop :=
  Tree.labelFor nucaLevel first.label = Tree.labelFor nucaLevel second.label →
    first.Repeated ∧ second.Repeated

namespace Block

instance (nucaLevel : Option CacheLevel) :
    Std.Symm (Compatible nucaLevel : Block α → Block α → Prop) where
  symm _ _ compatible same := (compatible same.symm).symm

/-- A repeated and a unique block that are kept under one label are a block of the
level that stands for NUCA and one of NUCA. -/
theorem exists_level_of_labelFor_eq {nucaLevel : Option CacheLevel} {several single : Block α}
    (left : several.Repeated) (right : ¬ single.Repeated)
    (same : Tree.labelFor nucaLevel several.label = Tree.labelFor nucaLevel single.label) :
    ∃ level, nucaLevel = some level ∧ several.label = level.label ∧
      single.label = Tree.nucaLabel := by
  rw [Tree.labelFor_of_not_mem right] at same
  rcases Tree.labelFor_cases nucaLevel several.label with
    stays | ⟨level, isLevel, isLabel, moves⟩
  · rw [Repeated, ← same, stays] at right
    exact (right left).elim
  · exact ⟨level, isLevel, isLabel, same.symm.trans moves⟩

/-- Blocks are compatible exactly if their labels can stand in one tree. -/
theorem pairwise_compatible_iff {nucaLevel : Option CacheLevel} {blocks : List (Block α)} :
    blocks.Pairwise (Compatible nucaLevel) ↔ Tree.Admissible nucaLevel (blocks.map (·.label)) := by
  constructor
  · intro pairwise
    constructor
    · rw [List.filter_map, List.Nodup, List.pairwise_map]
      refine (pairwise.filter _).imp_of_mem fun first _ compatible same => ?_
      have single := (List.mem_filter.1 first).2
      exact (of_decide_eq_true single) (compatible (by rw [same])).1
    · rintro level isLevel levelMember nucaMember
      obtain ⟨several, inBlocks, isLabel⟩ := List.mem_map.1 levelMember
      obtain ⟨single, inBlocks', isNuca⟩ := List.mem_map.1 nucaMember
      have unique : ¬ single.Repeated := fun repeated =>
        Tree.nucaLabel_not_mem_repeatedLabels (isNuca ▸ repeated)
      have different : several ≠ single := by
        rintro rfl
        exact unique (show several.label ∈ _ from isLabel ▸ Tree.label_mem_repeatedLabels level)
      refine unique (pairwise.forall inBlocks inBlocks' different ?_).2
      rw [Tree.labelFor_of_not_mem unique, isNuca, isLabel, isLevel, Tree.labelFor, Option.map_some,
        if_pos rfl]
  · rintro ⟨once, apart⟩
    refine List.pairwise_iff_forall_sublist.2 fun {first second} sublist same => ?_
    have firstMember : first ∈ blocks := sublist.subset (by simp)
    have secondMember : second ∈ blocks := sublist.subset (by simp)
    by_cases left : first.Repeated <;> by_cases right : second.Repeated
    · exact ⟨left, right⟩
    · obtain ⟨level, isLevel, isLabel, isNuca⟩ := exists_level_of_labelFor_eq left right same
      exact (apart level isLevel (isLabel ▸ List.mem_map_of_mem firstMember)
        (isNuca ▸ List.mem_map_of_mem secondMember)).elim
    · obtain ⟨level, isLevel, isLabel, isNuca⟩ := exists_level_of_labelFor_eq right left same.symm
      exact (apart level isLevel (isLabel ▸ List.mem_map_of_mem secondMember)
        (isNuca ▸ List.mem_map_of_mem firstMember)).elim
    · -- two unique blocks of one label would be there twice
      rw [Tree.labelFor_of_not_mem left, Tree.labelFor_of_not_mem right] at same
      have distinct := once.sublist
        ((sublist.map (·.label)).filter fun label => label ∉ Tree.repeatedLabels)
      rw [Repeated] at right
      simp [same, right] at distinct

end Block

/-! ## What blocks make of a tree -/

/-- The blocks that are kept under a label. -/
def Block.keptUnder (nucaLevel : Option CacheLevel) (label : String) (blocks : List (Block α)) :
    List (Block α) :=
  blocks.filter fun block => Tree.labelFor nucaLevel block.label = label

/-- The component that the blocks of one label make. -/
def Component.ofBlocks? : List (Block α) → Option (Component α)
  | [] => none
  | block :: rest =>
    if block.Repeated then some (.instances (block.record :: rest.map (·.record)))
    else some (.single block.record)

theorem Component.ofBlocks?_of_repeated {kept : List (Block α)} (ne : kept ≠ [])
    (repeated : ∀ block ∈ kept, block.Repeated) :
    ofBlocks? kept = some (.instances (kept.map (·.record))) := by
  cases kept with
  | nil => exact (ne rfl).elim
  | cons first rest => exact if_pos (repeated first List.mem_cons_self)

theorem Component.ofBlocks?_of_unique {kept : List (Block α)} {block : Block α} (ne : kept ≠ [])
    (same : ∀ other ∈ kept, other = block) (unique : ¬ block.Repeated) :
    ofBlocks? kept = some (.single block.record) := by
  cases kept with
  | nil => exact (ne rfl).elim
  | cons first rest =>
    obtain rfl := same first List.mem_cons_self
    exact if_neg unique

theorem Component.ofBlocks?_eq_none_iff {kept : List (Block α)} :
    ofBlocks? kept = none ↔ kept = [] := by
  cases kept with
  | nil => simp [ofBlocks?]
  | cons first rest =>
    rw [ofBlocks?]
    split <;> simp

theorem Block.mem_keptUnder_iff {nucaLevel : Option CacheLevel} {label : String}
    {blocks : List (Block α)} {block : Block α} :
    block ∈ keptUnder nucaLevel label blocks ↔
      block ∈ blocks ∧ Tree.labelFor nucaLevel block.label = label := by
  simp [keptUnder]

/-- `tree.Keeps nucaLevel seen`: the tree is what the compatible blocks `seen` make. -/
structure Tree.Keeps (tree : Tree α) (nucaLevel : Option CacheLevel) (seen : List (Block α)) :
    Prop where
  get?_eq : ∀ label, tree.get? label = Component.ofBlocks? (Block.keptUnder nucaLevel label seen)
  compatible : seen.Pairwise (Block.Compatible nucaLevel)

namespace Tree

variable {tree : Tree α} {nucaLevel : Option CacheLevel} {seen : List (Block α)}

theorem Keeps.empty (nucaLevel : Option CacheLevel) : Keeps (∅ : Tree α) nucaLevel [] where
  get?_eq _ := rfl
  compatible := .nil

/-- Setting the component that a further block makes goes on with the invariant. -/
theorem Keeps.insert (keeps : tree.Keeps nucaLevel seen) {block : Block α}
    {component : Component α}
    (made : Component.ofBlocks? (Block.keptUnder nucaLevel (labelFor nucaLevel block.label) seen ++
      [block]) = some component)
    (compatible : ∀ other ∈ seen, other.Compatible nucaLevel block) :
    Keeps (tree.insert (labelFor nucaLevel block.label) component) nucaLevel (seen ++ [block]) where
  get?_eq label := by
    rw [Block.keptUnder, List.filter_append, ← Block.keptUnder]
    by_cases same : labelFor nucaLevel block.label = label
    · subst same
      rw [Dict.get?_insert_self, ← made]
      simp
    · rw [Dict.get?_insert_of_ne tree (Ne.symm same), keeps.get?_eq]
      simp [same]
  compatible := by
    refine List.pairwise_append.2 ⟨keeps.compatible, List.pairwise_singleton _ _, ?_⟩
    intro other member added isAdded
    rw [List.mem_singleton.1 isAdded]
    exact compatible other member

/-- A block whose label is free is added. -/
theorem addBlock_of_none {block : Block α}
    (free : tree.get? (labelFor nucaLevel block.label) = none) :
    ∃ component, Component.ofBlocks? [block] = some component ∧
      tree.addBlock nucaLevel block =
        .ok (tree.insert (labelFor nucaLevel block.label) component) := by
  by_cases repeated : block.Repeated
  · refine ⟨.instances [block.record], if_pos repeated, ?_⟩
    rw [addBlock, if_pos (show block.label ∈ repeatedLabels from repeated), addInstance, free]
  · refine ⟨.single block.record, if_neg repeated, ?_⟩
    rw [labelFor_of_not_mem repeated] at free ⊢
    rw [addBlock, if_neg (show block.label ∉ repeatedLabels from repeated), addSingle, free]

/-- A block whose label is taken is added if both it and what is there are of a component
that a chip has several of, and fails else. -/
theorem addBlock_of_taken {block first : Block α} {rest : List (Block α)}
    (taken : tree.get? (labelFor nucaLevel block.label) = Component.ofBlocks? (first :: rest)) :
    (first.Repeated ∧ block.Repeated ∧ ∃ component,
      Component.ofBlocks? (first :: rest ++ [block]) = some component ∧
        tree.addBlock nucaLevel block =
          .ok (tree.insert (labelFor nucaLevel block.label) component)) ∨
      (¬ (first.Repeated ∧ block.Repeated) ∧
        ∃ failure, tree.addBlock nucaLevel block = .error failure) := by
  by_cases repeated : block.Repeated
  · rw [addBlock, if_pos (show block.label ∈ repeatedLabels from repeated), addInstance]
    by_cases several : first.Repeated
    · rw [Component.ofBlocks?, if_pos several] at taken
      refine .inl ⟨several, repeated, _, if_pos several, ?_⟩
      simp [taken]
    · rw [Component.ofBlocks?, if_neg several] at taken
      exact .inr ⟨fun both => several both.1, _, by rw [taken]; rfl⟩
  · rw [labelFor_of_not_mem repeated] at taken
    obtain ⟨component, isSome⟩ : ∃ component, tree.get? block.label = some component := by
      rw [taken, Component.ofBlocks?]
      split <;> exact ⟨_, rfl⟩
    refine .inr ⟨fun both => repeated both.2, .ofCause (.duplicateComponent block.label), ?_⟩
    rw [addBlock, if_neg (show block.label ∉ repeatedLabels from repeated), addSingle, isSome]
    rfl

/-- One more block either is kept, which goes on with the invariant, or is not compatible
with those before. -/
theorem addBlock_cases (keeps : tree.Keeps nucaLevel seen) (block : Block α) :
    (∃ after, tree.addBlock nucaLevel block = .ok after ∧ after.Keeps nucaLevel (seen ++ [block])) ∨
      (∃ failure, tree.addBlock nucaLevel block = .error failure ∧
        ¬ (seen ++ [block]).Pairwise (Block.Compatible nucaLevel)) := by
  have found := keeps.get?_eq (labelFor nucaLevel block.label)
  rcases kept : Block.keptUnder nucaLevel (labelFor nucaLevel block.label) seen with
    _ | ⟨first, rest⟩ <;> rw [kept] at found
  · obtain ⟨component, made, added⟩ := addBlock_of_none found
    refine .inl ⟨_, added, keeps.insert (by rw [kept]; exact made) fun other member same => ?_⟩
    have isKept := Block.mem_keptUnder_iff.2 ⟨member, same⟩
    rw [kept] at isKept
    cases isKept
  · obtain ⟨firstMember, firstSame⟩ : first ∈ seen ∧ _ :=
      Block.mem_keptUnder_iff.1 (kept ▸ List.mem_cons_self)
    rcases addBlock_of_taken found with
      ⟨several, repeated, component, made, added⟩ | ⟨apart, failure, fails⟩
    · refine .inl ⟨_, added, keeps.insert (by rw [kept]; exact made) fun other member same => ?_⟩
      by_cases isFirst : other = first
      · exact ⟨isFirst ▸ several, repeated⟩
      · exact ⟨(keeps.compatible.forall member firstMember isFirst (same.trans firstSame.symm)).1,
          repeated⟩
    · refine .inr ⟨failure, fails, fun pairwise => apart ?_⟩
      exact (List.pairwise_append.1 pairwise).2.2 first firstMember block
        (List.mem_singleton_self _) firstSame

/-! ## Reports -/

variable [Scalar α]

/-- `Reads texts blocks`: the texts are read as the blocks. -/
abbrev Reads (texts : List (List Char)) (blocks : List (Block α)) : Prop :=
  List.Forall₂ (fun text block => Block.read text = .ok block) texts blocks

theorem Reads.unique {texts : List (List Char)} {first second : List (Block α)}
    (left : Reads texts first) (right : Reads texts second) : first = second := by
  induction left generalizing second with
  | nil => cases right; rfl
  | cons head _ ih =>
    cases right with
    | cons head' tail' =>
      cases head.symm.trans head'
      rw [ih tail']

/-- A run over texts either keeps all their blocks, or has none to read or some that are
not compatible. -/
theorem addBlocks_cases (keeps : tree.Keeps nucaLevel seen) (texts : List (List Char)) :
    (∃ after blocks, addBlocks nucaLevel tree texts = .ok after ∧ Reads texts blocks ∧
        after.Keeps nucaLevel (seen ++ blocks)) ∨
      (∃ failure, addBlocks nucaLevel tree texts = .error failure ∧
        ∀ blocks, Reads texts blocks →
          ¬ (seen ++ blocks).Pairwise (Block.Compatible nucaLevel)) := by
  induction texts generalizing tree seen with
  | nil => exact .inl ⟨tree, [], rfl, .nil, by rwa [List.append_nil]⟩
  | cons text rest ih =>
    rcases read : (Block.read text : Except Failure (Block α)) with failure | block
    · refine .inr ⟨failure, by rw [addBlocks, read], fun blocks reads => ?_⟩
      cases reads with
      | cons head tail =>
        rw [read] at head
        cases head
    · rcases addBlock_cases keeps block with ⟨after, added, kept⟩ | ⟨failure, fails, apart⟩
      · have step : addBlocks nucaLevel tree (text :: rest) = addBlocks nucaLevel after rest := by
          rw [addBlocks, read]
          simp only [added]
        rw [step]
        rcases ih kept with ⟨last, blocks, run, reads, keepsAll⟩ | ⟨failure, fails, apart⟩
        · refine .inl ⟨last, block :: blocks, run, .cons read reads, ?_⟩
          rwa [List.append_cons]
        · refine .inr ⟨failure, fails, fun blocks reads => ?_⟩
          cases reads with
          | cons head tail =>
            rw [read] at head
            cases head
            rw [List.append_cons]
            exact apart _ tail
      · refine .inr ⟨failure, by rw [addBlocks, read]; simp only [fails], fun blocks reads => ?_⟩
        cases reads with
        | cons head tail =>
          rw [read] at head
          cases head
          rw [List.append_cons]
          exact fun pairwise => apart (List.pairwise_append.1 pairwise).1

/-- The text of a report: a banner, a summary of the technology, the texts of the blocks,
and what follows the last of them, with separators between. -/
def reportText (banner technology : List Char) (texts : List (List Char)) (trailer : List Char) :
    String :=
  String.ofList (List.intercalate separator (banner :: technology :: texts ++ [trailer]))

theorem blockTexts_reportText {banner technology trailer : List Char} {texts : List (List Char)}
    (plain : ∀ part ∈ banner :: technology :: texts ++ [trailer], '*' ∉ part) :
    blockTexts (reportText banner technology texts trailer).toList = texts := by
  have parts : Text.splitOn separator
      (List.intercalate separator (banner :: technology :: texts ++ [trailer])) =
        banner :: technology :: texts ++ [trailer] :=
    Text.splitOn_intercalate (by simp) plain
  rw [blockTexts, reportText, String.toList_ofList, parts, List.cons_append, List.cons_append,
    List.drop_succ_cons, List.drop_succ_cons, List.drop_zero, List.dropLast_concat]

omit [Scalar α] in
/-- A tree is empty exactly if no blocks made it. -/
theorem Keeps.isEmpty_iff {blocks : List (Block α)} (keeps : tree.Keeps nucaLevel blocks) :
    tree.isEmpty = true ↔ blocks = [] := by
  constructor
  · intro isEmpty
    obtain rfl := Dict.eq_empty_of_isEmpty isEmpty
    cases blocks with
    | nil => rfl
    | cons block rest =>
      have none_ := Component.ofBlocks?_eq_none_iff.1
        (keeps.get?_eq (labelFor nucaLevel block.label)).symm
      exact (List.ne_nil_of_mem
        (Block.mem_keptUnder_iff.2 ⟨List.mem_cons_self, rfl⟩) none_).elim
  · rintro rfl
    have same : tree = ∅ := Dict.ext_get? keeps.get?_eq
    rw [same]
    rfl

/-- `tree.Lists nucaLevel blocks`: the tree has the records of the blocks and nothing
else. Under a label that a chip has several of, the level that stands for NUCA being
kept as such, it has all records of that label in the order of the blocks. -/
structure Lists (tree : Tree α) (nucaLevel : Option CacheLevel) (blocks : List (Block α)) :
    Prop where
  instances : ∀ block ∈ blocks, block.label ∈ repeatedLabels →
    tree.get? (labelFor nucaLevel block.label) =
      some (.instances ((blocks.filter fun other => other.label = block.label).map (·.record)))
  single : ∀ block ∈ blocks, block.label ∉ repeatedLabels →
    tree.get? block.label = some (.single block.record)
  only : ∀ label, tree.contains label = true →
    ∃ block ∈ blocks, labelFor nucaLevel block.label = label

omit [Scalar α] in
theorem Keeps.lists {blocks : List (Block α)} (keeps : tree.Keeps nucaLevel blocks) :
    tree.Lists nucaLevel blocks := by
  have alone : ∀ first ∈ blocks, ∀ second ∈ blocks, ¬ second.Repeated →
      labelFor nucaLevel first.label = labelFor nucaLevel second.label → first = second := by
    intro first member second member' unique same
    by_contra different
    exact unique (keeps.compatible.forall member member' different same).2
  constructor
  case instances =>
    intro block member repeated
    have kept : Block.keptUnder nucaLevel (labelFor nucaLevel block.label) blocks =
        blocks.filter fun other => other.label = block.label := by
      refine List.filter_congr fun other member' => decide_eq_decide.2
        ⟨fun same => ?_, fun same => by rw [same]⟩
      by_cases several : other.Repeated
      · exact eq_of_labelFor_eq several repeated same
      · rw [alone block member other member' several same.symm]
    rw [keeps.get?_eq, kept]
    refine Component.ofBlocks?_of_repeated
      (List.ne_nil_of_mem (List.mem_filter.2 ⟨member, by simp⟩)) fun other isKept => ?_
    have same : other.label = block.label := by simpa using (List.mem_filter.1 isKept).2
    rwa [Block.Repeated, same]
  case single =>
    intro block member unique
    have stays := labelFor_of_not_mem unique nucaLevel
    rw [keeps.get?_eq]
    refine Component.ofBlocks?_of_unique
      (List.ne_nil_of_mem (Block.mem_keptUnder_iff.2 ⟨member, stays⟩)) (fun other isKept => ?_)
      unique
    obtain ⟨otherMember, same⟩ := Block.mem_keptUnder_iff.1 isKept
    exact alone other otherMember block member unique (same.trans stays.symm)
  case only =>
    intro label isThere
    rw [Dict.contains, keeps.get?_eq] at isThere
    rcases kept : Block.keptUnder nucaLevel label blocks with _ | ⟨first, rest⟩
    · rw [kept] at isThere
      cases isThere
    · exact ⟨first, Block.mem_keptUnder_iff.1 (kept ▸ List.mem_cons_self)⟩

/-- A tree of a report is what the blocks make, and not empty. -/
theorem ofReport_eq_ok_iff {report : String} {tree : Tree α} :
    ofReport nucaLevel report = .ok tree ↔
      addBlocks nucaLevel ∅ (blockTexts report.toList) = .ok tree ∧ tree.isEmpty = false := by
  unfold ofReport
  rcases run : addBlocks nucaLevel (∅ : Tree α) (blockTexts report.toList) with failure | after
  · exact ⟨(nomatch ·), (nomatch ·.1)⟩
  · change (if after.isEmpty = true then fail .emptyReport else .ok after) = .ok tree ↔ _
    split
    · rename_i isEmpty
      refine ⟨(nomatch ·), ?_⟩
      rintro ⟨same, nonempty⟩
      cases same
      rw [isEmpty] at nonempty
      cases nonempty
    · rename_i nonempty
      refine ⟨fun made => ⟨made, ?_⟩, And.left⟩
      cases made
      exact Bool.eq_false_iff.2 nonempty

/-- A report has a tree exactly if it has a block, all its blocks can be read, and their
labels can stand in one tree. The tree then has the records of the blocks and nothing
else. -/
theorem ofReport_components {nucaLevel : Option CacheLevel} {banner technology trailer : List Char}
    {texts : List (List Char)}
    (plain : ∀ part ∈ banner :: technology :: texts ++ [trailer], '*' ∉ part) :
    ((∃ tree : Tree α,
        ofReport nucaLevel (reportText banner technology texts trailer) = .ok tree) ↔
      texts ≠ [] ∧ ∃ blocks : List (Block α), Reads texts blocks ∧
        Admissible nucaLevel (blocks.map (·.label))) ∧
    ∀ tree : Tree α, ofReport nucaLevel (reportText banner technology texts trailer) = .ok tree →
      ∃ blocks, Reads texts blocks ∧ tree.Lists nucaLevel blocks := by
  simp only [ofReport_eq_ok_iff, blockTexts_reportText plain]
  rcases addBlocks_cases (Keeps.empty (α := α) nucaLevel) texts with
    ⟨after, blocks, run, reads, keeps⟩ | ⟨failure, fails, apart⟩
  · have lengths := reads.length_eq
    rw [List.nil_append] at keeps
    rw [run]
    refine ⟨⟨?_, ?_⟩, ?_⟩
    · rintro ⟨tree, same, nonempty⟩
      cases same
      refine ⟨?_, blocks, reads, Block.pairwise_compatible_iff.1 keeps.compatible⟩
      rintro rfl
      rw [keeps.isEmpty_iff.2 (List.eq_nil_of_length_eq_zero lengths.symm)] at nonempty
      cases nonempty
    · rintro ⟨ne, -⟩
      refine ⟨after, rfl, Bool.eq_false_iff.2 fun isEmpty => ne ?_⟩
      rw [keeps.isEmpty_iff.1 isEmpty] at lengths
      exact List.eq_nil_of_length_eq_zero lengths
    · rintro tree ⟨same, -⟩
      cases same
      exact ⟨blocks, reads, keeps.lists⟩
  · rw [fails]
    refine ⟨⟨?_, ?_⟩, ?_⟩
    · rintro ⟨tree, same, -⟩
      cases same
    · rintro ⟨-, blocks, reads, admissible⟩
      exact (apart blocks reads (Block.pairwise_compatible_iff.2 admissible)).elim
    · rintro tree ⟨same, -⟩
      cases same

/-- The blocks of a chip with two slices of NUCA in the place of an L2. -/
def sliceTexts : List (List Char) := [
  "\nL2:\n  Area = 4 mm^2\n".toList, "\nProcessor\n  Area = 10 mm^2\n".toList,
  "\nL2:\n  Area = 5 mm^2\n".toList]

/-- What the blocks say. -/
def sliceBlocks : List (Block Rat) := [
  { label := "L2", record := Dict.ofList [("Area", 4)] },
  { label := "Processor", record := Dict.ofList [("Area", 10)] },
  { label := "L2", record := Dict.ofList [("Area", 5)] }]

/-- Both L2 blocks are slices of NUCA, in the order of the report. -/
theorem ofReport_components_sliceTexts :
    ∃ tree : Tree Rat,
      ofReport (some .l2) (reportText "McPAT".toList "45 nm".toList sliceTexts "Done".toList) =
        .ok tree ∧
      tree.get? "NUCA" =
        some (.instances [Dict.ofList [("Area", 4)], Dict.ofList [("Area", 5)]]) ∧
      tree.get? "Processor" = some (.single (Dict.ofList [("Area", 10)])) ∧
      tree.contains "L2" = false := by
  have plain : ∀ part ∈ "McPAT".toList :: "45 nm".toList :: sliceTexts ++ ["Done".toList],
      '*' ∉ part := by decide
  have reads : Reads sliceTexts sliceBlocks := .cons rfl (.cons rfl (.cons rfl .nil))
  have admissible : Admissible (some .l2) (sliceBlocks.map (·.label)) := ⟨by decide, by decide⟩
  obtain ⟨built, content⟩ := @ofReport_components Rat _ (some .l2) _ _ _ _ plain
  obtain ⟨tree, made⟩ := built.2 ⟨List.cons_ne_nil _ _, sliceBlocks, reads, admissible⟩
  obtain ⟨blocks, reads', lists⟩ := content tree made
  obtain rfl : sliceBlocks = blocks := reads.unique reads'
  refine ⟨tree, made, lists.instances _ List.mem_cons_self (by decide),
    lists.single _ (List.mem_cons_of_mem _ List.mem_cons_self) (by decide), ?_⟩
  refine Bool.eq_false_iff.2 fun isThere => ?_
  obtain ⟨block, member, kept⟩ := lists.only "L2" isThere
  revert block
  decide

end Tree

end ChipPower
