import ChipPower.Proofs.Hierarchy.Slices
import ChipPower.Proofs.Template.Markup
import Mathlib.Data.List.Infix

/-!
# Private L2 banks

The estimator is told once, in the head of the layout, whether L2 banks are private. The flag
is derived together with the banks of the L2 and the cores that share one, and stays as it is
when slices take the place of an L2 that the chip does not have, while the other two are
replaced. So it is right wherever the L2 is one of the chip's own.
`Hierarchy.privateL2s_iff` says what it says of slices.

What the layout says about a parameter is what its lines say about it (`Tells`).
-/

namespace ChipPower

/-! ## The parameters of a layout -/

namespace Markup

/-- What the tag that sets a parameter starts with. -/
def setter (name : List Char) : List Char :=
  '<' :: (paramName.chars ++ name ++ ['"'])

/-- The value that a text gives to a parameter, which is what stands in the next quotation
marks. A scan takes no blank before the equals sign, and the flag for private banks has one. -/
def setting? (name text : List Char) : Option (List Char) :=
  (after? (setter name) (text.dropWhile (· ≠ '<'))).map fun rest =>
    quoted ((rest.dropWhile (· ≠ '"')).drop 1)

/-- The tag that a text starts with is another one, whatever comes after the text. -/
def startsOther (name text : List Char) : Bool :=
  let tag := text.dropWhile (· ≠ '<')
  !tag.isEmpty && !((setter name).take tag.length).isPrefixOf tag

theorem setting?_of_startsOther {name piece : List Char}
    (other : startsOther name piece = true) (rest : List Char) :
    setting? name (piece ++ rest) = none := by
  simp only [startsOther, Bool.and_eq_true, Bool.not_eq_true', ← Bool.not_eq_true,
    List.isPrefixOf_iff_prefix] at other
  obtain ⟨started, differs⟩ := other
  rw [setting?, List.dropWhile_append, if_neg started, after?, if_neg, Option.map_none]
  rw [List.isPrefixOf_iff_prefix]
  intro same
  have ahead := same.take (piece.dropWhile (· ≠ '<')).length
  rw [List.take_left] at ahead
  exact differs ahead

theorem setting?_of_dropWhile {name piece more : List Char}
    (start : piece.dropWhile (· ≠ '<') = setter name ++ more)
    (quote : more.dropWhile (· ≠ '"') = ['"']) (rest : List Char) :
    setting? name (piece ++ rest) = some (quoted rest) := by
  have opened : ¬ (setter name ++ more).isEmpty = true := Bool.false_ne_true
  rw [setting?, List.dropWhile_append, start, if_neg opened, List.append_assoc, after?_append,
    Option.map_some, List.dropWhile_append, quote]
  rfl

end Markup

/-- The value that a line of a template gives to a parameter. -/
def Entry.setting? (name : List Char) (entry : Entry) : Option (List Char) :=
  Markup.setting? name entry.text.toList

namespace Template

open Layout

/-- The values that a template gives to a parameter. -/
def settings (name : List Char) (template : Template) : List (List Char) :=
  template.filterMap (Entry.setting? name)

theorem settings_append (name : List Char) (first second : Template) :
    settings name (first ++ second) = settings name first ++ settings name second :=
  List.filterMap_append

/-- A line gives no value to a parameter, whatever it is laid out for. -/
structure Line.Silent (name : List Char) (line : Line) : Prop where
  setting?_entry : ∀ scope number, (line.entry scope number).setting? name = none

namespace Line

variable {name : List Char}

theorem silent_literal (text : List Char) (other : Markup.setting? name text = none) :
    (literal (String.ofList text)).Silent name :=
  ⟨fun _ _ => (congrArg _ String.toList_ofList).trans other⟩

theorem silent_bound (text : List Char) {kind : BindingKind} {bound : String}
    (other : Markup.setting? name text = none) :
    (Line.bound (String.ofList text) kind bound).Silent name :=
  ⟨fun _ _ => (congrArg _ String.toList_ofList).trans other⟩

theorem silent_count (piece tail : List Char) (units : Nat)
    (other : Markup.startsOther name piece = true) :
    (count (String.ofList piece) units (String.ofList tail)).Silent name :=
  ⟨fun _ _ => (congrArg _ (toList_count piece tail units)).trans
    (Markup.setting?_of_startsOther other _)⟩

theorem silent_numbered (piece : List Char) (next : String) (others : List String)
    (other : Markup.startsOther name piece = true) :
    (numbered (String.ofList piece :: next :: others)).Silent name := by
  refine ⟨fun scope number => ?_⟩
  change Markup.setting? name (String.intercalate (toString number) _).toList = none
  rw [String.toList_intercalate, List.map_cons, List.map_cons, String.toList_ofList,
    List.intercalate_cons_cons, List.append_assoc]
  exact Markup.setting?_of_startsOther other _

end Line

/-- `Tells name lines values`: the values that lines give to a parameter, in their order. -/
inductive Tells (name : List Char) : List Line → List (List Char) → Prop
  | nil : Tells name [] []
  | skip {line : Line} {lines : List Line} {values : List (List Char)} :
    line.Silent name → Tells name lines values → Tells name (line :: lines) values
  | told {lines : List Line} {values : List (List Char)} (piece tail more : List Char)
    (units : Nat) (start : piece.dropWhile (· ≠ '<') = Markup.setter name ++ more)
    (quote : more.dropWhile (· ≠ '"') = ['"']) (stop : tail.head? = some '"') :
    Tells name lines values →
    Tells name (count (String.ofList piece) units (String.ofList tail) :: lines)
      ((toString units).toList :: values)

theorem Tells.settings_eq {name : List Char} {lines : List Line} {values : List (List Char)}
    (tells : Tells name lines values) (scope : Scope) (number : Nat) :
    settings name (lines.map (Line.entry scope number)) = values := by
  unfold settings
  induction tells with
  | nil => rfl
  | skip silent _ ih =>
    rw [List.map_cons, List.filterMap_cons_none (silent.setting?_entry scope number), ih]
  | told piece tail more units start quote stop _ ih =>
    obtain ⟨rest, rfl⟩ := List.head?_eq_some_iff.1 stop
    have unquoted := Text.not_mem_toString (c := '"') (by decide) units
    have here : Entry.setting? name ((count (String.ofList piece) units
        (String.ofList ('"' :: rest))).entry scope number) = some (toString units).toList := by
      change Markup.setting? name
        (String.ofList piece ++ toString units ++ String.ofList ('"' :: rest)).toList = _
      rw [toList_count, Markup.setting?_of_dropWhile start quote, Markup.quoted_append unquoted]
    rw [List.map_cons, List.filterMap_cons_some here, ih]

def privateName : Text.Spelled "Private_L2" := ⟨_, rfl⟩

set_option maxRecDepth 4000 in
theorem tells_lines (h : Hierarchy) :
    Tells privateName.chars (head h) [(toString (privateFlag h)).toList] ∧
      Tells privateName.chars core [] ∧ Tells privateName.chars l2Bank [] ∧
      Tells privateName.chars l3Bank [] ∧ Tells privateName.chars (divider ++ networkHead) [] ∧
      Tells privateName.chars networkDomain [] ∧
      Tells privateName.chars
        (network ++ memoryController ++ networkInterface ++ pcie ++ flash ++ foot) [] := by
  repeat'
    first
    | refine ⟨?_, ?_⟩
    | exact .nil
    | refine .skip (Line.silent_literal _ (by decide +kernel)) ?_
    | refine .skip (Line.silent_bound _ (by decide +kernel)) ?_
    | refine .skip (Line.silent_numbered _ _ _ (by decide +kernel)) ?_
    | refine .skip (Line.silent_count _ _ _ (by decide +kernel)) ?_
    | refine .told _ _ _ _ rfl (by decide +kernel) rfl ?_

theorem settings_units {name : List Char} {lines : List Line} (tells : Tells name lines [])
    (number : Nat) : settings name (units lines number) = [] := by
  refine List.filterMap_eq_nil_iff.2 fun entry member => ?_
  obtain ⟨unit, -, listed⟩ := List.mem_flatMap.1 member
  exact List.filterMap_eq_nil_iff.1 (tells.settings_eq (.unit unit) unit) entry listed

/-- The layout tells once whether L2 banks are private. -/
theorem settings_ofHierarchy (h : Hierarchy) :
    settings privateName.chars (ofHierarchy h) = [(toString (privateFlag h)).toList] := by
  obtain ⟨headTells, coreTells, l2Tells, l3Tells, networkTells, domainTells, restTells⟩ :=
    tells_lines h
  have head := headTells.settings_eq .system 0
  have network := networkTells.settings_eq .system 0
  have domain := domainTells.settings_eq (networkScope h) 0
  have rest := restTells.settings_eq .system 0
  unfold ofHierarchy systemEntries
  simp only [settings_append, head, settings_units coreTells, settings_units l2Tells,
    settings_units l3Tells, network, domain, rest, List.append_nil]

end Template

/-! ## The flag for private banks -/

namespace Hierarchy

variable {config : Config} {topology : List TopologyEntry} {h : Hierarchy}

/-- What the layout tells about private L2 banks. -/
def privacy (h : Hierarchy) : List (List Char) :=
  Template.settings Template.privateName.chars (Template.ofHierarchy h)

/-- Each L2 bank serves a single core. -/
def Solitary (h : Hierarchy) : Prop :=
  ∀ bank < h.l2Banks, (coresIn (h.l2Range bank)).length = 1

/-- Where the banks of an L2 come from: they are those of an L2 with an access time, or slices
in its place. -/
inductive HasL2 (config : Config) (topology : List TopologyEntry) (h : Hierarchy) : Prop
  | own (kept : h.nucaLevel ≠ some .l2)
    (counted : bankCount h.cores h.l2Sharing = .ok h.l2Banks)
    (flag : h.privateL2s = decide (h.l2Sharing = 1))
  | slices (replaced : h.nucaLevel = some .l2)
    (found : Slices.ofConfig config topology h.cores = .ok ⟨h.l2Banks, h.l2Sharing⟩)
    (flag : 0 < h.cores → h.privateL2s = true)

theorem StartsAt.hasL2 {time : Nat} (starts : StartsAt config time h) (banked : 0 < h.l2Banks) :
    bankCount h.cores h.l2Sharing = .ok h.l2Banks ∧
      h.privateL2s = decide (h.l2Sharing = 1) := by
  rcases starts.l2Banks with ⟨slow, counted⟩ | ⟨-, absent⟩
  · refine ⟨counted, ?_⟩
    rw [starts.privateL2s, decide_eq_decide]
    exact or_iff_right (by omega)
  · omega

/-- A chip with cores whose L2 has no banks has an L2 without access time. -/
theorem StartsAt.privateL2s_of_absent {time : Nat} (starts : StartsAt config time h)
    (absent : h.l2Banks = 0) (manned : 0 < h.cores) : h.privateL2s = true := by
  rcases starts.l2Banks with ⟨-, counted⟩ | ⟨fast, -⟩
  · exact absurd absent (bankCount_ne_zero manned counted)
  · rw [starts.privateL2s, decide_eq_true_eq]
    exact .inl fast

theorem hasL2_of_ofConfig (derived : ofConfig config topology = .ok h) (banked : 0 < h.l2Banks) :
    HasL2 config topology h := by
  obtain ⟨time, levels, base, starts, -, completes⟩ := ofConfig_eq_ok_iff.1 derived
  have bare : base.nucaLevel ≠ some .l2 := by
    rw [starts.nucaLevel]
    exact (Option.some_ne_none _).symm
  cases completes with
  | withL3 _ _ | plain _ _ =>
    obtain ⟨counted, flag⟩ := starts.hasL2 banked
    exact .own bare counted flag
  | @withSlices slices _ _ found =>
    by_cases absent : base.l2Banks = 0
    · rw [withSlices, if_pos absent]
      exact .slices rfl found (starts.privateL2s_of_absent absent)
    · obtain ⟨counted, flag⟩ := starts.hasL2 (Nat.pos_of_ne_zero absent)
      have other : some CacheLevel.l3 ≠ some .l2 := by decide
      rw [withSlices, if_neg absent]
      exact .own other counted flag

/-- There are no more L2 banks than cores to share them out to, if any core shares one. -/
theorem HasL2.bound (l2 : HasL2 config topology h) (shared : 0 < h.l2Sharing) :
    h.l2Sharing * h.l2Banks < h.cores + h.l2Sharing := by
  cases l2 with
  | own _ counted _ => exact (bankCount_bounds counted).2.2
  | slices _ found _ =>
    obtain ⟨setting, -, ⟨-, interleaved⟩ | ⟨-, listed⟩⟩ := Slices.ofConfig_eq_ok_iff.1 found
    · exact (bankCount_bounds (Slices.interleaved_eq_ok_iff.1 interleaved).2).2.2
    · have sharing : h.l2Sharing = h.cores / h.l2Banks := (Slices.listed_eq_ok_iff.1 listed).2.2.1
      have even := Nat.div_mul_le_self h.cores h.l2Banks
      rw [← sharing] at even
      omega

/-- Only the last bank may serve fewer cores than share a bank, so that banks of one core are
those that one core shares, or the one bank of the only core. -/
theorem HasL2.solitary_iff (l2 : HasL2 config topology h) (banked : 0 < h.l2Banks) :
    h.Solitary ↔ min h.l2Sharing h.cores = 1 := by
  have size (bank : Nat) : (coresIn (h.l2Range bank)).length =
      min (h.l2Sharing * bank + h.l2Sharing) h.cores - min (h.l2Sharing * bank) h.cores :=
    List.length_range'
  constructor
  · intro solitary
    have first := solitary 0 banked
    rw [size, Nat.mul_zero] at first
    omega
  · intro one bank below
    have bound := l2.bound (by omega)
    have next := Nat.mul_le_mul_left h.l2Sharing (Nat.succ_le_of_lt below)
    rw [Nat.mul_succ] at next
    rw [size]
    omega

/-- The flag says whether one core shares a bank, except of slices that several cores share. A
chip without cores may have slices too, which no core shares. -/
theorem HasL2.flag_iff (l2 : HasL2 config topology h) (banked : 0 < h.l2Banks) :
    (h.privateL2s = true ↔ h.l2Sharing = 1) ↔
      (h.nucaLevel = some .l2 → h.l2Sharing = 1 ∨ h.cores = 0 ∧ h.privateL2s = false) := by
  cases l2 with
  | own kept _ flag =>
    refine iff_of_true ?_ fun placed => (kept placed).elim
    rw [flag, decide_eq_true_eq]
  | slices replaced found flag =>
    rw [imp_iff_right replaced]
    rcases Nat.eq_zero_or_pos h.cores with unmanned | manned
    · have unshared : h.l2Sharing ≠ 1 := by
        intro one
        have bound := HasL2.bound (.slices replaced found flag) (by omega)
        rw [one, unmanned] at bound
        omega
      simp [unshared, unmanned]
    · simp [flag manned, manned.ne']

theorem privacy_eq_iff (h : Hierarchy) : h.privacy = [['1']] ↔ h.privateL2s = true := by
  rw [privacy, Template.settings_ofHierarchy, Template.Layout.privateFlag]
  cases h.privateL2s <;> decide

/-- The layout tells once whether L2 banks are private, as the flag says. The flag is right
wherever the L2 is the chip's own. Of slices in its place it is right if one core shares each
of them, or if there are no cores and it is not set. If there are several cores, this is also
when the layout tells truly whether each bank serves a single core. -/
theorem privateL2s_iff (derived : ofConfig config topology = .ok h) (banked : 0 < h.l2Banks) :
    (∃ value, h.privacy = [value] ∧
      (value = ['1'] ↔ h.privateL2s = true) ∧ (value = ['0'] ↔ h.privateL2s = false)) ∧
    ((h.privateL2s = true ↔ h.l2Sharing = 1) ↔
      (h.nucaLevel = some .l2 → h.l2Sharing = 1 ∨ h.cores = 0 ∧ h.privateL2s = false)) ∧
    (h.Solitary ↔ min h.l2Sharing h.cores = 1) ∧
    (1 < h.cores →
      ((h.privacy = [['1']] ↔ h.Solitary) ↔ (h.nucaLevel = some .l2 → h.l2Sharing = 1))) := by
  have l2 := hasL2_of_ofConfig derived banked
  refine ⟨?told, l2.flag_iff banked, l2.solitary_iff banked, ?several⟩
  case told =>
    refine ⟨_, Template.settings_ofHierarchy h, ?_⟩
    rw [Template.Layout.privateFlag]
    cases h.privateL2s <;> decide
  case several =>
    intro several
    have solitary : h.Solitary ↔ h.l2Sharing = 1 := by
      rw [l2.solitary_iff banked]
      omega
    have manned : h.cores ≠ 0 := by omega
    rw [privacy_eq_iff, solitary, l2.flag_iff banked]
    simp [manned]

/-- Four cores without an L2, and slices at a distance in its place. -/
def interleavedConfig (distance : String) : Config :=
  .ofList [
    ("general/total_cores", "4"),
    ("perf_model/cache/levels", "2"),
    ("perf_model/dram_directory/interleaving", distance),
    ("perf_model/dram_directory/locations", "interleaved"),
    ("perf_model/nuca/enabled", "true")]

/-- With a slice for each core, all of them are private. -/
theorem privateL2s_iff_adjacent :
    ∃ h, ofConfig (interleavedConfig "1") [] = .ok h ∧ h.nucaLevel = some .l2 ∧
      h.l2Banks = 4 ∧ h.cores = 4 ∧ (h.privateL2s = true ↔ h.l2Sharing = 1) ∧
      (h.privacy = [['1']] ↔ h.Solitary) := by
  have derived : ofConfig (interleavedConfig "1") [] = .ok ⟨4, 45, 4, true, 1, 0, 0, some .l2⟩ := by
    decide +kernel
  obtain ⟨-, flag, -, several⟩ := privateL2s_iff derived (by decide)
  exact ⟨_, derived, rfl, rfl, rfl, flag.2 fun _ => .inl rfl,
    (several (by decide)).2 fun _ => rfl⟩

/-- A single slice for all four cores is told to be private. -/
theorem shared_slice_private :
    ∃ h, ofConfig (interleavedConfig "4") [] = .ok h ∧ h.l2Banks = 1 ∧ h.l2Sharing = 4 ∧
      ¬ (h.privateL2s = true ↔ h.l2Sharing = 1) ∧
      h.privacy = [['1']] ∧ coresIn (h.l2Range 0) = [0, 1, 2, 3] ∧ ¬ h.Solitary := by
  have derived : ofConfig (interleavedConfig "4") [] = .ok ⟨4, 45, 1, true, 4, 0, 0, some .l2⟩ := by
    decide +kernel
  refine ⟨_, derived, rfl, rfl, by decide, (privacy_eq_iff _).2 rfl, by decide, ?_⟩
  intro solitary
  exact absurd (solitary 0 (by decide)) (by decide)

end Hierarchy

end ChipPower
