import ChipPower.Failure
import ChipPower.Run.Files

/-!
# Files with one beginning

The paths of a run start with one text and go on with endings of their own. Such paths lead
through the same directories (`Path.exists_stem`), and to places of their own
(`Stem.key_injective`). A write makes a file of one place and leaves every directory what it
was (`Files.foldlM_enter_withText`), so what is found at the other paths does not change:
`Files.AgreesBut` says this of any number of writes, and `Files.agreesBut_of_write` of one.
-/

namespace ChipPower

/-- A check that refuses was passed if there is a result. -/
theorem refuse_eq_ok_iff {ε α β : Type} {refused : Prop} [Decidable refused] {e : ε}
    {skipped : α → Except ε β} {rest : Except ε β} {b : β} :
    (if refused then throw e >>= skipped else rest) = .ok b ↔ ¬refused ∧ rest = .ok b := by
  by_cases held : refused <;> simp [held, throw, throwThe, MonadExceptOf.throw, bind, Except.bind]

/-! ## Paths -/

namespace Path

/-- The paths that can be opened. -/
theorem check_eq_ok_iff {path : String} {p : Path} :
    check path = .ok p ↔
      '\x00' ∉ path.toList ∧ path ≠ "" ∧ path.utf8ByteSize ≤ maxPathSize ∧ ofText path = p := by
  simp only [check, refuse_eq_ok_iff, pure_eq_ok_iff, String.contains_char_eq, decide_eq_true_eq,
    Nat.not_lt, ne_eq]

/-- The key of the place that a path leads to, whether anything is there or not. -/
def target (path : String) : String :=
  key ((ofText path).names.foldl step (ofText path).start)

/-- A text that only lengthens the last name of a path, and makes no dots of it. -/
structure IsEnding (ending : String) : Prop where
  flat : '/' ∉ ending.toList
  long : 2 < ending.length

/-- The names between the slashes of a text. -/
def namesIn (text : List Char) : List String :=
  ((text.splitOn '/').map String.ofList).filter (· != "")

/-- What may stand in front of a name: nothing, or a text that a slash ends. -/
inductive IsFront : List Char → Prop
  | nil : IsFront []
  | slash (names : List Char) : IsFront (names ++ ['/'])

/-- Every text is a front and the beginning of a name. -/
theorem exists_isFront (text : List Char) :
    ∃ front last, text = front ++ last ∧ IsFront front ∧ '/' ∉ last := by
  by_cases mem : '/' ∈ text
  · rcases List.eq_append_cons_of_mem (List.mem_reverse.2 mem) with ⟨last, names, cut, flat⟩
    refine ⟨names.reverse ++ ['/'], last.reverse, ?_, .slash names.reverse, by simpa using flat⟩
    rw [← List.reverse_reverse text, cut]
    simp
  · exact ⟨[], text, rfl, .nil, mem⟩

theorem namesIn_of_flat {last : List Char} (flat : '/' ∉ last) (ne : last ≠ []) :
    namesIn last = [String.ofList last] := by
  have kept : String.ofList last ≠ "" := fun empty => ne (String.ofList_eq_empty_iff.1 empty)
  simp [namesIn, List.splitOn_eq_singleton flat, kept]

theorem namesIn_append {front : List Char} (isFront : IsFront front) (rest : List Char) :
    namesIn (front ++ rest) = namesIn front ++ namesIn rest := by
  have slashed (names rest : List Char) :
      (names ++ '/' :: rest).splitOn '/' = names.splitOn '/' ++ rest.splitOn '/' :=
    List.splitOnP_append_cons names rest (beq_self_eq_true '/')
  cases isFront with
  | nil => rfl
  | slash names =>
    rw [List.append_assoc, List.singleton_append, namesIn, slashed, namesIn, slashed]
    simp [namesIn]

theorem head?_append_eq_slash_iff {front last : List Char} (isFront : IsFront front)
    (flat : '/' ∉ last) : (front ++ last).head? = some '/' ↔ front.head? = some '/' := by
  cases isFront with
  | nil =>
    have other : last.head? ≠ some '/' := fun first => flat (List.mem_of_mem_head? first)
    simp [other]
  | slash names => cases names <;> simp

theorem getLast?_append_ne_slash {last : List Char} (flat : '/' ∉ last) (ne : last ≠ [])
    (front : List Char) : (front ++ last).getLast? ≠ some '/' := by
  rw [List.getLast?_append, List.getLast?_eq_some_getLast ne, Option.some_or]
  intro ends
  exact flat (Option.some.inj ends ▸ List.getLast_mem ne)

end Path

/-- What the paths with one beginning have in common: where they start, the directories
they lead through, and the beginning of their last name. -/
structure Stem where
  start : List String
  directories : List String
  last : String

namespace Stem

variable (stem : Stem)

/-- The last name of a path. -/
def name (ending : String) : String :=
  stem.last ++ ending

/-- The path with an ending. -/
def path (ending : String) : Path where
  start := stem.start
  names := stem.directories ++ [stem.name ending]
  slash := false

@[simp] theorem start_path (ending : String) : (stem.path ending).start = stem.start := rfl

@[simp] theorem slash_path (ending : String) : (stem.path ending).slash = false := rfl

@[simp] theorem getLast?_names_path (ending : String) :
    (stem.path ending).names.getLast? = some (stem.name ending) := by
  simp [path]

@[simp] theorem dropLast_names_path (ending : String) :
    (stem.path ending).names.dropLast = stem.directories := by
  simp [path]

end Stem

namespace Path

/-- Whatever a beginning is, its paths lead through the same directories. -/
theorem exists_stem (base : String) :
    ∃ stem : Stem, ∀ ending, IsEnding ending → ofText (base ++ ending) = stem.path ending := by
  rcases exists_isFront base.toList with ⟨front, last, cut, isFront, flat⟩
  refine ⟨⟨if front.head? = some '/' then [""] else [], namesIn front, String.ofList last⟩,
    fun ending isEnding => ?_⟩
  have text : (base ++ ending).toList = front ++ (last ++ ending.toList) := by
    rw [String.toList_append, cut, List.append_assoc]
  have whole : '/' ∉ last ++ ending.toList := by
    simp [flat, isEnding.flat]
  have ne : last ++ ending.toList ≠ [] := by
    have long := isEnding.long
    intro empty
    simp_all
  have names : namesIn (base ++ ending).toList =
      namesIn front ++ [String.ofList last ++ ending] := by
    rw [text, namesIn_append isFront, namesIn_of_flat whole ne, String.ofList_append,
      String.ofList_toList]
  have slash : ((base ++ ending).toList.getLast? == some '/') = false := by
    rw [text, beq_eq_false_iff_ne]
    exact getLast?_append_ne_slash whole ne front
  have start := head?_append_eq_slash_iff isFront whole
  rw [← text] at start
  rw [ofText, slash, Stem.path, Stem.name, ← names]
  simp only [start]
  rfl

end Path

namespace Stem

variable (stem : Stem)

theorem step_name {ending : String} (isEnding : Path.IsEnding ending) (place : List String) :
    Path.step place (stem.name ending) = place ++ [stem.name ending] := by
  have long : 2 < (stem.name ending).length := by
    have own := isEnding.long
    rw [name, String.length_append]
    omega
  have noDot : stem.name ending ≠ "." := fun same => by simp [same, String.length] at long
  have noDots : stem.name ending ≠ ".." := fun same => by simp [same, String.length] at long
  rw [Path.step, if_neg noDot, if_neg noDots]

/-- In one directory, different endings are of different places. -/
theorem key_injective {place : List String} {first second : String}
    (same : Path.key (place ++ [stem.name first]) = Path.key (place ++ [stem.name second])) :
    first = second := by
  have names : stem.name first = stem.name second := by
    cases place with
    | nil => exact same
    | cons head rest =>
      simp only [Path.key, String.intercalate_append_of_ne_nil (List.cons_ne_nil head rest)
        (List.cons_ne_nil _ []), String.intercalate_singleton] at same
      exact (String.append_right_inj _).1 same
  exact (String.append_right_inj stem.last).1 names

end Stem

/-! ## Directories -/

namespace Files

/-- Files with a text for one key. -/
def withText (files : Files) (key content : String) : Files :=
  files.insert key (.text content)

variable {files : Files} {key content : String}

/-- A written text is at its own place only. -/
theorem node?_withText_of_ne {place : List String} (other : Path.key place ≠ key) :
    (files.withText key content).node? place = files.node? place := by
  rw [node?, node?, withText, Dict.get?_insert_of_ne _ other]

theorem node?_of_get? {place : List String}
    (found : files.get? (Path.key place) = some .directory) :
    files.node? place = some .directory := by
  unfold node?
  split
  · rfl
  · exact found

/-- A text that is not put in place of a directory leaves all directories. -/
theorem node?_withText_of_directory (free : files.get? key ≠ some .directory)
    {place : List String} (found : files.node? place = some .directory) :
    (files.withText key content).node? place = some .directory := by
  by_cases same : Path.key place = key
  · subst same
    unfold node? at found ⊢
    split at found
    · rw [if_pos (by assumption)]
    · exact (free found).elim
  · rw [node?_withText_of_ne same, found]

theorem enter_eq_ok_iff {place next : List String} {name : String} :
    files.enter place name = .ok next ↔
      lookUp place name = .ok next ∧ files.node? next = some .directory := by
  rw [enter, bind_eq_ok_iff]
  constructor
  · intro entered
    rcases entered with ⟨looked, found, onward⟩
    cases here : files.node? looked with
    | none => simp [here] at onward
    | some node =>
      cases node with
      | text content => simp [here] at onward
      | directory =>
        simp only [here, pure_eq_ok_iff] at onward
        exact onward ▸ ⟨found, here⟩
  · intro there
    rcases there with ⟨looked, found⟩
    exact ⟨next, looked, by simp [found, pure_eq_ok_iff]⟩

theorem eq_step_of_lookUp {place next : List String} {name : String}
    (looked : lookUp place name = .ok next) : next = Path.step place name := by
  unfold lookUp at looked
  split at looked
  · cases looked
  · exact (Except.ok.inj looked).symm

/-- The place that names lead to is that of the names alone. -/
theorem eq_foldl_step {names : List String} {place next : List String}
    (entered : names.foldlM files.enter place = .ok next) : next = names.foldl Path.step place := by
  induction names generalizing place with
  | nil => exact (pure_eq_ok_iff.1 entered).symm
  | cons name names ih =>
    rw [List.foldlM_cons, bind_eq_ok_iff] at entered
    rcases entered with ⟨middle, first, later⟩
    rw [List.foldl_cons, ← eq_step_of_lookUp (enter_eq_ok_iff.1 first).1]
    exact ih later

theorem foldlM_enter_withText (free : files.get? key ≠ some .directory) {names : List String}
    {place next : List String} (entered : names.foldlM files.enter place = .ok next) :
    names.foldlM (files.withText key content).enter place = .ok next := by
  induction names generalizing place with
  | nil => exact entered
  | cons name names ih =>
    rw [List.foldlM_cons, bind_eq_ok_iff] at entered ⊢
    rcases entered with ⟨middle, first, later⟩
    rcases enter_eq_ok_iff.1 first with ⟨looked, found⟩
    exact ⟨middle, enter_eq_ok_iff.2 ⟨looked, node?_withText_of_directory free found⟩, ih later⟩

/-! ## Finding and writing -/

variable {stem : Stem} {path ending : String} {front : List String}

theorem eq_of_lookUp (isEnding : Path.IsEnding ending) {place : List String}
    (looked : lookUp front (stem.name ending) = .ok place) :
    place = front ++ [stem.name ending] :=
  (eq_step_of_lookUp looked).trans (stem.step_name isEnding front)

/-- What is found at a path whose directories are there. -/
theorem find_eq (parts : Path.ofText path = stem.path ending) (isEnding : Path.IsEnding ending)
    (entered : stem.directories.foldlM files.enter stem.start = .ok front) :
    files.find path = (do
      let _ ← Path.check path
      let _ ← lookUp front (stem.name ending)
      (files.node? (front ++ [stem.name ending])).elim (.error .notFound) .ok) := by
  unfold find locate
  cases checked : Path.check path with
  | error e => rfl
  | ok p =>
    rcases Path.check_eq_ok_iff.1 checked with ⟨-, -, -, rfl⟩
    simp only [bind, Except.bind, parts, enterAll, Stem.dropLast_names_path, Stem.start_path,
      entered, Stem.getLast?_names_path, Option.elim_some, Stem.slash_path]
    cases looked : lookUp front (stem.name ending) with
    | error e => rfl
    | ok place =>
      cases eq_of_lookUp isEnding looked
      dsimp only
      cases files.node? (front ++ [stem.name ending]) with
      | none => rfl
      | some node => cases node <;> rfl

theorem write_eq_ok {after : Files} (parts : Path.ofText path = stem.path ending)
    (isEnding : Path.IsEnding ending) (written : files.write path content = .ok after) :
    ∃ front, stem.directories.foldlM files.enter stem.start = .ok front ∧
      files.node? (front ++ [stem.name ending]) ≠ some .directory ∧
      after = files.withText (Path.key (front ++ [stem.name ending])) content := by
  unfold write at written
  rcases bind_eq_ok_iff.1 written with ⟨p, checked, written⟩
  rcases bind_eq_ok_iff.1 written with ⟨front, entered, written⟩
  rcases Path.check_eq_ok_iff.1 checked with ⟨-, -, -, rfl⟩
  rw [enterAll, parts, Stem.dropLast_names_path, Stem.start_path] at entered
  simp only [parts, Stem.getLast?_names_path, Option.elim_some, refuse_eq_ok_iff] at written
  rcases bind_eq_ok_iff.1 written.2 with ⟨place, looked, written⟩
  cases eq_of_lookUp isEnding looked
  refine ⟨front, entered, ?_⟩
  split at written
  · cases written
  · next free => exact ⟨free, (pure_eq_ok_iff.1 written).symm⟩

/-- `before.AgreesBut base endings after`: between `before` and `after`, nothing has changed
but the texts at `base` with one of the `endings`. What is found at `base` with any other
ending is the same, also when nothing can be found there. -/
structure AgreesBut (before : Files) (base : String) (endings : List String) (after : Files) :
    Prop where
  find : ∀ ending, Path.IsEnding ending → ending ∉ endings →
    after.find (base ++ ending) = before.find (base ++ ending)
  get? : ∀ key, (∀ ending ∈ endings, key ≠ Path.target (base ++ ending)) →
    after.get? key = before.get? key

namespace AgreesBut

variable {before middle after : Files} {base : String} {endings : List String}

theorem refl : before.AgreesBut base endings before :=
  ⟨fun _ _ _ => rfl, fun _ _ => rfl⟩

theorem trans (first : before.AgreesBut base endings middle)
    (second : middle.AgreesBut base endings after) : before.AgreesBut base endings after where
  find ending isEnding other :=
    (second.find ending isEnding other).trans (first.find ending isEnding other)
  get? key other := (second.get? key other).trans (first.get? key other)

end AgreesBut

/-- A write changes nothing but the text of its own file. -/
theorem agreesBut_of_write {base : String} {endings : List String} {after : Files}
    (isEnding : Path.IsEnding ending) (listed : ending ∈ endings)
    (written : files.write (base ++ ending) content = .ok after) :
    files.AgreesBut base endings after := by
  rcases Path.exists_stem base with ⟨stem, parts⟩
  rcases write_eq_ok (parts ending isEnding) isEnding written with ⟨front, entered, free, rfl⟩
  have own : Path.target (base ++ ending) = Path.key (front ++ [stem.name ending]) := by
    rw [Path.target, parts ending isEnding, Stem.path, List.foldl_append, ← eq_foldl_step entered]
    exact congrArg Path.key (stem.step_name isEnding front)
  constructor
  · intro other isOther unlisted
    have apart :
        Path.key (front ++ [stem.name other]) ≠ Path.key (front ++ [stem.name ending]) := by
      intro same
      exact unlisted (stem.key_injective same ▸ listed)
    -- The write did not put its text in place of a directory, so the way is still there.
    have still : stem.directories.foldlM
        (files.withText (Path.key (front ++ [stem.name ending])) content).enter stem.start =
        .ok front :=
      foldlM_enter_withText (fun taken => free (node?_of_get? taken)) entered
    rw [find_eq (parts other isOther) isOther still, find_eq (parts other isOther) isOther entered,
      node?_withText_of_ne apart]
  · intro key other
    have apart : key ≠ Path.key (front ++ [stem.name ending]) := own ▸ other ending listed
    exact Dict.get?_insert_of_ne files apart (.text content)

end Files

end ChipPower
