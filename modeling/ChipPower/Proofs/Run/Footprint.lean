import ChipPower.Proofs.Run.Siblings
import ChipPower.Run.Execute

/-!
# What steps on files change

A step keeps the files also when it fails. It is `OnFiles.Confined` to endings if all that
it can change, whether it goes well or not, are the texts at one beginning with one of them.
Confined steps in a row are confined (`OnFiles.Confined.bind`), and so is running a program
that only prints (`Machine.Quiet`), as its output goes to a file of the caller's.
-/

namespace ChipPower

/-! ## Steps -/

namespace OnFiles

variable {β γ : Type}

/-- The files that a step leaves, whether it goes well or not. -/
def leaves (x : OnFiles β) (files : Files) : Files :=
  match x files with
  | .ok _ after => after
  | .error _ after => after

/-- `x.Confined base endings`: all that `x` can change are the texts at `base` with one of
the `endings`. -/
def Confined (x : OnFiles β) (base : String) (endings : List String) : Prop :=
  ∀ files : Files, files.AgreesBut base endings (x.leaves files)

variable {x : OnFiles β} {f : β → OnFiles γ} {files after : Files} {failure : Failure}

/-- Two steps fail as the first one does, or as the second does on what the first leaves. -/
theorem bind_eq_error_iff :
    (x >>= f) files = .error failure after ↔
      x files = .error failure after ∨
        ∃ b middle, x files = .ok b middle ∧ f b middle = .error failure after := by
  show EStateM.bind x f files = _ ↔ _
  unfold EStateM.bind
  cases x files with
  | ok b middle =>
    constructor
    · intro failed
      exact .inr ⟨b, middle, rfl, failed⟩
    · intro either
      rcases either with failed | ⟨_, _, same, failed⟩
      · cases failed
      · cases same
        exact failed
  | error e middle => simp

theorem bind_error (failed : x files = .error failure after) :
    (x >>= f) files = .error failure after :=
  bind_eq_error_iff.2 (.inl failed)

theorem bind_ok {b : β} {middle : Files} (went : x files = .ok b middle)
    (failed : f b middle = .error failure after) : (x >>= f) files = .error failure after :=
  bind_eq_error_iff.2 (.inr ⟨b, middle, went, failed⟩)

/-- A step that needs no files leaves them as they are, and goes well if its result does. -/
theorem pureStep_eq_ok_iff {r : Except Failure β} {b : β} :
    pureStep r files = .ok b after ↔ r = .ok b ∧ after = files := by
  cases r with
  | error e =>
    show EStateM.Result.error e files = _ ↔ _
    simp
  | ok c =>
    show EStateM.Result.ok c files = _ ↔ _
    simp [eq_comm]

theorem pureStep_eq_error_iff {r : Except Failure β} :
    pureStep r files = .error failure after ↔ r = .error failure ∧ after = files := by
  cases r with
  | ok b =>
    show EStateM.Result.ok b files = _ ↔ _
    simp
  | error e =>
    show EStateM.Result.error e files = _ ↔ _
    simp [eq_comm]

theorem leaves_of_eq_error (failed : x files = .error failure after) : x.leaves files = after := by
  rw [leaves, failed]

namespace Confined

variable {base : String} {endings : List String}

theorem pure (b : β) : Confined (pure b) base endings :=
  fun _ => .refl

theorem throw (failure : Failure) : Confined (throw failure : OnFiles β) base endings :=
  fun _ => .refl

/-- A step that needs no files is confined to anything. -/
theorem pureStep (r : Except Failure β) : (pureStep r).Confined base endings := by
  cases r with
  | ok b => exact pure b
  | error failure => exact throw failure

/-- Steps in a row are confined to what each of them is. -/
theorem bind (first : x.Confined base endings) (later : ∀ b, (f b).Confined base endings) :
    (x >>= f).Confined base endings := by
  intro files
  have begun := first files
  show files.AgreesBut base endings (leaves (EStateM.bind x f) files)
  unfold leaves EStateM.bind
  unfold leaves at begun
  cases ran : x files with
  | error failure middle =>
    rw [ran] at begun
    exact begun
  | ok b middle =>
    rw [ran] at begun
    exact begun.trans (later b middle)

/-- Naming a step does not touch the files. -/
theorem within (step : Step) (inner : x.Confined base endings) :
    (within step x).Confined base endings := by
  intro files
  have begun := inner files
  unfold leaves ChipPower.within
  unfold leaves at begun
  cases ran : x files <;> simpa [ran] using begun

theorem get_bind {f : Files → OnFiles γ}
    (later : ∀ files : Files, files.AgreesBut base endings ((f files).leaves files)) :
    (get >>= f).Confined base endings :=
  later

/-- Reading changes nothing. -/
theorem readText (path : String) : (readText path).Confined base endings := by
  refine get_bind fun files => ?_
  cases files.read path with
  | ok content => exact pure content files
  | error e => exact throw _ files

/-- A text is written to a path with one of the endings, or not at all. -/
theorem writeText {ending : String} (isEnding : Path.IsEnding ending) (listed : ending ∈ endings)
    (content : String) : (writeText (base ++ ending) content).Confined base endings := by
  refine get_bind fun files => ?_
  cases written : files.write (base ++ ending) content with
  | ok after => exact Files.agreesBut_of_write isEnding listed written
  | error e => exact throw _ files

end Confined

end OnFiles

/-! ## Programs -/

/-- `machine.Quiet program`: what is run under the name `program` changes no file. All that
it does is to print. -/
def Machine.Quiet (machine : Machine) (program : String) : Prop :=
  ∀ files run, machine.find files program = .ok run →
    ∀ command files, (run command files).files = files

namespace OnFiles.Confined

variable {machine : Machine} {base : String} {endings : List String}

/-- The output of a program that only prints goes to a file of the endings. -/
theorem runInto {command : Command} (quiet : machine.Quiet command.program) {ending : String}
    (isEnding : Path.IsEnding ending) (listed : ending ∈ endings) :
    (runInto machine command (base ++ ending)).Confined base endings := by
  refine get_bind fun files => ?_
  cases started : machine.start files command with
  | error e => exact throw _ files
  | ok run =>
    have found : machine.find files command.program = .ok run := by
      unfold Machine.start at started
      split at started
      · exact started
      · cases started
    have same : (run command files).files = files := quiet files run found command files
    have wrote : Confined (do
        ChipPower.writeText (base ++ ending) (run command files).output
        return (run command files).status) base endings :=
      bind (writeText isEnding listed _) fun _ => pure _
    show files.AgreesBut base endings (leaves (do
      set (run command files).files
      ChipPower.writeText (base ++ ending) (run command files).output
      return (run command files).status) files)
    rw [same]
    exact wrote files

/-- Running an estimator that only prints changes its report and nothing else. -/
theorem estimator {e : Estimator} (quiet : machine.Quiet e.program) (input : String)
    {ending : String} (isEnding : Path.IsEnding ending) (listed : ending ∈ endings) :
    (e.run machine input (base ++ ending)).Confined base endings := by
  refine bind (within _ (writeText isEnding listed "")) fun _ => ?_
  refine bind (runInto quiet isEnding listed) fun code => ?_
  split
  · exact throw _
  · exact pure ()

end OnFiles.Confined

end ChipPower
