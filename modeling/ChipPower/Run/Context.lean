import ChipPower.Config.File
import ChipPower.Hierarchy.Nuca
import ChipPower.Stack.Data
import ChipPower.Template.Layout
import ChipPower.Template.Render

/-!
The context of a run: its merged results after NUCA has been mapped onto its
level. From it the input of the estimator is rendered, and in it the report of
the estimator is analyzed.
-/

namespace ChipPower

/-- The context of a run. -/
structure RunContext (α : Type) where
  stats : Stats α
  config : Config
  topology : List TopologyEntry
  hierarchy : Hierarchy

/-- What a report says about a run. -/
structure Analysis (α : Type) where
  /-- The components, with the main memory. -/
  tree : Tree α
  stack : PowerStack α
  data : StackData α
  /-- The time of the run. -/
  seconds : α

namespace RunContext

variable {α : Type} [Scalar α]

/-- Lays the overrides over a configuration, if there are any. -/
def overridden (config : Config) : Option String → Except Failure Config
  | none => .ok config
  | some text => during .parseOverrides (Config.layer config text)

/-- The context of merged results under overrides. -/
def ofMerged (merged : MergedResult α) (overrides : Option String) (options : Options α) :
    Except Failure (RunContext α) := do
  let config ← overridden merged.config overrides
  let hierarchy ← during .deriveHierarchy (Hierarchy.ofConfig config merged.topology)
  match hierarchy.mapNuca options config merged.results with
  | { failure := some failure, .. } => throw (failure.within .mapNuca)
  | { config, stats, .. } => return { stats, config, topology := merged.topology, hierarchy }

variable (context : RunContext α)

/-- The input of the estimator. -/
def renderInput (options : Options α) : Except Failure Document := do
  let activity ← during .createCalculator
    (Activity.ofRun context.stats context.config context.hierarchy options)
  let template := Template.ofHierarchy context.hierarchy
  during .checkTemplate template.validate
  during .renderTemplate (Template.render activity template ∅).1

/-- Analyzes a report of the estimator. -/
def analyze (report : String) (options : Options α) : Except Failure (Analysis α) := do
  let tree ← during .parseReport (Tree.ofReport context.hierarchy.nucaLevel report)
  let power ← during .computeMemoryPower (MemoryPower.ofRun context.stats context.config)
  let tree := tree.insertMemory power
  let stack ← during .aggregateStack (PowerStack.ofTree tree options.lens options.keepSmall)
  let seconds ← MemoryPower.elapsedSeconds context.stats
  return { tree, stack, seconds
           data := StackData.ofStack stack context.hierarchy.cores seconds }

end RunContext

end ChipPower
