import Codegen.Generation.Pipeline
import Codegen.Output.Routing

/-!
Pipelines as they are used. One is set up for a platform and can then be run any number of times, on
models or on files that hold them; it remembers the stages that its last run entered.
-/

namespace Codegen.Generation

open Codegen.Files Codegen.Model

/-- Where the model of a run comes from. -/
abbrev Loader := Workspace → Log.Levels → Except Failure Model

namespace Loader

def given (m : Model) : Loader := fun _ _ => .ok m

def ofFile (options : Settings.Options) (path : String) : Loader := fun w levels =>
  Model.read levels w path options.delimiter

def load (loader : Loader) : Step Model := do
  let desk := (← get).desk
  Step.lift (loader desk.workspace desk.levels)

def check (loader : Loader) (w : Workspace) (levels : Log.Levels) : Except Failure Model := do
  let m ← loader w levels
  m.validate levels
  return m

end Loader

/-- Those that do the work of the stages. What they do may fail in any way. -/
structure Crew where
  loadGlobals : Step Unit
  loadPlatform : Step (List Nat)
  processClass (projectScripts : List Nat) (m : Model) (i j : Nat) : Step (List Rendered)
  callProject (projectScripts : List Nat) : Step Unit
  renderProject : Step (List Rendered)

def Crew.ofPlugins (sources : Sources) (conduct : Conduct := .ofPlugins) : Crew where
  loadGlobals := Generation.loadGlobals sources
  loadPlatform := Generation.loadPlatform conduct sources
  processClass := Generation.processClass conduct sources
  callProject projectScripts := projectScripts.forM fun number => do
    let _ ← runLifecycle number "init_project_templates" conduct
  renderProject := do
    let templates ← find sources.platform sources.platform none sources.templateExtension
    renderAll sources.templateExtension .null templates

def Crew.runStages (crew : Crew) (options : Settings.Options) (load : Step Model) :
    Step (List Rendered) := do
  enter .validateModel
  let m ← load
  Step.lift (m.validate (← get).desk.levels)
  modify fun run => { run with model := m }
  setContext (.initial (.entity .model) options)
  enter .loadGlobals
  crew.loadGlobals
  enter .loadPlatform
  let projectScripts ← crew.loadPlatform
  enter .walkModel
  let forClasses ← (occasions m).mapM fun (i, j) => crew.processClass projectScripts m i j
  enter .projectScripts
  setContext ((← context).setClass .null .null)
  crew.callProject projectScripts
  enter .projectTemplates
  let forProject ← crew.renderProject
  return forClasses.flatten ++ forProject

/-- Goes through all stages of a run. The closing of a collecting file may be refused. -/
def Crew.runToEnd (crew : Crew) (closing : Output.Closing) (options : Settings.Options)
    (load : Step Model) : Step (List Rendered) := do
  let templates ← crew.runStages options load
  enter .flushAggregates
  let _ ← Step.ofRouting (Output.closeAllBy closing)
  return templates

/-- Closes the collecting files that a failure leaves open. A closing that is refused takes the place of
that failure. -/
def closeAfter {α : Type} (closing : Output.Closing) (failure : Failure) : Step α := do
  let _ ← Step.ofRouting (Output.closeAllBy closing)
  throw failure

/-- Goes through all stages and closes the collecting files however that ends. -/
def Crew.attempt (crew : Crew) (closing : Output.Closing) (options : Settings.Options)
    (load : Step Model) : Step (List Rendered) :=
  try crew.runToEnd closing options load
  catch failure => closeAfter closing failure

/-- Notes that a run has failed. A failure that interrupts the whole program is not counted as one. -/
def noteFailure (failure : Failure) : Step Unit := do
  unless failure.isInterrupt do
    let stage := (← get).stages.getLastD .start
    enter .failed
    say Log.pipelineLogger .error s!"Generation failed in state {stage.name}: {failure.text}"

/-- A pipeline: where its plugins are, its options, the stage that it is in, and the stages that its
last run entered. -/
structure Pipeline where
  sources : Sources
  options : Settings.Options
  stage : Stage := .start
  history : List Stage := []

namespace Pipeline

def setUp (home : Place) (w : Workspace) (options : Settings.Options) : Except Failure Pipeline := do
  return { sources := ← Sources.choose home w options, options }

/-- One run of a pipeline. -/
def go (pipeline : Pipeline) (crew : Crew) (closing : Output.Closing) (load : Step Model) :
    Step Report := do
  enter .start
  let templates ←
    try crew.attempt closing pipeline.options load
    catch failure => do
      noteFailure failure
      throw failure
  conclude pipeline.sources templates

structure Execution where
  outcome : Except Failure Report
  pipeline : Pipeline
  run : Run

/-- Runs a pipeline. Whatever it remembers of runs before gives way to this one. -/
def execute (pipeline : Pipeline) (loader : Loader) (w : Workspace) (registry : Mixin.Registry)
    (levels : Log.Levels) (crew : Crew := .ofPlugins pipeline.sources)
    (closing : Output.Closing := .whole) : Execution :=
  let (outcome, run) := (pipeline.go crew closing loader.load).run (.start w registry levels)
  { outcome, run
    pipeline := { pipeline with history := run.stages, stage := run.stages.getLastD pipeline.stage } }

end Pipeline

/-- Sets a pipeline up and runs it on the file of a model; `home` is where the bundled platforms
are. -/
def generate (home : Place) (options : Settings.Options) (file : String)
    (conduct : Conduct := .ofPlugins) : Step Report := do
  let sources ← Step.lift (Sources.choose home (← workspace) options)
  generateFile sources options file conduct

end Codegen.Generation
