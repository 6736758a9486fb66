import Codegen.Generation.Hook
import Codegen.Generation.Loading
import Codegen.Generation.Rendering
import Codegen.Model.File
import Codegen.Model.Validity
import Codegen.Platform.Bundle

/-!
A whole generation run: the model is validated, plugins are loaded, every class is walked through
once for each of its stereotypes, and the templates of the project come last.
-/

namespace Codegen.Generation

open Codegen.Files Codegen.Model

structure Report where
  state : Stage
  scripts : List Plugin.Script
  templates : List Rendered
  advisories : List Advisory
  context : Context

namespace Report

def discovered (report : Report) : Nat := report.scripts.length + report.templates.length

def outputs (report : Report) : List (String × Path) :=
  report.templates.filterMap fun t => t.written.map fun path => (t.mode.name, path)

end Report

structure Sources where
  platform : Path
  globals : Path
  scriptExtension : String
  templateExtension : String

def Sources.choose (home : Place) (w : Workspace) (options : Settings.Options) :
    Except Failure Sources := do
  return {
    platform := ← Platform.chosenDirectory home w options
    globals := Platform.chosenGlobals home options
    scriptExtension := options.scriptExtension
    templateExtension := options.templateExtension }

def runScripts (conduct : Conduct) (scripts : List Nat) (m : Model) (i j : Nat) : Step Unit :=
  scripts.forM fun number => do
    let stereotype := Entity.stereotype i j
    let classifier := Entity.classifier i
    let _ ← runOnce number "Stereotype" (stereotype.name m) (.entity stereotype) conduct
    let _ ← runOnce number "Class" ((classifier.qualifiedName? m).getD "") (.entity classifier) conduct

def sayStatus (message : String) : Step Unit := say Log.pipelineLogger .status message

def processClass (conduct : Conduct) (sources : Sources) (projectScripts : List Nat) (m : Model)
    (i j : Nat) : Step (List Rendered) := do
  let stereotype := Entity.stereotype i j
  let classifier := Value.entity (.classifier i)
  let path := ((Entity.classifier i).qualifiedName? m).getD ""
  sayStatus s!"Processing {path} <<{stereotype.name m}>>"
  setContext ((← context).setClass classifier (.entity stereotype))
  runScripts conduct projectScripts m i j
  let name := some (stereotype.name m)
  let scripts ← loadScripts sources.platform sources.platform name sources.scriptExtension
  runScripts conduct scripts m i j
  let templates ← find sources.platform sources.platform name sources.templateExtension
  renderAll sources.templateExtension classifier templates

def occasions (m : Model) : List (Nat × Nat) :=
  m.classes.zipIdx.flatMap fun (c, i) => (List.range c.stereotypes.length).map fun j => (i, j)

def loadGlobals (sources : Sources) : Step Unit := do
  let _ ← loadHelpers sources.platform sources.globals sources.scriptExtension
  let _ ← loadPartials sources.platform sources.globals sources.templateExtension

def checkPlatform (sources : Sources) : Step Unit := do
  unless ← Step.lift ((← workspace).isDirectory? sources.platform) do
    say Log.pipelineLogger .warning s!"Platform directory {sources.platform} does not exist"

def loadPlatform (conduct : Conduct) (sources : Sources) : Step (List Nat) := do
  checkPlatform sources
  sayStatus s!"Generating {(← get).model.name} with platform {sources.platform}"
  let scripts ← loadScripts sources.platform sources.platform none sources.scriptExtension
  scripts.forM fun number => do
    let _ ← runLifecycle number "init_platform" conduct
  let _ ← loadHelpers sources.platform sources.platform sources.scriptExtension
  let _ ← loadPartials sources.platform sources.platform sources.templateExtension
  return scripts

/-- Goes through the stages before the classes: the model is validated and plugins are loaded. Answers
the model and the numbers of the project's scripts. -/
def prepare (conduct : Conduct) (sources : Sources) (options : Settings.Options)
    (load : Step Model) : Step (Model × List Nat) := do
  enter .validateModel
  let m ← load
  Step.lift (m.validate (← get).desk.levels)
  modify fun run => { run with model := m }
  setContext (.initial (.entity .model) options)
  enter .loadGlobals
  loadGlobals sources
  enter .loadPlatform
  return (m, ← loadPlatform conduct sources)

def processProject (conduct : Conduct) (sources : Sources) (projectScripts : List Nat) :
    Step (List Rendered) := do
  enter .projectScripts
  setContext ((← context).setClass .null .null)
  projectScripts.forM fun number => do
    let _ ← runLifecycle number "init_project_templates" conduct
  enter .projectTemplates
  let templates ← find sources.platform sources.platform none sources.templateExtension
  renderAll sources.templateExtension .null templates

/-- Goes through the stages of a run up to the closing of the collecting files, and answers what was
rendered. -/
def runStages (conduct : Conduct) (sources : Sources) (options : Settings.Options)
    (load : Step Model) : Step (List Rendered) := do
  let (m, projectScripts) ← prepare conduct sources options load
  enter .walkModel
  let forClasses ← (occasions m).mapM fun (i, j) => processClass conduct sources projectScripts m i j
  let forProject ← processProject conduct sources projectScripts
  return forClasses.flatten ++ forProject

/-- Goes through all stages of a run and answers what was rendered. -/
def runToEnd (conduct : Conduct) (sources : Sources) (options : Settings.Options)
    (load : Step Model) : Step (List Rendered) := do
  let templates ← runStages conduct sources options load
  enter .flushAggregates
  let _ ← Step.ofRouting Output.closeAll
  return templates

/-- What a failure does to a run: the collecting files are closed. A failure that interrupts the whole
program is not counted as a failed run. -/
def abandon {α : Type} (failure : Failure) : Step α := do
  let _ ← Step.ofRouting Output.closeAll
  unless failure.isInterrupt do
    let stage := (← get).stages.getLastD .start
    enter .failed
    say Log.pipelineLogger .error s!"Generation failed in state {stage.name}: {failure.text}"
  throw failure

def conclude (sources : Sources) (templates : List Rendered) : Step Report := do
  enter .done
  let run ← get
  let report : Report :=
    { state := .done, scripts := run.scripts, templates, advisories := run.advisories
      context := run.desk.context }
  if report.discovered = 0 then
    let message := s!"No scripts or templates found for platform {sources.platform}"
    say Log.pipelineLogger .warning message
    return { report with advisories := report.advisories ++ [⟨.emptyDiscovery, message⟩] }
  else return report

def runPipeline (sources : Sources) (options : Settings.Options) (load : Step Model)
    (conduct : Conduct := .ofPlugins) : Step Report := do
  enter .start
  let templates ←
    try runToEnd conduct sources options load
    catch failure => abandon failure
  conclude sources templates

def Run.start (w : Workspace) (registry : Mixin.Registry) (levels : Log.Levels := {}) : Run :=
  { registry, desk := { workspace := w, aggregates := [], context := [], levels } }

def readModel (options : Settings.Options) (file : String) : Step Model := do
  let desk := (← get).desk
  Step.lift (Model.read desk.levels desk.workspace file options.delimiter)

def generateFile (sources : Sources) (options : Settings.Options) (file : String)
    (conduct : Conduct := .ofPlugins) : Step Report :=
  runPipeline sources options (readModel options file) conduct

end Codegen.Generation
