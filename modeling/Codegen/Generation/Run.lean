import Codegen.Generation.Journal
import Codegen.Plugin.Script
import Codegen.Template.Engine

/-!
The state of a generation run, and the steps that change it.
-/

namespace Codegen.Generation

open Codegen.Model

inductive Stage
  | start
  | validateModel
  | loadGlobals
  | loadPlatform
  | walkModel
  | projectScripts
  | projectTemplates
  | flushAggregates
  | done
  | failed
  deriving Repr, DecidableEq, Inhabited

def Stage.name : Stage → String
  | start => "init"
  | validateModel => "validate_model"
  | loadGlobals => "load_globals"
  | loadPlatform => "load_platform"
  | walkModel => "walk_model"
  | projectScripts => "project_scripts"
  | projectTemplates => "project_templates"
  | flushAggregates => "flush_aggregates"
  | done => "done"
  | failed => "failed"

/-- What a run works with: the model and the members that plugins gave it, the templates' helpers,
the loaded scripts, what is to be reported, and the desk that outputs leave from. -/
structure Run where
  model : Model := {}
  registry : Mixin.Registry := .empty
  engine : Template.Engine := {}
  scripts : List Plugin.Script := []
  /-- The hooks that were found missing, by the path of the script. -/
  missed : List (String × String) := []
  advisories : List Advisory := []
  /-- The stages that the run has entered. -/
  stages : List Stage := []
  /-- What has happened so far. -/
  journal : List Event := []
  desk : Output.Desk

/-- A step of a run. What was done before a failure stays done. -/
abbrev Step (α : Type) := ExceptT Failure (StateM Run) α

namespace Step

def lift {α : Type} : Except Failure α → Step α
  | .ok x => pure x
  | .error failure => throw failure

def ofRouting {α : Type} (routing : Output.Routing α) : Step α := do
  let run ← get
  let (outcome, desk) := routing.run run.desk
  set { run with desk }
  lift outcome

def ofRegistry {α : Type} (change : Mixin.Registry → Mixin.Registry × Except Failure α) : Step α := do
  let run ← get
  let (registry, outcome) := change run.registry
  set { run with registry }
  lift outcome

def outcome {α : Type} (step : Step α) : Step (Except Failure α) :=
  ExceptT.mk (.ok <$> step.run)

/-- Does a deed of a hook and answers what came of it. Of what the deed changes, the context and the
registered members stay. -/
def shared (act : Step Unit) : Step (Except Failure Unit) := do
  let run ← get
  let (outcome, after) := act.run.run run
  set { run with registry := after.registry, desk := { run.desk with context := after.desk.context } }
  return outcome

end Step

def record (event : Event) : Step Unit :=
  modify fun run => { run with journal := run.journal ++ [event] }

def say (logger : Log.Component) (method : Log.Method) (message : String) : Step Unit := do
  Step.lift (logger.say (← get).desk.levels method message)

def enter (stage : Stage) : Step Unit :=
  modify fun run => { run with stages := run.stages ++ [stage] }

def workspace : Step Workspace := do return (← get).desk.workspace

def context : Step Context := do return (← get).desk.context

def setContext (context : Context) : Step Unit :=
  modify fun run => { run with desk := { run.desk with context } }

def putContext (name : String) (v : Value) : Step Unit := do
  setContext (Table.put name v (← context))

def required (name : String) : Step Value := do
  match (← context).lookup name with
  | some v => return v
  | none => throw (.contextLacks name)

def readMember (v : Value) (name : String) : Step Value := do
  let run ← get
  Step.lift (Mixin.read run.model run.registry v name)

def displayed (v : Value) : Step String := do return v.display (← get).model

end Codegen.Generation
