import Codegen.CommandLine.Invocation
import Codegen.Generation.Pipeline
import Codegen.Settings.Configuration

/-!
The commands, and what they show while they work.
-/

namespace Codegen.CommandLine

open Codegen.Files

structure Terminal where
  session : Settings.Session
  shown : String := ""

/-- A step of a command. What was shown before a failure stays shown. -/
abbrev Working (α : Type) := ExceptT Failure (StateM Terminal) α

namespace Working

def lift {α : Type} : Except Failure α → Working α
  | .ok x => pure x
  | .error failure => throw failure

def ofSettling {α : Type} (settling : Settings.Settling α) : Working α := do
  let terminal ← get
  let (outcome, session) := settling.run terminal.session
  set { terminal with session }
  lift outcome

/-- A generation run of its own, which leaves its files behind. A quiet one has its loggers write
warnings and errors alone. -/
def ofStep {α : Type} (isQuiet : Bool) (step : Generation.Step α) : Working α := do
  let terminal ← get
  let levels := terminal.session.levels
  let levels :=
    if isQuiet then (levels.suppress Log.generatorLoggers Log.warningLevel).2 else levels
  let (outcome, run) := step.run (Generation.Run.start terminal.session.workspace .empty levels)
  set { terminal with session := { terminal.session with workspace := run.desk.workspace } }
  lift outcome

end Working

def print (text : String) : Working Unit := do
  match Console.plain text with
  | .ok line => modify fun terminal => { terminal with shown := terminal.shown ++ line ++ "\n" }
  | .error fault => throw (.markup fault)

def styled (style text : String) : String := s!"[{style}]{text}[/{style}]"

def labelled (label value : String) : String :=
  styled "label" (label ++ ":") ++ " " ++ styled "value" value

structure Request where
  model : String
  platform : Option String := none
  platformDirectory : Option String := none
  output : Option String := none
  configuration : Option String := none
  isVerbose : Bool := false
  isQuiet : Bool := false

namespace Request

def overrides (request : Request) : List (String × Value) :=
  [("platform", .ofOption .text request.platform),
   ("platform_dir", .ofOption .text request.platformDirectory),
   ("output", .ofOption .text request.output)]

end Request

def modeWidth : Nat := 9

def printReport (report : Generation.Report) : Working Unit := do
  print ""
  report.outputs.forM fun (mode, path) =>
    print ("  " ++ styled "dim" (Text.padRight modeWidth mode) ++ " " ++ styled "path" path.toString)
  report.advisories.forM fun advisory => do
    unless advisory.kind = .missingHook do
      print ("  " ++ styled "warning" ("⚠️  " ++ advisory.message))
  let summary :=
    s!"✓ Rendered {report.templates.length} templates, wrote {report.outputs.length} files"
  print ("\n" ++ styled "success" summary)

def setRootLevel (level : Int) : Working Unit :=
  modify fun terminal =>
    let levels := { terminal.session.levels with root := level }
    { terminal with session := { terminal.session with levels } }

/-- Generates; `home` is where the bundled platforms are. -/
def generateOnce (home : Place) (request : Request) : Working Generation.Report := do
  if request.isVerbose then setRootLevel Log.debugLevel
  let options ← Working.ofSettling (Settings.Session.options request.configuration request.overrides)
  let sources ← Working.lift
    (Generation.Sources.choose home (← get).session.workspace options)
  unless request.isQuiet do
    print (styled "header" s!"\nGenerating {request.model}\n")
    print ("  " ++ labelled "Platform" sources.platform.toString)
    print ("  " ++ labelled "Output" options.output)
  Working.ofStep request.isQuiet (Generation.generateFile sources options request.model)

/-- The command that generates. Answers whether it came to its end. -/
def generate (home : Place) (request : Request) : Working Bool := do
  let report? : Option Generation.Report ←
    try
      let report ← generateOnce home request
      pure (some report)
    catch
      | .generation e => do
        print ("\n" ++ styled "error" ("✗ Generation failed: " ++ e.text))
        pure none
      | failure => throw failure
  match report? with
  | none => return false
  | some report =>
    unless request.isQuiet do printReport report
    return true

def listPlatforms (home : Place) : Working Unit := do
  match Platform.bundledNames home (← get).session.workspace with
  | [] => print (styled "warning" "⚠️  No bundled platforms found")
  | names =>
    print (styled "header" "Bundled platforms")
    names.forM fun name =>
      let path := Platform.platformsRoot home ++ Path.ofString name
      print ("  " ++ name ++ "  " ++ styled "path" path.toString)

end Codegen.CommandLine
