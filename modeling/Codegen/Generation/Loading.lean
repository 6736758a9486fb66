import Codegen.Generation.Run
import Codegen.Platform.Discovery

/-!
Loading helpers, partials and scripts. A script is loaded once, however often it is asked for.
-/

namespace Codegen.Generation

open Codegen.Files Codegen.Plugin

def helpersDirectory : String := "_helpers"

def partialsDirectory : String := "_partials"

def pluginExtension : String := ".py"

def isInternal (file : Path) : Bool := Text.hasStart "_" file.name

/-- What becomes of a fault that a plugin raises while it is loaded. -/
def loadingFailure (file : Path) (fault : Fault) : Failure :=
  if (Failure.fault fault).isInterrupt || (Failure.fault fault).isPluginLoad then .fault fault
  else .generation (.pluginFailed file.toString (Failure.fault fault).text)

/-- What reading the plugin of a file comes to, the path being absolute. -/
def imported (w : Workspace) (file : Path) : Except Failure Plugin :=
  if !file.isText then
    .error (.fault { kind := "UnicodeEncodeError", message := "surrogates not allowed" })
  else if !Text.hasEnd pluginExtension file.toString then .error (.generation (.notAPlugin file.toString))
  else
    match w.readPlugin file with
    | .error failure => .error (.generation (.pluginFailed file.toString failure.text))
    | .ok plugin =>
      match plugin.fault with
      | none => .ok plugin
      | some fault => .error (loadingFailure file fault)

def importPlugin (file : Path) : Step Plugin := do Step.lift (imported (← workspace) file)

def absolutePath (file : Path) : Step Path := do Step.lift ((← workspace).resolvePath file)

/-- The files that are searched for below a directory of the platform. -/
def find (platform base : Path) (stereotype : Option String) (extension : String) :
    Step (List Path) := do
  let levels := (← get).desk.levels
  Step.lift (Platform.resolve (← workspace) levels platform base stereotype extension)

/-- Registers the helpers below a directory and answers their names. -/
def loadHelpers (platform base : Path) (extension : String) : Step (List String) := do
  say Log.pluginsLogger .debug s!"Loading helpers from directory {base}"
  let files ← find platform base (some helpersDirectory) extension
  (files.filter fun file => !isInternal file).mapM fun file => do
    let plugin ← importPlugin (← absolutePath file)
    match ← Step.lift (plugin.helper? file.stem) with
    | some helper =>
      modify fun run => { run with engine := run.engine.addHelper file.stem helper }
      return file.stem
    | none => throw (.generation (.helperUndefined file.toString file.stem))

def partialName (extension : String) (file : Path) : String :=
  if extension = "" then "" else Text.dropEnd extension.length file.name

/-- Registers the partials below a directory and answers their names. -/
def loadPartials (platform base : Path) (extension : String) : Step (List String) := do
  say Log.pluginsLogger .debug s!"Loading partials from directory {base}"
  let files ← find platform base (some partialsDirectory) extension
  files.mapM fun file => do
    let source ← Step.lift ((← workspace).readText file)
    let name := partialName extension file
    modify fun run => { run with engine := run.engine.addPartial name source }
    return name

/-- Loads a script unless it is loaded, and answers its number. -/
def loadScript (file : Path) : Step Nat := do
  let path ← absolutePath file
  let scripts := (← get).scripts
  match scripts.findIdx? (·.path = path) with
  | some number => return number
  | none =>
    let plugin ← importPlugin path
    let script : Script := { name := path.stem, path, plugin }
    modify fun run => { run with scripts := run.scripts ++ [script] }
    let hooks := if script.hooks.isEmpty then "none" else Text.join ", " script.hooks
    say Log.pluginsLogger .debug s!"Loaded script {path} (hooks: {hooks})"
    return scripts.length

/-- Loads the scripts of a directory, or of a stereotype below it, and answers their numbers. -/
def loadScripts (platform base : Path) (stereotype : Option String) (extension : String) :
    Step (List Nat) := do
  let files ← find platform base stereotype extension
  (files.filter fun file => !isInternal file).mapM loadScript

end Codegen.Generation
