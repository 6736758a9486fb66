import Codegen.Log.Component
import Codegen.Settings.EnvironmentFile
import Codegen.Settings.Options
import Codegen.Workspace.Basic
import Codegen.Yaml.Reading

/-!
Configurations: mappings that are read from files, with references to the environment worked out.
What was read is kept, by the path of the file, and one configuration serves as the default.
-/

namespace Codegen.Settings

open Codegen.Files

/-- A configuration as it was read. Its number tells it apart from others. -/
structure Configuration where
  number : Nat
  path : Option Path
  entries : List (Value × Value)

instance : Inhabited Configuration := ⟨⟨0, none, []⟩⟩

namespace Configuration

mutual

/-- Works out the references in the texts of a value; keys stay as they are. -/
def expandValue (environment : Environment) : Value → Value
  | .text s => .text (expand environment s)
  | .list items => .list (expandItems environment items)
  | .map entries => .map (expandEntries environment entries)
  | v => v

def expandItems (environment : Environment) : List Value → List Value
  | [] => []
  | v :: rest => expandValue environment v :: expandItems environment rest

def expandEntries (environment : Environment) : List (Value × Value) → List (Value × Value)
  | [] => []
  | (key, v) :: rest => (key, expandValue environment v) :: expandEntries environment rest

end

mutual

def unknownIn (environment : Environment) : Value → List String
  | .text s => unknownNames environment s
  | .list items => unknownInItems environment items
  | .map entries => unknownInEntries environment entries
  | _ => []

def unknownInItems (environment : Environment) : List Value → List String
  | [] => []
  | v :: rest => unknownIn environment v ++ unknownInItems environment rest

def unknownInEntries (environment : Environment) : List (Value × Value) → List String
  | [] => []
  | (_, v) :: rest => unknownIn environment v ++ unknownInEntries environment rest

end

def along : List String → Value → Option Value
  | [], v => some v
  | key :: rest, .map entries => do along rest (← Value.field? key entries)
  | _ :: _, _ => none

/-- The value that keys with dots between them lead to. -/
def get? (configuration : Configuration) (keys : String) : Option Value :=
  along (Text.split "." keys) (.map configuration.entries)

/-- A section of the configuration; an absent one is empty. -/
def sectionAt (configuration : Configuration) (name : String) :
    Except Failure (List (Value × Value)) :=
  match configuration.get? name with
  | none => .ok []
  | some (.map entries) => .ok entries
  | some _ => .error (.sectionNotMapping name)

end Configuration

/-- What reading configurations depends on and leaves behind. -/
structure Session where
  workspace : Workspace
  environment : Environment
  /-- Number of the configurations read so far. -/
  count : Nat := 0
  kept : List (Place × Configuration) := []
  default : Option Configuration := none
  levels : Log.Levels := {}

/-- A step of a session. What was done before a failure stays done. -/
abbrev Settling (α : Type) := ExceptT Failure (StateM Session) α

namespace Session

def lift {α : Type} : Except Failure α → Settling α
  | .ok x => pure x
  | .error failure => throw failure

/-- Writes a message about the reading of configurations. -/
def say (level : Int) (message : String) : Settling Unit := do
  let _ ← lift (Log.record? (← get).levels Log.configurationLogger level (.ok message))

def configurationFile : String := "mdagen.yml"

def environmentFile : String := ".env"

def configurationVariable : String := "MDAGEN_CONFIG"

def disablingVariable : String := "PYTHON_DOTENV_DISABLED"

def isDisabled (environment : Environment) : Bool :=
  ((environment.lookup disablingVariable).map Text.lower).any
    (["1", "true", "t", "yes", "y"].contains ·)

def readEnvironmentFile : Settling Unit := do
  let session ← get
  let file := session.workspace.absolute (.ofString environmentFile)
  if ← lift (session.workspace.isFile? file) then
    unless isDisabled session.environment do
      let text ← lift (session.workspace.readText file)
      let (environment, fault?) := EnvironmentFile.load session.environment text
      set { session with environment }
      if let some fault := fault? then throw (.badVariable fault)
    say Log.debugLevel s!"Loaded .env file from {file}"

def complain {α : Type} (failure : Failure) : Settling α := do
  say Log.errorLevel failure.text
  throw failure

def readEntries (file : Path) : Settling (List (Value × Value)) := do
  match Yaml.read (← lift ((← get).workspace.readText file)) with
  | .error .yaml =>
    say Log.errorLevel s!"Error parsing YAML configuration: {file}"
    throw (.unreadable .yaml)
  | .error cause => throw (.unreadable cause)
  | .ok ⟨.null, _⟩ =>
    say Log.warningLevel s!"Configuration file is empty: {file}"
    return []
  | .ok ⟨.map entries, holdsItself⟩ =>
    say Log.debugLevel s!"Loaded configuration from {file}"
    if holdsItself then throw .nestedTooDeep else return entries
  | .ok _ => complain (.configurationNotMapping file.toString)

def readExpanded (file : Path) : Settling (List (Value × Value)) := do
  let entries ← readEntries file
  let environment := (← get).environment
  (Configuration.unknownInEntries environment entries).forM fun name =>
    say Log.infoLevel s!"Environment variable '{name}' not found, keeping original value"
  say Log.infoLevel s!"Loaded configuration from {file}"
  return Configuration.expandEntries environment entries

/-- Reads the configuration in a file, which has to be there, or else the one in the working
directory; where there is none either, the configuration is empty. -/
def read (file : Option String) : Settling Configuration := do
  readEnvironmentFile
  let w := (← get).workspace
  let path ← match file with
    | none =>
      let own := w.absolute (.ofString configurationFile)
      pure (if ← lift (w.exists? own) then some own else none)
    | some file =>
      let path := Path.ofString file
      if ← lift (w.exists? path) then pure (some path) else throw (.configurationNotFound file)
  let entries ← match path with
    | none => pure []
    | some path => readExpanded path
  let number := (← get).count
  modify fun session => { session with count := number + 1 }
  return { number, path, entries }

/-- The configuration that serves as the default; it is read when it is first asked for. -/
def defaultConfiguration : Settling Configuration := do
  match (← get).default with
  | some configuration => return configuration
  | none =>
    let file := ((← get).environment.lookup configurationVariable).filter (· ≠ "")
    let configuration ← read file
    modify fun session => { session with default := some configuration }
    return configuration

/-- The configuration of a file, read once, or the default one. `adopted` makes it the default. -/
def configuration (file : Option String) (adopted : Bool) : Settling Configuration := do
  match file with
  | none => defaultConfiguration
  | some file =>
    let session ← get
    let place ← lift (session.workspace.resolve (.ofString file))
    let configuration ← match session.kept.lookup place with
      | some configuration => pure configuration
      | none =>
        let target := (Tree.pathOf place).toString
        say Log.debugLevel s!"Loading configuration from explicit path: {target}"
        let configuration ← read (some target)
        modify fun session => { session with kept := (place, configuration) :: session.kept }
        pure configuration
    if adopted then modify fun session => { session with default := some configuration }
    return configuration

def setting (keys : String) (file : Option String) : Settling (Option Value) := do
  if keys = "" then throw .configurationPathEmpty
  else return (← configuration file false).get? keys

def reset (session : Session) : Session := { session with kept := [], default := none }

def optionsSection : String := "generation"

def options (file : Option String) (overrides : List (String × Value)) : Settling Options := do
  let given ← lift ((← configuration file false).sectionAt optionsSection)
  let named ← given.mapM fun (key, v) =>
    match key with
    | .text name => pure (name, v)
    | _ => throw .settingNameNotText
  let overrides := overrides.filter fun (_, v) =>
    match v with
    | .null => false
    | _ => true
  let settings := overrides.foldl (fun table (name, v) => Table.put name v table) named
  match Options.check settings with
  | .ok options => return options
  | .error problems => throw (.settings problems)

end Session

end Codegen.Settings
