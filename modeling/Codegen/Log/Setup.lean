import Codegen.Log.Component
import Codegen.Settings.Configuration

/-!
Setting up loggers: their colours and their display as the configuration asks for them. Where it
cannot be read, the defaults hold.
-/

namespace Codegen.Log

def isTolerated (failure : Failure) : Bool :=
  failure.isOfFiles ||
    match failure with
    | .unreadable cause =>
      match cause with
      | .encoding => true
      | .misuse what => what.kind = .value
      | _ => false
    | .configurationNotMapping _ | .configurationPathEmpty | .badVariable _ => true
    | .files .nullCharacter _ => true
    | _ => false

def toleratedSetting (keys : String) : Settings.Settling (Option Value) := do
  try Settings.Session.setting keys none
  catch failure => if isTolerated failure then return none else throw failure

def loggerName (name : String) : String :=
  if Levels.isRoot name then Levels.rootName else name

/-- The logger of a component, in the colour that the configuration gives it, or under a name and in
a colour that are given. -/
def component (name : Option String) (direct : Option String) (color : Option String) :
    Settings.Settling Component := do
  match direct with
  | some own =>
    let chosen := match color with
      | none | some "" => plainColor
      | some color => color
    return ⟨loggerName own, own, .text chosen⟩
  | none =>
    match name with
    | none => throw .componentUnnamed
    | some name =>
      let configured ← toleratedSetting ("logging.logging_colors." ++ name)
      let color := match configured with
        | some v => if v.isTrue then v else otherwise name
        | none => otherwise name
      return ⟨loggerName name, name, color⟩
where
  otherwise (name : String) : Value := .text ((componentColors.lookup name).getD plainColor)

structure Display where
  tracebacks : Value := .bool true
  locals : Value := .bool false
  paths : Value := .bool false

instance : Inhabited Display := ⟨{}⟩

def readDisplay : Settings.Settling Display := do
  let get (key : String) (otherwise : Value) : Settings.Settling Value := do
    return (← Settings.Session.setting ("logging." ++ key) none).getD otherwise
  let tracebacks ← get "rich_tracebacks" (.bool true)
  let locals ← get "show_traceback_locals" (.bool false)
  return { tracebacks, locals, paths := ← get "show_full_paths" (.bool false) }

/-- The display that the configuration asks for; the default where it cannot be read. Nothing is
written until it is known. -/
def display : Settings.Settling Display := do
  let levels := (← get).levels
  modify ({ · with levels := .silent })
  let display ←
    try readDisplay
    catch failure =>
      modify ({ · with levels })
      if isTolerated failure then pure {} else throw failure
  modify ({ · with levels })
  return display

end Codegen.Log
