import Codegen.Generation.Context
import Codegen.Log.Component
import Codegen.Output.Aggregate
import Codegen.Output.Directive

/-!
Where a body goes, by its mode: into a file of its own, into a file that is kept when it is already
there, into a file that collects bodies, into the context, or nowhere.
-/

namespace Codegen.Output

open Codegen.Files

/-- What routing changes: the files, the open collecting files, and the context. -/
structure Desk where
  workspace : Workspace
  aggregates : Aggregates
  context : Generation.Context
  levels : Log.Levels := {}

/-- A step of routing. What was done before a failure stays done. -/
abbrev Routing (α : Type) := ExceptT Failure (StateM Desk) α

namespace Routing

def lift {α : Type} : Except Failure α → Routing α
  | .ok x => pure x
  | .error failure => throw failure

/-- Writes a message about what becomes of an output. -/
def say (method : Log.Method) (message : String) : Routing Unit := do
  lift (Log.outputLogger.say (← get).levels method message)

end Routing

def ensureParents (path : Path) : Routing Unit := do
  let desk ← get
  let (workspace, outcome) := desk.workspace.ensureParents path
  set { desk with workspace }
  Routing.lift outcome

def overwrite (path : Path) (body : String) : Routing Unit := do
  ensureParents path
  let desk ← get
  set { desk with workspace := ← Routing.lift (desk.workspace.writeText path body) }
  Routing.say .info s!"Generated {path}"

/-- Adds a text to a collecting file. Answers its absolute path. -/
def aggregate (path : Path) (body : String) : Routing Path := do
  let desk ← get
  unless ← Routing.lift (desk.aggregates.isOpen desk.workspace path) do
    let target ← Routing.lift (desk.workspace.resolvePath path)
    Routing.say .debug s!"Opening aggregate file {target}"
  let (workspace, aggregates, target) ←
    Routing.lift (desk.aggregates.write desk.workspace path body)
  set { desk with workspace, aggregates }
  return target

/-- Sends a body where its mode says, and answers the file that was written. -/
def route (m : Model) (mode : Mode) (path : Path) (body : String) : Routing (Option Path) := do
  match mode with
  | .overwrite =>
    overwrite path body
    return some path
  | .preserve =>
    if ← Routing.lift ((← get).workspace.exists? path) then
      Routing.say .debug s!"Preserving existing file {path}"
      return none
    else
      overwrite path body
      return some path
  | .aggregate =>
    ensureParents path
    let _ ← aggregate path body
    Routing.say .info s!"Appended to {path}"
    return some path
  | .property =>
    let desk ← get
    let name := propertyName path.toString
    set { desk with context := ← Routing.lift (desk.context.accumulate m name body) }
    Routing.say .debug s!"Accumulated output into context property '{name}'"
    return none
  | .ignore =>
    Routing.say .debug s!"Ignored output for {path}"
    return none

/-- A body on its way: the mode it goes out in and the path it is addressed to. -/
structure Parcel where
  mode : Mode
  path : String
  body : String
  deriving Repr, DecidableEq

def Parcel.deliver (m : Model) (parcel : Parcel) : Routing (Option Path) :=
  route m parcel.mode (.ofString parcel.path) parcel.body

/-- Closes the collecting files and answers how many there were. That each is closed need not be said: the
log takes it, as it has taken the same words about the opening of the file. -/
def closeAll : Routing Nat := do
  let desk ← get
  set { desk with workspace := desk.aggregates.closeAll desk.workspace, aggregates := [] }
  return desk.aggregates.length

/-! Closing the collecting files one by one, where each closing may be refused, as when a disk is full. -/

/-- How the closing of a collecting file ends: the files that it leaves, and whether it was refused. -/
abbrev Closing := Workspace → Aggregate → Workspace × Except Failure Unit

def Closing.whole : Closing := fun w file => (file.close w, .ok ())

/-- Closes files in their order and answers how many they were, without a word to the log, as in
`closeAll`. A file whose closing is refused is not open any more; those behind it are. -/
def closeEach (closing : Closing) (closed : Nat) : List Aggregate → Routing Nat
  | [] => return closed
  | file :: rest => do
    let desk ← get
    let (workspace, outcome) := closing desk.workspace file
    set { desk with workspace, aggregates := rest.reverse }
    Routing.lift outcome
    closeEach closing (closed + 1) rest

/-- Closes the collecting files, the one that was opened last first. -/
def closeAllBy (closing : Closing) : Routing Nat := do
  closeEach closing 0 (← get).aggregates.reverse

end Codegen.Output
