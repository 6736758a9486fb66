import Codegen.Table
import Codegen.Template.Rendering

/-!
Templates with the helpers and partials that they share. A helper is at once a function and a
filter; a partial is a template that others include by name. A later one of a name replaces the
earlier one.
-/

namespace Codegen.Template

open Codegen.Model

structure Engine where
  helpers : List (String × Function Value) := []
  partials : List (String × String) := []

instance : Inhabited Engine := ⟨{}⟩

structure Compiled where
  nodes : List Node

instance : Inhabited Compiled := ⟨⟨[]⟩⟩

def Expr.isUnwritable : Expr → Bool
  | .constant v => v.hasUnwritable
  | _ => false

def Expr.repeatsName : Expr → Bool
  | .call _ _ named | .filter _ _ _ named | .test _ _ _ named => !(named.map (·.1)).Nodup
  | _ => false

namespace Engine

def addHelper (engine : Engine) (name : String) (helper : Function Value) : Engine :=
  { engine with helpers := Table.put name helper engine.helpers }

def addHelper? (m : Model) (engine : Engine) (name : String) : Value → Except Failure Engine
  | .function helper => .ok (engine.addHelper name helper)
  | v => .error (.helperNotFunction name (v.typeName m))

def addPartial (engine : Engine) (name source : String) : Engine :=
  { engine with partials := Table.put name source engine.partials }

def helperNames (engine : Engine) : List String :=
  (engine.helpers.map (·.1)).mergeSort (· ≤ ·)

def partialNames (engine : Engine) : List String :=
  (engine.partials.map (·.1)).mergeSort (· ≤ ·)

/-- Compiles a template: it has to be well formed, and its filters have to be known. Closed
expressions are worked out with the helpers of the moment. What is left can be written out and gives
no argument twice. -/
def compile (engine : Engine) (source : String) : Except Failure Compiled := do
  let nodes ← parse source
  let scope : Scope := { model := {}, registry := .empty, helpers := engine.helpers, bindings := [] }
  let nodes := foldNodes scope nodes
  match objectionIn? scope false nodes with
  | some failure => throw failure
  | none =>
    if nodesHold Expr.isUnwritable nodes then throw (.misuse (.tooManyDigits none))
    if nodesHold Expr.repeatsName nodes then throw .argumentRepeated
    return ⟨nodes⟩

def escapesMarkup (name : String) : Bool :=
  Text.hasEnd ".html" (Text.lower name) || Text.hasEnd ".xml" (Text.lower name)

def inclusionDepth : Nat := 900

/-- Renders partials by name; inclusions nest at most `depth` deep. -/
def inclusion (engine : Engine) : (depth : Nat) → Inclusion
  | 0 => fun _ _ => throw .nestedTooDeep
  | depth + 1 => fun scope name => do
    match engine.partials.lookup name with
    | none => return none
    | some source =>
      let compiled ← engine.compile source
      let (text, _) ←
        renderNodes (engine.inclusion depth) (escapesMarkup name) { scope with template := some name }
          compiled.nodes
      return some text

def reservedVariable : String := "self"

/-- The failure that a template ends with. The end of an iteration that nothing waits for is a fault. -/
def ending (failure : Failure) : Failure :=
  if failure.endsIteration then
    .fault { kind := "RuntimeError", message := "generator raised StopIteration" }
  else failure

def finished : Except Failure ((String × Scope) × Streams) → Except Failure String
  | .ok ((text, _), _) => .ok text
  | .error failure => .error (ending failure)

def renderCompiled (engine : Engine) (m : Model) (r : Mixin.Registry) (template : Compiled)
    (bindings : List (String × Value)) : Except Failure String := do
  if bindings.any (·.1 = reservedVariable) then throw .variableReserved
  let scope : Scope := { model := m, registry := r, helpers := engine.helpers, bindings }
  finished ((renderNodes (engine.inclusion inclusionDepth) false scope template.nodes).run [])

/-- The text of a template with values for its variables. -/
def render (engine : Engine) (m : Model) (r : Mixin.Registry) (source : String)
    (bindings : List (String × Value)) : Except Failure String := do
  engine.renderCompiled m r (← engine.compile source) bindings

end Engine

end Codegen.Template
