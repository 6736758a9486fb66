import Codegen.Output.Routing

/-!
What happens in a run, event by event: the hooks that scripts were asked for, the hooks of the whole
run, and the templates.
-/

namespace Codegen.Generation

open Codegen.Files

/-- What a script is asked for: its hook for an identity of a kind. -/
structure Request where
  script : Nat
  kind : String
  identity : String
  deriving Repr, DecidableEq

/-- What comes of a request: the hook is begun, was begun before, is missing, or lies too deep in
other hooks. -/
inductive Answer
  | entered
  | done
  | missing
  | tooDeep
  deriving Repr, DecidableEq

structure Rendered where
  template : Path
  mode : Output.Mode
  path : String
  body : String
  /-- Whether the path was given by the template. -/
  isExplicit : Bool
  /-- The file that was written. -/
  written : Option Path

def Rendered.parcel (rendered : Rendered) : Output.Parcel :=
  { mode := rendered.mode, path := rendered.path, body := rendered.body }

/-- An event of a run. A request that the run itself comes to is due before it is asked for. A parcel
is sent before it is delivered; the template that it comes from is rendered after that. -/
inductive Event
  | due (request : Request) (value : Value)
  | asked (request : Request) (value : Value) (answer : Answer)
  | called (script : Nat) (hook : String)
  | sent (parcel : Output.Parcel)
  | rendered (classifier : Value) (result : Rendered)

namespace Event

def entered? : Event → Option Request
  | asked request _ .entered => some request
  | _ => none

def request? : Event → Option Request
  | asked request _ _ => some request
  | _ => none

def isTooDeep : Event → Bool
  | asked _ _ .tooDeep => true
  | _ => false

def sent? : Event → Option Output.Parcel
  | sent parcel => some parcel
  | _ => none

def rendered? : Event → Option Rendered
  | rendered _ result => some result
  | _ => none

end Event

end Codegen.Generation
