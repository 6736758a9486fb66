import Codegen.Mixin.Support

/-!
Plugins: files that bring hooks, which a run calls at fixed occasions, and functions, which
templates use as helpers. A hook is a list of actions on the context of the run.
-/

namespace Codegen

namespace Plugin

/-- One thing that a hook does with the context and the value that it was called for. -/
inductive Action
  /-- Appends a text to a list, which is created when there is none; an empty pair of braces in the
  text stands for the value's name. -/
  | append (key text : String)
  /-- Appends the value to a list, which is created when there is none. -/
  | appendValue (key : String)
  | set (key : String) (value : Value)
  | setValue (key : String)
  | delete (key : String)
  /-- Creates an empty list unless something is there. -/
  | ensureList (key : String)
  /-- Appends the value to a list that has to be there. -/
  | extendList (key : String)
  /-- Puts the qualified names of the classes in one list into another. -/
  | collectNames (source target : String)
  | mixin (document : Mixin.Document)
  | installSupport (mark : String)
  | installPlatform
  | raise (fault : Fault)
  /-- Runs the hook of another script for an identity. -/
  | runOnce (script : Nat) (kind identity : String)

abbrev Hook := List Action

end Plugin

/-- What a plugin file defines, or the fault that loading it raises. A value can have a test of its own
for whether it counts as true, which can also raise a fault. -/
structure Plugin where
  fault : Option Fault := none
  hooks : List (String × Plugin.Hook) := []
  functions : List (String × Value) := []
  tests : List (String × Except Fault Bool) := []

namespace Plugin

def empty : Plugin := {}

instance : Inhabited Plugin := ⟨empty⟩

/-- The hook of a name. A function that is no hook can stand in for one. -/
inductive Callee
  | hook (actions : Hook)
  | function (f : Function Value)

def callee? (p : Plugin) (name : String) : Option Callee :=
  match p.functions.lookup name with
  | some (.function f) => some (.function f)
  | some _ => none
  | none => (p.hooks.lookup name).map .hook

def hookStart : String := "init_"

def hookNames (p : Plugin) : List String :=
  let names := (p.hooks.map (·.1) ++ p.functions.map (·.1)).eraseDups
  (names.filter fun name => Text.hasStart hookStart name && (p.callee? name).isSome).mergeSort
    (· ≤ ·)

/-- The name of the hook for a kind of occasion: `Stereotype` has `init_stereotype`. -/
def hookName (kind : String) : String :=
  let words := String.ofList (Text.separateEachCapital kind.toList)
  hookStart ++ Text.lower (Text.replace "-" "_" words)

def valueOf (p : Plugin) (name : String) : Value :=
  match p.functions.lookup name with
  | some v => v
  | none => if (p.hooks.lookup name).isSome then .function (.constant .null) else .null

/-- Whether the value under a name counts as true. -/
def test (p : Plugin) (name : String) : Except Failure Bool :=
  match p.tests.lookup name with
  | some answer => answer.mapError .fault
  | none => .ok (p.valueOf name).isTrue

def function? (p : Plugin) (name : String) : Option (Function Value) :=
  match p.valueOf name with
  | .function f => some f
  | _ => none

/-- The helper of a plugin file named `stem`: what stands under that name, if it counts as true, and
`helper` otherwise. Either has to be a function. -/
def helper? (p : Plugin) (stem : String) : Except Failure (Option (Function Value)) := do
  if ← p.test stem then return p.function? stem else return p.function? "helper"

end Plugin

end Codegen
