import Codegen.Generation.Hook

/-!
Calls for hooks, those for an identity and those of the whole run. A hook may make calls of both
kinds itself, of which those for an identity are the requests of its course.
-/

namespace Codegen.Generation

open Codegen.Plugin

/-- A call for the hook of a script. -/
inductive HookCall
  | once (request : Request) (value : Value)
  | lifecycle (script : Nat) (hook : String)

namespace HookCall

def script : HookCall → Nat
  | once request _ => request.script
  | lifecycle number _ => number

def hook : HookCall → String
  | once request _ => hookName request.kind
  | lifecycle _ hook => hook

def isDone (script : Script) : HookCall → Bool
  | once request _ => script.hasRun request.kind request.identity
  | lifecycle .. => false

end HookCall

/-- What a hook does: deeds, calls for further hooks, and an outcome. Whatever comes of a call, a
failure included, the hook goes on from it. -/
inductive Errand
  | finish (outcome : Except Failure Unit)
  | deed (act : Step Unit) (next : Except Failure Unit → Run → Errand)
  | call (inner : HookCall) (next : Except Failure Bool → Errand)

namespace Errand

/-- Goes through an errand. `make` is how calls are made. -/
def follow (make : HookCall → Step Bool) : Errand → Step Unit
  | finish outcome => Step.lift outcome
  | deed act next => do
    let outcome ← act.shared
    (next outcome (← get)).follow make
  | call inner next => do
    let answer ← (make inner).outcome
    (next answer).follow make

def ofCourse : Course → Errand
  | .finish outcome => finish outcome
  | .deed act next => deed act fun outcome run => ofCourse (next outcome run)
  | .ask request value next => call (.once request value) fun answer => ofCourse (next answer)

end Errand

/-- How hooks behave that make calls of both kinds: the errand of a hook of a plugin, which is that
of the script of a number, and how many hooks may be open one inside the other. -/
structure Manners where
  errand? (number : Nat) (plugin : Plugin) (hook : String) : Option (List Value → Errand)
  depth (scripts : List Script) : Nat

def Conduct.manners (conduct : Conduct) : Manners where
  errand? number plugin hook :=
    (conduct.course? number plugin hook).map fun course args => .ofCourse (course args)
  depth := conduct.depth

namespace Manners

/-- What a call does before its hook begins: it finds the errand of the hook, unless the hook was
run for the identity before or is missing. A hook that is found has `answer` written down for it. -/
def find (manners : Manners) (answer : Answer) : HookCall → Step (Option Errand)
  | .once request value => do
    let script ← scriptAt request.script
    if script.hasRun request.kind request.identity then
      record (.asked request value .done)
      return none
    else
      let hook := hookName request.kind
      mark script request
      match manners.errand? request.script script.plugin hook with
      | none =>
        record (.asked request value .missing)
        recordMissing script hook
        return none
      | some errand =>
        say Log.pluginsLogger .debug s!"Running {script.name}.{hook} for {request.identity}"
        record (.asked request value answer)
        return some (errand [value])
  | .lifecycle number hook => do
    let script ← scriptAt number
    match manners.errand? number script.plugin hook with
    | none =>
      recordMissing script hook
      return none
    | some errand =>
      say Log.pluginsLogger .debug s!"Running {script.name}.{hook}"
      record (.called number hook)
      return some (errand [])

/-- Makes a call, with at most `depth` hooks open one inside the other, and tells whether it ran the
hook. -/
def make (manners : Manners) : (depth : Nat) → HookCall → Step Bool
  | 0, call => do
    match ← manners.find .tooDeep call with
    | none => return false
    | some _ => throw .nestedTooDeep
  | depth + 1, call => do
    match ← manners.find .entered call with
    | none => return false
    | some errand =>
      errand.follow (manners.make depth)
      return true

/-- Makes a call from outside of all hooks. The bound is one on the hooks inside that of a run. -/
def place (manners : Manners) : HookCall → Step Bool
  | .once request value => do
    record (.due request value)
    let depth := manners.depth (← get).scripts
    manners.make depth (.once request value)
  | .lifecycle number hook => do
    let depth := manners.depth (← get).scripts
    manners.make (depth + 1) (.lifecycle number hook)

def placeAll (manners : Manners) (calls : List HookCall) : Step Unit :=
  calls.forM fun call => do
    let _ ← (manners.place call).outcome

end Manners

end Codegen.Generation
