import Codegen.Mixin.Access
import Codegen.Template.Stream

/-!
What the names in a template stand for, and how parts of values are found. What is not there counts
as missing; only looking for parts of what is missing fails.
-/

namespace Codegen.Template

open Codegen.Model

/-- The variables of a template, the innermost first, above the helpers. A template that is included
has a name. -/
structure Scope where
  model : Model
  registry : Mixin.Registry
  helpers : List (String × Function Value)
  bindings : List (String × Value)
  template : Option String := none

def typePhrase (m : Model) : Value → String
  | .null => "None"
  | .date _ => "datetime.date object"
  | .moment _ => "datetime.datetime object"
  | .entity e => "mdagen.meta.model." ++ e.typeName m ++ " object"
  | .kind _ => "mdagen.meta.mixins.EntityKind object"
  | .path _ => "pathlib.PosixPath object"
  | .record .options _ => "mdagen.gen.options." ++ RecordKind.options.name ++ " object"
  | .record .loop _ => "jinja2.runtime." ++ RecordKind.loop.name ++ " object"
  | v => v.typeName m ++ " object"

namespace Scope

def bind (scope : Scope) (name : String) (value : Value) : Scope :=
  { scope with bindings := (name, value) :: scope.bindings }

/-- The value of a name; a variable hides a helper. -/
def value (scope : Scope) (name : String) : Value :=
  match scope.bindings.lookup name with
  | some value => value
  | none => ((scope.helpers.lookup name).map Value.function).getD (.missing (.unbound name))

@[simp] theorem value_bind (scope : Scope) (name : String) (v : Value) :
    (scope.bind name v).value name = v := by
  simp [value, bind]

def member? (scope : Scope) (owner : Value) (name : String) : Except Failure (Option Value) :=
  match Mixin.read scope.model scope.registry owner name with
  | .ok v => .ok (some v)
  | .error failure => if failure.isMissingMember then .ok none else .error failure

/-- The part of a value that a name behind a dot stands for: a member before an entry. -/
def part (scope : Scope) (owner : Value) (name : String) : Except Failure Value := do
  match ← scope.member? owner name with
  | some v => return v
  | none =>
    match owner with
    | .missing what => .error (.undefined what)
    | _ =>
      return (owner.at? (.text name)).getD
        (.missing (.part (typePhrase scope.model owner) name))

/-- The part of a value that an index in brackets stands for: an entry before a member. -/
def item (scope : Scope) (owner index : Value) : Except Failure Value := do
  match owner, owner.at? index with
  | .missing what, _ => .error (.undefined what)
  | _, some v => return v
  | _, none =>
    match index with
    | .text name =>
      return (← scope.member? owner name).getD
        (.missing (.part (typePhrase scope.model owner) name))
    | _ =>
      return .missing (.item (typePhrase scope.model owner) (index.quoted scope.model))

def nothingCalled : Value :=
  .missing (.remark "value was undefined because a callable raised a StopIteration exception")

def call (scope : Scope) (function : Value) (positional : List Value)
    (named : List (String × Value)) : Except Failure Value :=
  match Mixin.invokeValue scope.model scope.registry function positional named with
  | .ok v => .ok v
  | .error failure => if failure.endsIteration then .ok nothingCalled else .error failure

def along (scope : Scope) : List Value → Value → Except Failure Value
  | [], v => .ok v
  | index :: path, v => do scope.along path (← scope.item v index)

end Scope

end Codegen.Template
