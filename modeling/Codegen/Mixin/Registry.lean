import Codegen.Failure.Basic

/-!
Members that plugins add to the entities of a model: properties, which are computed when they are
read, and methods. A later registration under the same kind and name replaces the earlier one.
-/

namespace Codegen.Mixin

open Codegen.Model

structure Member where
  kind : EntityKind
  name : String
  implementation : Function Value
  isProperty : Bool

/-- The registered members, one for each kind and name, in the order of first registration. -/
structure Registry where
  entries : List Member

namespace Registry

def empty : Registry := ⟨[]⟩

instance : Inhabited Registry := ⟨empty⟩

def size (r : Registry) : Nat := r.entries.length

def get? (r : Registry) (kind : EntityKind) (name : String) : Option Member :=
  r.entries.find? fun member => member.kind = kind ∧ member.name = name

/-- Puts a member in; one that it replaces yields its place. -/
def insert (r : Registry) (member : Member) : Registry :=
  if (r.get? member.kind member.name).isSome then
    ⟨r.entries.map fun other =>
      if other.kind = member.kind ∧ other.name = member.name then member else other⟩
  else ⟨r.entries ++ [member]⟩

/-- The member that an entity of a type shows under a name: the one of its most specific kind. -/
def lookup? (r : Registry) (type : EntityType) (name : String) : Option Member :=
  type.kinds.findSome? fun kind => r.get? kind name

def members (r : Registry) (kind : EntityKind) : List Member :=
  r.entries.filter (·.kind = kind)

def kinds (r : Registry) : List EntityKind :=
  EntityKind.all.filter fun kind => !(r.members kind).isEmpty

end Registry

abbrev Named := List (String × Value)

def nameOf (m : Model) (own : Option String) (implementation : Value) : String :=
  own.getD (implementation.quoted m)

/-- Registers members of one kind in order; `done` are the ones registered before, the last
first. -/
def registerAll (m : Model) (kind : EntityKind) :
    List (Bool × String × Value) → Registry → List Member → Registry × Except Failure (List Member)
  | [], r, done => (r, .ok done.reverse)
  | (isProperty, name, implementation) :: rest, r, done =>
    match implementation with
    | .function implementation =>
      let member : Member := { kind, name, implementation, isProperty }
      registerAll m kind rest (r.insert member) (member :: done)
    | other => (r, .error (.memberNotFunction name kind (other.typeName m)))

/-- Registers properties, then methods, on the kind that `kindName` names. What was registered
before a failure stays. -/
def register (m : Model) (r : Registry) (kindName : String) (properties methods : Named) :
    Registry × Except Failure (List Member) :=
  match EntityKind.ofName? kindName with
  | none => (r, .error (.unknownEntityKind kindName))
  | some kind =>
    registerAll m kind (properties.map (true, ·) ++ methods.map (false, ·)) r []

abbrev Sections := List (String × Named)

/-- A mixin document: for each kind, properties under `get` and methods under `call`. -/
abbrev Document := List (String × Sections)

def sectionNames : List String := ["get", "call"]

def applyFrom (m : Model) :
    Document → Registry → List Member → Registry × Except Failure (List Member)
  | [], r, done => (r, .ok done)
  | (kindName, sections) :: rest, r, done =>
    let unknown := (sections.map (·.1)).filter (· ∉ sectionNames)
    if unknown = [] then
      match register m r kindName ((sections.lookup "get").getD [])
          ((sections.lookup "call").getD []) with
      | (r, .error e) => (r, .error e)
      | (r, .ok members) => applyFrom m rest r (done ++ members)
    else (r, .error (.unknownSections (unknown.mergeSort (· ≤ ·)) kindName))

def apply (m : Model) (r : Registry) (document : Document) :
    Registry × Except Failure (List Member) :=
  applyFrom m document r []

end Codegen.Mixin
