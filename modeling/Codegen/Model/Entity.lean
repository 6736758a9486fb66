import Codegen.Model.Basic
import Codegen.Model.EntityKind

/-!
Entities: the things of a model that templates and plugins handle, named by their position in the
model, and entities that stand outside any model.
-/

namespace Codegen.Model

/-- A model, one of its parts, or an element on its own; numbers tell apart elements of one name. -/
inductive Entity
  | model
  | classifier (index : Nat)
  | stereotype (owner index : Nat)
  | attr (owner index : Nat)
  | datatype (owner index : Nat)
  | detached (number : Nat) (type : EntityType) (name : String) (comment : Option String)
  deriving Repr, DecidableEq, Inhabited

inductive Element
  | bare (name : String) (comment : Option String)
  | stereotype (s : Stereotype)
  | attr (a : Attribute)
  | datatype (t : DataType)
  | classifier (c : Class)
  deriving Repr, DecidableEq

namespace Element

def type : Element → EntityType
  | bare .. => .element
  | stereotype _ => .stereotype
  | attr _ => .attr
  | datatype (.plain ..) => .datatype
  | datatype (.object ..) => .objectDatatype
  | classifier _ => .classifier

def name : Element → String
  | bare name _ => name
  | stereotype s => s.name
  | attr a => a.name
  | datatype t => t.name
  | classifier c => c.name

def comment : Element → Option String
  | bare _ comment => comment
  | stereotype s => s.comment
  | attr a => a.comment
  | datatype t => t.comment
  | classifier c => c.comment

end Element

namespace Entity

/-- The element at the entity's place; `none` for the model itself and for places that the model
does not have. -/
def element? (m : Model) : Entity → Option Element
  | model => none
  | classifier i => m.classes[i]?.map .classifier
  | stereotype i j => do
    let c ← m.classes[i]?
    c.stereotypes[j]?.map .stereotype
  | attr i j => do
    let c ← m.classes[i]?
    c.attributes[j]?.map .attr
  | datatype i j => do
    let c ← m.classes[i]?
    let a ← c.attributes[j]?
    a.type.map .datatype
  | detached _ type name comment =>
    some <| match type with
      | .element => .bare name comment
      | .stereotype => .stereotype ⟨name, comment⟩
      | .attr => .attr { name, comment }
      | .datatype => .datatype (.plain name comment)
      | .objectDatatype => .datatype (.object name comment none)
      | .classifier => .classifier { name, comment }

def typeName (m : Model) (e : Entity) : String :=
  match e.element? m with
  | some element => element.type.name
  | none => "MetaModel"

def name (m : Model) (e : Entity) : String :=
  match e.element? m with
  | some element => element.name
  | none => m.name

def targetClass? (m : Model) (e : Entity) : Option Nat :=
  match e.element? m with
  | some (.datatype (.object _ _ (some i))) => if i < m.classes.length then some i else none
  | _ => none

def qualifiedName? (m : Model) (e : Entity) : Option String :=
  match e.element? m with
  | some (.classifier c) => some c.qualifiedName
  | some (.datatype (.object name _ target)) =>
    some ((target.bind (m.classes[·]?)).elim name Class.qualifiedName)
  | _ => none

end Entity

end Codegen.Model
