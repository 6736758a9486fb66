import Codegen.Failure.Basic
import Codegen.Model.Spec

/-!
Models from documents. The classes are built first, so that a type may name a class which the
document defines later.
-/

namespace Codegen.Model

/-- The segments of a package path; empty ones are left out. -/
def packageSegments (delimiter path : String) : List String :=
  (Text.split delimiter path).filter (· ≠ "")

def ClassSpec.outline (delimiter : String) (spec : ClassSpec) : Class where
  name := spec.name
  comment := spec.comment
  package := packageSegments delimiter spec.package
  stereotypes := spec.stereotypes.map fun name => { name }
  delimiter := delimiter

/-- The type that a name stands for: a class of the model, or a plain type. -/
def resolveType (m : Model) (name : Option String) : Option DataType :=
  match name with
  | none | some "" => none
  | some name =>
    match m.findClass? name with
    | some i => some (.object (((m.classes[i]?).map Class.name).getD name) none (some i))
    | none => some (.plain name none)

def AttributeSpec.resolve (m : Model) (spec : AttributeSpec) : Attribute where
  name := spec.name
  comment := spec.comment
  type := m.resolveType spec.type
  visibility := spec.visibility
  isReadOnly := spec.isReadOnly

def ofSpec (spec : ModelSpec) (delimiter : String) : Model :=
  let outline : Model :=
    { name := spec.name, classes := spec.classes.map (·.outline delimiter), delimiter }
  { outline with
    classes := spec.classes.map fun c =>
      { c.outline delimiter with attributes := c.attributes.map (·.resolve outline) } }

/-- The model of a document; an empty document is an empty model. -/
def ofValue (data : Value) (delimiter : String) : Except Failure Model :=
  let data := match data with
    | .null => .map []
    | v => v
  match ModelSpec.check data with
  | .error problems => .error (.generation (.malformedModel (problems.map SchemaProblem.text)))
  | .ok spec =>
    if delimiter = "" ∧ spec.classes ≠ [] then .error .emptyDelimiter
    else .ok (ofSpec spec delimiter)

end Codegen.Model
