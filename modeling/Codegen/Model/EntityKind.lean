import Codegen.Text.Blank
import Codegen.Text.Naming

/-! The kinds of model entities that plugins may extend, and the entity types with their kinds. -/

namespace Codegen.Model

inductive EntityKind
  | element
  | attr
  | objectDatatype
  | classifier
  deriving Repr, DecidableEq, Inhabited

namespace EntityKind

def all : List EntityKind := [element, attr, objectDatatype, classifier]

def name : EntityKind → String
  | element => "element"
  | attr => "attribute"
  | objectDatatype => "object-datatype"
  | classifier => "class"

def label (kind : EntityKind) : String := Text.upper (Text.replace "-" "_" kind.name)

/-- The spelling that decides which kind a text names: words in lower case separated by low lines,
without a leading `on_`. -/
def spelling (text : String) : String :=
  let words := Text.lower (String.ofList (Text.separateCapitals (Text.strip text).toList))
  let words := Text.replace "-" "_" words
  (Text.afterStart? "on_" words).getD words

/-- The kind that a text names, as in `object-datatype`, `on_object_datatype` or
`ObjectDatatype`. -/
def ofName? (text : String) : Option EntityKind :=
  let spelled := spelling text
  match all.find? fun kind => Text.replace "-" "_" kind.name = spelled with
  | some kind => some kind
  | none => if spelled = "meta_element" then some element else none

end EntityKind

/-- The types of entities, each a special case of `element`. -/
inductive EntityType
  | element
  | stereotype
  | attr
  | datatype
  | objectDatatype
  | classifier
  deriving Repr, DecidableEq, Inhabited

namespace EntityType

def name : EntityType → String
  | element => "MetaElement"
  | stereotype => "Stereotype"
  | attr => "Attribute"
  | datatype => "Datatype"
  | objectDatatype => "ObjectDatatype"
  | classifier => "MetaClass"

def all : List EntityType := [element, stereotype, attr, datatype, objectDatatype, classifier]

def ofName? (text : String) : Option EntityType := all.find? (·.name = text)

def kinds : EntityType → List EntityKind
  | attr => [.attr, .element]
  | objectDatatype => [.objectDatatype, .element]
  | classifier => [.classifier, .element]
  | _ => [.element]

def kind : EntityType → EntityKind
  | attr => .attr
  | objectDatatype => .objectDatatype
  | classifier => .classifier
  | _ => .element

end EntityType

end Codegen.Model
