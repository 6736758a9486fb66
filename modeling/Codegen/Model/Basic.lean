import Codegen.Text.Blank

/-!
The model that code is generated from: classes in packages, tagged by stereotypes, with typed
attributes. A type that refers to a class does so by the class's position in the model.
-/

namespace Codegen.Model

def defaultDelimiter : String := "::"

structure Stereotype where
  name : String
  comment : Option String := none
  deriving Repr, DecidableEq, Inhabited

inductive DataType
  | plain (name : String) (comment : Option String)
  | object (name : String) (comment : Option String) (target : Option Nat)
  deriving Repr, DecidableEq, Inhabited

structure Attribute where
  name : String
  comment : Option String := none
  type : Option DataType := none
  visibility : String := "public"
  isReadOnly : Bool := false
  deriving Repr, DecidableEq, Inhabited

structure Class where
  name : String
  comment : Option String := none
  package : List String := []
  stereotypes : List Stereotype := []
  attributes : List Attribute := []
  delimiter : String := defaultDelimiter
  deriving Repr, DecidableEq, Inhabited

namespace DataType

def name : DataType → String
  | plain name _ => name
  | object name _ _ => name

def comment : DataType → Option String
  | plain _ comment => comment
  | object _ comment _ => comment

def isObject : DataType → Bool
  | plain .. => false
  | object .. => true

end DataType

namespace Attribute

def isPublic (a : Attribute) : Bool := a.visibility = "public"

def typeName (a : Attribute) : String := (a.type.map DataType.name).getD ""

def hasObjectType (a : Attribute) : Bool := a.type.any DataType.isObject

end Attribute

namespace Class

def packageName (c : Class) : String := Text.join c.delimiter c.package

def packageDirectory (c : Class) : String := Text.join "/" c.package

def inRootPackage (c : Class) : Bool := c.package.isEmpty

def qualifiedName (c : Class) : String :=
  if c.inRootPackage then c.name else c.packageName ++ c.delimiter ++ c.name

def stereotypeNames (c : Class) : List String := c.stereotypes.map Stereotype.name

def stereotypeName (c : Class) : String := c.stereotypeNames.head?.getD ""

def hasStereotype (c : Class) (name : String) : Bool := c.stereotypeNames.contains name

def objectAttributes (c : Class) : List Attribute := c.attributes.filter Attribute.hasObjectType

end Class

def hasComment (comment : Option String) : Bool := comment.any fun text => !Text.isBlankText text

end Codegen.Model

namespace Codegen

structure Model where
  name : String := "model"
  classes : List Model.Class := []
  delimiter : String := Model.defaultDelimiter
  deriving Repr, DecidableEq, Inhabited

namespace Model

def findClass? (m : Model) (name : String) : Option Nat :=
  match m.classes.findIdx? (·.qualifiedName = name) with
  | some i => some i
  | none =>
    if (m.classes.filter (·.name = name)).length = 1 then m.classes.findIdx? (·.name = name)
    else none

def stereotypeNames (m : Model) : List String :=
  (m.classes.flatMap Class.stereotypeNames).eraseDups

def target? (m : Model) : DataType → Option Class
  | .plain .. => none
  | .object _ _ target => target.bind (m.classes[·]?)

end Model

end Codegen
