import Codegen.Model.Basic
import Codegen.Schema.Check

/-!
The schema of model documents.
-/

namespace Codegen.Model

structure AttributeSpec where
  name : String
  type : Option String
  visibility : String
  isReadOnly : Bool
  comment : Option String
  deriving Repr, DecidableEq

structure ClassSpec where
  name : String
  package : String
  stereotypes : List String
  comment : Option String
  attributes : List AttributeSpec
  deriving Repr, DecidableEq

structure ModelSpec where
  name : String
  classes : List ClassSpec
  deriving Repr, DecidableEq

open Checked

def visibilities : List String := ["public", "protected", "private", "package"]

def visibilityCheck : Value → Checked String
  | .text s => if s ∈ visibilities then .ok s else Checked.refuse .notVisibility (.text s)
  | .bytes bs =>
    Checked.refuse (if Text.isHalved bs then .notUnicode else .notVisibility) (.bytes bs)
  | v => Checked.refuse .notVisibility v

def AttributeSpec.check : Value → Checked AttributeSpec :=
  record "AttributeSpec" fun fields =>
    let name := field "name" Checked.text (refuse .required (.map fields)) fields
    let type := field "type" optionalText (.ok none) fields
    let visibility := field "visibility" visibilityCheck (.ok "public") fields
    let isReadOnly := field "read_only" boolean (.ok false) fields
    let comment := field "comment" optionalText (.ok none) fields
    apply (apply (apply (apply (name.map mk) type) visibility) isReadOnly) comment

def stereotypeNamesCheck : Value → Checked (List String)
  | .text s => .ok [s]
  | .bytes bs =>
    if Text.isHalved bs then Checked.list Checked.text (.list [.bytes bs])
    else Checked.refuse .notList (.bytes bs)
  | v => Checked.list Checked.text v

def ClassSpec.check : Value → Checked ClassSpec :=
  record "ClassSpec" fun fields =>
    let name := field "name" Checked.text (refuse .required (.map fields)) fields
    let package := field "package" Checked.text (.ok "") fields
    let stereotypes := field "stereotypes" stereotypeNamesCheck (.ok []) fields
    let comment := field "comment" optionalText (.ok none) fields
    let attributes := field "attributes" (Checked.list AttributeSpec.check) (.ok []) fields
    apply (apply (apply (apply (name.map mk) package) stereotypes) comment) attributes

def ModelSpec.check : Value → Checked ModelSpec :=
  record "ModelDocument" fun fields =>
    let name := field "name" Checked.text (.ok "model") fields
    let classes := field "classes" (Checked.list ClassSpec.check) (.ok []) fields
    apply (name.map mk) classes

end Codegen.Model
