import Codegen.Value.Basic

/-!
Written forms of values: `display` is what a template prints, `quoted` how a value stands inside a
collection.
-/

namespace Codegen

open Codegen.Model

/-- `field=value` for each field. -/
def fieldTexts (fields : List (String × String)) : List String :=
  fields.map fun (k, v) => k ++ "=" ++ v

/-- `Name(field=value, …)`. -/
def recordText (typeName : String) (fields : List (String × String)) : String :=
  typeName ++ "(" ++ Text.join ", " (fieldTexts fields) ++ ")"

def listText (items : List String) : String := "[" ++ Text.join ", " items ++ "]"

def tupleText : List String → String
  | [item] => "(" ++ item ++ ",)"
  | items => "(" ++ Text.join ", " items ++ ")"

def boolText (b : Bool) : String := if b then "True" else "False"

namespace Model

def optionText (text : Option String) : String := text.elim "None" Text.quoted

def Stereotype.quoted (s : Stereotype) : String :=
  recordText "Stereotype" [("name", Text.quoted s.name), ("comment", optionText s.comment)]

def DataType.quoted (t : DataType) : String :=
  recordText (if t.isObject then "ObjectDatatype" else "Datatype")
    [("name", Text.quoted t.name), ("comment", optionText t.comment)]

def Attribute.quoted (a : Attribute) : String :=
  recordText "Attribute"
    [("name", Text.quoted a.name), ("comment", optionText a.comment),
     ("type", a.type.elim "None" DataType.quoted), ("visibility", Text.quoted a.visibility),
     ("is_read_only", boolText a.isReadOnly)]

def Class.quoted (c : Class) : String :=
  recordText "MetaClass"
    [("name", Text.quoted c.name), ("comment", optionText c.comment),
     ("package", tupleText (c.package.map Text.quoted)),
     ("stereotypes", listText (c.stereotypes.map Stereotype.quoted)),
     ("attributes", listText (c.attributes.map Attribute.quoted)),
     ("package_delimiter", Text.quoted c.delimiter)]

def quoted (m : Model) : String :=
  recordText "MetaModel"
    [("name", Text.quoted m.name), ("classes", listText (m.classes.map Class.quoted)),
     ("package_delimiter", Text.quoted m.delimiter)]

def Element.quoted : Element → String
  | .bare name comment =>
    recordText "MetaElement" [("name", Text.quoted name), ("comment", optionText comment)]
  | .stereotype s => s.quoted
  | .attr a => a.quoted
  | .datatype t => t.quoted
  | .classifier c => c.quoted

namespace Entity

def quoted (m : Model) (e : Entity) : String := (e.element? m).elim m.quoted Element.quoted

def display (m : Model) (e : Entity) : String := (e.element? m).elim m.quoted Element.name

end Entity

end Model

namespace Moment

def quotedParts (d : Date) : String := s!"{d.year}, {d.month}, {d.day}"

def quoted (t : Moment) : String :=
  let seconds :=
    if t.microsecond ≠ 0 then s!", {t.second}, {t.microsecond}"
    else if t.second ≠ 0 then s!", {t.second}"
    else ""
  let zone := match t.offset with
    | none => ""
    | some 0 => ", tzinfo=datetime.timezone.utc"
    | some n => ", tzinfo=datetime.timezone(" ++ spanText n ++ ")"
  s!"datetime.datetime({quotedParts t.date}, {t.hour}, {t.minute}{seconds}{zone})"

end Moment

def loopText (fields : List (String × String)) : String :=
  let part (name : String) : String := (fields.lookup name).getD ""
  s!"<{RecordKind.loop.name} " ++ part "index" ++ "/" ++ part "length" ++ ">"

namespace Value

mutual

def quoted (m : Model) : Value → String
  | null => "None"
  | bool b => boolText b
  | int n => toString n
  | float x => Number.floatText x
  | text s => Text.quoted s
  | bytes bs => Text.quotedBytes bs
  | date d => "datetime.date(" ++ Moment.quotedParts d ++ ")"
  | moment t => t.quoted
  | list items => listText (quotedItems m items)
  | tuple items => tupleText (quotedItems m items)
  | set items =>
    if items.isEmpty then "set()" else "\x7b" ++ Text.join ", " (quotedItems m items) ++ "\x7d"
  | map entries => "\x7b" ++ Text.join ", " (quotedEntries m entries) ++ "\x7d"
  | path p => "PosixPath(" ++ Text.quoted p.toString ++ ")"
  | entity e => e.quoted m
  | kind k => "<EntityKind." ++ k.label ++ ": " ++ Text.quoted k.name ++ ">"
  | function _ => "<function>"
  | record .options fields => recordText RecordKind.options.name (quotedFields m fields)
  | record .loop fields => loopText (quotedFields m fields)
  | stream k _ => "<" ++ k.name ++ " object>"
  | missing _ => "Undefined"

def quotedItems (m : Model) : List Value → List String
  | [] => []
  | v :: vs => quoted m v :: quotedItems m vs

def quotedEntries (m : Model) : List (Value × Value) → List String
  | [] => []
  | (k, v) :: rest => (quoted m k ++ ": " ++ quoted m v) :: quotedEntries m rest

def quotedFields (m : Model) : List (String × Value) → List (String × String)
  | [] => []
  | (k, v) :: rest => (k, quoted m v) :: quotedFields m rest

end

def display (m : Model) : Value → String
  | text s => s
  | moment t => t.text " "
  | date d => d.text
  | path p => p.toString
  | entity e => e.display m
  | kind k => "EntityKind." ++ k.label
  | record .options fields => Text.join " " (fieldTexts (quotedFields m fields))
  | missing _ => ""
  | v => v.quoted m

end Value

end Codegen
