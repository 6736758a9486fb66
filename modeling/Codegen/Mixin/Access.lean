import Codegen.Mixin.Registry
import Codegen.Model.Support
import Codegen.Value.Signature

/-!
Reading the parts of values. An entity has the members of its type; beyond these, the members that
are registered for its kinds. A registered property is computed when it is read, and may read
others.
-/

namespace Codegen.Mixin

open Codegen.Model

def annotations : List (String × String) :=
  [("boolean", "bool"), ("bool", "bool"), ("int", "int"), ("integer", "int"), ("long", "int"),
   ("float", "float"), ("double", "float"), ("string", "str"), ("str", "str"), ("bytes", "bytes")]

/-- The annotation for a type name: classes keep their names, an attribute without type admits
everything. -/
def annotate (typeName : String) : String :=
  (annotations.lookup (Text.lower typeName)).getD typeName

def attributeEntities (m : Model) (owner : Nat) (keep : Attribute → Bool) : List Value :=
  match m.classes[owner]? with
  | none => []
  | some c =>
    (c.attributes.zipIdx.filter fun (a, _) => keep a).map fun (_, j) => .entity (.attr owner j)

/-- The members that every model has. A template has no members to register, so that for it `mixin`
registers nothing. -/
def modelMember (m : Model) (name : String) : Option Value :=
  match name with
  | "name" => some (.text m.name)
  | "classes" =>
    some (.list ((List.range m.classes.length).map fun i => .entity (.classifier i)))
  | "package_delimiter" => some (.text m.delimiter)
  | "stereotype_names" => some (.ofTexts m.stereotypeNames)
  | "find_class" => some (.function (.bound .findClass (.entity .model)))
  | "mixin" => some (.function (.bound (.constant (.list [])) (.entity .model)))
  | _ => none

def classMember (m : Model) (e : Entity) (c : Model.Class) (name : String) : Option Value :=
  let index? := match e with
    | .classifier i => some i
    | _ => none
  match name with
  | "package" => some (.tuple (c.package.map .text))
  | "stereotypes" =>
    some (.list (index?.elim [] fun i =>
      (List.range c.stereotypes.length).map fun j => .entity (.stereotype i j)))
  | "attributes" =>
    some (.list (index?.elim [] fun i => attributeEntities m i fun _ => true))
  | "package_delimiter" => some (.text c.delimiter)
  | "package_name" => some (.text c.packageName)
  | "package_dir_name" => some (.text c.packageDirectory)
  | "in_root_package" => some (.bool c.inRootPackage)
  | "class_name_with_path" => some (.text c.qualifiedName)
  | "stereotype_name" => some (.text c.stereotypeName)
  | "stereotype_names" => some (.ofTexts c.stereotypeNames)
  | "has_stereotype" => some (.function (.bound .hasStereotype (.entity e)))
  | "object_attributes" =>
    some (.list (index?.elim [] fun i => attributeEntities m i Attribute.hasObjectType))
  | "has_object_attributes" => some (.bool !c.objectAttributes.isEmpty)
  | _ => none

def attributeMember (e : Entity) (a : Attribute) (name : String) : Option Value :=
  match name with
  | "type" =>
    some (match e with
      | .attr i j => if a.type.isSome then .entity (.datatype i j) else .null
      | _ => .null)
  | "visibility" => some (.text a.visibility)
  | "is_read_only" => some (.bool a.isReadOnly)
  | "owner" =>
    some (match e with
      | .attr i _ => .entity (.classifier i)
      | _ => .null)
  | "is_public" => some (.bool a.isPublic)
  | "type_name" => some (.text a.typeName)
  | _ => none

def datatypeMember (m : Model) (e : Entity) (t : DataType) (name : String) : Option Value :=
  match t, name with
  | _, "is_object" => some (.bool t.isObject)
  | .plain .., _ => none
  | .object .., "meta_class" => some (.ofOption (fun i => .entity (.classifier i)) (e.targetClass? m))
  | .object .., "package_name" =>
    some (.text ((m.target? t).elim "" Class.packageName))
  | .object own _ _, "class_name_with_path" =>
    some (.text ((m.target? t).elim own Class.qualifiedName))
  | _, _ => none

def elementMember (m : Model) (e : Entity) (element : Element) (name : String) : Option Value :=
  match name with
  | "name" => some (.text element.name)
  | "comment" => some (.ofOption .text element.comment)
  | "has_comment" => some (.bool (hasComment element.comment))
  | "entity_kind" => some (.kind element.type.kind)
  | _ =>
    match element with
    | .classifier c => classMember m e c name
    | .attr a => attributeMember e a name
    | .datatype t => datatypeMember m e t name
    | _ => none

def nativeMember? (m : Model) (e : Entity) (name : String) : Option Value :=
  match e.element? m with
  | some element => elementMember m e element name
  | none => modelMember m name

abbrev Reader := Value → String → Except Failure Value

def readPath (read : Reader) : List String → Value → Except Failure Value
  | [], v => .ok v
  | name :: path, v => do readPath read path (← read v name)

/-- The result of one of the functions derived from a class, when `self` is one. -/
def onClass (m : Model) (self : Value) (use : Model.Class → Except Failure Value) :
    Except Failure Value :=
  match self with
  | .entity e =>
    match e.element? m with
    | some (.classifier c) => use c
    | _ => .error (.noMember (e.typeName m) "package")
  | v => .error (.noMember (v.typeName m) "package")

/-- The parameters of a function; nothing for one that takes any number of arguments. -/
def signature? : Function Value → Option Signature
  | .naming .snake => some { name := "snake_case", required := ["value"] }
  | .naming .camel => some { name := "camel_case", required := ["value"] }
  | .naming .upperFirst => some { name := "helper", required := ["value"] }
  | .typeHint => some { name := "python_type", required := ["type_name"] }
  | .hasStereotype => some { name := "MetaClass.has_stereotype", required := ["self", "name"] }
  | .findClass => some { name := "MetaModel.find_class", required := ["self", "name_or_path"] }
  | .identifierName _ | .qualifiedIdentifier _ | .packageIdentifier _ | .commentLines _ | .moduleName
  | .modulePath | .servicePath => some { name := "", required := ["self"] }
  | _ => none

/-- Gives a function its arguments, each in its place. A function that takes any number of them
knows no names. -/
def arranged (f : Function Value) (positional : List Value) (named : List (String × Value)) :
    Except Failure (List Value) :=
  match signature? f, named with
  | some s, _ => s.arrange positional named
  | none, [] => .ok positional
  | none, (name, _) :: _ => .error (.misuse (.arguments "function" (.unexpected name)))

def evaluate (m : Model) (read : Reader) : Function Value → List Value → Except Failure Value
  | .constant v, _ => .ok v
  | .raise fault, _ => .error (.fault fault)
  | .joinArguments separator, args => .ok (.text (Text.join separator (args.map (·.display m))))
  | .upper, v :: _ => .ok (.text (Text.upper (v.display m)))
  | .lower, v :: _ => .ok (.text (Text.lower (v.display m)))
  | .repeated count, v :: _ => .ok (.text (Text.repeated count (v.display m)))
  | .wrap before after, v :: _ => .ok (.text (before ++ v.display m ++ after))
  | .member path, v :: _ => readPath read path v
  | .wrapMember path before after, v :: _ => do
    .ok (.text (before ++ (← readPath read path v).display m ++ after))
  | .hasStereotype, [self, v] =>
    onClass m self fun c =>
      .ok (.bool (match v with
        | .text name => c.hasStereotype name
        | _ => false))
  | .findClass, [_, v] =>
    .ok (match v with
      | .text name => .ofOption (fun i => .entity (.classifier i)) (m.findClass? name)
      | _ => .null)
  | .naming style, [v] =>
    let text := v.display m
    .ok (.text (match style with
      | .snake => Text.snakeCase text
      | .camel => Text.camelCase text
      | .upperFirst => Text.upperFirst text))
  | .typeHint, [v] =>
    .ok (.text (if v.isTrue then annotate (v.display m) else "object"))
  | .identifierName mark, [v] => do
    let isReadOnly := (← read v "is_read_only").isTrue
    let isPublic := (← if isReadOnly then .ok .null else read v "is_public").isTrue
    let name := (← read v "name").display m
    .ok (.text (if isReadOnly || !isPublic then mark ++ name else name))
  | .qualifiedIdentifier delimiter, [v] => do
    match ← read v "class_name_with_path" with
    | .text path => .ok (.text (pathToIdentifier path delimiter "."))
    | _ => .ok (.text "")
  | .packageIdentifier delimiter, [v] => do
    match ← read v "package_name" with
    | .text path => .ok (.text (pathToIdentifier path delimiter "."))
    | _ => .ok (.text "")
  | .commentLines width, [v] => do
    match ← read v "comment" with
    | .text comment => .ok (.ofTexts (reflowComment (some comment) width))
    | _ => .ok (.list [])
  | .moduleName, [v] => onClass m v fun c => .ok (.text c.moduleName)
  | .modulePath, [v] =>
    onClass m v fun c => do
      if c.inRootPackage then read v "module_name"
      else
        let package ← read v "package_identifier"
        let module ← read v "module_name"
        .ok (.text (package.display m ++ "." ++ module.display m))
  | .servicePath, [v] =>
    onClass m v fun c => do
      let file := (← read v "module_name").display m ++ "_service.py"
      .ok (.text (if c.inRootPackage then file else c.packageDirectory ++ "/" ++ file))
  | _, _ => .error (.misuse (.arguments "function" (.missing ["value"])))

def call (m : Model) (read : Reader) :
    Function Value → List Value → List (String × Value) → Except Failure Value
  | .bound function self, positional, named => call m read function (self :: positional) named
  | function, positional, named => do evaluate m read function (← arranged function positional named)

/-- What implementations of properties come to for an entity, given how they read members. What is
said of reading holds whatever they do. -/
abbrev Conduct := Reader → Function Value → Entity → Except Failure Value

/-- The conduct of the functions that are registered: each is called with the entity. -/
def calling (m : Model) : Conduct :=
  fun read implementation e => call m read implementation [.entity e] []

/-- Reads a member of an entity: one that its type has, or else a registered one. -/
def readEntity (m : Model) (r : Registry) (conduct : Conduct) (read : Reader) (e : Entity)
    (name : String) : Except Failure Value :=
  match nativeMember? m e name with
  | some v => .ok v
  | none =>
    match e.element? m with
    | none => .error (.noMember (e.typeName m) name)
    | some element =>
      if Text.hasStart "__" name then .error (.reservedMember name)
      else
        match r.lookup? element.type name with
        | none => .error (.noMember element.type.name name)
        | some member =>
          if member.isProperty then
            match conduct read member.implementation e with
            | .ok v => .ok v
            | .error failure =>
              if failure.isMissingMember then
                .error (.memberFailed name element.type.name element.name failure.text)
              else .error failure
          else .ok (.function (.bound member.implementation (.entity e)))

/-- Reads a member of any value; registered properties nest at most `depth` deep. -/
def readWithin (m : Model) (r : Registry) (conduct : Conduct) : (depth : Nat) → Reader
  | 0 => fun _ _ => .error .nestedTooDeep
  | depth + 1 => fun v name =>
    match v with
    | .entity e => readEntity m r conduct (readWithin m r conduct depth) e name
    | .record r fields =>
      match fields.lookup name with
      | some v => .ok v
      | none => .error (.noMember r.name name)
    | .kind k =>
      match name with
      | "name" => .ok (.text k.label)
      | "value" => .ok (.text k.name)
      | _ => .error (.noMember "EntityKind" name)
    | .path p =>
      match name with
      | "name" => .ok (.text p.name)
      | "stem" => .ok (.text p.stem)
      | "suffix" => .ok (.text (Files.Path.suffixOf p.name))
      | "parent" => .ok (.path p.parent)
      | _ => .error (.noMember "PosixPath" name)
    | .missing what =>
      if Text.hasStart "__" name then .error (.noMember "Undefined" name)
      else .error (.undefined what)
    | .text s =>
      match name with
      | "upper" => .ok (.function (.bound .upper (.text s)))
      | "lower" => .ok (.function (.bound .lower (.text s)))
      | _ => .error (.noMember "str" name)
    | .date d => partOf v name d.parts
    | .moment t => partOf v name t.parts
    | v => .error (.noMember (v.typeName m) name)
where
  partOf (v : Value) (name : String) (parts : List (String × Nat)) : Except Failure Value :=
    match parts.lookup name with
    | some n => .ok (.int n)
    | none => .error (.noMember (v.typeName m) name)

def entityCount (m : Model) : Nat :=
  m.classes.foldl (fun n c => n + 1 + c.stereotypes.length + 2 * c.attributes.length) 2

/-- A depth that only circular properties exceed: on the way to a value no property of an entity is
read twice. -/
def depthBound (m : Model) (r : Registry) : Nat := entityCount m * r.size + 1

def read (m : Model) (r : Registry) : Reader := readWithin m r (calling m) (depthBound m r)

def invoke (m : Model) (r : Registry) (f : Function Value) (positional : List Value)
    (named : List (String × Value)) : Except Failure Value :=
  call m (read m r) f positional named

def invokeValue (m : Model) (r : Registry) (v : Value) (positional : List Value)
    (named : List (String × Value)) : Except Failure Value :=
  match v with
  | .function f => invoke m r f positional named
  | .missing what => .error (.undefined what)
  | _ => .error (.misuse (.call (v.typeLabel m)))

end Codegen.Mixin
