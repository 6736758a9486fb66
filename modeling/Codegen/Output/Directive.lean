import Codegen.Failure.Basic
import Codegen.Files.Path
import Codegen.Text.Blank
import Codegen.Text.Case

/-!
The line at the head of a rendered text that says where its body goes: `##output mode` or
`##output mode path`.
-/

namespace Codegen.Output

inductive Mode
  | overwrite
  | preserve
  | aggregate
  | property
  | ignore
  deriving Repr, DecidableEq, Inhabited

namespace Mode

def all : List Mode := [overwrite, preserve, aggregate, property, ignore]

def name : Mode → String
  | overwrite => "overwrite"
  | preserve => "preserve"
  | aggregate => "aggregate"
  | property => "property"
  | ignore => "ignore"

def ofName? (text : String) : Option Mode := all.find? (·.name = text)

def parse (word : String) (template : Option String) : Except Failure Mode :=
  match ofName? (Text.lower word) with
  | some mode => .ok mode
  | none => .error (.generation (.unknownMode word template))

end Mode

structure Directive where
  mode : Mode
  path : Option String
  deriving Repr, DecidableEq

def directiveStart : String := "##output "

def firstLine (text : String) : String × String := (Text.cut? "\n" text).getD (text, "")

/-- The directive at the head of a text, if there is one, and the body. -/
def parseDirective (text : String) (template : Option String) :
    Except Failure (Option Directive × String) :=
  if Text.hasStart directiveStart text then
    let (line, body) := firstLine text
    match (Text.words line).drop 1 with
    | [mode] => (Mode.parse mode template).map fun mode => (some ⟨mode, none⟩, body)
    | [mode, path] => (Mode.parse mode template).map fun mode => (some ⟨mode, some path⟩, body)
    | _ => .error (.generation (.malformedDirective (Text.strip line) template))
  else .ok (none, text)

def innerDot? (name : List Char) : Option Nat :=
  (name.drop 1).findIdx? (· = '.') |>.map (· + 1)

def lastDot? (name : List Char) : Option Nat :=
  (name.reverse.findIdx? (· = '.')).map fun i => name.length - 1 - i

/-- The extension that a template's name gives to what is made from it: the part from the first
inner dot up to the last dot. -/
def defaultExtension (template : String) : String :=
  let name := (Files.Path.ofString template).name.toList
  match innerDot? name, lastDot? name with
  | some first, some last =>
    if first < last then String.ofList ((name.take last).drop first) else ""
  | _, _ => ""

/-- The name that a property output goes by: the file name up to its first inner dot, with a small
first letter. -/
def propertyName (path : String) : String :=
  let name := (Files.Path.ofString path).name.toList
  let base := match innerDot? name with
    | some dot => name.take dot
    | none => name
  String.ofList (Text.lowerFirstList base)

end Codegen.Output
