import Codegen.Generation.Run

/-!
Rendering of template files: the text of a template is taken apart into its directive and its body,
and the body is sent to where the directive says.
-/

namespace Codegen.Generation

open Codegen.Files

/-- The path of a template that names none: for a class, by its package and name; otherwise, by the
name of the template. -/
def defaultPath (classifier : Value) (template : Path) (extension root : String) : Step String := do
  match classifier with
  | .null =>
    let name :=
      if extension = "" then "" else (Text.beforeEnd? extension template.name).getD template.stem
    return root ++ "/" ++ name
  | classifier =>
    let package ← readMember classifier "package_dir_name"
    let before ← displayed package
    let before := if package.isTrue then before ++ "/" else ""
    let name ← displayed (← readMember classifier "name")
    return root ++ "/" ++ before ++ name ++ Output.defaultExtension template.name

def evaluate (template : Path) : Step String := do
  let source ← Step.lift ((← workspace).readText template)
  let run ← get
  Step.lift (run.engine.render run.model run.registry source run.desk.context)

def scopeName : Value → Step String
  | .null => return "project"
  | classifier => do displayed (← readMember classifier "name")

/-- Where the output of a template goes: where the template says, or else to its default path. -/
def outputPath (extension : String) (classifier : Value) (template : Path) :
    Option String → Step String
  | some path => return path
  | none => do defaultPath classifier template extension (← displayed (← required "output"))

/-- What a template comes to for a class, or for the project when there is none: a parcel, and
whether the template gave its path. -/
def compose (extension : String) (classifier : Value) (template : Path) :
    Step (Output.Parcel × Bool) := do
  putContext "class" classifier
  putContext "output" (← readMember (← required "options") "output")
  let text ← evaluate template
  let scope ← scopeName classifier
  say Log.rendererLogger .debug s!"Processing {scope} with template {template}"
  let (directive, body) ← Step.lift (Output.parseDirective text (some template.toString))
  let mode := (directive.map (·.mode)).getD .overwrite
  let explicit? := directive.bind (·.path)
  let path ← outputPath extension classifier template explicit?
  say Log.rendererLogger .debug s!"Output mode {mode.name} to {path}"
  return ({ mode, path, body }, explicit?.isSome)

/-- Renders a template for a class, or for the project when there is none. -/
def renderTemplate (extension : String) (classifier : Value) (template : Path) : Step Rendered := do
  let (parcel, isExplicit) ← compose extension classifier template
  record (.sent parcel)
  let written ← Step.ofRouting (parcel.deliver (← get).model)
  let result : Rendered :=
    { template, mode := parcel.mode, path := parcel.path, body := parcel.body, isExplicit, written }
  record (.rendered classifier result)
  return result

def renderAll (extension : String) (classifier : Value) (templates : List Path) :
    Step (List Rendered) :=
  templates.mapM (renderTemplate extension classifier)

end Codegen.Generation
