import Codegen.Settings.Options
import Codegen.Workspace.Basic

/-!
The files that come with the program: the helpers and partials that every run starts with, and the
platform that generates Python.
-/

namespace Codegen.Platform

open Codegen.Files

def printed (expression : String) : String := "\x7b\x7b " ++ expression ++ " \x7d\x7d"

def statement (text : String) : String := "\x7b% " ++ text ++ " %\x7d"

def closeStatement (text : String) : String := "\x7b%- " ++ text ++ " %\x7d"

def generatedHeader : String :=
  "Generated by mdagen from model " ++ printed "model.name" ++ ". Do not edit."

def platformHeader : String := "# " ++ statement "include \"generated_header\""

def readme : String :=
  "# " ++ printed "model.name" ++ "\n\n" ++ statement "include \"generated_header\""
    ++ "\n\n## Entities (" ++ printed "entity_names | length" ++ ")\n\n"
    ++ statement "for line in summary" ++ printed "line" ++ statement "endfor"

def manifest : String :=
  "##output aggregate " ++ printed "output" ++ "/MANIFEST.txt\n"
    ++ printed "class.class_name_with_path" ++ " <" ++ printed "stereotype.name" ++ ">\n"

def summary : String :=
  "##output property " ++ printed "output" ++ "/summary\n- " ++ printed "class.name | upper_first"
    ++ statement "if class.has_comment" ++ ": " ++ printed "class.comment_lines | join(\" \")"
    ++ statement "endif" ++ "\n"

def entityModule : String :=
  statement "include \"python_header\"" ++ "\n\"\"\"" ++ printed "class.name" ++ ".\n"
    ++ closeStatement "if class.has_comment" ++ "\n" ++ statement "for line in class.comment_lines"
    ++ "\n" ++ printed "line" ++ "\n" ++ closeStatement "endfor" ++ "\n" ++ closeStatement "endif"
    ++ "\n\"\"\"\n\nfrom dataclasses import dataclass\n"
    ++ closeStatement "for attribute in class.object_attributes"
    ++ "\nfrom " ++ printed "attribute.type.meta_class.module_path" ++ " import "
    ++ printed "attribute.type.name" ++ "\n" ++ closeStatement "endfor"
    ++ "\n\n\n@dataclass\nclass " ++ printed "class.name" ++ ":\n"
    ++ closeStatement "for attribute in class.attributes" ++ "\n    "
    ++ printed "attribute.identifier_name" ++ ": "
    ++ printed "attribute.type_name | python_type" ++ " | None = None\n" ++ closeStatement "else"
    ++ "\n    pass\n" ++ closeStatement "endfor" ++ "\n"

def serviceModule : String :=
  "##output preserve " ++ printed "output" ++ "/" ++ printed "class.service_path"
    ++ "\n# Generated once by mdagen from model " ++ printed "model.name"
    ++ "; edits are preserved.\nfrom " ++ printed "class.module_path" ++ " import "
    ++ printed "class.name" ++ "\n\n\nclass " ++ printed "class.name"
    ++ "Service:\n    \"\"\"Operations on " ++ printed "class.name"
    ++ ".\"\"\"\n\n    def get(self, key) -> " ++ printed "class.name"
    ++ ":\n        raise NotImplementedError\n"

def textFile (text : String) : Content := .bytes text.toUTF8

def helperFile (name : String) (f : Function Value) : Content :=
  .plugin { functions := [(name, .function f)] }

/-- Sets the platform up: installs the support and platform members, and after the walk lists the
names of the classes that were collected. -/
def platformScript : Plugin :=
  { hooks :=
      [("init_platform", [.installPlatform]),
       ("init_project_templates", [.collectNames "entities" "entity_names"])] }

def collectScript : Plugin :=
  { hooks :=
      [("init_stereotype", [.ensureList "entities"]), ("init_class", [.extendList "entities"])] }

def helpers : List (String × Function Value) :=
  [("camel_case", .naming .camel), ("snake_case", .naming .snake),
   ("upper_first", .naming .upperFirst), ("python_type", .typeHint)]

def globalFiles : List (String × Content) :=
  [("_helpers/camel_case.py", helperFile "camel_case" (.naming .camel)),
   ("_helpers/snake_case.py", helperFile "snake_case" (.naming .snake)),
   ("_helpers/upper_first.py", helperFile "helper" (.naming .upperFirst)),
   ("_partials/generated_header.j2", textFile generatedHeader)]

def platformFiles : List (String × Content) :=
  [("python_platform.py", .plugin platformScript),
   ("README.md.j2", textFile readme),
   ("Entity/Manifest.j2", textFile manifest),
   ("Entity/Model.py.j2", textFile entityModule),
   ("Entity/Summary.j2", textFile summary),
   ("Entity/collect_entities.py", .plugin collectScript),
   ("Service/Service.py.j2", textFile serviceModule),
   ("ValueObject/alias.json", textFile "\"Entity\"\n"),
   ("_helpers/python_type.py", helperFile "python_type" .typeHint),
   ("_partials/python_header.j2", textFile platformHeader)]

def globalPlugins (home : Place) : Path := Tree.pathOf (home ++ ["global_plugins"])

def platformsRoot (home : Place) : Path := Tree.pathOf (home ++ ["platforms"])

def files (home : Place) : List (Place × Content) :=
  globalFiles.map (fun (path, content) =>
    (home ++ ["global_plugins"] ++ Path.segments path, content))
  ++ [(home ++ ["platforms", "__init__.py"], textFile "")]
  ++ platformFiles.map fun (path, content) =>
    (home ++ ["platforms", "python"] ++ Path.segments path, content)

def install (home : Place) (tree : Files.Tree Content) : Files.Tree Content :=
  (files home).foldl (fun tree (place, content) => tree.install place (.file content)) tree

/-! Which directories a run takes its platform and its global plugins from. -/

/-- The directory of the platform: the one that is given, or the directory that the platform's name
leads to, or else the bundled platform of that name. -/
def chosenDirectory (home : Place) (w : Workspace) (options : Settings.Options) :
    Except Failure Path := do
  match options.platformDirectory with
  | some directory => return directory
  | none =>
    let candidate := Path.ofString options.platform
    if ← w.isDirectory? candidate then return candidate
    else return platformsRoot home ++ candidate

/-- The directory of the global plugins: the one that is given, or else the bundled one. -/
def chosenGlobals (home : Place) (options : Settings.Options) : Path :=
  options.globalPlugins.getD (globalPlugins home)

def bundledNames (home : Place) (w : Workspace) : List String :=
  let root := home ++ ["platforms"]
  let isPlatform (name : String) : Bool :=
    !Text.hasStart "_" name && !Text.hasStart "." name
      && (w.tree.isDirectory? root (.ofString name) matches .ok true)
  ((w.tree.namesIn root).filter isPlatform).mergeSort (· ≤ ·)

end Codegen.Platform
