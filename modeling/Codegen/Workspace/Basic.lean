import Codegen.Files.Search
import Codegen.Plugin.Basic

/-!
The files that a program works on: a tree whose files hold bytes or plugins, and the directory that
relative paths start from.
-/

namespace Codegen

/-- What a file holds. -/
inductive Content
  | bytes (data : ByteArray)
  | plugin (p : Plugin)

instance : Inhabited Content := ⟨.bytes .empty⟩

structure Workspace where
  tree : Files.Tree Content
  directory : Files.Place

instance : Inhabited Workspace := ⟨⟨.empty, []⟩⟩

namespace Workspace

open Codegen.Files

def install (w : Workspace) (path : Path) (entry : Entry Content) : Workspace :=
  let place := match w.tree.locate w.directory path with
    | .ok target => target.place
    | .error _ => (if path.isAbsolute then [] else w.directory) ++ path.parts
  { w with tree := w.tree.install place entry }

def lift {α : Type} (path : Path) : Except Refusal α → Except Failure α
  | .ok x => .ok x
  | .error cause => .error (.files cause path.toString)

def exists? (w : Workspace) (path : Path) : Except Failure Bool :=
  lift path (w.tree.exists? w.directory path)

def isDirectory? (w : Workspace) (path : Path) : Except Failure Bool :=
  lift path (w.tree.isDirectory? w.directory path)

def isFile? (w : Workspace) (path : Path) : Except Failure Bool :=
  lift path (w.tree.isFile? w.directory path)

/-- The bytes of a file; a plugin has none that matter. -/
def readBytes (w : Workspace) (path : Path) : Except Failure ByteArray := do
  match ← lift path (w.tree.read w.directory path) with
  | .bytes data => .ok data
  | .plugin _ => .ok .empty

/-- The text of a file, every line end being a line feed. -/
def readText (w : Workspace) (path : Path) : Except Failure String := do
  match String.fromUTF8? (← w.readBytes path) with
  | some text => .ok (Text.unifyLines text)
  | none => .error (.unreadable .encoding)

/-- What a search learns about the files. -/
def lookup (w : Workspace) : Lookup Failure where
  exists? := w.exists?
  isFile? := w.isFile?
  isDirectory? := w.isDirectory?
  isOwnDirectory path := w.tree.locate w.directory path false matches .ok ⟨_, some .directory⟩
  names? path := some (w.tree.namesOf w.directory path)
  readText := w.readText
  depth := w.tree.entries.length

instance : Coe Workspace (Lookup Failure) := ⟨lookup⟩

/-- The plugin that a file holds; a blank file is one that defines nothing. -/
def readPlugin (w : Workspace) (path : Path) : Except Failure Plugin := do
  match ← lift path (w.tree.read w.directory path) with
  | .plugin p => .ok p
  | .bytes data =>
    match String.fromUTF8? data with
    | some text =>
      if Text.isBlankText text then .ok .empty
      else .error (.fault { kind := "SyntaxError", message := "invalid syntax" })
    | none => .error (.fault { kind := "SyntaxError", message := "invalid encoding" })

/-- The place that a path names, links and double dots worked out. -/
def resolve (w : Workspace) (path : Path) : Except Failure Place :=
  if Tree.hasNull path then .error (.files .nullCharacter path.toString)
  else
    match w.tree.resolve w.directory path with
    | .ok place => .ok place
    | .error stuck => .error (.linksCircular (Tree.pathOf stuck).toString)

def resolvePath (w : Workspace) (path : Path) : Except Failure Path :=
  (w.resolve path).map Tree.pathOf

def absolute (w : Workspace) (path : Path) : Path := Tree.pathOf w.directory ++ path

def writeText (w : Workspace) (path : Path) (text : String) : Except Failure Workspace :=
  (lift path (w.tree.write w.directory path (.bytes text.toUTF8))).map fun tree =>
    { w with tree }

def remove (w : Workspace) (path : Path) : Except Failure Workspace :=
  lift path do
    let target ← w.tree.locate w.directory path false
    match target.found? with
    | none => .error .notFound
    | some .directory => .error .isDirectory
    | some _ => .ok { w with tree := w.tree.erase target.place }

def enter (w : Workspace) (path : Path) : Except Failure Workspace :=
  lift path do
    let target ← w.tree.locate w.directory path
    match target.found? with
    | none => .error .notFound
    | some .directory => .ok { w with directory := target.place }
    | some _ => .error .notDirectory

/-- Creates the directories above a path. What was made before a failure stays. -/
def ensureParents (w : Workspace) (path : Path) : Workspace × Except Failure Unit :=
  let (tree, outcome) := w.tree.ensureParents w.directory path
  ({ w with tree }, lift path.parent outcome)

end Workspace

end Codegen
