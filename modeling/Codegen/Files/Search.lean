import Codegen.Files.Pattern
import Codegen.Files.Tree

/-!
Searching a directory by a pattern whose segments are separated by slashes. A segment `**` stands
for any chain of directories.
-/

namespace Codegen.Files

inductive SearchStep
  | named (name : String)
  | matching (pattern : NamePattern)
  | parent
  | anyDepth
  | directoryItself
  deriving Repr, DecidableEq

inductive BadPattern
  | doubleStarInName
  deriving Repr, DecidableEq

namespace SearchStep

def ofSegment (segment : String) : Except BadPattern SearchStep :=
  if segment = "**" then .ok .anyDepth
  else if segment = ".." then .ok .parent
  else if Text.contains "**" segment then .error .doubleStarInName
  else if NamePattern.isPattern segment then .ok (.matching (.ofString segment))
  else .ok (.named segment)

/-- The steps of a pattern; one that ends with a slash finds directories only. -/
def ofPattern (pattern : String) : Except BadPattern (List SearchStep) := do
  let steps ← (Path.segments pattern).mapM ofSegment
  .ok (if Text.hasEnd "/" pattern then steps ++ [.directoryItself] else steps)

end SearchStep

/-- What a search asks the file system, which may refuse to answer. -/
structure Lookup (ε : Type) where
  exists? : Path → Except ε Bool
  isFile? : Path → Except ε Bool
  isDirectory? : Path → Except ε Bool
  /-- Whether a directory stands at the path itself and not only where a link there leads. -/
  isOwnDirectory : Path → Bool
  /-- The names inside a directory; none when they may not be listed. -/
  names? : Path → Option (List String)
  readText : Path → Except ε String
  /-- How many directories lie inside one another at most. -/
  depth : Nat

namespace Lookup

variable {ε : Type}

def isDirectoryAt (l : Lookup ε) (path : Path) : Bool := l.isDirectory? path matches .ok true

def namesOf (l : Lookup ε) (path : Path) : List String := (l.names? path).getD []

/-- The directories at and below `path`, links not followed. -/
def directoriesBelow (l : Lookup ε) (path : Path) : (depth : Nat) → List Path
  | 0 => [path]
  | depth + 1 =>
    path :: (l.namesOf path).flatMap fun name =>
      let inner : Path := ⟨path.root, path.parts ++ [name]⟩
      if l.isOwnDirectory inner then l.directoriesBelow inner depth else []

/-- What `steps` find from `path` on. -/
def select (l : Lookup ε) (path : Path) : List SearchStep → List Path
  | [] => [path]
  | step :: steps =>
    let inner (name : String) : Path := ⟨path.root, path.parts ++ [name]⟩
    match step with
    | .directoryItself => [path]
    | .parent => l.select (inner "..") steps
    | .named name =>
      let next := inner name
      let present :=
        if steps.isEmpty then (l.exists? next matches .ok true) else l.isDirectoryAt next
      if present then l.select next steps else []
    | .matching pattern =>
      ((l.namesOf path).filter fun name =>
          pattern.fits name && (steps.isEmpty || l.isDirectoryAt (inner name))).flatMap
        fun name => l.select (inner name) steps
    | .anyDepth =>
      ((l.directoriesBelow path l.depth).flatMap fun directory => l.select directory steps).eraseDups

end Lookup

namespace Tree

variable {α : Type}

/-- The names inside the directory that `path` leads to. -/
def namesOf (tree : Tree α) (cwd : Place) (path : Path) : List String :=
  match tree.locate cwd path with
  | .ok ⟨place, some .directory⟩ => tree.namesIn place
  | _ => []

end Tree

end Codegen.Files
