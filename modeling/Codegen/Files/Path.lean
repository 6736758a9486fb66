import Codegen.Text.Basic

/-!
Paths of files. A path is an optional root and the names below it; empty names and single dots are
left out, double dots are kept.
-/

namespace Codegen.Files

/-- A path without empty and `.` segments. `root` is `""`, `"/"`, or `"//"` for exactly two leading
slashes. -/
structure Path where
  root : String
  parts : List String
  deriving Repr, DecidableEq, Inhabited

namespace Path

def segments (text : String) : List String :=
  (Text.split "/" text).filter fun s => s ≠ "" ∧ s ≠ "."

def ofString (text : String) : Path :=
  let slashes := (text.toList.takeWhile (· = '/')).length
  ⟨if slashes = 0 then "" else if slashes = 2 then "//" else "/", segments text⟩

def toString (p : Path) : String :=
  if p.root = "" ∧ p.parts = [] then "." else p.root ++ Text.join "/" p.parts

instance : ToString Path := ⟨toString⟩

/-- Whether all names are texts. A name that is none has a slash in it. -/
def isText (p : Path) : Bool := p.parts.all fun name => !name.toList.contains '/'

def isAbsolute (p : Path) : Bool := p.root ≠ ""

/-- `q` seen from the directory `p`; an absolute `q` stands for itself. -/
def append (p q : Path) : Path :=
  if q.isAbsolute then q else ⟨p.root, p.parts ++ q.parts⟩

instance : Append Path := ⟨append⟩

def child (p : Path) (text : String) : Path := p ++ ofString text

def parent (p : Path) : Path := ⟨p.root, p.parts.dropLast⟩

/-- The last segment; empty for a bare root and for the empty path. -/
def name (p : Path) : String := p.parts.getLast?.getD ""

def stemOf (name : String) : String :=
  match Text.cutLast? "." name with
  | some (before, after) => if before = "" ∨ after = "" then name else before
  | none => name

def suffixOf (name : String) : String :=
  match Text.cutLast? "." name with
  | some (before, after) => if before = "" ∨ after = "" then "" else "." ++ after
  | none => ""

def stem (p : Path) : String := stemOf p.name

def namesLe : List String → List String → Bool
  | [], _ => true
  | _ :: _, [] => false
  | a :: as, b :: bs => a < b || (a == b && namesLe as bs)

def names (p : Path) : List String := (if p.root = "" then [] else [p.root]) ++ p.parts

def le (p q : Path) : Bool := namesLe p.names q.names

def insertSorted (p : Path) : List Path → List Path
  | [] => [p]
  | q :: rest => if p.le q then p :: q :: rest else q :: insertSorted p rest

def sorted (paths : List Path) : List Path := paths.foldr insertSorted []

@[simp] theorem append_of_isAbsolute (p : Path) {q : Path} (h : q.isAbsolute = true) :
    p ++ q = q := by
  show append p q = q
  simp [append, h]

end Path

end Codegen.Files
