import Codegen.Files.Path

/-!
A tree of files as a value: directories, files and symbolic links under their places, a place being
the list of names from the root. A name that is no text, as its bytes are not UTF-8, is written with a
slash before each such byte. Operations report the cause of a failure as the file system would.
-/

namespace Codegen.Files

/-- Why the file system refuses an operation. -/
inductive Refusal
  | notFound
  | exists
  | notDirectory
  | isDirectory
  | tooManyLinks
  | nameTooLong
  | nullCharacter
  | noSpace
  deriving Repr, DecidableEq, Inhabited

/-- What stands at a place; `α` is what a file holds. -/
inductive Entry (α : Type)
  | file (content : α)
  | directory
  | link (target : String)
  deriving Repr, DecidableEq

abbrev Place := List String

/-- The entries of a tree in the order of their creation. The root always is a directory. -/
structure Tree (α : Type) where
  entries : List (Place × Entry α)

namespace Tree

variable {α : Type}

def empty : Tree α := ⟨[]⟩

instance : Inhabited (Tree α) := ⟨empty⟩

/-- What stands at `place`. -/
def get? (tree : Tree α) (place : Place) : Option (Entry α) :=
  if place = [] then some .directory else tree.entries.lookup place

/-- Puts `entry` at `place`, in the room of what stood there. -/
def put (tree : Tree α) (place : Place) (entry : Entry α) : Tree α :=
  if tree.entries.any (·.1 = place) then
    ⟨tree.entries.map fun (p, e) => if p = place then (p, entry) else (p, e)⟩
  else ⟨tree.entries ++ [(place, entry)]⟩

/-- Takes away what stands at `place`. -/
def erase (tree : Tree α) (place : Place) : Tree α :=
  ⟨tree.entries.filter (·.1 ≠ place)⟩

def linkLimit : Nat := 40

def nameLimit : Nat := 255

/-- Where a path leads: to an entry, or to a free name in an existing directory. -/
structure Target (α : Type) where
  place : Place
  found? : Option (Entry α)

/-- One stretch of a walk, from the directory `at_` along `names` up to the first link, behind which
`jump` goes on. The last name is looked through when it is a link and `follow` is set. -/
def walkWith (tree : Tree α) (follow : Bool)
    (jump : Place → List String → Except Refusal (Target α)) (at_ : Place) :
    List String → Except Refusal (Target α)
  | [] => .ok ⟨at_, tree.get? at_⟩
  | name :: rest =>
    if name = ".." then tree.walkWith follow jump at_.dropLast rest
    else if name.utf8ByteSize > nameLimit then .error .nameTooLong
    else
      match tree.get? (at_ ++ [name]) with
      | none => if rest = [] then .ok ⟨at_ ++ [name], none⟩ else .error .notFound
      | some .directory => tree.walkWith follow jump (at_ ++ [name]) rest
      | some (.file content) =>
        if rest = [] then .ok ⟨at_ ++ [name], some (.file content)⟩ else .error .notDirectory
      | some (.link target) =>
        if rest = [] ∧ follow = false then .ok ⟨at_ ++ [name], some (.link target)⟩
        else
          let p := Path.ofString target
          jump (if p.isAbsolute then [] else at_) (p.parts ++ rest)

/-- Walks from the directory `at_` along `names`, through at most `links` links. -/
def walk (tree : Tree α) (follow : Bool) :
    (links : Nat) → (at_ : Place) → (names : List String) → Except Refusal (Target α)
  | 0 => tree.walkWith follow fun _ _ => .error .tooManyLinks
  | links + 1 => tree.walkWith follow (tree.walk follow links)

def hasNull (path : Path) : Bool := path.parts.any (·.toList.contains '\x00')

/-- Finds a path, relative ones from the directory `cwd`. -/
def locate (tree : Tree α) (cwd : Place) (path : Path) (follow : Bool := true) :
    Except Refusal (Target α) :=
  if hasNull path then .error .nullCharacter
  else tree.walk follow linkLimit (if path.isAbsolute then [] else cwd) path.parts

def Refusal.meansAbsent : Refusal → Bool
  | .notFound | .notDirectory | .tooManyLinks | .nullCharacter => true
  | _ => false

/-- The entry that a path leads to, links followed; a path that leads nowhere has none. -/
def stat? (tree : Tree α) (cwd : Place) (path : Path) : Except Refusal (Option (Entry α)) :=
  match tree.locate cwd path with
  | .ok target => .ok target.found?
  | .error cause => if Refusal.meansAbsent cause then .ok none else .error cause

def exists? (tree : Tree α) (cwd : Place) (path : Path) : Except Refusal Bool :=
  (tree.stat? cwd path).map Option.isSome

def isDirectory? (tree : Tree α) (cwd : Place) (path : Path) : Except Refusal Bool :=
  (tree.stat? cwd path).map fun
    | some .directory => true
    | _ => false

def isFile? (tree : Tree α) (cwd : Place) (path : Path) : Except Refusal Bool :=
  (tree.stat? cwd path).map fun
    | some (.file _) => true
    | _ => false

def read (tree : Tree α) (cwd : Place) (path : Path) : Except Refusal α := do
  match (← tree.locate cwd path).found? with
  | some (.file content) => .ok content
  | some _ => .error .isDirectory
  | none => .error .notFound

/-- The place of the file that a write to `path` creates or replaces. -/
def writable (tree : Tree α) (cwd : Place) (path : Path) : Except Refusal Place := do
  let target ← tree.locate cwd path
  match target.found? with
  | some .directory => .error .isDirectory
  | _ => .ok target.place

def write (tree : Tree α) (cwd : Place) (path : Path) (content : α) :
    Except Refusal (Tree α) := do
  let place ← tree.writable cwd path
  .ok (tree.put place (.file content))

def makeDirectory (tree : Tree α) (cwd : Place) (path : Path) : Except Refusal (Tree α) := do
  let target ← tree.locate cwd path false
  match target.found? with
  | some _ => .error .exists
  | none => .ok (tree.put target.place .directory)

/-- Creates a directory; one that is already there is as good. -/
def ensureDirectory (tree : Tree α) (cwd : Place) (path : Path) : Except Refusal (Tree α) :=
  match tree.makeDirectory cwd path with
  | .ok tree => .ok tree
  | .error .notFound => .error .notFound
  | .error cause =>
    match tree.isDirectory? cwd path with
    | .ok true => .ok tree
    | .ok false => .error cause
    | .error other => .error other

/-- Creates the directory `root` with `parts` below it and every missing one on the way; what was
made before a failure stays. -/
def ensureDirectories (tree : Tree α) (cwd : Place) (root : String) (parts : List String) :
    Tree α × Except Refusal Unit :=
  match tree.ensureDirectory cwd ⟨root, parts⟩ with
  | .ok tree => (tree, .ok ())
  | .error .notFound =>
    if parts = [] then (tree, .error .notFound)
    else
      match tree.ensureDirectories cwd root parts.dropLast with
      | (tree, .error cause) => (tree, .error cause)
      | (tree, .ok ()) =>
        match tree.ensureDirectory cwd ⟨root, parts⟩ with
        | .ok tree => (tree, .ok ())
        | .error cause => (tree, .error cause)
  | .error cause => (tree, .error cause)
termination_by parts.length
decreasing_by
  simp only [List.length_dropLast]
  have := List.length_pos_iff.mpr ‹¬parts = []›
  omega

/-- Creates the directories above `path`. -/
def ensureParents (tree : Tree α) (cwd : Place) (path : Path) : Tree α × Except Refusal Unit :=
  tree.ensureDirectories cwd path.parent.root path.parent.parts

def isLink (tree : Tree α) (place : Place) : Bool :=
  match tree.get? place with
  | some (.link _) => true
  | _ => false

/-- Where `names` lead to from `at_` by what they spell alone. -/
def spelled (at_ : Place) (names : List String) : Place :=
  names.foldl (fun place name => if name = ".." then place.dropLast else place ++ [name]) at_

/-- Works out the place that `names` lead to from `at_`, where `jump` works out the target of a link;
missing entries are passed over. Behind a link that cannot be worked out the names are only spelled. -/
def resolveWith (tree : Tree α) (jump : Place → Path → Except Place Place) (at_ : Place) :
    List String → Except Place Place
  | [] => .ok at_
  | name :: rest =>
    if name = ".." then tree.resolveWith jump at_.dropLast rest
    else
      match tree.get? (at_ ++ [name]) with
      | some (.link target) =>
        match jump (at_ ++ [name]) (Path.ofString target) with
        | .ok place => tree.resolveWith jump place rest
        | .error stuck => .error (spelled stuck rest)
      | _ => tree.resolveWith jump (at_ ++ [name]) rest

def startOf (link : Place) (target : Path) : Place := if target.isAbsolute then [] else link.dropLast

/-- Works out the place that `names` lead to from `at_` while the targets of the links in `active` are
being worked out: such a link is circular. No more than `links` further links can be active. -/
def resolveFrom (tree : Tree α) :
    (links : Nat) → (active : List Place) → (at_ : Place) → (names : List String) → Except Place Place
  | 0, _ => tree.resolveWith fun link _ => .error link
  | links + 1, active => tree.resolveWith fun link target =>
    if link ∈ active then .error link
    else tree.resolveFrom links (link :: active) (startOf link target) target.parts

/-- The place that a path names once links and double dots are worked out, however many links there
are. What is spelled behind a circular link has to lead past all links, or else it is the error. -/
def resolve (tree : Tree α) (cwd : Place) (path : Path) : Except Place Place :=
  match tree.resolveFrom tree.entries.length [] (if path.isAbsolute then [] else cwd) path.parts with
  | .ok place => .ok place
  | .error stuck =>
    if (List.range (stuck.length + 1)).any fun n => tree.isLink (stuck.take n) then .error stuck
    else .ok stuck

def resolve? (tree : Tree α) (cwd : Place) (path : Path) : Option Place :=
  (tree.resolve cwd path).toOption

/-- The names in the directory at `place`. -/
def namesIn (tree : Tree α) (place : Place) : List String :=
  tree.entries.filterMap fun (p, _) =>
    if p ≠ [] ∧ p.dropLast = place then p.getLast? else none

def pathOf (place : Place) : Path := ⟨"/", place⟩

/-- A directory at each place above `place`, and `entry` there. -/
def install (tree : Tree α) (place : Place) (entry : Entry α) : Tree α :=
  let above := (List.range place.length).map place.take
  let tree := above.foldl
    (fun t p => if (t.get? p).isSome then t else t.put p .directory) tree
  tree.put place entry

@[simp] theorem get?_nil (tree : Tree α) : tree.get? [] = some .directory := by
  simp [get?]

end Tree

end Codegen.Files
