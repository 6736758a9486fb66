import Codegen.Workspace.Basic

/-!
Files that collect the bodies of many templates. Such a file is emptied when it is first written to
and stays open until all are closed; what it is given goes out in blocks, each behind the one
before.
-/

namespace Codegen.Output

open Codegen.Files

/-- An open file: where the next block goes, the block that is being filled, and the texts that have
not reached it. -/
structure Aggregate where
  place : Place
  position : Nat := 0
  block : ByteArray := .empty
  pending : ByteArray := .empty

instance : Inhabited Aggregate := ⟨⟨[], 0, .empty, .empty⟩⟩

def pendingLimit : Nat := 8192

def blockSize : Nat := 4096

/-- Data with a piece written over it from a position on; a gap in front is filled with zeros. -/
def overlay (data : ByteArray) (position : Nat) (piece : ByteArray) : ByteArray :=
  if piece.isEmpty then data
  else
    let gap : ByteArray := ⟨Array.replicate (position - data.size) 0⟩
    data.extract 0 position ++ gap ++ piece ++ data.extract (position + piece.size) data.size

namespace Aggregate

def emit (w : Workspace) (file : Aggregate) (bytes : ByteArray) : Workspace × Aggregate :=
  match w.tree.get? file.place with
  | some (.file content) =>
    let data := match content with
      | .bytes data => data
      | .plugin _ => .empty
    ({ w with
        tree := w.tree.put file.place (.file (.bytes (overlay data file.position bytes))) },
     { file with position := file.position + bytes.size })
  | _ => (w, { file with position := file.position + bytes.size })

def emitBlock (w : Workspace) (file : Aggregate) : Workspace × Aggregate :=
  emit w { file with block := .empty } file.block

/-- Hands the texts that are pending on to the block; what is larger than a block goes out at
once. -/
def handOn (w : Workspace) (file : Aggregate) : Workspace × Aggregate :=
  let bytes := file.pending
  let file := { file with pending := .empty }
  if bytes.size ≤ blockSize - file.block.size ∧ bytes.size < blockSize then
    (w, { file with block := file.block ++ bytes })
  else
    let (w, file) := file.emitBlock w
    if blockSize < bytes.size then file.emit w bytes else (w, { file with block := bytes })

def add (w : Workspace) (file : Aggregate) (text : String) : Workspace × Aggregate :=
  let bytes := text.toUTF8
  let (w, file) :=
    if !file.pending.isEmpty ∧ pendingLimit < file.pending.size + bytes.size then file.handOn w
    else (w, file)
  let file := { file with pending := file.pending ++ bytes }
  if pendingLimit ≤ file.pending.size then file.handOn w else (w, file)

def close (w : Workspace) (file : Aggregate) : Workspace :=
  let (w, file) := file.handOn w
  (file.emitBlock w).1

end Aggregate

abbrev Aggregates := List Aggregate

namespace Aggregates

def paths (files : Aggregates) : List Path := files.map fun file => Tree.pathOf file.place

def isOpen (w : Workspace) (files : Aggregates) (path : Path) : Except Failure Bool := do
  let place ← w.resolve path
  return files.any (·.place = place)

/-- Adds a text to the file that a path leads to, opening it when it is not open. Answers its
absolute path. -/
def write (w : Workspace) (files : Aggregates) (path : Path) (text : String) :
    Except Failure (Workspace × Aggregates × Path) := do
  let place ← w.resolve path
  let target := Tree.pathOf place
  if files.any (·.place = place) then
    let (w, files) := files.foldl
      (fun (w, done) file =>
        if file.place = place then
          let (w, file) := file.add w text
          (w, done ++ [file])
        else (w, done ++ [file]))
      (w, [])
    return (w, files, target)
  else
    let w ← w.writeText target ""
    let (w, file) := Aggregate.add w { place } text
    return (w, files ++ [file], target)

def closeAll (w : Workspace) (files : Aggregates) : Workspace :=
  files.foldr (fun file w => file.close w) w

end Aggregates

end Codegen.Output
