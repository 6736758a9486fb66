import Codegen.CommandLine.Program
import Codegen.Platform.Bundle

/-!
The program on the command line: reads the files of the working directory, runs the command on them,
and writes back the files that the command made or changed.
-/

namespace Codegen.Disk

def home : Files.Place := ["usr", "share", "mdagen"]

partial def readFiles (tree : Files.Tree Content) (entries : Array IO.FS.DirEntry) :
    IO (Files.Tree Content) := do
  let mut tree := tree
  for entry in entries do
    let path := entry.path.toString
    let place := Files.Path.segments path
    match (← entry.path.symlinkMetadata).type with
    | .dir => tree ← readFiles (tree.install place .directory) (← entry.path.readDir)
    | .symlink => tree := tree.install place (.link (← IO.FS.realPath path).toString)
    | .file => tree := tree.install place (.file (.bytes (← IO.FS.readBinFile path)))
    | .other => pure ()
  return tree

def readEnvironment : IO Settings.Environment := do
  let bytes ← IO.FS.readBinFile "/proc/self/environ"
  return (Text.split "\x00" ((String.fromUTF8? bytes).getD "")).filterMap (Text.cut? "=")

def writeEntry (old : Files.Tree Content) (place : Files.Place) (entry : Files.Entry Content) :
    IO Unit :=
  let path := (Files.Tree.pathOf place).toString
  match entry, old.get? place with
  | .directory, none => IO.FS.createDirAll path
  | .file (.bytes data), some (.file (.bytes former)) =>
    if data == former then pure () else IO.FS.writeBinFile path data
  | .file (.bytes data), none => IO.FS.writeBinFile path data
  | _, _ => pure ()

end Codegen.Disk

open Codegen in
def main (words : List String) : IO UInt32 := do
  let directory ← IO.currentDir
  let here := Files.Path.segments directory.toString
  let bundled := (Platform.install Disk.home .empty).install here .directory
  let tree ← Disk.readFiles bundled (← directory.readDir)
  let session : Settings.Session :=
    { workspace := ⟨tree, here⟩, environment := ← Disk.readEnvironment }
  let (ending, session) := CommandLine.run Disk.home words session
  session.workspace.tree.entries.forM fun (place, entry) => Disk.writeEntry tree place entry
  IO.print ending.shown
  IO.eprint ending.complaint
  return ending.status.toUInt32
