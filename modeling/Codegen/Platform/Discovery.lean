import Codegen.Json.Reader
import Codegen.Log.Component
import Codegen.Workspace.Basic

/-!
Finding the files of a platform. Each stereotype has a directory of its own; an alias file in it
sends the search to another directory of the platform.
-/

namespace Codegen.Platform

open Codegen.Files

def aliasFile : String := "alias.json"

def readAlias (l : Lookup Failure) (file : Path) : Except Failure String := do
  match Json.read (← l.readText file) with
  | .error cause => throw (.unreadable cause)
  | .ok (.text directory) => return directory
  | .ok v => throw (.aliasNotText file.toString (v.typeName {}))

/-- The directory of a stereotype below `base`, or `base` itself. -/
def ownDirectory (base : Path) (stereotype : Option String) : Path :=
  stereotype.elim base base.child

/-- The directory below `platform` that an alias in the directory of a stereotype names, if there is an
alias. -/
def redirection? (l : Lookup Failure) (platform base : Path) (stereotype : Option String) :
    Except Failure (Option Path) := do
  let file := (ownDirectory base stereotype).child aliasFile
  if ← l.isFile? file then return some (platform.child (← readAlias l file)) else return none

def redirectionMessage (stereotype : Option String) (place : Path) : String :=
  let name := stereotype.getD "None"
  s!"Using alias directory {place} for stereotype {name}"

/-- The directory that is searched for a stereotype below `base`, or `base` itself. What the log is told
about an alias is left out. -/
def directory (l : Lookup Failure) (platform base : Path) (stereotype : Option String) :
    Except Failure Path := do
  return (← redirection? l platform base stereotype).getD (ownDirectory base stereotype)

/-- The directory that is searched for a stereotype, once the log has been told of an alias. -/
def searched (l : Lookup Failure) (levels : Log.Levels) (platform base : Path)
    (stereotype : Option String) : Except Failure Path := do
  match ← redirection? l platform base stereotype with
  | none => return ownDirectory base stereotype
  | some place =>
    Log.pluginsLogger.say levels .debug (redirectionMessage stereotype place)
    return place

def patternFor (extension : String) : String :=
  if Text.hasStart "*" extension then extension else "*" ++ extension

/-- The files of a directory with an extension, sorted by path. -/
def filesIn (l : Lookup Failure) (place : Path) (extension : String) : Except Failure (List Path) := do
  if ← l.isDirectory? place then
    match SearchStep.ofPattern (patternFor extension) with
    | .error .doubleStarInName => throw .badPattern
    | .ok steps => return Path.sorted (← (l.select place steps).filterM l.isFile?)
  else return []

/-- The files with an extension for a stereotype, sorted by path, as `resolve` finds them when the log
takes what it is told. -/
def filesFor (l : Lookup Failure) (platform base : Path) (stereotype : Option String)
    (extension : String) : Except Failure (List Path) := do
  filesIn l (← directory l platform base stereotype) extension

def resolve (l : Lookup Failure) (levels : Log.Levels) (platform base : Path)
    (stereotype : Option String) (extension : String) : Except Failure (List Path) := do
  filesIn l (← searched l levels platform base stereotype) extension

end Codegen.Platform
