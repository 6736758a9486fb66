import Codegen.Table
import Codegen.Text.Basic

/-!
Levels of loggers. A logger without a level of its own takes that of the nearest logger above it,
names being parted by dots; the root is above all.
-/

namespace Codegen.Log

def debugLevel : Int := 10

def infoLevel : Int := 20

def warningLevel : Int := 30

def errorLevel : Int := 40

def criticalLevel : Int := 50

def levelNames : List (Int × String) :=
  [(0, "NOTSET"), (debugLevel, "DEBUG"), (infoLevel, "INFO"), (warningLevel, "WARNING"),
   (errorLevel, "ERROR"), (criticalLevel, "CRITICAL")]

def levelName (level : Int) : String := (levelNames.lookup level).getD s!"Level {level}"

structure Levels where
  root : Int := infoLevel
  own : List (String × Int) := []
  deriving Repr, DecidableEq, Inhabited

namespace Levels

def silent : Levels := { root := 2 * criticalLevel }

def rootName : String := "root"

def isRoot (name : String) : Bool := name = "" || name = rootName

def level (levels : Levels) (name : String) : Int :=
  if isRoot name then levels.root else (levels.own.lookup name).getD 0

def setLevel (levels : Levels) (name : String) (level : Int) : Levels :=
  if isRoot name then { levels with root := level }
  else { levels with own := Table.put name level levels.own }

@[simp] theorem level_setLevel (levels : Levels) (name : String) (n : Int) :
    (levels.setLevel name n).level name = n := by
  by_cases h : isRoot name <;> simp [setLevel, level, h]

/-- The places below `limit` among descending ones, no two of them side by side. -/
def spaced : (limit : Nat) → List Nat → List Nat
  | _, [] => []
  | limit, place :: rest =>
    if place < limit then place :: spaced (place - 1) rest else spaced limit rest

/-- The loggers from a name up to below the root. A name is cut at its dots; of two dots side by
side only the last one counts. -/
def chain (name : String) : List String :=
  let text := name.toList
  let dots := (text.zipIdx.filter (·.1 = '.')).map (·.2)
  let cuts := (spaced text.length dots.reverse).filter (0 < ·)
  name :: cuts.map fun cut => String.ofList (text.take cut)

def effective (levels : Levels) (name : String) : Int :=
  if isRoot name then levels.root
  else (((chain name).map levels.level).find? (· ≠ 0)).getD levels.root

def isEnabled (levels : Levels) (name : String) (level : Int) : Bool :=
  0 < level && levels.effective name ≤ level

/-- Gives loggers a level for a time; answers the levels that they had. -/
def suppress (levels : Levels) (names : List String) (level : Int) : List (String × Int) × Levels :=
  (Table.ofPairs (names.map fun name => (name, levels.level name)),
   names.foldl (fun levels name => levels.setLevel name level) levels)

def restore (levels : Levels) (former : List (String × Int)) : Levels :=
  former.foldl (fun levels (name, level) => levels.setLevel name level) levels

end Levels

def generatorLoggers : List String :=
  ["pipeline", "plugins", "renderer", "output", "model", "CONFIG"]

end Codegen.Log
