import Codegen.Log.Level

/-!
Code with blocks in which loggers have another level for a time. A block gives its loggers the new
level when it is entered; when it is left, by an exception or not, they get back the levels that they
had.
-/

namespace Codegen.Log

namespace Levels

/-- Whether two names are those of one logger: the root has more than one. -/
def areOne (name other : String) : Bool := name = other || isRoot name && isRoot other

def isNamed (names : List String) (name : String) : Bool := names.any fun other => areOne other name

end Levels

/-- What code does to the levels of loggers. It may go by the levels that it finds. What comes of the
body of a block, an exception included, is known behind the block, where it may be caught. -/
inductive Code (E : Type)
  | finish (outcome : Except E Unit)
  | setLevel (name : String) (level : Int) (next : Code E)
  | look (next : Levels → Code E)
  | block (names : List String) (level : Int) (body : Code E) (next : Except E Unit → Code E)

def Code.quiet {E : Type} (names : List String) (body : Code E) (next : Except E Unit → Code E) :
    Code E :=
  .block names warningLevel body next

/-- A block that code went through: the loggers that it names and their level in it, the loggers whose
level was set meanwhile, and the levels before it, at both ends of its body, and after it. -/
structure Passage where
  names : List String
  level : Int
  settings : List String
  before : Levels
  entered : Levels
  ended : Levels
  after : Levels

/-- What code came to, the loggers whose level it set, and the blocks that it went through, in the order
in which they were left. -/
structure Trail (E : Type) where
  outcome : Except E Unit
  levels : Levels
  settings : List String := []
  passages : List Passage := []

namespace Code

def run {E : Type} : Code E → Levels → Trail E
  | finish outcome, levels => { outcome, levels }
  | setLevel name level next, levels =>
    let rest := next.run (levels.setLevel name level)
    { rest with settings := name :: rest.settings }
  | look next, levels => (next levels).run levels
  | block names level body next, levels =>
    let (former, entered) := levels.suppress names level
    let inside := body.run entered
    let after := inside.levels.restore former
    let passage : Passage :=
      { names, level, settings := inside.settings, before := levels, entered
        ended := inside.levels, after }
    let rest := (next inside.outcome).run after
    { rest with
      settings := inside.settings ++ rest.settings
      passages := inside.passages ++ passage :: rest.passages }

end Code

end Codegen.Log
