import Codegen.Log.Component
import Codegen.Model.Basic
import Codegen.Text.Identifier

/-!
The rules that a model has to keep before code is generated from it: names that are identifiers, and
names that tell classes, stereotypes and attributes apart.
-/

namespace Codegen.Model

def tally (items : List String) : List (String × Nat) :=
  items.eraseDups.map fun item => (item, items.count item)

inductive Problem
  | repeatedClass (path : String) (times : Nat)
  | badClassName (name : String)
  | badPackageSegment (segment className : String)
  | emptyStereotype (path : String)
  | repeatedStereotype (path name : String) (times : Nat)
  | badAttributeName (name path : String)
  | repeatedAttribute (name path : String) (times : Nat)
  deriving Repr, DecidableEq

def Problem.message : Problem → String
  | repeatedClass path times => s!"Class '{path}' is defined {times} times"
  | badClassName name => s!"Class name '{name}' is not a valid identifier"
  | badPackageSegment segment className =>
    s!"Package segment '{segment}' of class '{className}' is not a valid identifier"
  | emptyStereotype path => s!"Class '{path}' has an empty stereotype"
  | repeatedStereotype path name times =>
    s!"Class '{path}' carries stereotype '{name}' {times} times"
  | badAttributeName name path =>
    s!"Attribute '{name}' of class '{path}' is not a valid identifier"
  | repeatedAttribute name path times =>
    s!"Attribute '{name}' is defined {times} times in class '{path}'"

namespace Class

def nameProblems (c : Class) : List Problem :=
  if Text.isIdentifier c.name then [] else [.badClassName c.name]

def packageProblems (c : Class) : List Problem :=
  (c.package.filter (!Text.isIdentifier ·)).map (.badPackageSegment · c.name)

def stereotypeProblems (c : Class) : List Problem :=
  (tally c.stereotypeNames).filterMap fun (name, times) =>
    if Text.isBlankText name then some (.emptyStereotype c.qualifiedName)
    else if times > 1 then some (.repeatedStereotype c.qualifiedName name times)
    else none

def attributeProblems (c : Class) : List Problem :=
  let names := c.attributes.map Attribute.name
  (names.filter (!Text.isIdentifier ·)).map (.badAttributeName · c.qualifiedName)
    ++ (tally names).filterMap fun (name, times) =>
      if times > 1 then some (.repeatedAttribute name c.qualifiedName times) else none

def problems (c : Class) : List Problem :=
  c.nameProblems ++ c.packageProblems ++ c.stereotypeProblems ++ c.attributeProblems

end Class

def repeatedClasses (m : Model) : List Problem :=
  (tally (m.classes.map Class.qualifiedName)).filterMap fun (path, times) =>
    if times > 1 then some (.repeatedClass path times) else none

def problems (m : Model) : List Problem := m.repeatedClasses ++ m.classes.flatMap Class.problems

def idleClasses (m : Model) : List String :=
  (m.classes.filter (·.stereotypes.isEmpty)).map Class.qualifiedName

def validate (levels : Log.Levels) (m : Model) : Except Failure Unit := do
  if m.problems ≠ [] then
    m.problems.forM fun problem => Log.modelLogger.say levels .error problem.message
    throw (.generation (.invalidModel m.name (m.problems.map Problem.message)))
  else if m.idleClasses ≠ [] then
    Log.modelLogger.say levels .debug
      ("Classes without stereotypes are not generated: " ++ Text.join ", " m.idleClasses)

end Codegen.Model
