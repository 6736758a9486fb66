import Codegen.Template.Document
import Codegen.Template.Filter

/-!
The values of expressions.
-/

namespace Codegen.Template

open Codegen.Model

def Operator.apply (m : Model) : Operator → Value → Value → Except Failure Value
  | add => Value.add m
  | subtract => Value.subtract m
  | multiply => Value.multiply m
  | divide => Value.divide m
  | floorDivide => Value.floorDivide m
  | remainder => Value.remainder m
  | power => Value.power m
  | join => fun a b => do return .text ((← a.written m) ++ (← b.written m))

def Comparison.holds (m : Model) : Comparison → Value → Value → Eval Bool
  | equal, a, b => return a.same b
  | unequal, a, b => return !(a.same b)
  | less, a, b => Value.ordered m .less a b
  | atMost, a, b => Value.ordered m .atMost a b
  | greater, a, b => Value.ordered m .greater a b
  | atLeast, a, b => Value.ordered m .atLeast a b
  | within, a, b => isWithin m a b
  | outside, a, b => do return !(← isWithin m a b)

def noAlternative (template : Option String) (line : Nat) : Missing :=
  let place := template.elim "" fun name => " in " ++ Text.quoted name
  .remark (s!"the inline if-expression on line {line}" ++ place
    ++ " evaluated to false and no else section was defined.")

/-- The mapping of keys to values; a later entry replaces an earlier one of the same key. -/
def mapping (m : Model) (entries : List (Value × Value)) : Except Failure Value :=
  match entries.findSome? fun (key, _) => key.keyObstacle? with
  | some obstacle => .error (.misuse (.key (obstacle.typeLabel m)))
  | none => .ok (.map (entries.foldl (fun table (key, value) => Value.insert key value table) []))

mutual

def Expr.evaluate (scope : Scope) : Expr → Eval Value
  | .constant v => return v
  | .name n => return scope.value n
  | .list items => do return .list (← evaluateItems scope items)
  | .tuple items => do return .tuple (← evaluateItems scope items)
  | .map entries => do mapping scope.model (← evaluateEntries scope entries)
  | .part owner name => do scope.part (← owner.evaluate scope) name
  | .item owner index => do
    let owner ← owner.evaluate scope
    scope.item owner (← index.evaluate scope)
  | .call function positional named => do
    let function ← function.evaluate scope
    let positional ← evaluateItems scope positional
    scope.call function positional (← evaluateNamed scope named)
  | .filter subject name positional named => do
    let subject ← subject.evaluate scope
    let positional ← evaluateItems scope positional
    scope.filtered name subject positional (← evaluateNamed scope named)
  | .test subject name positional named => do
    let subject ← subject.evaluate scope
    let positional ← evaluateItems scope positional
    return .bool (← passes name subject positional (← evaluateNamed scope named))
  | .signed .minus subject => do (← subject.evaluate scope).negate scope.model
  | .signed .plus subject => do (← subject.evaluate scope).affirm scope.model
  | .binary operator left right => do
    let left ← left.evaluate scope
    operator.apply scope.model left (← right.evaluate scope)
  | .compare first rest => do
    return .bool (← evaluateComparisons scope (← first.evaluate scope) rest)
  | .both left right => do
    let left ← left.evaluate scope
    if left.isTrue then right.evaluate scope else return left
  | .either left right => do
    let left ← left.evaluate scope
    if left.isTrue then return left else right.evaluate scope
  | .negation subject => do return .bool !(← subject.evaluate scope).isTrue
  | .choice condition chosen otherwise => do
    if (← condition.evaluate scope).isTrue then chosen.evaluate scope
    else otherwise.evaluate scope
  | .absent line => return .missing (noAlternative scope.template line)

def evaluateItems (scope : Scope) : List Expr → Eval (List Value)
  | [] => return []
  | e :: rest => do
    let v ← e.evaluate scope
    return v :: (← evaluateItems scope rest)

def evaluateEntries (scope : Scope) : List (Expr × Expr) → Eval (List (Value × Value))
  | [] => return []
  | (key, value) :: rest => do
    let key ← key.evaluate scope
    let value ← value.evaluate scope
    return (key, value) :: (← evaluateEntries scope rest)

/-- The values of arguments with names; the last one of a name counts. -/
def evaluateNamed (scope : Scope) : List (String × Expr) → Eval (List (String × Value))
  | [] => return []
  | (name, e) :: rest => do
    let v ← e.evaluate scope
    let later ← evaluateNamed scope rest
    return if later.any (·.1 = name) then later else (name, v) :: later

/-- Whether a chain of comparisons holds; it ends at the first that does not. -/
def evaluateComparisons (scope : Scope) (left : Value) : List (Comparison × Expr) → Eval Bool
  | [] => return true
  | (comparison, right) :: rest => do
    let right ← right.evaluate scope
    if ← comparison.holds scope.model left right then evaluateComparisons scope right rest
    else return false

end

mutual

def Expr.isClosed : Expr → Bool
  | .constant _ | .absent _ => true
  | .name _ | .call .. => false
  | .list items | .tuple items => closedItems items
  | .map entries => closedEntries entries
  | .part owner _ => owner.isClosed
  | .item owner index => owner.isClosed && index.isClosed
  | .filter subject _ positional named | .test subject _ positional named =>
    subject.isClosed && closedItems positional && closedNamed named
  | .signed _ subject | .negation subject => subject.isClosed
  | .binary _ left right | .both left right | .either left right =>
    left.isClosed && right.isClosed
  | .compare first rest => first.isClosed && closedComparisons rest
  | .choice condition chosen otherwise =>
    condition.isClosed && chosen.isClosed && otherwise.isClosed

def closedItems : List Expr → Bool
  | [] => true
  | e :: rest => e.isClosed && closedItems rest

def closedEntries : List (Expr × Expr) → Bool
  | [] => true
  | (key, value) :: rest => key.isClosed && value.isClosed && closedEntries rest

def closedNamed : List (String × Expr) → Bool
  | [] => true
  | (_, e) :: rest => e.isClosed && closedNamed rest

def closedComparisons : List (Comparison × Expr) → Bool
  | [] => true
  | (_, e) :: rest => e.isClosed && closedComparisons rest

end

def Expr.constant? (scope : Scope) (e : Expr) : Option Expr :=
  if e.isClosed then
    match (e.evaluate scope).run [] with
    | .ok (v, _) => if v.isPlain then some (.constant v) else none
    | .error _ => none
  else none

mutual

def Expr.fold (scope : Scope) (e : Expr) : Expr :=
  match e.constant? scope with
  | some constant => constant
  | none =>
    match e with
    | .constant v => .constant v
    | .name n => .name n
    | .list items => .list (foldItems scope items)
    | .tuple items => .tuple (foldItems scope items)
    | .map entries => .map (foldEntries scope entries)
    | .part owner name => .part (owner.fold scope) name
    | .item owner index => .item (owner.fold scope) (index.fold scope)
    | .call function positional named =>
      .call (function.fold scope) (foldItems scope positional) (foldNamed scope named)
    | .filter subject name positional named =>
      .filter (subject.fold scope) name (foldItems scope positional) (foldNamed scope named)
    | .test subject name positional named =>
      .test (subject.fold scope) name (foldItems scope positional) (foldNamed scope named)
    | .signed sign subject => .signed sign (subject.fold scope)
    | .negation subject => .negation (subject.fold scope)
    | .binary operator left right => .binary operator (left.fold scope) (right.fold scope)
    | .both left right => .both (left.fold scope) (right.fold scope)
    | .either left right => .either (left.fold scope) (right.fold scope)
    | .compare first rest => .compare (first.fold scope) (foldComparisons scope rest)
    | .choice condition chosen otherwise =>
      .choice (condition.fold scope) (chosen.fold scope) (otherwise.fold scope)
    | .absent line => .absent line

def foldItems (scope : Scope) : List Expr → List Expr
  | [] => []
  | e :: rest => e.fold scope :: foldItems scope rest

def foldEntries (scope : Scope) : List (Expr × Expr) → List (Expr × Expr)
  | [] => []
  | (key, value) :: rest => (key.fold scope, value.fold scope) :: foldEntries scope rest

def foldNamed (scope : Scope) : List (String × Expr) → List (String × Expr)
  | [] => []
  | (name, e) :: rest => (name, e.fold scope) :: foldNamed scope rest

def foldComparisons (scope : Scope) : List (Comparison × Expr) → List (Comparison × Expr)
  | [] => []
  | (comparison, e) :: rest => (comparison, e.fold scope) :: foldComparisons scope rest

end

mutual

/-- The first filter or test in an expression that is not known. What a choice holds is looked up
only when it is reached. -/
def Expr.unknown? (scope : Scope) : Expr → Option String
  | .constant _ | .name _ | .choice .. | .absent _ => none
  | .list items | .tuple items => unknownInList? scope items
  | .map entries => unknownInMap? scope entries
  | .part owner _ => owner.unknown? scope
  | .item owner index => (owner.unknown? scope).or (index.unknown? scope)
  | .call function positional named =>
    (function.unknown? scope).or
      ((unknownInList? scope positional).or (unknownInNamed? scope named))
  | .filter subject name positional named =>
    if scope.knowsFilter name then
      (subject.unknown? scope).or
        ((unknownInList? scope positional).or (unknownInNamed? scope named))
    else some name
  | .test subject name positional named =>
    if knowsTest name then
      (subject.unknown? scope).or
        ((unknownInList? scope positional).or (unknownInNamed? scope named))
    else some name
  | .signed _ subject | .negation subject => subject.unknown? scope
  | .binary _ left right | .both left right | .either left right =>
    (left.unknown? scope).or (right.unknown? scope)
  | .compare first rest => (first.unknown? scope).or (unknownInChain? scope rest)

def unknownInList? (scope : Scope) : List Expr → Option String
  | [] => none
  | e :: rest => (e.unknown? scope).or (unknownInList? scope rest)

def unknownInMap? (scope : Scope) : List (Expr × Expr) → Option String
  | [] => none
  | (key, value) :: rest =>
    (key.unknown? scope).or ((value.unknown? scope).or (unknownInMap? scope rest))

def unknownInNamed? (scope : Scope) : List (String × Expr) → Option String
  | [] => none
  | (_, e) :: rest => (e.unknown? scope).or (unknownInNamed? scope rest)

def unknownInChain? (scope : Scope) : List (Comparison × Expr) → Option String
  | [] => none
  | (_, e) :: rest => (e.unknown? scope).or (unknownInChain? scope rest)

end

end Codegen.Template
