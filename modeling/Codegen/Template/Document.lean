import Codegen.Template.Expression

/-!
Templates as trees: text, printed expressions, branches, loops, assignments and inclusions.
-/

namespace Codegen.Template

/-- What a loop or an assignment binds: a name, or targets that share out the items of the value. -/
inductive Target
  | one (name : String)
  | several (targets : List Target)

inductive Node
  | text (s : String)
  | print (e : Expr)
  | branch (condition : Expr) (body otherwise : List Node)
  | loop (target : Target) (source : Expr) (condition : Option Expr) (body otherwise : List Node)
  | set (target : Target) (value : Expr)
  | inclusion (source : Expr) (ignoresMissing sharesScope : Bool)

instance : Inhabited Node := ⟨.text ""⟩

mutual

def Expr.target? : Expr → Option Target
  | .name n => some (.one n)
  | .tuple items => (targets? items).map .several
  | _ => none

def targets? : List Expr → Option (List Target)
  | [] => some []
  | e :: rest => do return (← e.target?) :: (← targets? rest)

end

def targetItems : (fuel : Nat) → Parse (List Expr × Bool)
  | 0 => malformed
  | fuel + 1 => do
    if ← ahead Token.endsTuple then return ([], false)
    else
      let first ← primary fuel
      if ← skipSign "," then return (first :: (← targetItems fuel).1, true)
      else return ([first], false)

def readTarget : Parse Target := do
  let (items, isTuple) ← targetItems (budget (← get))
  let target? := match items, isTuple with
    | [item], false => item.target?
    | [], _ => none
    | items, _ => (targets? items).map .several
  match target? with
  | some target => return target
  | none => malformed

def Token.isTagEnd : Token → Bool
  | tagEnd => true
  | _ => false

def Token.isPrintEnd : Token → Bool
  | printEnd => true
  | _ => false

mutual

/-- Nodes up to a tag whose word is one of `ends`, which is left ahead, or up to the end. -/
def nodes : (fuel : Nat) → (ends : List String) → Parse (List Node)
  | 0, _ => malformed
  | fuel + 1, ends => do
    match ← get with
    | [] => return []
    | .data s :: rest =>
      set rest
      return .text s :: (← nodes fuel ends)
    | .printBegin :: rest =>
      set rest
      let e ← readTuple true Token.endsTuple
      expect Token.isPrintEnd
      return .print e :: (← nodes fuel ends)
    | .tagBegin :: .name word :: rest =>
      if word ∈ ends then
        set (Token.name word :: rest)
        return []
      else
        set rest
        let node ← statement fuel word
        expect Token.isTagEnd
        return node :: (← nodes fuel ends)
    | _ => malformed

def body : (fuel : Nat) → (ends : List String) → Parse (List Node × String)
  | 0, _ => malformed
  | fuel + 1, ends => do
    let _ ← skipSign ":"
    expect Token.isTagEnd
    let inside ← nodes fuel ends
    return (inside, ← expectName)

def branches : (fuel : Nat) → Parse Node
  | 0 => malformed
  | fuel + 1 => do
    let condition ← readTuple false Token.endsTuple
    let (inside, word) ← body fuel ["elif", "else", "endif"]
    match word with
    | "elif" => return .branch condition inside [← branches fuel]
    | "else" => return .branch condition inside (← body fuel ["endif"]).1
    | _ => return .branch condition inside []

def statement : (fuel : Nat) → (word : String) → Parse Node
  | 0, _ => malformed
  | fuel + 1, word => do
    match word with
    | "if" => branches fuel
    | "for" =>
      let target ← readTarget
      expect (Token.isWord "in")
      let source ← readTuple false Token.endsTuple
      let condition ← if ← skipWord "if" then some <$> readExpression else pure none
      let (inside, word) ← body fuel ["endfor", "else"]
      let otherwise ← if word = "else" then (·.1) <$> body fuel ["endfor"] else pure []
      return .loop target source condition inside otherwise
    | "set" =>
      let target ← readTarget
      expect (Token.isSign "=")
      return .set target (← readTuple true Token.endsTuple)
    | "include" =>
      let source ← readExpression
      let ignoresMissing ← skipWords "ignore" "missing"
      let shares ← skipWords "with" "context"
      let isolates ← if shares then pure false else skipWords "without" "context"
      return .inclusion source ignoresMissing !isolates
    | _ => malformed

end

def parse (source : String) : Except Failure (List Node) := do
  let placed ← tokens source
  let tokens := placed.map (·.token)
  let breaks := (Text.unifyLines source).toList.count '\n'
  let (document, rest) ← ((nodes (budget tokens) []).run ⟨placed, breaks⟩).run tokens
  if rest.isEmpty then return document else throw .templateMalformed

mutual

def Expr.holds (test : Expr → Bool) : Expr → Bool
  | .constant v => test (.constant v)
  | .name n => test (.name n)
  | .absent _ => false
  | .list items | .tuple items => itemsHold test items
  | .map entries => entriesHold test entries
  | .part owner _ => owner.holds test
  | .item owner index => owner.holds test || index.holds test
  | .call function positional named =>
    test (.call function positional named) || function.holds test || itemsHold test positional
      || namedHold test named
  | .filter subject name positional named =>
    test (.filter subject name positional named) || subject.holds test || itemsHold test positional
      || namedHold test named
  | .test subject name positional named =>
    test (.test subject name positional named) || subject.holds test || itemsHold test positional
      || namedHold test named
  | .signed _ subject | .negation subject => subject.holds test
  | .binary _ left right | .both left right | .either left right =>
    left.holds test || right.holds test
  | .compare first rest => first.holds test || comparisonsHold test rest
  | .choice condition chosen otherwise =>
    condition.holds test || chosen.holds test || otherwise.holds test

def itemsHold (test : Expr → Bool) : List Expr → Bool
  | [] => false
  | e :: rest => e.holds test || itemsHold test rest

def entriesHold (test : Expr → Bool) : List (Expr × Expr) → Bool
  | [] => false
  | (key, value) :: rest => key.holds test || value.holds test || entriesHold test rest

def namedHold (test : Expr → Bool) : List (String × Expr) → Bool
  | [] => false
  | (_, e) :: rest => e.holds test || namedHold test rest

def comparisonsHold (test : Expr → Bool) : List (Comparison × Expr) → Bool
  | [] => false
  | (_, e) :: rest => e.holds test || comparisonsHold test rest

end

mutual

def Target.binds (word : String) : Target → Bool
  | .one name => name = word
  | .several targets => targetsBind word targets

def targetsBind (word : String) : List Target → Bool
  | [] => false
  | target :: rest => target.binds word || targetsBind word rest

end

mutual

def Node.binds (word : String) : Node → Bool
  | .text _ | .print _ | .inclusion .. => false
  | .set target _ => target.binds word
  | .branch _ body otherwise => nodesBind word body || nodesBind word otherwise
  | .loop target _ _ body otherwise =>
    target.binds word || nodesBind word body || nodesBind word otherwise

def nodesBind (word : String) : List Node → Bool
  | [] => false
  | node :: rest => node.binds word || nodesBind word rest

end

mutual

def Node.holds (test : Expr → Bool) : Node → Bool
  | .text _ => false
  | .print e | .set _ e | .inclusion e _ _ => e.holds test
  | .branch condition body otherwise =>
    condition.holds test || nodesHold test body || nodesHold test otherwise
  | .loop _ source condition body otherwise =>
    source.holds test || condition.any (·.holds test) || nodesHold test body
      || nodesHold test otherwise

def nodesHold (test : Expr → Bool) : List Node → Bool
  | [] => false
  | node :: rest => node.holds test || nodesHold test rest

end

def Expr.isNamed (word : String) : Expr → Bool
  | .name n => n = word
  | _ => false

end Codegen.Template
