import Codegen.Template.Evaluation

/-!
The text that a template makes. Assignments last to the end of the template, those inside a loop to
the end of the round.
-/

namespace Codegen.Template

open Codegen.Model

/-- How an included template of a name is rendered in a scope; nothing when there is none. -/
abbrev Inclusion := Scope → String → Eval (Option String)

def escapeMarkup (text : String) : String :=
  let escape (c : Char) : List Char :=
    match c with
    | '&' => "&amp;".toList
    | '<' => "&lt;".toList
    | '>' => "&gt;".toList
    | '"' => "&#34;".toList
    | '\'' => "&#39;".toList
    | c => [c]
  String.ofList (text.toList.flatMap escape)

def sharedOut (m : Model) (count : Nat) (v : Value) : Eval (List Value) := do
  let items ←
    match v with
    | .stream _ number => do
      let items ← Streams.left number
      Streams.leave number (items.drop (count + 1))
      pure items
    | v =>
      match v.items m with
      | .ok items => pure items
      | .error _ => throw (.misuse (.unpacking (v.typeLabel m)))
  if items.length < count then throw (.misuse (.tooFewItems count items.length))
  if count < items.length then throw (.misuse (.tooManyItems count))
  return items

mutual

def Target.bind (scope : Scope) (v : Value) : Target → Eval Scope
  | .one name => return scope.bind name v
  | .several targets => do
    bindEach scope (← sharedOut scope.model targets.length v) targets

def bindEach (scope : Scope) (items : List Value) : List Target → Eval Scope
  | [] => return scope
  | target :: rest => do
    bindEach (← target.bind scope (items.headD .null)) (items.drop 1) rest

end

def roundsName : String := "loop"

/-- What a loop tells about the round at position `i`. -/
def loopRecord (items : List Value) (i : Nat) : Value :=
  let n := items.length
  .record .loop
    [("index", .int (i + 1)), ("index0", .int i), ("revindex", .int (n - i : Nat)),
     ("revindex0", .int (n - i - 1 : Nat)), ("first", .bool (i = 0)), ("last", .bool (i + 1 = n)),
     ("length", .int n), ("depth", .int 1), ("depth0", .int 0),
     ("previtem",
       if i = 0 then .missing (.remark "there is no previous item")
       else items.getD (i - 1) .null),
     ("nextitem", items.getD (i + 1) (.missing (.remark "there is no next item")))]

def admitted (scope : Scope) (target : Target) (condition : Option Expr) (items : List Value) :
    Eval (List Value) :=
  match condition with
  | none => return items
  | some condition =>
    items.filterM fun item => do
      return (← condition.evaluate (← target.bind scope item)).isTrue

/-- Does a round for each item that a stream still has when its turn comes; there are at most as
many as now. -/
def streamRounds (number : Nat) (round : Value → Eval String) : (count : Nat) → Eval (List String)
  | 0 => return []
  | count + 1 => do
    match ← Streams.next? number with
    | none => return []
    | some item =>
      let text ← round item
      return text :: (← streamRounds number round count)

def firstIncluded? (include? : Inclusion) (scope : Scope) : List Value → Eval (Option String)
  | [] => return none
  | .text name :: rest => do
    match ← include? scope name with
    | some text => return some text
    | none => firstIncluded? include? scope rest
  | v :: rest =>
    match v.keyObstacle? with
    | some obstacle => throw (.misuse (.key (obstacle.typeLabel scope.model)))
    | none => firstIncluded? include? scope rest

def noneIncluded (m : Model) (source : Value) (names : List Value) : Failure :=
  let shown : Value → String
    | .missing what => what.message
    | v => v.display m
  match source with
  | .map entries =>
    if (Value.lookup? (.int (-1)) entries).isSome then .templatesNotFound (names.map shown)
    else .misuse (.entry "-1")
  | .set _ | .record .. | .stream .. => .misuse (.subscript (source.typeLabel m))
  | _ => .templatesNotFound (names.map shown)

/-- The text of an inclusion: of a template by its name, or of the first that there is of
several. -/
def included (include? : Inclusion) (scope : Scope) (ignoresMissing sharesScope : Bool)
    (source : Value) : Eval String := do
  let inside := if sharesScope then scope else { scope with bindings := [] }
  let foundOr (isFound : Option String) (failure : Failure) : Eval String :=
    match isFound with
    | some text => return text
    | none =>
      match ignoresMissing, failure with
      | true, .templateNotFound _ | true, .templatesNotFound _ => return ""
      | _, failure => throw failure
  match source with
  | .text name => foundOr (← include? inside name) (.templateNotFound name)
  | .missing what => throw (.undefined what)
  | v =>
    if v.isTrue then
      let names ← itemsOf scope.model v
      foundOr (← firstIncluded? include? inside names) (noneIncluded scope.model v names)
    else foundOr none (.templatesNotFound [])

mutual

def Node.render (include? : Inclusion) (escapes : Bool) (scope : Scope) :
    Node → Eval (String × Scope)
  | .text s => return (s, scope)
  | .print e => do
    let text ← (← e.evaluate scope).written scope.model
    return (if escapes then escapeMarkup text else text, scope)
  | .branch condition body otherwise => do
    if (← condition.evaluate scope).isTrue then renderNodes include? escapes scope body
    else renderNodes include? escapes scope otherwise
  | .loop target source condition body otherwise => do
    let told := nodesHold (Expr.isNamed roundsName) body
    let v ← source.evaluate scope
    let rounds ←
      match v, condition, told with
      | .stream _ number, none, false => do
        let round (item : Value) : Eval String := do
          return (← renderNodes include? escapes (← target.bind scope item) body).1
        streamRounds number round (← Streams.left number).length
      | v, condition, told => do
        let items ← admitted scope target condition (← itemsOf scope.model v)
        items.zipIdx.mapM fun (item, i) => do
          let inside ← target.bind scope item
          let inside := if told then inside.bind roundsName (loopRecord items i) else inside
          return (← renderNodes include? escapes inside body).1
    if rounds.isEmpty then return ((← renderNodes include? escapes scope otherwise).1, scope)
    else return (Text.join "" rounds, scope)
  | .set target e => do return ("", ← target.bind scope (← e.evaluate scope))
  | .inclusion source ignoresMissing sharesScope => do
    return (← included include? scope ignoresMissing sharesScope (← source.evaluate scope), scope)

def renderNodes (include? : Inclusion) (escapes : Bool) (scope : Scope) :
    List Node → Eval (String × Scope)
  | [] => return ("", scope)
  | node :: rest => do
    let (text, scope) ← node.render include? escapes scope
    let (more, scope) ← renderNodes include? escapes scope rest
    return (text ++ more, scope)

end

mutual

def Node.fold (scope : Scope) : Node → Node
  | .text s => .text s
  | .print e => .print (e.fold scope)
  | .branch condition body otherwise =>
    .branch (condition.fold scope) (foldNodes scope body) (foldNodes scope otherwise)
  | .loop target source condition body otherwise =>
    .loop target (source.fold scope) (condition.map (·.fold scope)) (foldNodes scope body)
      (foldNodes scope otherwise)
  | .set target e => .set target (e.fold scope)
  | .inclusion source ignoresMissing sharesScope =>
    .inclusion (source.fold scope) ignoresMissing sharesScope

def foldNodes (scope : Scope) : List Node → List Node
  | [] => []
  | node :: rest => node.fold scope :: foldNodes scope rest

end

mutual

/-- What keeps a node from being compiled: a filter or test that is not known, or a loop in which
the name of its rounds is taken. Inside a branch, where `lenient` holds, filters are looked up only
when they are reached; a loop inside the branch is looked through again. -/
def Node.objection? (scope : Scope) (lenient : Bool) : Node → Option Failure
  | .text _ => none
  | .print e | .set _ e | .inclusion e _ _ => ofExpr lenient e
  | .branch _ body otherwise =>
    (objectionIn? scope true body).or (objectionIn? scope true otherwise)
  | .loop target source condition body otherwise =>
    (condition.bind (ofExpr false)).or <|
      (if target.binds roundsName || nodesBind roundsName body || nodesBind roundsName otherwise then
        some .roundsRenamed
      else none).or <|
      (ofExpr lenient source).or <|
      (objectionIn? scope false body).or (objectionIn? scope false otherwise)
where
  ofExpr (lenient : Bool) (e : Expr) : Option Failure :=
    if lenient then none else (e.unknown? scope).map .unknownFilter

def objectionIn? (scope : Scope) (lenient : Bool) : List Node → Option Failure
  | [] => none
  | node :: rest => (node.objection? scope lenient).or (objectionIn? scope lenient rest)

end

end Codegen.Template
