import Codegen.Template.Token

/-!
The expressions of templates, and how they are read from tokens. Operators bind in levels; within a
level they group to the left.
-/

namespace Codegen.Template

inductive Sign
  | minus
  | plus
  deriving DecidableEq

inductive Operator
  | add
  | subtract
  | multiply
  | divide
  | floorDivide
  | remainder
  | power
  | join
  deriving DecidableEq

inductive Comparison
  | equal
  | unequal
  | less
  | atMost
  | greater
  | atLeast
  | within
  | outside
  deriving DecidableEq

inductive Expr
  | constant (value : Value)
  | name (text : String)
  | list (items : List Expr)
  | tuple (items : List Expr)
  | map (entries : List (Expr × Expr))
  | part (owner : Expr) (name : String)
  | item (owner index : Expr)
  | call (function : Expr) (positional : List Expr) (named : List (String × Expr))
  | filter (subject : Expr) (name : String) (positional : List Expr) (named : List (String × Expr))
  | test (subject : Expr) (name : String) (positional : List Expr) (named : List (String × Expr))
  | signed (sign : Sign) (subject : Expr)
  | binary (operator : Operator) (left right : Expr)
  | compare (first : Expr) (rest : List (Comparison × Expr))
  | both (left right : Expr)
  | either (left right : Expr)
  | negation (subject : Expr)
  | choice (condition chosen otherwise : Expr)
  /-- What a choice without alternative falls back on; `line` is the choice's. -/
  | absent (line : Nat)

instance : Inhabited Expr := ⟨.constant .null⟩

structure Source where
  placed : List Placed
  breaks : Nat

abbrev Parse (α : Type) := ReaderT Source (StateT (List Token) (Except Failure)) α

def lineOf (tokens : List Token) : Parse Nat := do
  let source ← read
  match source.placed[source.placed.length - tokens.length]? with
  | some placed => return source.breaks + 1 - placed.breaksAhead
  | none => return source.breaks + 1

def malformed {α : Type} : Parse α := throw .templateMalformed

namespace Token

def isSign (text : String) : Token → Bool
  | sign s => s = text
  | _ => false

def isWord (word : String) : Token → Bool
  | name n => n = word
  | _ => false

def endsTuple : Token → Bool
  | printEnd | tagEnd => true
  | sign s => s = ")"
  | _ => false

end Token

def ahead (test : Token → Bool) : Parse Bool := do return (← get).head?.any test

def skip (test : Token → Bool) : Parse Bool := do
  let found ← ahead test
  if found then modify (·.drop 1)
  return found

def skipWord (word : String) : Parse Bool := skip (Token.isWord word)

def skipSign (sign : String) : Parse Bool := skip (Token.isSign sign)

def skipWords (first second : String) : Parse Bool := do
  match ← get with
  | .name a :: .name b :: rest =>
    if a = first ∧ b = second then
      set rest
      return true
    else return false
  | _ => return false

def expect (test : Token → Bool) : Parse Unit := do
  unless ← skip test do malformed

def expectName : Parse String := do
  match ← get with
  | .name name :: rest =>
    set rest
    return name
  | _ => malformed

inductive Level
  | either
  | both
  | negation
  | comparison
  | sum
  | join
  | product
  | power
  | signed
  deriving DecidableEq

namespace Level

def tighter : Level → Level
  | either => both
  | both => negation
  | negation => comparison
  | comparison => sum
  | sum => join
  | join => product
  | product => power
  | power | signed => signed

def operators : Level → List (Token × (Expr → Expr → Expr))
  | either => [(.name "or", .either)]
  | both => [(.name "and", .both)]
  | sum => [(.sign "+", .binary .add), (.sign "-", .binary .subtract)]
  | join => [(.sign "~", .binary .join)]
  | product =>
    [(.sign "*", .binary .multiply), (.sign "/", .binary .divide),
     (.sign "//", .binary .floorDivide), (.sign "%", .binary .remainder)]
  | power => [(.sign "**", .binary .power)]
  | negation | comparison | signed => []

end Level

def Token.agrees : Token → Token → Bool
  | name a, name b => a = b
  | sign a, sign b => a = b
  | _, _ => false

def skipOperator (level : Level) : Parse (Option (Expr → Expr → Expr)) := do
  match ← get with
  | token :: rest =>
    match level.operators.find? fun (spelling, _) => token.agrees spelling with
    | some (_, apply) =>
      set rest
      return some apply
    | none => return none
  | [] => return none

def comparisonSigns : List (String × Comparison) :=
  [("==", .equal), ("!=", .unequal), ("<", .less), ("<=", .atMost), (">", .greater), (">=", .atLeast)]

def skipComparison : Parse (Option Comparison) := do
  if ← skipWord "in" then return some .within
  if ← skipWords "not" "in" then return some .outside
  match ← get with
  | .sign sign :: rest =>
    match comparisonSigns.lookup sign with
    | some comparison =>
      set rest
      return some comparison
    | none => return none
  | _ => return none

def ofName (name : String) : Expr :=
  match name with
  | "true" | "True" => .constant (.bool true)
  | "false" | "False" => .constant (.bool false)
  | "none" | "None" => .constant .null
  | _ => .name name

def adjacentTexts : List Token → List String × List Token
  | .text s :: rest =>
    let (more, rest) := adjacentTexts rest
    (s :: more, rest)
  | rest => ([], rest)

def dottedName : (fuel : Nat) → Parse String
  | 0 => malformed
  | fuel + 1 => do
    let name ← expectName
    if ← skipSign "." then return name ++ "." ++ (← dottedName fuel)
    else return name

def beginsArgument : Token → Bool
  | .name n => n ≠ "else" ∧ n ≠ "or" ∧ n ≠ "and"
  | .text _ | .int _ | .float _ => true
  | .sign s => s = "[" ∨ s = "\x7b"
  | _ => false

mutual

def expression : (fuel : Nat) → Parse Expr
  | 0 => malformed
  | fuel + 1 => do
    let start ← get
    choices fuel start (← operand fuel .either)

/-- The conditions that follow an expression, which begins at `start`. -/
def choices : (fuel : Nat) → (start : List Token) → Expr → Parse Expr
  | 0, _, _ => malformed
  | fuel + 1, start, chosen => do
    if ← skipWord "if" then
      let condition ← operand fuel .either
      let otherwise ←
        if ← skipWord "else" then expression fuel else pure (.absent (← lineOf start))
      choices fuel (← get) (.choice condition chosen otherwise)
    else return chosen

def operand : (fuel : Nat) → Level → Parse Expr
  | 0, _ => malformed
  | fuel + 1, level => do
    match level with
    | .negation =>
      if ← skipWord "not" then return .negation (← operand fuel .negation)
      else operand fuel .comparison
    | .comparison =>
      let first ← operand fuel .sum
      let rest ← comparisons fuel
      return if rest.isEmpty then first else .compare first rest
    | .signed => signedOperand fuel true
    | level => operations fuel level (← operand fuel level.tighter)

def operations : (fuel : Nat) → Level → Expr → Parse Expr
  | 0, _, _ => malformed
  | fuel + 1, level, left => do
    match ← skipOperator level with
    | some apply => operations fuel level (apply left (← operand fuel level.tighter))
    | none => return left

def comparisons : (fuel : Nat) → Parse (List (Comparison × Expr))
  | 0 => malformed
  | fuel + 1 => do
    match ← skipComparison with
    | some comparison =>
      let right ← operand fuel .sum
      return (comparison, right) :: (← comparisons fuel)
    | none => return []

/-- An operand with its sign, its parts and, where `filtered` holds, its filters. -/
def signedOperand : (fuel : Nat) → (filtered : Bool) → Parse Expr
  | 0, _ => malformed
  | fuel + 1, filtered => do
    let subject ←
      if ← skipSign "-" then pure (.signed .minus (← signedOperand fuel false))
      else if ← skipSign "+" then pure (.signed .plus (← signedOperand fuel false))
      else primary fuel
    let subject ← parts fuel subject
    if filtered then filters fuel subject else return subject

def primary : (fuel : Nat) → Parse Expr
  | 0 => malformed
  | fuel + 1 => do
    match ← get with
    | .name name :: rest =>
      set rest
      return ofName name
    | .text s :: rest =>
      let (more, rest) := adjacentTexts rest
      set rest
      return .constant (.text (Text.join "" (s :: more)))
    | .int n :: rest =>
      set rest
      return .constant (.int n)
    | .float x :: rest =>
      set rest
      return .constant (.float x)
    | .sign sign :: rest =>
      set rest
      match sign with
      | "(" =>
        let inside ← tuple fuel true true Token.endsTuple
        expect (Token.isSign ")")
        return inside
      | "[" => return .list (← items fuel "]")
      | "\x7b" => return .map (← entries fuel)
      | _ => malformed
    | _ => malformed

/-- An expression, or several with commas between them. Without brackets there is at least one. -/
def tuple : (fuel : Nat) → (choosing bracketed : Bool) → (Token → Bool) → Parse Expr
  | 0, _, _, _ => malformed
  | fuel + 1, choosing, bracketed, ends => do
    if ← ahead ends then
      if bracketed then return .tuple [] else malformed
    else
      let first ← if choosing then expression fuel else operand fuel .either
      if ← ahead (Token.isSign ",") then
        return .tuple (first :: (← moreItems fuel choosing ends))
      else return first

def moreItems : (fuel : Nat) → (choosing : Bool) → (Token → Bool) → Parse (List Expr)
  | 0, _, _ => malformed
  | fuel + 1, choosing, ends => do
    if ← skipSign "," then
      if ← ahead ends then return []
      else
        let next ← if choosing then expression fuel else operand fuel .either
        return next :: (← moreItems fuel choosing ends)
    else return []

def items : (fuel : Nat) → (close : String) → Parse (List Expr)
  | 0, _ => malformed
  | fuel + 1, close => do
    if ← skipSign close then return []
    else
      let first ← expression fuel
      if ← skipSign close then return [first]
      else
        expect (Token.isSign ",")
        return first :: (← items fuel close)

def indices : (fuel : Nat) → Parse (List Expr)
  | 0 => malformed
  | fuel + 1 => do
    if ← skipSign "]" then return []
    else
      let first ← expression fuel
      if ← skipSign "]" then return [first]
      else
        expect (Token.isSign ",")
        if ← ahead (Token.isSign "]") then malformed
        else return first :: (← indices fuel)

def entries : (fuel : Nat) → Parse (List (Expr × Expr))
  | 0 => malformed
  | fuel + 1 => do
    if ← skipSign "\x7d" then return []
    else
      let key ← expression fuel
      expect (Token.isSign ":")
      let value ← expression fuel
      if ← skipSign "\x7d" then return [(key, value)]
      else
        expect (Token.isSign ",")
        return (key, value) :: (← entries fuel)

def parts : (fuel : Nat) → Expr → Parse Expr
  | 0, _ => malformed
  | fuel + 1, owner => do
    match ← get with
    | .sign "." :: .name name :: rest =>
      set rest
      parts fuel (.part owner name)
    | .sign "." :: .int n :: rest =>
      set rest
      parts fuel (.item owner (.constant (.int n)))
    | .sign "." :: _ => malformed
    | .sign "[" :: rest =>
      set rest
      match ← indices fuel with
      | [index] => parts fuel (.item owner index)
      | several => parts fuel (.item owner (.tuple several))
    | .sign "(" :: rest =>
      set rest
      let (positional, named) ← arguments fuel
      parts fuel (.call owner positional named)
    | _ => return owner

def filters : (fuel : Nat) → Expr → Parse Expr
  | 0, _ => malformed
  | fuel + 1, subject => do
    match ← get with
    | .sign "|" :: rest =>
      set rest
      let name ← dottedName fuel
      let (positional, named) ← if ← skipSign "(" then arguments fuel else pure ([], [])
      filters fuel (.filter subject name positional named)
    | .name "is" :: rest =>
      set rest
      let negated ← skipWord "not"
      let name ← dottedName fuel
      let (positional, named) ←
        if ← skipSign "(" then arguments fuel
        else if ← ahead (Token.isWord "is") then malformed
        else if ← ahead beginsArgument then
          let argument ← primary fuel
          pure ([← parts fuel argument], [])
        else pure ([], [])
      let test := Expr.test subject name positional named
      filters fuel (if negated then .negation test else test)
    | .sign "(" :: rest =>
      set rest
      let (positional, named) ← arguments fuel
      filters fuel (.call subject positional named)
    | _ => return subject

/-- Arguments up to the closing bracket; those with a name come last. -/
def arguments : (fuel : Nat) → Parse (List Expr × List (String × Expr))
  | 0 => malformed
  | fuel + 1 => do
    if ← skipSign ")" then return ([], [])
    else
      let name? ← match ← get with
        | .name name :: .sign "=" :: rest =>
          set rest
          pure (some name)
        | _ => pure none
      let value ← expression fuel
      let (positional, named) ←
        if ← skipSign ")" then pure ([], [])
        else
          expect (Token.isSign ",")
          arguments fuel
      match name? with
      | none => return (value :: positional, named)
      | some name =>
        if positional.isEmpty then return ([], (name, value) :: named)
        else malformed

end

/-- A budget that every expression stays within: the levels passed without moving over a token are
fewer than twenty. -/
def budget (tokens : List Token) : Nat := 20 * (tokens.length + 1)

def readExpression : Parse Expr := do expression (budget (← get))

def readTuple (choosing : Bool) (ends : Token → Bool) : Parse Expr := do
  tuple (budget (← get)) choosing false ends

end Codegen.Template
