import Codegen.Yaml.Scalar

/-!
The tokens of a document. Indentation shows in them as block starts and ends, and a key that no `?`
announces is found when its `:` is met.
-/

namespace Codegen.Yaml

inductive Directive
  | version (major minor : Nat)
  | tagHandle (handle expansion : String)
  | other (name : String)
  deriving Repr, DecidableEq

inductive Token
  | directive (d : Directive)
  | documentStart
  | documentEnd
  | streamEnd
  | blockSequenceStart
  | blockMappingStart
  | blockEnd
  | flowSequenceStart
  | flowSequenceEnd
  | flowMappingStart
  | flowMappingEnd
  | blockEntry
  | flowEntry
  | key
  | value
  | alias (name : String)
  | anchor (name : String)
  | tag (handle : Option String) (suffix : String)
  | scalar (text : String) (plain : Bool)
  deriving Repr, DecidableEq

def anchorName : Scan String := do
  forward
  let name ← takeRun isNameChar
  let c ← peek
  if name.isEmpty then fail
  else if isGapOrEnd c || "?:,]\x7d%@`".toList.contains c then return String.ofList name
  else fail

def isUriChar (c : Char) : Bool :=
  Text.isLetter c || Text.isDigit c || "-;/?:@&=+$,_.!~*'()[]".toList.contains c

def uriEscapes : (fuel : Nat) → Scan (List UInt8)
  | 0 => return []
  | fuel + 1 => do
    if (← peek) = '%' then
      forward
      let digits := (← get).rest.take 2
      if digits.length = 2 ∧ digits.all isHexDigit then
        forward 2
        let byte := ((Text.digits? 16 digits).getD 0).toUInt8
        return byte :: (← uriEscapes fuel)
      else fail
    else return []

def uriPieces : (fuel : Nat) → Scan (List Char)
  | 0 => return []
  | fuel + 1 => do
    let run ← takeRun isUriChar
    if (← peek) = '%' then
      let bytes ← uriEscapes (← remaining)
      match String.fromUTF8? ⟨bytes.toArray⟩ with
      | some text => return run ++ text.toList ++ (← uriPieces fuel)
      | none => fail
    else return run

def tagUri : Scan String := do
  let before := (← get).index
  let text ← uriPieces ((← remaining) + 1)
  if (← get).index = before then fail else return String.ofList text

def tagHandle : Scan String := do
  if (← peek) ≠ '!' then fail
  forward
  if (← peek) = ' ' then return "!"
  let name ← takeRun isNameChar
  if (← peek) ≠ '!' then fail
  forward
  return String.ofList ('!' :: name ++ ['!'])

def tagHasHandle : List Char → Bool
  | [] => false
  | c :: cs => if isSpaceOrEnd c then false else c = '!' || tagHasHandle cs

def tagToken : Scan Token := do
  let c ← peek 1
  let token ←
    if c = '<' then do
      forward 2
      let suffix ← tagUri
      if (← peek) ≠ '>' then fail
      forward
      pure (Token.tag none suffix)
    else if isGapOrEnd c then do
      forward
      pure (Token.tag none "!")
    else if tagHasHandle ((← get).rest.drop 1) then do
      let handle ← tagHandle
      pure (Token.tag (some handle) (← tagUri))
    else do
      forward
      pure (Token.tag (some "!") (← tagUri))
  if isSpaceOrEnd (← peek) then return token else fail

def versionNumber : Scan Nat := do
  let digits ← takeRun Text.isDigit
  match Text.digits? 10 digits with
  | some n => return n
  | none => fail

def directiveToken : Scan Token := do
  forward
  let name ← takeRun isNameChar
  if name.isEmpty || !isSpaceOrEnd (← peek) then fail
  let directive ←
    if name = "YAML".toList then do
      skipSpaces
      let major ← versionNumber
      if (← peek) ≠ '.' then fail
      forward
      let minor ← versionNumber
      if !isSpaceOrEnd (← peek) then fail
      pure (Directive.version major minor)
    else if name = "TAG".toList then do
      skipSpaces
      let handle ← tagHandle
      if (← peek) ≠ ' ' then fail
      skipSpaces
      let expansion ← tagUri
      if !isSpaceOrEnd (← peek) then fail
      pure (Directive.tagHandle handle expansion)
    else do
      let _ ← takeRun (!isBreakOrEnd ·)
      pure (Directive.other (String.ofList name))
  restOfLine
  return .directive directive

/-- A place where a key without `?` may have begun. -/
structure PossibleKey where
  /-- Number of the token that it would precede. -/
  token : Nat
  required : Bool
  index : Nat
  line : Nat
  column : Nat

structure Lexer where
  tokens : Array Token
  /-- Number of open flow collections. -/
  flowLevel : Nat
  /-- Column of the innermost block, `-1` outside of all. -/
  indent : Int
  indents : List Int
  keyAllowed : Bool
  /-- The possible key of each flow level. -/
  possibleKeys : List (Nat × PossibleKey)

abbrev Lex (α : Type) := StateT Lexer (StateT Cursor (Except Unreadable)) α

namespace Lex

def cursor : Lex Cursor := getThe Cursor

def emit (token : Token) : Lex Unit := modify fun s => { s with tokens := s.tokens.push token }

def allowKey (allowed : Bool) : Lex Unit := modify fun s => { s with keyAllowed := allowed }

def inFlow : Lex Bool := return (← get).flowLevel ≠ 0

def dropStaleKeys : Lex Unit := do
  let at_ ← cursor
  let stale (key : PossibleKey) : Bool := key.line ≠ at_.line || at_.index - key.index > 1024
  let keys := (← get).possibleKeys
  if keys.any fun (_, key) => stale key && key.required then throw .yaml
  modify fun s => { s with possibleKeys := keys.filter fun (_, key) => !stale key }

def dropKey : Lex Unit := do
  let s ← get
  if s.possibleKeys.any fun (level, key) => level = s.flowLevel && key.required then throw .yaml
  set { s with possibleKeys := s.possibleKeys.filter (·.1 ≠ s.flowLevel) }

def saveKey : Lex Unit := do
  let at_ ← cursor
  let s ← get
  if s.keyAllowed then
    dropKey
    let required := s.flowLevel = 0 && s.indent = at_.column
    let key : PossibleKey := ⟨s.tokens.size, required, at_.index, at_.line, at_.column⟩
    modify fun s => { s with possibleKeys := (s.flowLevel, key) :: s.possibleKeys }

def closeBlocks (column : Int) : (indents : List Int) → Lex Unit
  | [] => return
  | outer :: indents => do
    if (← get).indent > column then
      modify fun s => { s with indent := outer, indents }
      emit .blockEnd
      closeBlocks column indents

def unwind (column : Int) : Lex Unit := do
  let s ← get
  if s.flowLevel = 0 then closeBlocks column s.indents

def openBlock (column : Int) : Lex Bool := do
  let s ← get
  if s.indent < column then
    set { s with indents := s.indent :: s.indents, indent := column }
    return true
  else return false

def skipToToken : (fuel : Nat) → Lex Unit
  | 0 => return
  | fuel + 1 => do
    if (← cursor).index = 0 ∧ (← peek) = byteOrderMark then forward
    skipSpaces
    if (← peek) = '#' then
      let _ ← takeRun (!isBreakOrEnd ·)
    let ending ← lineBreak
    if !ending.isEmpty then
      if !(← inFlow) then allowKey true
      skipToToken fuel

def documentMarker (token : Token) : Lex Unit := do
  unwind (-1)
  dropKey
  allowKey false
  forward 3
  emit token

def openFlow (token : Token) : Lex Unit := do
  saveKey
  modify fun s => { s with flowLevel := s.flowLevel + 1 }
  allowKey true
  forward
  emit token

def closeFlow (token : Token) : Lex Unit := do
  dropKey
  modify fun s => { s with flowLevel := s.flowLevel - 1 }
  allowKey false
  forward
  emit token

def openBlockHere (start : Token) : Lex Unit := do
  if !(← inFlow) then
    if !(← get).keyAllowed then throw .yaml
    if ← openBlock (← cursor).column then emit start

def blockEntry : Lex Unit := do
  openBlockHere .blockSequenceStart
  allowKey true
  dropKey
  forward
  emit .blockEntry

def explicitKey : Lex Unit := do
  openBlockHere .blockMappingStart
  allowKey (!(← inFlow))
  dropKey
  forward
  emit .key

def insertAt (place : Nat) (token : Token) : Lex Unit :=
  modify fun s => { s with tokens := s.tokens.toList.insertIdx place token |>.toArray }

def mappingValue : Lex Unit := do
  let s ← get
  match s.possibleKeys.lookup s.flowLevel with
  | some key =>
    modify fun s => { s with possibleKeys := s.possibleKeys.filter (·.1 ≠ s.flowLevel) }
    insertAt key.token .key
    if !(← inFlow) then
      if ← openBlock key.column then insertAt key.token .blockMappingStart
    allowKey false
  | none =>
    openBlockHere .blockMappingStart
    allowKey (!(← inFlow))
    dropKey
  forward
  emit .value

def keyPart (scan : Scan Token) : Lex Unit := do
  saveKey
  allowKey false
  emit (← scan)

def plain : Lex Unit := do
  saveKey
  let s ← get
  let (text, broken) ← plainScalar (s.flowLevel ≠ 0) (s.indent + 1)
  allowKey broken
  emit (.scalar text true)

def block (folded : Bool) : Lex Unit := do
  allowKey true
  dropKey
  emit (.scalar (← blockScalar folded (← get).indent) false)

def beginsPlain (inFlow : Bool) (c next : Char) : Bool :=
  !(isGapOrEnd c || "-?:,[]\x7b\x7d#&*!|>'\"%@`".toList.contains c)
    || (!isGapOrEnd next && (c = '-' || (!inFlow && (c = '?' || c = ':'))))

/-- Finds the next token, or the tokens that come at once; `false` at the end of the text. -/
def next : Lex Bool := do
  skipToToken ((← remaining) + 1)
  dropStaleKeys
  let at_ ← cursor
  unwind at_.column
  let c := at_.peek
  let following := at_.peek 1
  let flow ← inFlow
  let marker := at_.column = 0 && at_.atMarker
  if c = endMark then
    unwind (-1)
    dropKey
    emit .streamEnd
    return false
  if c = '%' ∧ at_.column = 0 then
    unwind (-1)
    dropKey
    allowKey false
    emit (← directiveToken)
  else if c = '-' ∧ marker then documentMarker .documentStart
  else if c = '.' ∧ marker then documentMarker .documentEnd
  else if c = '[' then openFlow .flowSequenceStart
  else if c = '\x7b' then openFlow .flowMappingStart
  else if c = ']' then closeFlow .flowSequenceEnd
  else if c = '\x7d' then closeFlow .flowMappingEnd
  else if c = ',' then
    allowKey true
    dropKey
    forward
    emit .flowEntry
  else if c = '-' ∧ isGapOrEnd following then blockEntry
  else if c = '?' ∧ (flow ∨ isGapOrEnd following) then explicitKey
  else if c = ':' ∧ (flow ∨ isGapOrEnd following) then mappingValue
  else if c = '*' then keyPart (return .alias (← anchorName))
  else if c = '&' then keyPart (return .anchor (← anchorName))
  else if c = '!' then keyPart tagToken
  else if c = '|' ∧ !flow then block false
  else if c = '>' ∧ !flow then block true
  else if c = '\'' ∨ c = '"' then keyPart (return .scalar (← quotedScalar) false)
  else if beginsPlain flow c following then plain
  else throw .yaml
  return true

def run : (fuel : Nat) → Lex Unit
  | 0 => throw .yaml
  | fuel + 1 => do
    if ← next then run fuel

end Lex

def tokens (text : List Char) : Except Unreadable (List Token) := do
  if text.all isAllowed then
    let start : Lexer := ⟨#[], 0, -1, [], true, []⟩
    let run := StateT.run (Lex.run (text.length + 2)) start
    let ((_, lexer), _) ← StateT.run run (Cursor.start text)
    return lexer.tokens.toList
  else throw .yaml

end Codegen.Yaml
