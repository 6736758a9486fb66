import Codegen.Failure.Basic

/-!
A position in the text of a document, and the steps that move it.
-/

namespace Codegen.Yaml

structure Cursor where
  rest : List Char
  index : Nat
  line : Nat
  column : Nat

abbrev Scan (α : Type) := StateT Cursor (Except Unreadable) α

def endMark : Char := '\x00'

def byteOrderMark : Char := '\ufeff'

def isBreak (c : Char) : Bool :=
  c = '\n' || c = '\r' || c = '\x85' || c = '\u2028' || c = '\u2029'

def isBreakOrEnd (c : Char) : Bool := c = endMark || isBreak c

def isSpaceOrEnd (c : Char) : Bool := c = ' ' || isBreakOrEnd c

def isGapOrEnd (c : Char) : Bool := c = '\t' || isSpaceOrEnd c

def isNameChar (c : Char) : Bool := Text.isLetter c || Text.isDigit c || c = '-' || c = '_'

def isHexDigit (c : Char) : Bool :=
  Text.isDigit c || ('a' ≤ c && c ≤ 'f') || ('A' ≤ c && c ≤ 'F')

def isAllowed (c : Char) : Bool :=
  let n := c.toNat
  n = 9 || n = 10 || n = 13 || (0x20 ≤ n && n ≤ 0x7E) || n = 0x85
    || (0xA0 ≤ n && n ≤ 0xFFFD) || 0x10000 ≤ n

namespace Cursor

def start (text : List Char) : Cursor := ⟨text, 0, 0, 0⟩

def peek (cursor : Cursor) (k : Nat := 0) : Char := cursor.rest.getD k endMark

/-- Moves over one character; line breaks begin a new line, a byte order mark takes no column. -/
def step (cursor : Cursor) : Cursor :=
  match cursor.rest with
  | [] => cursor
  | c :: cs =>
    if c = '\n' ∨ c = '\x85' ∨ c = '\u2028' ∨ c = '\u2029' ∨ (c = '\r' ∧ cs.head? ≠ some '\n') then
      ⟨cs, cursor.index + 1, cursor.line + 1, 0⟩
    else if c = byteOrderMark then ⟨cs, cursor.index + 1, cursor.line, cursor.column⟩
    else ⟨cs, cursor.index + 1, cursor.line, cursor.column + 1⟩

def forward : Nat → Cursor → Cursor
  | 0, cursor => cursor
  | n + 1, cursor => forward n cursor.step

def atMarker (cursor : Cursor) : Bool :=
  let first := cursor.rest.take 3
  (first = ['-', '-', '-'] || first = ['.', '.', '.']) && isGapOrEnd (cursor.peek 3)

end Cursor

def fail {α : Type} : Scan α := throw .yaml

def peek (k : Nat := 0) : Scan Char := return (← get).peek k

def forward (n : Nat := 1) : Scan Unit := modify (Cursor.forward n)

def remaining : Scan Nat := return (← get).rest.length

def takeRun (inClass : Char → Bool) : Scan (List Char) := do
  let run := (← get).rest.takeWhile inClass
  forward run.length
  return run

def skipSpaces : Scan Unit := do
  let _ ← takeRun (· = ' ')

def lineBreak : Scan (List Char) := do
  let c ← peek
  if c = '\r' ∧ (← peek 1) = '\n' then
    forward 2
    return ['\n']
  else if c = '\n' ∨ c = '\r' ∨ c = '\x85' then
    forward
    return ['\n']
  else if c = '\u2028' ∨ c = '\u2029' then
    forward
    return [c]
  else return []

def restOfLine : Scan Unit := do
  skipSpaces
  if (← peek) = '#' then
    let _ ← takeRun (!isBreakOrEnd ·)
  if isBreakOrEnd (← peek) then
    let _ ← lineBreak
  else fail

end Codegen.Yaml
