import Codegen.Text.Halves
import Codegen.Yaml.Cursor

/-!
The texts of scalars: quoted, plain, and in blocks. Line breaks inside are folded by the rules of
each style.
-/

namespace Codegen.Yaml

def quotedBreaks : (fuel : Nat) → Scan (List Char)
  | 0 => return []
  | fuel + 1 => do
    if (← get).atMarker then fail
    else
      let _ ← takeRun fun c => c = ' ' || c = '\t'
      if isBreak (← peek) then
        let first ← lineBreak
        return first ++ (← quotedBreaks fuel)
      else return []

def quotedSpaces : Scan (List Char) := do
  let blanks ← takeRun fun c => c = ' ' || c = '\t'
  let c ← peek
  if c = endMark then fail
  else if isBreak c then
    let first ← lineBreak
    let breaks ← quotedBreaks (← remaining)
    if first ≠ ['\n'] then return first ++ breaks
    else if breaks.isEmpty then return [' ']
    else return breaks
  else return blanks

def escapes : List (Char × Char) :=
  [('0', '\x00'), ('a', '\x07'), ('b', '\x08'), ('t', '\t'), ('\t', '\t'), ('n', '\n'),
   ('v', '\x0b'), ('f', '\x0c'), ('r', '\r'), ('e', '\x1b'), (' ', ' '), ('"', '"'), ('\\', '\\'),
   ('/', '/'), ('N', '\x85'), ('_', '\xa0'), ('L', '\u2028'), ('P', '\u2029')]

def codeWidths : List (Char × Nat) := [('x', 2), ('u', 4), ('U', 8)]

/-- What stands before the number of half a pair until values are made, and before itself. No document
holds it unescaped. -/
def halfMark : Char := '\uFFFE'

def spelledCode (code : Nat) : List Char :=
  if Text.isHalf code then [halfMark, Char.ofNat (code - Text.halfBase)]
  else if code = halfMark.toNat then [halfMark, halfMark]
  else [Char.ofNat code]

def escape : Scan (List Char) := do
  let c ← peek
  match escapes.lookup c, codeWidths.lookup c with
  | some replacement, _ =>
    forward
    return [replacement]
  | none, some width =>
    forward
    let digits := (← get).rest.take width
    if digits.length = width ∧ digits.all isHexDigit then
      let code := (Text.digits? 16 digits).getD 0
      if code > 0x10FFFF then throw (.misuse (.codePoint code))
      forward width
      return spelledCode code
    else fail
  | none, none =>
    if isBreak c then
      let _ ← lineBreak
      quotedBreaks (← remaining)
    else fail

def quotedText (double : Bool) : (fuel : Nat) → Scan (List Char)
  | 0 => return []
  | fuel + 1 => do
    let run ← takeRun fun c => c ≠ '\'' && c ≠ '"' && c ≠ '\\' && !isGapOrEnd c
    let c ← peek
    if double = false ∧ c = '\'' ∧ (← peek 1) = '\'' then
      forward 2
      return run ++ '\'' :: (← quotedText double fuel)
    else if (double = true ∧ c = '\'') ∨ (double = false ∧ (c = '"' ∨ c = '\\')) then
      forward
      return run ++ c :: (← quotedText double fuel)
    else if double = true ∧ c = '\\' then
      forward
      let escaped ← escape
      return run ++ escaped ++ (← quotedText double fuel)
    else return run

def quotedRest (double : Bool) (quote : Char) : (fuel : Nat) → Scan (List Char)
  | 0 => fail
  | fuel + 1 => do
    if (← peek) = quote then
      forward
      return []
    else
      let spaces ← quotedSpaces
      let text ← quotedText double (← remaining)
      return spaces ++ text ++ (← quotedRest double quote fuel)

def quotedScalar : Scan String := do
  let quote ← peek
  forward
  let double := quote = '"'
  let first ← quotedText double (← remaining)
  return String.ofList (first ++ (← quotedRest double quote ((← remaining) + 1)))

/-- Line breaks and leading spaces between the lines of a plain scalar; `none` before a document
marker. -/
def plainBreaks : (fuel : Nat) → Scan (Option (List Char))
  | 0 => return some []
  | fuel + 1 => do
    let c ← peek
    if c = ' ' then
      forward
      plainBreaks fuel
    else if isBreak c then
      let first ← lineBreak
      if (← get).atMarker then return none
      else return (← plainBreaks fuel).map (first ++ ·)
    else return some []

def plainSpaces : Scan (List Char × Bool) := do
  let blanks ← takeRun (· = ' ')
  if isBreak (← peek) then
    let first ← lineBreak
    if (← get).atMarker then return ([], true)
    else
      match ← plainBreaks (← remaining) with
      | none => return ([], true)
      | some breaks =>
        if first ≠ ['\n'] then return (first ++ breaks, true)
        else if breaks.isEmpty then return ([' '], true)
        else return (breaks, true)
  else return (blanks, false)

def plainPiece (inFlow : Bool) : List Char → List Char
  | [] => []
  | c :: cs =>
    let next := cs.headD endMark
    let flowMark (d : Char) : Bool := d = ',' || d = '[' || d = ']' || d = '\x7b' || d = '\x7d'
    if isGapOrEnd c
        || (c = ':' && (isGapOrEnd next || (inFlow && flowMark next)))
        || (inFlow && (c = '?' || flowMark c)) then []
    else c :: plainPiece inFlow cs

/-- The pieces of a plain scalar; `spaces` stand before the next one. The result says whether the
scalar ended after a line break. -/
def plainPieces (inFlow : Bool) (indent : Int) (spaces : List Char) (broken : Bool) :
    (fuel : Nat) → Scan (List Char × Bool)
  | 0 => return ([], broken)
  | fuel + 1 => do
    if (← peek) = '#' then return ([], broken)
    else
      let piece := plainPiece inFlow (← get).rest
      if piece.isEmpty then return ([], broken)
      else
        forward piece.length
        let (next, ended) ← plainSpaces
        let column : Int := (← get).column
        if next.isEmpty ∨ (← peek) = '#' ∨ (inFlow = false ∧ column < indent) then
          return (spaces ++ piece, ended)
        else
          let (rest, ended) ← plainPieces inFlow indent next ended fuel
          return (spaces ++ piece ++ rest, ended)

def plainScalar (inFlow : Bool) (indent : Int) : Scan (String × Bool) := do
  let (text, broken) ← plainPieces inFlow indent [] false ((← remaining) + 1)
  return (String.ofList text, broken)

inductive Chomping
  | strip
  | clip
  | keep
  deriving Repr, DecidableEq

def chomping? : Scan (Option Chomping) := do
  let c ← peek
  if c = '+' then
    forward
    return some .keep
  else if c = '-' then
    forward
    return some .strip
  else return none

def increment? : Scan (Option Nat) := do
  let c ← peek
  if c = '0' then fail
  else if Text.isDigit c then
    forward
    return some (c.toNat - '0'.toNat)
  else return none

def blockIndicators : Scan (Chomping × Option Nat) := do
  let result ←
    match ← chomping? with
    | some chomping => pure (chomping, ← increment?)
    | none =>
      match ← increment? with
      | some increment => pure ((← chomping?).getD .clip, some increment)
      | none => pure (.clip, none)
  if isSpaceOrEnd (← peek) then return result else fail

def blockIndentation (deepest : Nat) : (fuel : Nat) → Scan (List Char × Nat)
  | 0 => return ([], deepest)
  | fuel + 1 => do
    let c ← peek
    if c = ' ' then
      forward
      blockIndentation (max deepest (← get).column) fuel
    else if isBreak c then
      let first ← lineBreak
      let (rest, deepest) ← blockIndentation deepest fuel
      return (first ++ rest, deepest)
    else return ([], deepest)

def skipIndent (indent : Nat) : Scan Unit := do
  let cursor ← get
  let run := (cursor.rest.take (indent - cursor.column)).takeWhile (· = ' ')
  forward run.length

def blockBreaks (indent : Nat) : (fuel : Nat) → Scan (List Char)
  | 0 => return []
  | fuel + 1 => do
    skipIndent indent
    if isBreak (← peek) then
      let first ← lineBreak
      return first ++ (← blockBreaks indent fuel)
    else return []

/-- The lines of a block scalar: the text, its last line break and the blank lines after it. -/
def blockLines (folded : Bool) (indent : Nat) (breaks : List Char) :
    (fuel : Nat) → Scan (List Char × List Char × List Char)
  | 0 => return ([], [], breaks)
  | fuel + 1 => do
    if (← get).column = indent ∧ (← peek) ≠ endMark then
      let startsFull := (← peek) ≠ ' ' && (← peek) ≠ '\t'
      let line ← takeRun (!isBreakOrEnd ·)
      let ending ← lineBreak
      let following ← blockBreaks indent ((← remaining) + 1)
      if (← get).column = indent ∧ (← peek) ≠ endMark then
        let c ← peek
        let between :=
          if folded && ending = ['\n'] && startsFull && c ≠ ' ' && c ≠ '\t' then
            if following.isEmpty then [' '] else []
          else ending
        let (rest, last, blanks) ← blockLines folded indent following fuel
        return (breaks ++ line ++ between ++ rest, last, blanks)
      else return (breaks ++ line, ending, following)
    else return ([], [], breaks)

/-- A block scalar below a block of the given indentation, the cursor being at its `|` or `>`. -/
def blockScalar (folded : Bool) (indent : Int) : Scan String := do
  forward
  let (chomping, increment) ← blockIndicators
  restOfLine
  let least := (max (indent + 1) 1).toNat
  let (breaks, indent) ←
    match increment with
    | some increment =>
      let indent := least + increment - 1
      pure (← blockBreaks indent ((← remaining) + 1), indent)
    | none =>
      let (breaks, deepest) ← blockIndentation 0 ((← remaining) + 1)
      pure (breaks, max least deepest)
  let (text, last, blanks) ← blockLines folded indent breaks ((← remaining) + 1)
  let ending := match chomping with
    | .strip => []
    | .clip => last
    | .keep => last ++ blanks
  return String.ofList (text ++ ending)

end Codegen.Yaml
