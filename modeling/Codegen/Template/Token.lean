import Codegen.Failure.Basic
import Codegen.Number.Literal
import Codegen.Text.CharName.Basic
import Codegen.Text.Identifier

/-!
The tokens of a template: the text between the tags, and what stands inside them. A minus sign at
the edge of a tag takes away the white space beyond it.
-/

namespace Codegen.Template

inductive Token
  | data (text : String)
  | printBegin
  | printEnd
  | tagBegin
  | tagEnd
  | name (text : String)
  | text (value : String)
  | int (n : Nat)
  | float (x : Float)
  | sign (text : String)

structure Placed where
  token : Token
  text : List Char

def Placed.breaksAhead (placed : Placed) : Nat := placed.text.count '\n'

inductive Mode
  | text
  | print
  | tag
  deriving DecidableEq

def openPrint : List Char := ['\x7b', '\x7b']

def closePrint : List Char := ['\x7d', '\x7d']

def openTag : List Char := ['\x7b', '%']

def closeTag : List Char := ['%', '\x7d']

def openComment : List Char := ['\x7b', '#']

def closeComment : List Char := ['#', '\x7d']

def word? (word : String) (text : List Char) : Option (List Char) :=
  (Text.dropStart? word.toList (text.dropWhile Text.isBlank)).map (·.dropWhile Text.isBlank)

def edge : List Char → Bool × List Char
  | '-' :: cs => (true, cs)
  | '+' :: cs => (false, cs)
  | cs => (false, cs)

/-- The end of a tag. A minus takes the blanks after it along, a plus is passed over where `plus`
admits one. -/
def end? (close : List Char) (plus : Bool) (text : List Char) : Option (List Char) :=
  match text with
  | '-' :: cs => (Text.dropStart? close cs).map (·.dropWhile Text.isBlank)
  | '+' :: cs => if plus then Text.dropStart? close cs else none
  | cs => Text.dropStart? close cs

/-- The tag that begins a raw section; the answer says whether it strips the text before. -/
def rawBegin? (text : List Char) : Option (Bool × List Char) := do
  let (strips, rest) := edge (← Text.dropStart? openTag text)
  return (strips, ← end? closeTag false (← word? "raw" rest))

def rawEnd? (text : List Char) : Option (Bool × List Char) := do
  let (strips, rest) := edge (← Text.dropStart? openTag text)
  return (strips, ← end? closeTag true (← word? "endraw" rest))

/-- The text up to the first place where `find?` succeeds, reversed, and what it found there. -/
def searchFrom {α : Type} (find? : List Char → Option (α × List Char)) (before : List Char) :
    List Char → Option (List Char × α × List Char)
  | [] => none
  | c :: cs =>
    match find? (c :: cs) with
    | some (x, rest) => some (before, x, rest)
    | none => searchFrom find? (c :: before) cs

inductive Opening
  | print
  | tag
  | comment
  | raw
  deriving DecidableEq

def opening? (text : List Char) : Option ((Opening × Bool) × List Char) :=
  match rawBegin? text with
  | some (strips, rest) => some ((.raw, strips), rest)
  | none =>
    let opens (opening : Opening) (mark : List Char) : Option ((Opening × Bool) × List Char) :=
      (Text.dropStart? mark text).map fun rest =>
        let (strips, rest) := edge rest
        ((opening, strips), rest)
    (opens .print openPrint).or ((opens .comment openComment).or (opens .tag openTag))

def dataBefore (strips : Bool) (before text : List Char) : List Placed :=
  let kept := if strips then before.dropWhile Text.isBlank else before
  if kept.isEmpty then [] else [⟨.data (String.ofList kept.reverse), text⟩]

def digitRun (isDigit : Char → Bool) : List Char → List Char
  | c :: cs => if isDigit c then c :: more isDigit cs else []
  | [] => []
where
  more (isDigit : Char → Bool) : List Char → List Char
    | '_' :: c :: cs => if isDigit c then '_' :: c :: more isDigit cs else []
    | c :: cs => if isDigit c then c :: more isDigit cs else []
    | [] => []

def isHexDigit (c : Char) : Bool :=
  Text.isDigit c || ('a' ≤ c && c ≤ 'f') || ('A' ≤ c && c ≤ 'F')

def valueOf (base : Nat) (digits : List Char) : Nat :=
  (Text.digits? base (digits.filter (· ≠ '_'))).getD 0

def exponentOf : List Char → Option (Int × Nat)
  | e :: cs =>
    if e = 'e' ∨ e = 'E' then
      let (negative, rest) := Number.signed cs
      let digits := digitRun Text.isDigit rest
      if digits.isEmpty then none
      else
        let n : Int := valueOf 10 digits
        some (if negative then -n else n, 1 + (cs.length - rest.length) + digits.length)
    else none
  | [] => none

def float? (text : List Char) : Option (Float × List Char) := do
  let whole := digitRun Text.isDigit text
  if whole.isEmpty then none
  else
    let rest := text.drop whole.length
    let fraction := match rest with
      | '.' :: cs => digitRun Text.isDigit cs
      | _ => []
    let rest := if fraction.isEmpty then rest else rest.drop (1 + fraction.length)
    let places : Int := (fraction.filter (· ≠ '_')).length
    match exponentOf rest with
    | some (e, length) =>
      some (Number.floatOfDecimal (valueOf 10 (whole ++ fraction)) (e - places), rest.drop length)
    | none =>
      if fraction.isEmpty then none
      else some (Number.floatOfDecimal (valueOf 10 (whole ++ fraction)) (-places), rest)

def int? (text : List Char) : Option (Nat × List Char) :=
  let based (base : Nat) (isDigit : Char → Bool) (rest : List Char) : Option (Nat × List Char) :=
    let digits := match rest with
      | '_' :: cs => '_' :: digitRun isDigit cs
      | cs => digitRun isDigit cs
    if digits.isEmpty || digits = ['_'] then none
    else some (valueOf base digits, rest.drop digits.length)
  let zeros : Option (Nat × List Char) :=
    some (0, text.drop (digitRun (· = '0') text).length)
  match text with
  | '0' :: c :: cs =>
    let found := match c.toLower with
      | 'b' => based 2 (fun d => d = '0' || d = '1') cs
      | 'o' => based 8 (fun d => '0' ≤ d && d ≤ '7') cs
      | 'x' => based 16 isHexDigit cs
      | _ => none
    found.or zeros
  | '0' :: _ => zeros
  | _ =>
    let digits := digitRun Text.isDigit text
    if digits.isEmpty then none else some (valueOf 10 digits, text.drop digits.length)

def stringBody (quote : Char) : List Char → Option (List Char × List Char)
  | [] => none
  | '\\' :: c :: cs =>
    (stringBody quote cs).map fun (body, rest) => ('\\' :: c :: body, rest)
  | c :: cs =>
    if c = quote then some ([], cs)
    else if c = '\\' then none
    else (stringBody quote cs).map fun (body, rest) => (c :: body, rest)

def simpleEscapes : List (Char × Char) :=
  [('\\', '\\'), ('\'', '\''), ('"', '"'), ('a', '\x07'), ('b', '\x08'), ('f', '\x0c'),
   ('n', '\n'), ('r', '\r'), ('t', '\t'), ('v', '\x0b')]

/-- Works out the escapes in a string; `none` when one of them is cut short or names no character. A
backslash in front of a character beyond ASCII makes that character's own escape plain text. -/
def unescape : (fuel : Nat) → List Char → Option (List Char)
  | 0, _ => some []
  | fuel + 1, text =>
    let coded (width : Nat) (rest : List Char) : Option (List Char) := do
      let digits := rest.take width
      if digits.length = width ∧ digits.all isHexDigit then
        let code := valueOf 16 digits
        if code > 0x10FFFF then none
        else return Char.ofNat code :: (← unescape fuel (rest.drop width))
      else none
    match text with
    | [] => some []
    | '\\' :: '\n' :: cs => unescape fuel cs
    | '\\' :: 'x' :: cs => coded 2 cs
    | '\\' :: 'u' :: cs => coded 4 cs
    | '\\' :: 'U' :: cs => coded 8 cs
    | '\\' :: 'N' :: cs => do
      let (name, rest) ← Text.cutList? ['\x7d'] (← Text.dropStart? ['\x7b'] cs)
      return (← Text.CharName.ofName? name) :: (← unescape fuel rest)
    | '\\' :: c :: cs =>
      if '0' ≤ c ∧ c ≤ '7' then
        let digits := ((c :: cs).take 3).takeWhile fun d => '0' ≤ d && d ≤ '7'
        (unescape fuel ((c :: cs).drop digits.length)).map (Char.ofNat (valueOf 8 digits) :: ·)
      else
        match simpleEscapes.lookup c with
        | some d => (unescape fuel cs).map (d :: ·)
        | none =>
          let kept := if c.toNat < 0x80 then ['\\', c] else Text.codeEscape c
          (unescape fuel cs).map (kept ++ ·)
    | c :: cs => (unescape fuel cs).map (c :: ·)

def signs : List String :=
  ["//", "**", "==", "!=", ">=", "<=", "+", "-", "/", "*", "%", "~", "[", "]", "(", ")", "\x7b",
   "\x7d", ">", "<", "=", ".", ":", "|", ",", ";"]

def closing : List (String × String) := [("(", ")"), ("[", "]"), ("\x7b", "\x7d")]

/-- The token ahead inside a tag. `afterDot` tells that a dot stands right before, after which a
number has no fraction. -/
def inner (afterDot : Bool) (text : List Char) : Except Failure (Token × List Char) :=
  match (if afterDot then none else float? text), int? text with
  | some (x, rest), _ => .ok (.float x, rest)
  | none, some (n, rest) =>
    let count := Number.digitCount text
    if count ≤ Number.digitLimit then .ok (.int n, rest)
    else .error (.misuse (.tooManyDigits (some count)))
  | none, none =>
    match text with
    | [] => .error .templateMalformed
    | c :: cs =>
      if Text.isIdentifierContinue c then
        let name := text.takeWhile Text.isIdentifierContinue
        if Text.isIdentifierList name then
          .ok (.name (String.ofList name), text.drop name.length)
        else .error .templateMalformed
      else if c = '\'' ∨ c = '"' then
        match stringBody c cs with
        | none => .error .templateMalformed
        | some (body, rest) =>
          match unescape (body.length + 1) body with
          | some s => .ok (.text (String.ofList s), rest)
          | none => .error .templateMalformed
      else
        match signs.findSome? fun sign =>
          (Text.dropStart? sign.toList text).map ((Token.sign sign, ·)) with
        | some found => .ok found
        | none => .error .templateMalformed

def owedAfter (brackets : List String) : Token → Except Failure (List String)
  | .sign sign =>
    match closing.lookup sign with
    | some close => .ok (close :: brackets)
    | none =>
      if closing.any fun (_, close) => close = sign then
        match brackets with
        | owed :: brackets => if owed = sign then .ok brackets else .error .templateMalformed
        | [] => .error .templateMalformed
      else .ok brackets
  | _ => .ok brackets

/-- The tokens of a text in a mode; `brackets` are the closing brackets that are owed. -/
def scan (mode : Mode) (brackets : List String) (afterDot : Bool) :
    (fuel : Nat) → List Char → Except Failure (List Placed)
  | 0, _ => .error .templateMalformed
  | fuel + 1, text => do
    match mode with
    | .text =>
      match searchFrom opening? [] text with
      | none => return dataBefore false text.reverse text
      | some (before, (opening, strips), rest) =>
        let data := dataBefore strips before text
        match opening with
        | .print =>
          return data ++ ⟨.printBegin, rest⟩ :: (← scan .print [] false fuel rest)
        | .tag => return data ++ ⟨.tagBegin, rest⟩ :: (← scan .tag [] false fuel rest)
        | .comment =>
          match searchFrom (fun t => (end? closeComment true t).map ((), ·)) [] rest with
          | none => .error .templateMalformed
          | some (_, _, rest) => return data ++ (← scan .text [] false fuel rest)
        | .raw =>
          match searchFrom rawEnd? [] rest with
          | none => .error .templateMalformed
          | some (inside, strips, after) =>
            return data ++ dataBefore strips inside rest ++ (← scan .text [] false fuel after)
    | _ =>
      let ended :=
        if brackets.isEmpty then
          if mode = .print then end? closePrint false text else end? closeTag true text
        else none
      match ended with
      | some rest =>
        let token := if mode = .print then Token.printEnd else .tagEnd
        return ⟨token, text⟩ :: (← scan .text [] false fuel rest)
      | none =>
        match text with
        | [] => return []
        | c :: cs =>
          if Text.isBlank c then scan mode brackets false fuel (cs.dropWhile Text.isBlank)
          else
            let (token, rest) ← inner afterDot text
            let brackets ← owedAfter brackets token
            let afterDot := match token with
              | .sign "." => true
              | _ => false
            return ⟨token, text⟩ :: (← scan mode brackets afterDot fuel rest)

def tokens (source : String) : Except Failure (List Placed) :=
  let text := Text.unifyLinesList source.toList
  scan .text [] false (text.length + 2) text

end Codegen.Template
