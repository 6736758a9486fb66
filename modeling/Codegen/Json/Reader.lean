import Codegen.Failure.Basic
import Codegen.Number.Literal

/-!
Values of JSON texts. A reader takes the text ahead and returns what it read with the rest, which is
no longer than before.
-/

namespace Codegen.Json

def isSpace (c : Char) : Bool := c = ' ' || c = '\t' || c = '\n' || c = '\r'

def skipSpace (text : List Char) : List Char := text.dropWhile isSpace

abbrev Read (α : Type) := Except Unreadable (α × List Char)

def fail {α : Type} : Except Unreadable α := .error .json

def fourDigits? (text : List Char) : Option (Nat × List Char) :=
  if (text.take 4).length = 4 then (Text.digits? 16 (text.take 4)).map (·, text.drop 4) else none

/-- What stands for half of a pair on its own, which no text holds. A name with it is that of nothing. -/
def loneHalf : Char := '\x00'

/-- The character of an escape that names its code, two of them for a character outside the first
plane. -/
def codeEscape (text : List Char) : Read Char :=
  match fourDigits? text with
  | none => fail
  | some (high, rest) =>
    if 0xD800 ≤ high ∧ high < 0xDC00 then
      match rest with
      | '\\' :: 'u' :: more =>
        match fourDigits? more with
        | some (low, rest') =>
          if 0xDC00 ≤ low ∧ low < 0xE000 then
            .ok (Char.ofNat (0x10000 + (high - 0xD800) * 0x400 + (low - 0xDC00)), rest')
          else .ok (loneHalf, rest)
        | none => .ok (loneHalf, rest)
      | _ => .ok (loneHalf, rest)
    else if 0xDC00 ≤ high ∧ high < 0xE000 then .ok (loneHalf, rest)
    else .ok (Char.ofNat high, rest)

def escapes : List (Char × Char) :=
  [('"', '"'), ('\\', '\\'), ('/', '/'), ('b', '\x08'), ('f', '\x0c'), ('n', '\n'), ('r', '\r'),
   ('t', '\t')]

def stringRest (done : List Char) : (fuel : Nat) → List Char → Read String
  | 0, _ => fail
  | fuel + 1, text =>
    match text with
    | [] => fail
    | '"' :: rest => .ok (String.ofList done.reverse, rest)
    | '\\' :: 'u' :: rest =>
      match codeEscape rest with
      | .ok (c, rest) => stringRest (c :: done) fuel rest
      | .error e => .error e
    | '\\' :: c :: rest =>
      match escapes.lookup c with
      | some d => stringRest (d :: done) fuel rest
      | none => fail
    | c :: rest => if c.toNat < 32 then fail else stringRest (c :: done) fuel rest

/-- A number: whole when it has neither fraction nor exponent. -/
def number (text : List Char) : Read Value :=
  let (negative, unsigned) := match text with
    | '-' :: cs => (true, cs)
    | cs => (false, cs)
  let whole := match unsigned with
    | '0' :: _ => ['0']
    | cs => cs.takeWhile Text.isDigit
  let rest := unsigned.drop whole.length
  let fraction := match rest with
    | '.' :: cs => cs.takeWhile Text.isDigit
    | _ => []
  let rest := if fraction.isEmpty then rest else rest.drop (fraction.length + 1)
  let exponent : Option (Bool × List Char × List Char) := match rest with
    | e :: cs =>
      if e = 'e' ∨ e = 'E' then
        let (minus, ds) := Number.signed cs
        let digits := ds.takeWhile Text.isDigit
        if digits.isEmpty then none else some (minus, digits, ds.drop digits.length)
      else none
    | [] => none
  match Text.digits? 10 whole with
  | none => fail
  | some n =>
    if fraction.isEmpty ∧ exponent.isNone then
      if Number.digitLimit < whole.length then .error (.misuse (.tooManyDigits (some whole.length)))
      else .ok (.int (if negative then -(n : Int) else n), rest)
    else
      let digits := (Text.digits? 10 (whole ++ fraction)).getD 0
      let (power, rest) : Int × List Char := match exponent with
        | none => (0, rest)
        | some (minus, ds, after) =>
          let p : Int := (Text.digits? 10 ds).getD 0
          (if minus then -p else p, after)
      let x := Number.floatOfDecimal digits (power - fraction.length)
      .ok (.float (if negative then -x else x), rest)

def words : List (String × Value) :=
  [("null", .null), ("true", .bool true), ("false", .bool false), ("NaN", .float (0.0 / 0.0)),
   ("Infinity", .float (1.0 / 0.0)), ("-Infinity", .float (-(1.0 / 0.0)))]

/-- How deep lists and mappings nest at most. The calls under way when a file is read take the rest of what
the language allows. -/
def nestingLimit : Nat := 990

mutual

def value (nesting : Nat) : (fuel : Nat) → List Char → Read Value
  | 0, _ => fail
  | fuel + 1, text =>
    match text with
    | '"' :: rest =>
      match stringRest [] (rest.length + 1) rest with
      | .ok (s, rest) => .ok (.text s, rest)
      | .error e => .error e
    | '[' :: rest =>
      if nesting = 0 then .error .nesting
      else
        match skipSpace rest with
        | ']' :: rest => .ok (.list [], rest)
        | rest =>
          match items (nesting - 1) fuel rest with
          | .ok (vs, rest) => .ok (.list vs, rest)
          | .error e => .error e
    | '\x7b' :: rest =>
      if nesting = 0 then .error .nesting
      else
        match skipSpace rest with
        | '\x7d' :: rest => .ok (.map [], rest)
        | rest =>
          match entries (nesting - 1) fuel rest [] with
          | .ok (es, rest) => .ok (.map es, rest)
          | .error e => .error e
    | text =>
      match words.findSome? fun (word, v) => (Text.dropStart? word.toList text).map (v, ·) with
      | some result => .ok result
      | none => number text

def items (nesting : Nat) : (fuel : Nat) → List Char → Read (List Value)
  | 0, _ => fail
  | fuel + 1, text =>
    match value nesting fuel (skipSpace text) with
    | .error e => .error e
    | .ok (v, rest) =>
      match skipSpace rest with
      | ',' :: rest =>
        match items nesting fuel rest with
        | .ok (vs, rest) => .ok (v :: vs, rest)
        | .error e => .error e
      | ']' :: rest => .ok ([v], rest)
      | _ => fail

def entries (nesting : Nat) : (fuel : Nat) → List Char → List (Value × Value) → Read (List (Value × Value))
  | 0, _, _ => fail
  | fuel + 1, text, done =>
    match skipSpace text with
    | '"' :: rest =>
      match stringRest [] (rest.length + 1) rest with
      | .error e => .error e
      | .ok (key, rest) =>
        match skipSpace rest with
        | ':' :: rest =>
          match value nesting fuel (skipSpace rest) with
          | .error e => .error e
          | .ok (v, rest) =>
            let done := Value.insert (.text key) v done
            match skipSpace rest with
            | ',' :: rest => entries nesting fuel rest done
            | '\x7d' :: rest => .ok (done, rest)
            | _ => fail
        | _ => fail
    | _ => fail

end

def read (text : String) : Except Unreadable Value :=
  match value nestingLimit (text.length + 2) (skipSpace text.toList) with
  | .error e => .error e
  | .ok (v, rest) => if (skipSpace rest).isEmpty then .ok v else fail

end Codegen.Json
