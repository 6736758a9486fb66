import Codegen.Number.FloatText
import Codegen.Text.Basic
import Codegen.Value.Calendar

/-!
The type of a plain scalar by its spelling.
-/

namespace Codegen.Yaml

inductive ScalarKind
  | boolean
  | real
  | integer
  | merge
  | null
  | timestamp
  | defaultValue
  | text
  deriving Repr, DecidableEq

def booleanWords : List (String × Bool) :=
  [("yes", true), ("no", false), ("true", true), ("false", false), ("on", true), ("off", false)]

def spellings (word : String) : List String :=
  let capital (c : Char) : Char := c.toUpper
  match word.toList with
  | [] => [word]
  | c :: cs => [word, String.ofList (capital c :: cs), String.ofList ((c :: cs).map capital)]

def isBoolean (text : String) : Bool := booleanWords.any fun (word, _) => text ∈ spellings word

def isNull (text : String) : Bool := text = "" || text = "~" || text ∈ spellings "null"

def dropSign : List Char → List Char
  | '+' :: cs => cs
  | '-' :: cs => cs
  | cs => cs

def isDigitOrGap (c : Char) : Bool := Text.isDigit c || c = '_'

def isGrouped : List Char → Bool
  | [] => false
  | c :: cs => Text.isDigit c && cs.all isDigitOrGap

def isSixtieth (part : List Char) : Bool :=
  match part with
  | [a] => Text.isDigit a
  | [a, b] => '0' ≤ a && a ≤ '5' && Text.isDigit b
  | _ => false

def isInteger (text : List Char) : Bool :=
  let unsigned := dropSign text
  match unsigned with
  | [] => false
  | '0' :: 'b' :: digits =>
    !digits.isEmpty && digits.all fun c => c = '0' || c = '1' || c = '_'
  | '0' :: 'x' :: digits =>
    !digits.isEmpty && digits.all fun c =>
      isDigitOrGap c || ('a' ≤ c && c ≤ 'f') || ('A' ≤ c && c ≤ 'F')
  | '0' :: digits => digits.all fun c => ('0' ≤ c && c ≤ '7') || c = '_'
  | c :: _ =>
    '1' ≤ c && c ≤ '9' &&
      match Text.splitList [':'] unsigned with
      | [] => false
      | first :: parts => isGrouped first && parts.all isSixtieth

def isExponent : List Char → Bool
  | [] => true
  | e :: sign :: digits =>
    (e = 'e' || e = 'E') && (sign = '+' || sign = '-') && !digits.isEmpty && digits.all Text.isDigit
  | _ => false

def isReal (text : List Char) : Bool :=
  let unsigned := dropSign text
  let signed := unsigned.length ≠ text.length
  let named (words : List String) (t : List Char) : Bool := words.contains (String.ofList t)
  let fraction (t : List Char) : Bool := isExponent (t.dropWhile isDigitOrGap)
  match unsigned with
  | '.' :: rest =>
    named ["inf", "Inf", "INF"] rest
      || (!signed && (named ["nan", "NaN", "NAN"] rest
        || (rest.head?.any Text.isDigit && fraction rest)))
  | _ =>
    match Text.cutList? ['.'] unsigned with
    | none => false
    | some (whole, rest) =>
      (isGrouped whole && fraction rest) ||
        match Text.splitList [':'] whole with
        | first :: part :: parts =>
          isGrouped first && (part :: parts).all isSixtieth && rest.all isDigitOrGap
        | _ => false

structure Timestamp where
  year : List Char
  month : List Char
  day : List Char
  time : Option (List Char × List Char × List Char × List Char)
  zone : Option (Option (Bool × List Char × List Char))

def takeDigits? (least most : Nat) (text : List Char) : Option (List Char × List Char) :=
  let digits := (text.take most).takeWhile Text.isDigit
  if digits.length < least then none else some (digits, text.drop digits.length)

def dropChar? (c : Char) : List Char → Option (List Char)
  | d :: cs => if c = d then some cs else none
  | [] => none

def isGap (c : Char) : Bool := c = ' ' || c = '\t'

def zone? (text : List Char) : Option (Option (Option (Bool × List Char × List Char))) :=
  match text.dropWhile isGap with
  | [] => if text.isEmpty then some none else none
  | 'Z' :: rest => if rest.isEmpty then some (some none) else none
  | sign :: rest =>
    if sign = '+' ∨ sign = '-' then do
      let (hours, rest) ← takeDigits? 1 2 rest
      match rest with
      | [] => some (some (some (sign = '-', hours, [])))
      | ':' :: rest =>
        let (minutes, rest) ← takeDigits? 2 2 rest
        if rest.isEmpty then some (some (some (sign = '-', hours, minutes))) else none
      | _ => none
    else none

def timestamp? (text : List Char) : Option Timestamp := do
  let (year, rest) ← takeDigits? 4 4 text
  let (month, rest) ← takeDigits? 1 2 (← dropChar? '-' rest)
  let (day, rest) ← takeDigits? 1 2 (← dropChar? '-' rest)
  if rest.isEmpty then return ⟨year, month, day, none, none⟩
  let rest ← match rest with
    | c :: cs =>
      if c = 'T' ∨ c = 't' then some cs
      else if isGap c then some (cs.dropWhile isGap)
      else none
    | [] => none
  let (hour, rest) ← takeDigits? 1 2 rest
  let (minute, rest) ← takeDigits? 2 2 (← dropChar? ':' rest)
  let (second, rest) ← takeDigits? 2 2 (← dropChar? ':' rest)
  let (fraction, rest) := match rest with
    | '.' :: cs => (cs.takeWhile Text.isDigit, cs.dropWhile Text.isDigit)
    | cs => ([], cs)
  let zone ← zone? rest
  return ⟨year, month, day, some (hour, minute, second, fraction), zone⟩

def isTimestamp (text : List Char) : Bool :=
  match timestamp? text with
  | none => false
  | some t => t.time.isSome || (t.month.length = 2 && t.day.length = 2)

def isNumberStart (c : Char) : Bool := Text.isDigit c || c = '+' || c = '-' || c = '.'

def scalarKind (text : String) : ScalarKind :=
  let cs := text.toList
  if isBoolean text then .boolean
  else if isNull text then .null
  else if text = "<<" then .merge
  else if text = "=" then .defaultValue
  else if !cs.head?.any isNumberStart then .text
  else if isReal cs then .real
  else if isInteger cs then .integer
  else if isTimestamp cs then .timestamp
  else .text

def spelledKind (text : String) : ScalarKind :=
  match scalarKind text with
  | .text =>
    let body := Text.dropEnd 1 text
    if Text.hasEnd "\n" text && body ≠ "" then scalarKind body else .text
  | kind => kind

end Codegen.Yaml
