import Codegen.Number.FloatText
import Codegen.Text.Basic
import Codegen.Text.Blank

/-!
Reading numbers, in decimal and in other bases.
-/

namespace Codegen.Number

/-! Decimal digits of all scripts (the Unicode category `Nd`). Each script has its ten in a row. -/

def zeroCodes : List Nat :=
  [0x30, 0x660, 0x6F0, 0x7C0, 0x966, 0x9E6, 0xA66, 0xAE6, 0xB66, 0xBE6, 0xC66, 0xCE6, 0xD66, 0xDE6,
   0xE50, 0xED0, 0xF20, 0x1040, 0x1090, 0x17E0, 0x1810, 0x1946, 0x19D0, 0x1A80, 0x1A90, 0x1B50,
   0x1BB0, 0x1C40, 0x1C50, 0xA620, 0xA8D0, 0xA900, 0xA9D0, 0xA9F0, 0xAA50, 0xABF0, 0xFF10,
   0x104A0, 0x10D30, 0x11066, 0x110F0, 0x11136, 0x111D0, 0x112F0, 0x11450, 0x114D0, 0x11650,
   0x116C0, 0x11730, 0x118E0, 0x11950, 0x11C50, 0x11D50, 0x11DA0, 0x16A60, 0x16AC0, 0x16B50,
   0x1D7CE, 0x1D7D8, 0x1D7E2, 0x1D7EC, 0x1D7F6, 0x1E140, 0x1E2F0, 0x1E950, 0x1FBF0]

def digitValue? (c : Char) : Option Nat :=
  zeroCodes.findSome? fun first =>
    if first ≤ c.toNat && c.toNat < first + 10 then some (c.toNat - first) else none

def plainDigit (c : Char) : Char :=
  match digitValue? c with
  | some n => Char.ofNat ('0'.toNat + n)
  | none => c

def ungroup? (isDigit : Char → Bool) : List Char → Option (List Char)
  | [] => some []
  | '_' :: c :: cs => if isDigit c then (ungroup? isDigit cs).map (c :: ·) else none
  | ['_'] => none
  | c :: cs => (ungroup? isDigit cs).map (c :: ·)

def signed (text : List Char) : Bool × List Char :=
  match text with
  | '-' :: cs => (true, cs)
  | '+' :: cs => (false, cs)
  | cs => (false, cs)

def digitLimit : Nat := 4300

def baseLetters : List (Nat × Char) := [(2, 'b'), (8, 'o'), (16, 'x')]

def dropBase (base : Nat) (digits : List Char) : List Char :=
  match digits with
  | '0' :: c :: rest =>
    if baseLetters.lookup base = some c.toLower then
      match rest with
      | '_' :: rest => rest
      | rest => rest
    else digits
  | digits => digits

def parseInt? (base : Nat) (text : String) : Option Int := do
  let (negative, digits) := signed ((Text.stripList text.toList).map plainDigit)
  let digits := dropBase base digits
  if digits.head? = some '_' then failure
  let digits ← ungroup? (· ≠ '_') digits
  if base = 10 ∧ digitLimit < digits.length then failure
  let n ← Text.digits? base digits
  return if negative then -(n : Int) else n

def digitCount (text : List Char) : Nat :=
  let (_, digits) := signed ((text.dropWhile Text.isBlank).map plainDigit)
  ((digits.takeWhile fun c => Text.isDigit c || c = '_').filter Text.isDigit).length

def exponent? : List Char → Option Int
  | [] => some 0
  | e :: rest =>
    if e = 'e' ∨ e = 'E' then do
      let (negative, digits) := signed rest
      let n ← Text.digits? 10 digits
      return if negative then -(n : Int) else n
    else none

def parseMagnitude? (text : List Char) : Option Float := do
  let whole := text.takeWhile Text.isDigit
  let rest := text.dropWhile Text.isDigit
  let (fraction, rest) := match rest with
    | '.' :: cs => (cs.takeWhile Text.isDigit, cs.dropWhile Text.isDigit)
    | cs => ([], cs)
  let digits ← Text.digits? 10 (whole ++ fraction)
  let exponent ← exponent? rest
  return floatOfDecimal digits (exponent - fraction.length)

/-- A number as it may be written anywhere: decimal, or a word for infinity or for no number. -/
def parseFloat? (text : String) : Option Float := do
  let (negative, digits) := signed ((Text.stripList text.toList).map plainDigit)
  let word := String.ofList (digits.map Char.toLower)
  let magnitude ←
    if word = "inf" ∨ word = "infinity" then some (1.0 / 0.0)
    else if word = "nan" then some (0.0 / 0.0)
    else
      if digits.head? = some '_' then none
      else parseMagnitude? (← ungroup? Text.isDigit digits)
  return if negative then -magnitude else magnitude

end Codegen.Number
