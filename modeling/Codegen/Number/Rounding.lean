import Codegen.Number.FloatText
import Codegen.Text.Basic

/-!
Rounding of exact values: quotients to integers, floating point numbers to a number of decimal
places or of significant digits, and quotients to floating point numbers. A tie goes to the even
neighbour.
-/

namespace Codegen.Number

def roundedQuotient (numerator denominator : Nat) : Nat :=
  let below := numerator / denominator
  let rest := numerator % denominator
  if 2 * rest < denominator then below
  else if 2 * rest > denominator then below + 1
  else if below % 2 = 0 then below
  else below + 1

namespace Binary

def fraction (x : Binary) : Nat × Nat :=
  (x.significand * twoTo x.exponent.toNat, twoTo (-x.exponent).toNat)

def toPlaces (x : Binary) (places : Nat) : Nat :=
  let (numerator, denominator) := x.fraction
  roundedQuotient (numerator * tenTo places) denominator

def toDigits (x : Binary) (count : Nat) : Decimal :=
  if x.significand = 0 then ⟨0, 1 - count⟩
  else
    let (numerator, denominator) := x.fraction
    let exponent := leadingExponent numerator denominator - count + 1
    let digits :=
      roundedQuotient (numerator * tenTo (-exponent).toNat) (denominator * tenTo exponent.toNat)
    if tenTo count ≤ digits then ⟨digits / 10, exponent + 1⟩ else ⟨digits, exponent⟩

end Binary

def bitLength (n : Nat) : Nat := if n = 0 then 0 else n.log2 + 1

def floatOfQuotient (numerator denominator : Nat) : Float :=
  let estimate : Int := bitLength numerator - bitLength denominator
  let reaches : Bool :=
    denominator * twoTo estimate.toNat ≤ numerator * twoTo (-estimate).toNat
  let leading := if reaches then estimate else estimate - 1
  let unit := max (leading - 52) (-1074)
  if leading > 1024 then 1.0 / 0.0
  else
    let significand :=
      roundedQuotient (numerator * twoTo (-unit).toNat) (denominator * twoTo unit.toNat)
    (Float.ofNat significand).scaleB unit

def compareInt? (n : Int) (x : Float) : Option Ordering :=
  let fields := BitFields.ofBits x.toBits
  if fields.isFinite then
    let (numerator, denominator) := (Binary.ofFields fields).fraction
    some (compare (n * denominator) (fields.signed numerator))
  else if fields.fraction ≠ 0 then none
  else some (if fields.isNegative then .gt else .lt)

/-!
Texts of floating point numbers of a chosen precision: with a number of decimal places, with a power
of ten behind a number of digits, or in the shorter way of the two.
-/

inductive FloatForm
  | places
  | power
  | shorter
  deriving Repr, DecidableEq, Inhabited

/-- Puts the point before the last digits, of which there are `places`. A point without digits
behind it is written only where `keeps` asks for it. -/
def pointed (keeps : Bool) (places : Nat) (digits : Nat) : String :=
  let digits := Nat.toDigits 10 digits
  let digits := List.replicate (places + 1 - digits.length) '0' ++ digits
  let whole := digits.length - places
  String.ofList (digits.take whole)
    ++ (if places = 0 then (if keeps then "." else "")
      else "." ++ String.ofList (digits.drop whole))

def powered (keeps : Bool) (places : Nat) (x : Decimal) : String :=
  pointed keeps places x.digits ++ valueFormat.exponentText (x.exponent + places)

/-- A decimal without the zeros at its end, written with a power of ten when its leading digit
stands for less than `1e-4` or for more than all the digits that were asked for. -/
def shorterText (keeps : Bool) (precision : Nat) (x : Decimal) : String :=
  let leading := x.exponent + (precision - 1 : Nat)
  let kept := if keeps then x else Binary.trim x.digits x.exponent precision
  let count := if kept.digits = 0 then 1 else (Nat.toDigits 10 kept.digits).length
  if x.digits = 0 then pointed keeps (if keeps then precision - 1 else 0) 0
  else if leading < -4 ∨ (precision : Int) ≤ leading then
    pointed keeps (count - 1) kept.digits ++ valueFormat.exponentText leading
  else if kept.exponent < 0 then pointed keeps (-kept.exponent).toNat kept.digits
  else pointed keeps 0 (kept.digits * tenTo kept.exponent.toNat)

def FloatForm.text (way : FloatForm) (keeps : Bool) (precision : Nat) (x : Float) : String :=
  let fields := BitFields.ofBits x.toBits
  let sign := if fields.isNegative then "-" else ""
  let b := Binary.ofFields fields
  if fields.isFinite then
    sign ++ match way with
      | places => pointed keeps precision (b.toPlaces precision)
      | power => powered keeps precision (b.toDigits (precision + 1))
      | shorter =>
        let precision := max precision 1
        shorterText keeps precision (b.toDigits precision)
  else if fields.fraction = 0 then sign ++ "inf"
  else "nan"

end Codegen.Number
