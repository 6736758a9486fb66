import Codegen.Number.Shortest

/-!
Texts of floating point numbers. A number is written with the fewest digits that read back, in
positional form when its leading digit stands for at least `1e-4` and less than `1e16`.
-/

namespace Codegen.Number

structure FloatFormat where
  /-- Least exponent of the leading digit that is written positionally. -/
  leastPositional : Int
  /-- Least exponent of the leading digit that is too large for positional form. -/
  leastScientific : Int
  /-- Least number of digits in a written exponent. -/
  exponentWidth : Nat

def valueFormat : FloatFormat := ⟨-4, 16, 2⟩

namespace FloatFormat

def exponentText (format : FloatFormat) (exponent : Int) : String :=
  let digits := toString exponent.natAbs
  let zeros := String.ofList (List.replicate (format.exponentWidth - digits.length) '0')
  (if exponent < 0 then "e-" else "e+") ++ zeros ++ digits

def decimalText (format : FloatFormat) (x : Decimal) : String :=
  let digits := Nat.toDigits 10 x.digits
  let leading := x.exponent + digits.length - 1
  if x.digits = 0 then "0.0"
  else if leading < format.leastPositional ∨ format.leastScientific ≤ leading then
    let fraction := digits.drop 1
    String.ofList (digits.take 1) ++ (if fraction.isEmpty then "" else "." ++ String.ofList fraction)
      ++ format.exponentText leading
  else if leading < 0 then
    "0." ++ String.ofList (List.replicate (-leading - 1).toNat '0' ++ digits)
  else if x.exponent ≥ 0 then
    String.ofList (digits ++ List.replicate x.exponent.toNat '0') ++ ".0"
  else
    String.ofList (digits.take (leading.toNat + 1)) ++ "."
      ++ String.ofList (digits.drop (leading.toNat + 1))

end FloatFormat

def floatText (x : Float) : String :=
  let fields := BitFields.ofBits x.toBits
  let sign := if fields.isNegative then "-" else ""
  if fields.isFinite then sign ++ valueFormat.decimalText (Binary.ofFields fields).shortest
  else if fields.fraction = 0 then sign ++ "inf"
  else "nan"

def floatOfDecimal (digits : Nat) (exponent : Int) : Float :=
  let leading := exponent + (Nat.toDigits 10 digits).length
  if digits = 0 ∨ leading < -400 then 0.0
  else if leading > 400 then 1.0 / 0.0
  else Float.ofScientific digits (exponent < 0) exponent.natAbs

def floatOfInt (n : Int) : Float :=
  let magnitude := floatOfDecimal n.natAbs 0
  if n < 0 then -magnitude else magnitude

def integerOfFloat? (x : Float) : Option Int :=
  let fields := BitFields.ofBits x.toBits
  let b := Binary.ofFields fields
  if !fields.isFinite then none
  else if b.exponent ≥ 0 then some (fields.signed (b.significand * twoTo b.exponent.toNat))
  else
    let scale := twoTo (-b.exponent).toNat
    if b.significand % scale = 0 then some (fields.signed (b.significand / scale)) else none

def truncate? (x : Float) : Option Int :=
  let fields := BitFields.ofBits x.toBits
  let b := Binary.ofFields fields
  if !fields.isFinite then none
  else if b.exponent ≥ 0 then some (fields.signed (b.significand * twoTo b.exponent.toNat))
  else some (fields.signed (b.significand / twoTo (-b.exponent).toNat))

end Codegen.Number
