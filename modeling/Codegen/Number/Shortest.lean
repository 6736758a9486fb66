/-!
The shortest decimal that reads back as a given binary floating point number: of the decimal grids
with one, two, … seventeen digits, the first that has a point among the reals which round to the
number, and on it the point nearest to the number.
-/

namespace Codegen.Number

/-- A finite magnitude `significand · 2 ^ exponent`. -/
structure Binary where
  significand : Nat
  exponent : Int
  /-- Whether the next smaller magnitude is half as far away as the next larger one. -/
  atBoundary : Bool
  deriving Repr, DecidableEq

/-- A decimal `digits · 10 ^ exponent`. -/
structure Decimal where
  digits : Nat
  exponent : Int
  deriving Repr, DecidableEq

def twoTo (n : Nat) : Nat := Nat.pow 2 n

def tenTo (n : Nat) : Nat := Nat.pow 10 n

structure BitFields where
  isNegative : Bool
  biasedExponent : Nat
  fraction : Nat
  deriving Repr, DecidableEq

namespace BitFields

def ofBits (bits : UInt64) : BitFields :=
  let n := bits.toNat
  ⟨n / twoTo 63 == 1, n / twoTo 52 % twoTo 11, n % twoTo 52⟩

def isFinite (fields : BitFields) : Bool := fields.biasedExponent != 2047

def signed (fields : BitFields) (magnitude : Nat) : Int :=
  if fields.isNegative then -(magnitude : Int) else (magnitude : Int)

end BitFields

namespace Binary

def ofFields (fields : BitFields) : Binary :=
  if fields.biasedExponent = 0 then ⟨fields.fraction, -1074, false⟩
  else
    ⟨fields.fraction + twoTo 52, (fields.biasedExponent : Int) - 1075,
      fields.fraction == 0 && fields.biasedExponent != 1⟩

/-- The numerators, over one denominator, of the number and of the ends of the interval of reals
that round to it. -/
structure Interval where
  low : Nat
  middle : Nat
  high : Nat
  denominator : Nat
  closed : Bool

def interval (x : Binary) : Interval :=
  let low := 4 * x.significand - (if x.atBoundary then 1 else 2)
  let middle := 4 * x.significand
  let high := 4 * x.significand + 2
  let closed := x.significand % 2 = 0
  if x.exponent ≥ 2 then
    let scale := twoTo (x.exponent - 2).toNat
    ⟨low * scale, middle * scale, high * scale, 1, closed⟩
  else
    ⟨low, middle, high, twoTo (2 - x.exponent).toNat, closed⟩

def leadingExponent (numerator denominator : Nat) : Int :=
  if numerator ≥ denominator then (Nat.toDigits 10 (numerator / denominator)).length - 1
  else -(Nat.toDigits 10 (denominator / numerator)).length

/-- The grid point of spacing `10 ^ exponent` nearest to the number, if one lies in the interval. -/
def gridPoint? (i : Interval) (exponent : Int) : Option Decimal :=
  let up := tenTo (-exponent).toNat
  let unit := i.denominator * tenTo exponent.toNat
  let below := i.middle * up / unit
  let inside (point : Nat) : Bool :=
    if i.closed then i.low * up ≤ point * unit && point * unit ≤ i.high * up
    else i.low * up < point * unit && point * unit < i.high * up
  let above := below + 1
  let offset := i.middle * up - below * unit
  let nearer :=
    if 2 * offset < unit then below
    else if 2 * offset > unit then above
    else if below % 2 = 0 then below else above
  let other := if nearer = below then above else below
  if inside nearer then some ⟨nearer, exponent⟩
  else if inside other then some ⟨other, exponent⟩
  else none

def shortestFrom (i : Interval) (leading : Int) : (count fuel : Nat) → Decimal
  | _, 0 => ⟨i.middle / i.denominator, 0⟩
  | count, fuel + 1 =>
    match gridPoint? i (leading - count + 1) with
    | some point => point
    | none => shortestFrom i leading (count + 1) fuel

def trim (digits : Nat) (exponent : Int) : (fuel : Nat) → Decimal
  | 0 => ⟨digits, exponent⟩
  | fuel + 1 =>
    if digits ≠ 0 ∧ digits % 10 = 0 then trim (digits / 10) (exponent + 1) fuel
    else ⟨digits, exponent⟩

def shortest (x : Binary) : Decimal :=
  if x.significand = 0 then ⟨0, 0⟩
  else
    let i := x.interval
    let point := shortestFrom i (leadingExponent i.middle i.denominator) 1 17
    trim point.digits point.exponent 20

end Binary

end Codegen.Number
