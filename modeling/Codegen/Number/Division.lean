import Codegen.Number.Shortest

/-!
Division of floating point numbers with the quotient rounded down. The remainder is computed
exactly, on the significands over a common exponent, and the quotient from what the remainder
leaves.
-/

namespace Codegen.Number

def Binary.remainder (x y : Binary) : Float :=
  let exponent := min x.exponent y.exponent
  let scaled (z : Binary) : Nat := z.significand * twoTo (z.exponent - exponent).toNat
  (Float.ofNat (scaled x % scaled y)).scaleB exponent

def zeroLike (x : Float) : Float := if (BitFields.ofBits x.toBits).isNegative then -0.0 else 0.0

/-- The remainder when the quotient is rounded towards zero: it has the sign of the dividend. -/
def truncatedRemainder (x y : Float) : Float :=
  let fx := BitFields.ofBits x.toBits
  let fy := BitFields.ofBits y.toBits
  if fx.isFinite && fy.isFinite then
    let magnitude := (Binary.ofFields fx).remainder (Binary.ofFields fy)
    if fx.isNegative then -magnitude else magnitude
  else if fx.isFinite && fy.fraction = 0 then x
  else 0.0 / 0.0

def floorDivide (x y : Float) : Float × Float :=
  let rest := truncatedRemainder x y
  let quotient := (x - rest) / y
  let (quotient, rest) :=
    if rest == 0.0 then (quotient, zeroLike y)
    else if decide (y < 0.0) != decide (rest < 0.0) then (quotient - 1.0, rest + y)
    else (quotient, rest)
  if quotient == 0.0 then (zeroLike (x / y), rest)
  else
    let below := quotient.floor
    (if quotient - below > 0.5 then below + 1.0 else below, rest)

end Codegen.Number
