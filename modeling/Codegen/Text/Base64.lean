import Codegen.Text.Basic

/-! Bytes from base 64 text; characters outside the alphabet are passed over. -/

namespace Codegen.Text

def base64Digit? (c : Char) : Option Nat :=
  if isUpperLetter c then some (c.toNat - 'A'.toNat)
  else if isLowerLetter c then some (c.toNat - 'a'.toNat + 26)
  else if isDigit c then some (c.toNat - '0'.toNat + 52)
  else if c = '+' then some 62
  else if c = '/' then some 63
  else none

/-- Decodes the text ahead. `pending` holds the bits of `count` digits of a group of four, and
`pads` the number of padding characters since the last digit. -/
def decodeBase64From (pending count pads : Nat) : List Char → Option (List UInt8)
  | [] => if count = 0 then some [] else none
  | '=' :: cs =>
    if count ≥ 2 ∧ count + pads + 1 ≥ 4 then some []
    else decodeBase64From pending count (pads + 1) cs
  | c :: cs =>
    match base64Digit? c with
    | none => decodeBase64From pending count pads cs
    | some digit =>
      let bits := pending * 64 + digit
      match count with
      | 0 => decodeBase64From digit 1 0 cs
      | 1 => (decodeBase64From (bits % 16) 2 0 cs).map ((bits / 16).toUInt8 :: ·)
      | 2 => (decodeBase64From (bits % 4) 3 0 cs).map ((bits / 4).toUInt8 :: ·)
      | _ => (decodeBase64From 0 0 0 cs).map (bits.toUInt8 :: ·)

def decodeBase64? (text : String) : Option (List UInt8) := decodeBase64From 0 0 0 text.toList

end Codegen.Text
