import Codegen.Text.Basic

/-!
Halves of pairs: the code points by two of which UTF-16 writes one character. No text holds them. A
document can name one by its number; what is made of it are bytes, in which a half is encoded like a
character.
-/

namespace Codegen.Text

def halfBase : Nat := 0xD800

def halfCount : Nat := 0x800

def isHalf (code : Nat) : Bool := halfBase ≤ code && code < halfBase + halfCount

def halfBytes (code : Nat) : List UInt8 :=
  [0xED, (0x80 + code / 64 % 64).toUInt8, (0x80 + code % 64).toUInt8]

def withoutHalves : List UInt8 → List UInt8
  | 0xED :: b :: c :: rest =>
    if 0xA0 ≤ b && b < 0xC0 && 0x80 ≤ c && c < 0xC0 then 0x3F :: withoutHalves rest
    else 0xED :: withoutHalves (b :: c :: rest)
  | b :: rest => b :: withoutHalves rest
  | [] => []

def isHalved (bytes : List UInt8) : Bool :=
  let whole := withoutHalves bytes
  whole.length ≠ bytes.length && (String.fromUTF8? ⟨whole.toArray⟩).isSome

end Codegen.Text
