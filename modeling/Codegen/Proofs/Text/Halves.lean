import Codegen.Text.Halves
import Mathlib.Tactic.Common

/-!
Bytes that encode a text have no halves of pairs in them: after a byte that starts a half there, the
next one is too small for it.
-/

namespace Codegen.Text

theorem withoutHalves_cons_of_ne {b : UInt8} (h : b ≠ 0xED) (rest : List UInt8) :
    withoutHalves (b :: rest) = b :: withoutHalves rest := by
  rw [withoutHalves]
  rintro _ _ _ rfl
  exact absurd rfl h

theorem withoutHalves_cons_of_lt {b c : UInt8} (h : b < 0xA0) (rest : List UInt8) :
    withoutHalves (0xED :: b :: c :: rest) = 0xED :: withoutHalves (b :: c :: rest) := by
  rw [withoutHalves, if_neg]
  simp [UInt8.not_le.mpr h]

theorem withoutHalves_ofNat {n : Nat} (hn : n < 256) (h : n ≠ 237) (rest : List UInt8) :
    withoutHalves (UInt8.ofNat n :: rest) = UInt8.ofNat n :: withoutHalves rest := by
  refine withoutHalves_cons_of_ne (fun heq => h ?_) rest
  have hsame := congrArg UInt8.toNat heq
  rwa [UInt8.toNat_ofNat_of_lt' hn] at hsame

theorem withoutHalves_continuation {n : Nat} (h : n < 64) (rest : List UInt8) :
    withoutHalves (UInt8.ofNat (n + 128) :: rest) = UInt8.ofNat (n + 128) :: withoutHalves rest :=
  withoutHalves_ofNat (by omega) (by omega) rest

theorem withoutHalves_encoded (c : Char) (rest : List UInt8) :
    withoutHalves (String.utf8EncodeChar c ++ rest) = String.utf8EncodeChar c ++ withoutHalves rest := by
  have hvalid : c.val.toNat < 55296 ∨ 57343 < c.val.toNat ∧ c.val.toNat < 1114112 := c.valid
  have hbelow : ∀ n : Nat, n % 64 < 64 := fun n => Nat.mod_lt n (by decide)
  rw [String.utf8EncodeChar]
  generalize c.val.toNat = v at hvalid
  split_ifs with hone htwo hthree
  · exact withoutHalves_ofNat (by omega) (by omega) rest
  · simp only [List.cons_append, List.nil_append]
    rw [withoutHalves_ofNat (by omega) (by omega),
      withoutHalves_continuation (hbelow v)]
  · simp only [List.cons_append, List.nil_append]
    by_cases hhigh : v / 4096 = 13
    · have hlead : UInt8.ofNat (v / 4096 % 16 + 224) = 0xED := by
        rw [hhigh]
        rfl
      have hsmall : UInt8.ofNat (v / 64 % 64 + 128) < 0xA0 := by
        have hbound : v / 64 % 64 + 128 < 160 := by omega
        rw [UInt8.lt_iff_toNat_lt, UInt8.toNat_ofNat_of_lt' (Nat.lt_trans hbound (by decide))]
        exact hbound
      rw [hlead, withoutHalves_cons_of_lt hsmall, withoutHalves_continuation (hbelow _),
        withoutHalves_continuation (hbelow v)]
    · rw [withoutHalves_ofNat (by omega) (by omega),
        withoutHalves_continuation (hbelow _), withoutHalves_continuation (hbelow v)]
  · simp only [List.cons_append, List.nil_append]
    rw [withoutHalves_ofNat (by omega) (by omega),
      withoutHalves_continuation (hbelow _), withoutHalves_continuation (hbelow _),
      withoutHalves_continuation (hbelow v)]

theorem withoutHalves_encoding (cs : List Char) :
    withoutHalves (cs.flatMap String.utf8EncodeChar) = cs.flatMap String.utf8EncodeChar := by
  induction cs with
  | nil => rfl
  | cons c cs ih => rw [List.flatMap_cons, withoutHalves_encoded, ih]

theorem isHalved_of_fromUTF8? {bytes : List UInt8} {s : String}
    (h : String.fromUTF8? ⟨bytes.toArray⟩ = some s) : isHalved bytes = false := by
  rw [String.fromUTF8?] at h
  split at h
  · next hvalid =>
    obtain ⟨cs, hcs⟩ := hvalid
    have hbytes : bytes = cs.flatMap String.utf8EncodeChar := by
      have := congrArg (fun b : ByteArray => b.data.toList) hcs
      simpa [List.utf8Encode] using this
    rw [isHalved, hbytes, withoutHalves_encoding]
    simp
  · cases h

end Codegen.Text
