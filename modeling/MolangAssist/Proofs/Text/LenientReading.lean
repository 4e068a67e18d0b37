import Mathlib.Tactic.IntervalCases
import MolangAssist.Text.Utf8

/-!
# Lenient reading of well-formed bytes

A lenient reader replaces ill-formed pieces only. The bytes of a text are read back as the text
itself: the lead byte of a character says how many bytes it owes, each further byte adds six bits
to its code, and the ranges for the first of them refuse none that a character has.
-/
namespace MolangAssist.Text

/-! ## Lead bytes -/

theorem leadByte_ascii {n : Nat} (hn : n < 0x80) : leadByte n = ([Char.ofNat n], none) := by
  rw [leadByte, if_pos hn]

theorem leadByte_two {n : Nat} (hleast : 2 ≤ n) (hn : n < 32) :
    leadByte (n + 192) = ([], some ⟨n, 1, 0x80, 0xBF⟩) := by
  interval_cases n <;> rfl

theorem leadByte_three {n : Nat} (hn : n < 16) :
    leadByte (n + 224) = ([], some ⟨n, 2, if n = 0 then 0xA0 else 0x80,
      if n = 13 then 0x9F else 0xBF⟩) := by
  interval_cases n <;> rfl

theorem leadByte_four {n : Nat} (hn : n ≤ 4) :
    leadByte (n + 240) = ([], some ⟨n, 3, if n = 0 then 0x90 else 0x80,
      if n = 4 then 0x8F else 0xBF⟩) := by
  interval_cases n <;> rfl

/-! ## Characters -/

theorem toNat_ofNat_of_lt {n : Nat} (hn : n < 256) : (UInt8.ofNat n).toNat = n := by
  rw [UInt8.toNat_ofNat']
  omega

theorem decodeLeniently_lead {n : Nat} (hn : n < 256) {shown : List Char}
    {pending : Option Pending} (hlead : leadByte n = (shown, pending)) (bytes : List UInt8) :
    decodeLeniently none (UInt8.ofNat n :: bytes) = shown ++ decodeLeniently pending bytes := by
  rw [decodeLeniently, toNat_ofNat_of_lt hn, hlead]

/-- A byte in range adds its six bits to the code. -/
theorem decodeLeniently_further {code owed least greatest n : Nat} (hn : n < 64)
    (hrange : least ≤ n + 128 ∧ n + 128 ≤ greatest) (bytes : List UInt8) :
    decodeLeniently (some ⟨code, owed, least, greatest⟩) (UInt8.ofNat (n + 128) :: bytes) =
      if owed = 1 then Char.ofNat (code * 64 + n) :: decodeLeniently none bytes
      else decodeLeniently (some ⟨code * 64 + n, owed - 1, 0x80, 0xBF⟩) bytes := by
  have hbyte : (UInt8.ofNat (n + 128)).toNat = n + 128 := toNat_ofNat_of_lt (by omega)
  simp only [decodeLeniently, hbyte, hrange, decide_true, Bool.and_self, if_true,
    Nat.add_sub_cancel, beq_iff_eq]

theorem decodeLeniently_two {a b : Nat} (ha : 2 ≤ a ∧ a < 32) (hb : b < 64)
    (bytes : List UInt8) :
    decodeLeniently none (UInt8.ofNat (a + 192) :: UInt8.ofNat (b + 128) :: bytes) =
      Char.ofNat (a * 64 + b) :: decodeLeniently none bytes := by
  rw [decodeLeniently_lead (by omega) (leadByte_two ha.1 ha.2), List.nil_append,
    decodeLeniently_further hb (by omega), if_pos rfl]

/-- Behind the least lead byte no overlong form is read, and behind that of the surrogates none of
these. -/
theorem decodeLeniently_three {a b c : Nat} (ha : a < 16) (hb : b < 64) (hc : c < 64)
    (hleast : a = 0 → 32 ≤ b) (hsurrogate : a = 13 → b < 32) (bytes : List UInt8) :
    decodeLeniently none (UInt8.ofNat (a + 224) :: UInt8.ofNat (b + 128) ::
        UInt8.ofNat (c + 128) :: bytes) =
      Char.ofNat ((a * 64 + b) * 64 + c) :: decodeLeniently none bytes := by
  rw [decodeLeniently_lead (by omega) (leadByte_three ha), List.nil_append,
    decodeLeniently_further hb (by split_ifs <;> omega), if_neg (by decide),
    decodeLeniently_further hc (by omega), if_pos rfl]

/-- Behind the least lead byte no overlong form is read, and behind the greatest none beyond the
last character. -/
theorem decodeLeniently_four {a b c d : Nat} (ha : a ≤ 4) (hb : b < 64) (hc : c < 64)
    (hd : d < 64) (hleast : a = 0 → 16 ≤ b) (hlast : a = 4 → b < 16) (bytes : List UInt8) :
    decodeLeniently none (UInt8.ofNat (a + 240) :: UInt8.ofNat (b + 128) ::
        UInt8.ofNat (c + 128) :: UInt8.ofNat (d + 128) :: bytes) =
      Char.ofNat (((a * 64 + b) * 64 + c) * 64 + d) :: decodeLeniently none bytes := by
  rw [decodeLeniently_lead (by omega) (leadByte_four ha), List.nil_append,
    decodeLeniently_further hb (by split_ifs <;> omega), if_neg (by decide),
    decodeLeniently_further hc (by omega), if_neg (by decide),
    decodeLeniently_further hd (by omega), if_pos rfl]

theorem decodeLeniently_utf8EncodeChar (c : Char) (bytes : List UInt8) :
    decodeLeniently none (String.utf8EncodeChar c ++ bytes) = c :: decodeLeniently none bytes := by
  have hvalid : c.val.toNat < 0xD800 ∨ 0xDFFF < c.val.toNat ∧ c.val.toNat < 0x110000 := c.valid
  have hchar : Char.ofNat c.val.toNat = c := Char.ofNat_toNat c
  rw [String.utf8EncodeChar]
  generalize c.val.toNat = v at hvalid hchar
  by_cases hone : v ≤ 0x7F
  · rw [if_pos hone, List.singleton_append,
      decodeLeniently_lead (by omega) (leadByte_ascii (by omega)), hchar, List.singleton_append]
  rw [if_neg hone]
  by_cases htwo : v ≤ 0x7FF
  · have hcode : v / 64 % 32 * 64 + v % 64 = v := by omega
    rw [if_pos htwo]
    simp only [List.cons_append, List.nil_append]
    rw [decodeLeniently_two (by omega) (by omega), hcode, hchar]
  rw [if_neg htwo]
  by_cases hthree : v ≤ 0xFFFF
  · have hcode : (v / 4096 % 16 * 64 + v / 64 % 64) * 64 + v % 64 = v := by omega
    rw [if_pos hthree]
    simp only [List.cons_append, List.nil_append]
    rw [decodeLeniently_three (by omega) (by omega) (by omega) (by omega) (by omega), hcode, hchar]
  · have hcode : ((v / 262144 % 8 * 64 + v / 4096 % 64) * 64 + v / 64 % 64) * 64 + v % 64 = v := by
      omega
    rw [if_neg hthree]
    simp only [List.cons_append, List.nil_append]
    rw [decodeLeniently_four (by omega) (by omega) (by omega) (by omega) (by omega) (by omega),
      hcode, hchar]

/-- The bytes of a text are read back as that text. -/
theorem decodeLeniently_utf8 (text : List Char) :
    decodeLeniently none (text.flatMap String.utf8EncodeChar) = text := by
  induction text with
  | nil => rfl
  | cons c cs ih => rw [List.flatMap_cons, decodeLeniently_utf8EncodeChar, ih]

end MolangAssist.Text
