import Mathlib.Tactic.IntervalCases
import Seedkeeper.Text.Utf8

/-!
What is decoded where nothing has to be replaced.

The first byte of a character says how many follow and what the next one may be; the bytes of a character
are as it says, and together they hold its number. So UTF-8 that was written is decoded as the text that it
was written for (`ofUtf8Lossy_utf8`).
-/

namespace Seedkeeper.Text

variable {l : Lead} {n k : Nat}

theorem lead?_two (hlow : 2 ≤ k) (hhigh : k < 32) :
    lead? (k + 0xC0) = some ⟨1, 0x80, 0xBF, k⟩ := by
  rw [lead?, if_pos (by omega), Nat.add_sub_cancel]

theorem lead?_three (hk : k < 16) : lead? (k + 0xE0)
    = some ⟨2, if k = 0 then 0xA0 else 0x80, if k = 0xD then 0x9F else 0xBF, k⟩ := by
  interval_cases k <;> rfl

theorem lead?_four (hk : k < 5) : lead? (k + 0xF0)
    = some ⟨3, if k = 0 then 0x90 else 0x80, if k = 4 then 0x8F else 0xBF, k⟩ := by
  interval_cases k <;> rfl

theorem decodeLossy_lead (hn : n < 256) (hascii : ¬ n < 0x80) (hl : lead? n = some l)
    (bs : Bytes) : decodeLossy .none (UInt8.ofNat n :: bs) = decodeLossy (.some l) bs := by
  simp [decodeLossy, decodeByte, beginByte, Nat.mod_eq_of_lt hn, hascii, hl]

/-- A byte that a character still needs, `k` being what it says. -/
theorem decodeLossy_more (hk : k < 64) (hlow : l.low ≤ k + 0x80) (hhigh : k + 0x80 ≤ l.high)
    (hcount : l.count ≠ 1) (bs : Bytes) : decodeLossy (.some l) (UInt8.ofNat (k + 0x80) :: bs)
      = decodeLossy (.some ⟨l.count - 1, 0x80, 0xBF, l.bits * 64 + k⟩) bs := by
  have hn : k + 0x80 < 256 := by omega
  simp [decodeLossy, decodeByte, Nat.mod_eq_of_lt hn, hlow, hhigh, hcount]

theorem decodeLossy_last (hk : k < 64) (hlow : l.low ≤ k + 0x80) (hhigh : k + 0x80 ≤ l.high)
    (hcount : l.count = 1) (bs : Bytes) : decodeLossy (.some l) (UInt8.ofNat (k + 0x80) :: bs)
      = Char.ofNat (l.bits * 64 + k) :: decodeLossy .none bs := by
  have hn : k + 0x80 < 256 := by omega
  simp [decodeLossy, decodeByte, Nat.mod_eq_of_lt hn, hlow, hhigh, hcount]

/-- The bytes of a character are decoded as it, whatever follows. -/
theorem decodeLossy_utf8EncodeChar (c : Char) (bs : Bytes) :
    decodeLossy .none (String.utf8EncodeChar c ++ bs) = c :: decodeLossy .none bs := by
  have hvalid : c.val.toNat < 0xD800 ∨ 0xDFFF < c.val.toNat ∧ c.val.toNat < 0x110000 := c.valid
  have hc : Char.ofNat c.val.toNat = c := Char.ofNat_toNat c
  rw [String.utf8EncodeChar]
  generalize c.val.toNat = v at hvalid hc
  by_cases hone : v ≤ 0x7F
  · have hn : v < 256 := by omega
    simp [if_pos hone, decodeLossy, decodeByte, beginByte, Nat.mod_eq_of_lt hn, hc, Nat.lt_succ_of_le hone]
  by_cases htwo : v ≤ 0x7FF
  · have hbits : v / 64 % 32 * 64 + v % 64 = v := by omega
    simp only [if_neg hone, if_pos htwo, List.cons_append, List.nil_append]
    rw [decodeLossy_lead (by omega) (by omega) (lead?_two (by omega) (by omega)),
      decodeLossy_last (by omega) (by simp) (by simp; omega) rfl, hbits, hc]
  by_cases hthree : v ≤ 0xFFFF
  · have hbits : (v / 4096 % 16 * 64 + v / 64 % 64) * 64 + v % 64 = v := by omega
    simp only [if_neg hone, if_neg htwo, if_pos hthree, List.cons_append, List.nil_append]
    rw [decodeLossy_lead (by omega) (by omega) (lead?_three (by omega)),
      decodeLossy_more (by omega) (by dsimp only; split <;> omega) (by dsimp only; split <;> omega) (by simp),
      decodeLossy_last (by omega) (by simp) (by simp; omega) rfl, hbits, hc]
  · have hbits : ((v / 262144 % 8 * 64 + v / 4096 % 64) * 64 + v / 64 % 64) * 64 + v % 64 = v := by omega
    simp only [if_neg hone, if_neg htwo, if_neg hthree, List.cons_append, List.nil_append]
    rw [decodeLossy_lead (by omega) (by omega) (lead?_four (by omega)),
      decodeLossy_more (by omega) (by dsimp only; split <;> omega) (by dsimp only; split <;> omega) (by simp),
      decodeLossy_more (by omega) (by simp) (by simp; omega) (by simp),
      decodeLossy_last (by omega) (by simp) (by simp; omega) rfl, hbits, hc]

theorem decodeLossy_flatMap (cs : List Char) :
    decodeLossy .none (cs.flatMap String.utf8EncodeChar) = cs := by
  induction cs with
  | nil => rfl
  | cons c cs ih => rw [List.flatMap_cons, decodeLossy_utf8EncodeChar, ih]

/-- What was written as UTF-8 is read back, with nothing replaced. -/
theorem ofUtf8Lossy_utf8 (s : String) : ofUtf8Lossy (utf8 s) = s := by
  rw [ofUtf8Lossy, ← String.ofList_toList (s := s), utf8_ofList, decodeLossy_flatMap]

end Seedkeeper.Text
