/-!
ASCII letter case: only `A`–`Z` and `a`–`z` fold together, every other character is itself.
-/

namespace Seedkeeper.Text

/-- `A`–`Z` go to `a`–`z`. -/
def asciiLower (c : Char) : Char :=
  if 'A' ≤ c ∧ c ≤ 'Z' then Char.ofNat (c.toNat + 32) else c

/-- A text with its ASCII capitals made small. -/
def asciiLowerText (s : String) : String :=
  String.ofList (s.toList.map asciiLower)

/-- Equality up to ASCII case. -/
def sameIgnoringAsciiCase (s t : String) : Bool :=
  s.toList.map asciiLower == t.toList.map asciiLower

/-- `0`–`9`. -/
def isDigit (c : Char) : Bool := '0' ≤ c && c ≤ '9'

/-- ASCII letters. -/
def isLetter (c : Char) : Bool := ('a' ≤ c && c ≤ 'z') || ('A' ≤ c && c ≤ 'Z')

/-- The value of a hexadecimal digit. -/
def hexValue? (c : Char) : Option Nat :=
  if isDigit c then some (c.toNat - 48)
  else if 'a' ≤ c ∧ c ≤ 'f' then some (c.toNat - 87)
  else if 'A' ≤ c ∧ c ≤ 'F' then some (c.toNat - 55)
  else none

/-- The digit of a value below sixteen, small letters. -/
def hexDigit (n : Nat) : Char :=
  if n < 10 then Char.ofNat (48 + n) else Char.ofNat (87 + n)

/-- The digit of a value below sixteen, capital letters. -/
def hexDigitUpper (n : Nat) : Char :=
  if n < 10 then Char.ofNat (48 + n) else Char.ofNat (55 + n)

/-- The value of a row of digits of one base; at least one digit. -/
def digitsValue? (base : Nat) (digit? : Char → Option Nat) : List Char → Option Nat
  | [] => none
  | cs => cs.foldlM (fun n c => (digit? c).map (n * base + ·)) 0

/-- The value of a row of decimal digits. -/
def decimalValue? (cs : List Char) : Option Nat :=
  digitsValue? 10 (fun c => if isDigit c then some (c.toNat - 48) else none) cs

/-- What holds of the first characters, looked at one by one, holds of every ASCII character. -/
theorem forall_ascii {P : Char → Prop} (h : ∀ n < 128, P (Char.ofNat n)) {c : Char}
    (hc : c.toNat < 128) : P c := by
  have hcode := h c.toNat hc
  rwa [Char.ofNat_toNat] at hcode

/-- Small letters stay. -/
theorem asciiLower_asciiLower (c : Char) : asciiLower (asciiLower c) = asciiLower c := by
  by_cases hupper : 'A' ≤ c ∧ c ≤ 'Z'
  · have hlt : c.toNat < 128 :=
      Nat.lt_of_le_of_lt (UInt32.le_iff_toNat_le.1 hupper.2) (by decide)
    exact forall_ascii (P := fun c => asciiLower (asciiLower c) = asciiLower c) (by decide) hlt
  · have hself : asciiLower c = c := if_neg hupper
    rw [hself, hself]

/-- Equality up to ASCII case is an equivalence; this is its transitivity. -/
theorem sameIgnoringAsciiCase_trans {s t u : String} (h : sameIgnoringAsciiCase s t)
    (k : sameIgnoringAsciiCase t u) : sameIgnoringAsciiCase s u := by
  simp only [sameIgnoringAsciiCase, beq_iff_eq] at *
  exact h.trans k

theorem sameIgnoringAsciiCase_refl (s : String) : sameIgnoringAsciiCase s s := by
  simp [sameIgnoringAsciiCase]

theorem sameIgnoringAsciiCase_iff {s t : String} :
    sameIgnoringAsciiCase s t = true ↔ asciiLowerText s = asciiLowerText t := by
  rw [sameIgnoringAsciiCase, beq_iff_eq, asciiLowerText, asciiLowerText, String.ofList_inj]

/-- Texts that are equal up to ASCII case are so to the same texts. -/
theorem sameIgnoringAsciiCase_congr {s t : String} (h : sameIgnoringAsciiCase s t = true) :
    (sameIgnoringAsciiCase · s) = (sameIgnoringAsciiCase · t) := by
  funext u
  rw [Bool.eq_iff_iff, sameIgnoringAsciiCase_iff, sameIgnoringAsciiCase_iff,
    sameIgnoringAsciiCase_iff.1 h]

end Seedkeeper.Text
