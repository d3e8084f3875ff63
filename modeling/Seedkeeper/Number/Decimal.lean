import Seedkeeper.Text.Utf8

/-!
Decimal digits among bytes.
-/

namespace Seedkeeper.Number

open Text (Bytes)

/-- Decimal digits. -/
def isDigit (b : UInt8) : Bool := 0x30 ≤ b && b ≤ 0x39

/-- One more digit of a value. -/
def addDigit (n : Nat) (b : UInt8) : Option Nat :=
  if 0x30 ≤ b ∧ b ≤ 0x39 then some (n * 10 + (b.toNat - 0x30)) else none

/-- The value of a row of decimal digits. -/
def digits? : Bytes → Option Nat
  | [] => none
  | bs => bs.foldlM addDigit 0

end Seedkeeper.Number
