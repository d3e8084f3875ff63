/-!
Bounds of the numbers that words of 32 and 64 bits hold, read with or without a sign.
-/

namespace Seedkeeper.Number

/-- The least number of 64 bits with a sign. -/
def minInt64 : Int := -0x8000000000000000

/-- The greatest number of 64 bits with a sign. -/
def maxInt64 : Int := 0x7FFFFFFFFFFFFFFF

/-- The least number of 32 bits with a sign. -/
def minInt32 : Int := -0x80000000

/-- The greatest number of 32 bits with a sign. -/
def maxInt32 : Int := 0x7FFFFFFF

/-- The greatest number of 64 bits without a sign. -/
def maxNat64 : Int := 0xFFFFFFFFFFFFFFFF

/-- The greatest number of 32 bits without a sign. -/
def maxNat32 : Int := 0xFFFFFFFF

/-- Whether 64 bits hold a number with its sign. -/
def fitsInt64 (n : Int) : Bool := minInt64 ≤ n && n ≤ maxInt64

theorem fitsInt64_iff {n : Int} :
    fitsInt64 n ↔ -0x8000000000000000 ≤ n ∧ n ≤ 0x7FFFFFFFFFFFFFFF := by
  rw [fitsInt64, Bool.and_eq_true, decide_eq_true_eq, decide_eq_true_eq]; exact Iff.rfl

theorem fitsInt64_toInt (w : Int64) : fitsInt64 w.toInt :=
  fitsInt64_iff.2 ⟨w.le_toInt, by have := w.toInt_lt; omega⟩

end Seedkeeper.Number
