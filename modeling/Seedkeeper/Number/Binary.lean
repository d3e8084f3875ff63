/-!
Rounding to binary floating-point numbers of 53 significant bits.
-/

namespace Seedkeeper.Number

/-- The nearest number with 53 significant bits; a tie goes to the even one. -/
def roundTo53 (n : Int) : Int :=
  let size := n.natAbs.log2 + 1
  if size ≤ 53 then n
  else
    let unit := Nat.pow 2 (size - 53)
    let q := n.natAbs / unit
    let r := n.natAbs % unit
    let up := 2 * r > unit || (2 * r == unit && q % 2 == 1)
    n.sign * ((q + up.toNat) * unit : Nat)

end Seedkeeper.Number
