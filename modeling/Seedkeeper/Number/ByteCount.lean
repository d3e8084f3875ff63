import Seedkeeper.Number.Binary

/-!
Counts of bytes for people: binary units and two decimal places.

The count is taken as a number of 53 significant bits. Its unit is the largest one that leaves a
value of at least one, up to the largest unit there is. Two places are rounded to the nearest, a half
to the even neighbour.
-/

namespace Seedkeeper.Number

/-- The units above the byte, each 1024 of the one before. -/
def byteUnits : List String := ["KiB", "MiB", "GiB", "TiB", "PiB"]

/-- A quotient rounded to the nearest, a half to the even neighbour. -/
def roundedQuotient (n d : Nat) : Nat :=
  let q := n / d
  let r := n % d
  if 2 * r > d ∨ (2 * r = d ∧ q % 2 = 1) then q + 1 else q

/-- A number of hundredths with its two places. -/
def hundredths (n : Nat) : String :=
  let places := toString (n % 100)
  toString (n / 100) ++ "." ++ (if n % 100 < 10 then "0" ++ places else places)

/-- A count in the first of some units that suits it, `size` bytes to the first. -/
def inUnits (count size : Nat) : List String → String
  | [] => ""
  | [unit] => hundredths (roundedQuotient (count * 100) size) ++ " " ++ unit
  | unit :: units =>
    if count < size * 1024 then hundredths (roundedQuotient (count * 100) size) ++ " " ++ unit
    else inUnits count (size * 1024) units

/-- A count of bytes in words. -/
def byteCount (count : Nat) : String :=
  let rounded := (roundTo53 count).toNat
  if rounded < 1024 then toString count ++ " B" else inUnits rounded 1024 byteUnits

end Seedkeeper.Number
