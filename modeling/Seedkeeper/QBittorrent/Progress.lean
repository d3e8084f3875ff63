import Seedkeeper.Number.Binary
import Seedkeeper.Json.Basic

/-!
How far the download of a file has got: a written number, one or more meaning all of it.

The number is read as binary floating point in three roundings: its digits, as far as 64 bits hold
them, the power of ten that they are scaled by, and the scaled value. A row of nines can therefore
reach one; a number too large for floating point has no reading.
-/

namespace Seedkeeper.QBittorrent

open Text (Bytes)
open Number (digits? isDigit roundTo53)

/-- A number as digits and a power of ten. -/
structure Progress where
  negative : Bool
  digits : Nat
  exponent : Int
  deriving DecidableEq

namespace Progress

/-- The value of a digit. -/
def digit (b : UInt8) : Nat := b.toNat - 0x30

/-- Whether 64 bits hold a number and one more digit behind it. -/
def fits (n : Nat) (b : UInt8) : Bool := n * 10 + digit b < UInt64.size

/-- Digits before the point: once one does not fit, it and those after it only scale. -/
def takeWhole (n : Nat) : Bytes → Nat × Int
  | [] => (n, 0)
  | b :: bs => if fits n b then takeWhole (n * 10 + digit b) bs else (n, (b :: bs).length)

/-- Digits after the point: once one does not fit, it and those after it do not count. -/
def takeFraction (n : Nat) (scale : Int) : Bytes → Nat × Int
  | [] => (n, scale)
  | b :: bs => if fits n b then takeFraction (n * 10 + digit b) (scale - 1) bs else (n, scale)

/-- A written exponent, its mark included. -/
def exponentOf (written : Bytes) : Int :=
  match written with
  | _ :: 0x2D :: ds => -((digits? ds).getD 0 : Nat)
  | _ :: 0x2B :: ds => ((digits? ds).getD 0 : Nat)
  | _ :: ds => ((digits? ds).getD 0 : Nat)
  | [] => 0

/-- A written number. -/
def ofWritten (written : Bytes) : Progress :=
  let negative := written.head? == some 0x2D
  let unsigned := if negative then written.drop 1 else written
  let (n, scale) := takeWhole 0 (unsigned.takeWhile isDigit)
  let rest := unsigned.dropWhile isDigit
  match rest with
  | 0x2E :: rest =>
    let (n, scale) := takeFraction n scale (rest.takeWhile isDigit)
    ⟨negative, n, scale + exponentOf (rest.dropWhile isDigit)⟩
  | rest => ⟨negative, n, scale + exponentOf rest⟩

/-- The largest power of ten that floating point has. -/
def maxExponent : Nat := 308

/-- A power of ten as floating point has it. -/
def powerOfTen (n : Nat) : Int := roundTo53 (Nat.pow 10 n : Nat)

/-- Whether a number is too large for floating point. -/
def isTooLarge (p : Progress) : Bool :=
  p.digits != 0 && 0 ≤ p.exponent &&
    (maxExponent < p.exponent ||
      (Nat.pow 2 1024 : Nat) ≤ roundTo53 (roundTo53 p.digits * powerOfTen p.exponent.toNat))

/-- How many half units of the last place there are below one. -/
def halfUnits : Int := 0x40000000000000

/-- Whether the reading is one or more: below one, it must be no further than half a unit of the last
    place under it. -/
def isWhole (p : Progress) : Bool :=
  !p.negative &&
    if 0 ≤ p.exponent then p.digits != 0
    else p.exponent.natAbs ≤ maxExponent &&
      powerOfTen p.exponent.natAbs * (halfUnits - 1) ≤ roundTo53 p.digits * halfUnits

end Progress

/-- Whether a document says that a file is complete, if it is a number at all. -/
def complete? : Json → Option Bool
  | .number w =>
    let p := Progress.ofWritten w
    if p.isTooLarge then none else some p.isWhole
  | _ => none

end Seedkeeper.QBittorrent
