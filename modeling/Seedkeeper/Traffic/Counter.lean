import Seedkeeper.Number.Binary
import Seedkeeper.Number.Word

/-!
Traffic counters of the ledger.

A counter holds a word of 64 bits, read as signed while it is added to and as unsigned when it is
shown. A sum that leaves the signed range is rounded to a binary floating-point number of 53
significant bits and adds as such from then on; once such a number lies strictly inside the signed
range again, the counter is exact again. A rounded counter cannot be shown.
-/

namespace Seedkeeper.Traffic

open Number (fitsInt64 maxInt64 minInt64 roundTo53)

/-- A counter. -/
inductive Counter where
  | exact (word : Int64)
  | rounded (value : Int)
  deriving DecidableEq

/-- The counter of a rounded sum. -/
def Counter.settle (value : Int) : Counter :=
  if minInt64 < value ∧ value < maxInt64 then .exact (.ofInt value) else .rounded value

/-- A counter and one more word. -/
def Counter.add : Counter → Int64 → Counter
  | .exact a, b =>
    let sum := a.toInt + b.toInt
    if fitsInt64 sum then .exact (.ofInt sum)
    else .settle (roundTo53 (roundTo53 a.toInt + roundTo53 b.toInt))
  | .rounded v, b => .settle (roundTo53 (v + roundTo53 b.toInt))

/-- A counter that starts with an amount. -/
def Counter.start (amount : Nat) : Counter := .exact (UInt64.ofNat amount).toInt64

/-- A counter and one more amount. -/
def Counter.addAmount (c : Counter) (amount : Nat) : Counter :=
  c.add (UInt64.ofNat amount).toInt64

/-- What a counter shows. -/
def Counter.shown? : Counter → Option UInt64
  | .exact w => some w.toUInt64
  | .rounded _ => none

/-- A sum of counters. -/
inductive Sum where
  | exact (word : Int64)
  /-- Words alone left the signed range. -/
  | overflow
  /-- A rounded counter took part. -/
  | rounded
  deriving DecidableEq

/-- A sum and one more counter. -/
def Sum.add : Sum → Counter → Sum
  | .exact a, .exact b =>
    let sum := a.toInt + b.toInt
    if fitsInt64 sum then .exact (.ofInt sum) else .overflow
  | .overflow, .exact _ => .overflow
  | .rounded, .exact _ => .rounded
  | _, .rounded _ => .rounded

/-- The sum of some counters, in order. -/
def Sum.of (cs : List Counter) : Sum := cs.foldl Sum.add (.exact 0)

end Seedkeeper.Traffic
