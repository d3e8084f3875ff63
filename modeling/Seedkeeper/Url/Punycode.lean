import Seedkeeper.Text.Ascii

/-!
Punycode: labels beyond ASCII written with ASCII letters and digits.

The basic characters stand first, then, after a hyphen, the others as a row of differences: how far
to move through positions and code points before the next insertion. A difference is written in a
mixed base that adapts to the size of the last one.
-/

namespace Seedkeeper.Url.Punycode

/-- The bias for the next difference. -/
def adapt (delta points : Nat) (first : Bool) : Nat :=
  let delta := if first then delta / 700 else delta / 2
  go (delta + delta / points) 0 (delta + delta / points + 1)
where
  /-- Divides until the rest is small, counting steps of 36. -/
  go (delta k : Nat) : Nat → Nat
    | 0 => k
    | fuel + 1 =>
      if 455 < delta then go (delta / 35) (k + 36) fuel else k + 36 * delta / (delta + 38)

/-- The least digit that may end a number, at a distance from its start. -/
def threshold (k bias : Nat) : Nat :=
  if k ≤ bias then 1 else if bias + 26 ≤ k then 26 else k - bias

/-- A digit of base 36: letters before numerals. -/
def digit (d : Nat) : Char := if d < 26 then Char.ofNat (97 + d) else Char.ofNat (22 + d)

/-- The value of a digit, either case. -/
def digitValue? (c : Char) : Option Nat :=
  if Text.isDigit c then some (c.toNat - 22)
  else if 'a' ≤ c ∧ c ≤ 'z' then some (c.toNat - 97)
  else if 'A' ≤ c ∧ c ≤ 'Z' then some (c.toNat - 65)
  else none

/-- A difference as digits. -/
def encodeDelta (bias : Nat) : (q k fuel : Nat) → List Char
  | _, _, 0 => []
  | q, k, fuel + 1 =>
    let t := threshold k bias
    if q < t then [digit q]
    else digit (t + (q - t) % (36 - t)) :: encodeDelta bias ((q - t) / (36 - t)) (k + 36) fuel

/-- The encoder between two insertions. -/
structure Encoder where
  n : Nat
  delta : Nat
  bias : Nat
  handled : Nat
  out : List Char

/-- The characters of the input passed once for the code point `n`. -/
def encodeRound (basic : Nat) (input : List Char) (e : Encoder) : Encoder :=
  let e := input.foldl (fun e c =>
    if c.toNat < e.n then { e with delta := e.delta + 1 }
    else if c.toNat = e.n then
      { e with
        out := e.out ++ encodeDelta e.bias e.delta 36 (e.delta + 1)
        bias := adapt e.delta (e.handled + 1) (e.handled == basic)
        delta := 0
        handled := e.handled + 1 }
    else e) e
  { e with delta := e.delta + 1, n := e.n + 1 }

/-- Rounds until every character is handled. -/
def encodeRounds (basic : Nat) (input : List Char) (e : Encoder) : Nat → Encoder
  | 0 => e
  | fuel + 1 =>
    match ((input.filter fun c => e.n ≤ c.toNat).map Char.toNat).min? with
    | none => e
    | some m =>
      encodeRounds basic input
        (encodeRound basic input { e with n := m, delta := e.delta + (m - e.n) * (e.handled + 1) })
        fuel

/-- A label in Punycode, without the mark in front. -/
def encode (input : List Char) : List Char :=
  let basic := input.filter (·.toNat < 128)
  let start := if basic.isEmpty then [] else basic ++ ['-']
  (encodeRounds basic.length input ⟨128, 0, 72, basic.length, start⟩ (input.length + 1)).out

/-- A difference read from digits, with what follows them. -/
def decodeDelta (bias : Nat) : (i w k : Nat) → List Char → Option (Nat × List Char)
  | _, _, _, [] => none
  | i, w, k, c :: cs =>
    match digitValue? c with
    | none => none
    | some d =>
      let i := i + d * w
      let t := threshold k bias
      if d < t then some (i, cs) else decodeDelta bias i (w * (36 - t)) (k + 36) cs

/-- Insertions until the digits are used up. -/
def decodeRounds (out : List Char) (n i bias : Nat) : List Char → Nat → Option (List Char)
  | [], _ => some out
  | _, 0 => none
  | cs, fuel + 1 =>
    match decodeDelta bias i 1 36 cs with
    | none => none
    | some (j, rest) =>
      let points := out.length + 1
      let n := n + j / points
      if 0x10FFFF < n ∨ (0xD800 ≤ n ∧ n ≤ 0xDFFF) then none
      else
        let at_ := j % points
        decodeRounds (out.take at_ ++ Char.ofNat n :: out.drop at_) n (at_ + 1)
          (adapt (j - i) points (i == 0)) rest fuel

/-- What stands before and after the last hyphen; a hyphen at the start cuts nothing off. -/
def cutLastHyphen (cs : List Char) : List Char × List Char :=
  let tail := (cs.reverse.takeWhile (· ≠ '-')).reverse
  if tail.length + 1 < cs.length then (cs.take (cs.length - tail.length - 1), tail) else ([], cs)

/-- The label of a Punycode text without the mark in front. -/
def decode? (cs : List Char) : Option (List Char) :=
  let (basic, digits) := cutLastHyphen cs
  if basic.all (·.toNat < 128) then decodeRounds basic 128 0 72 digits (digits.length + 1)
  else none

end Seedkeeper.Url.Punycode
