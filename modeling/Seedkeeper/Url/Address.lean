import Seedkeeper.Text.Ascii
import Seedkeeper.Text.Blank

/-!
Numeric hosts.

An IPv4 address may be written with one to four numbers, each decimal, octal (`0…`) or hexadecimal
(`0x…`); the last one fills the bytes that are left. An IPv6 address is eight groups, of which `::`
stands for one or more of zero, and the last two may be written as an IPv4 address. Addresses are
shown in one form each: four decimal numbers, and groups with the longest run of zeros left out.
-/

namespace Seedkeeper.Url

open Text (pieces)

/-! ### IPv4 -/

/-- The number of one part. -/
def ipv4Number? (part : List Char) : Option Nat :=
  let hex (cs : List Char) : Option Nat :=
    if cs.isEmpty then some 0 else Text.digitsValue? 16 Text.hexValue? cs
  let octal (c : Char) : Option Nat := if '0' ≤ c ∧ c ≤ '7' then some (c.toNat - 48) else none
  match part with
  | [] => none
  | '0' :: 'x' :: cs => hex cs
  | '0' :: 'X' :: cs => hex cs
  | ['0'] => some 0
  | '0' :: cs => Text.digitsValue? 8 octal cs
  | cs => Text.decimalValue? cs

/-- Parts between dots, an empty last one dropped. -/
def dottedParts (host : List Char) : List (List Char) :=
  let ps := pieces '.' host
  if 1 < ps.length ∧ ps.getLast? = some [] then ps.dropLast else ps

/-- Whether a host has to be read as an IPv4 address: its last part is a number. -/
def endsInNumber (host : List Char) : Bool :=
  match (dottedParts host).getLast? with
  | none => false
  | some last => (!last.isEmpty && last.all Text.isDigit) || (ipv4Number? last).isSome

/-- The four bytes of an IPv4 address, as one number. -/
def ipv4? (host : List Char) : Option Nat := do
  let numbers ← (dottedParts host).mapM ipv4Number?
  let last ← numbers.getLast?
  let first := numbers.dropLast
  let room := Nat.pow 256 (4 - first.length)
  if 3 < first.length ∨ first.any (255 < ·) ∨ room ≤ last then none
  else some (first.foldl (fun n byte => n * 256 + byte) 0 * room + last)

/-- An IPv4 address, shown. -/
def ipv4Text (n : Nat) : List Char :=
  ".".toList.intercalate
    ([n / 0x1000000, n / 0x10000 % 256, n / 0x100 % 256, n % 256].map fun k => (toString k).toList)

/-! ### IPv6 -/

/-- A group of one to four hexadecimal digits. -/
def group? (cs : List Char) : Option Nat :=
  if cs.length ≤ 4 then Text.digitsValue? 16 Text.hexValue? cs else none

/-- A decimal number below 256 without leading zeros. -/
def plainByte? (cs : List Char) : Option Nat :=
  match cs with
  | ['0'] => some 0
  | '0' :: _ => none
  | cs => if cs.length ≤ 3 then (Text.decimalValue? cs).filter (· < 256) else none

/-- The two groups of an address of four plain numbers. -/
def dottedGroups? (cs : List Char) : Option (List Nat) :=
  match (pieces '.' cs).mapM plainByte? with
  | some [a, b, c, d] => some [a * 256 + b, c * 256 + d]
  | _ => none

/-- The groups of one side of `::`; at the end of the address the last may be dotted. -/
def groups? (atEnd : Bool) (cs : List Char) : Option (List Nat) :=
  if cs.isEmpty then some []
  else
    let ps := pieces ':' cs
    match ps.getLast? with
    | none => none
    | some last => do
      let front ← ps.dropLast.mapM group?
      let back ← if atEnd && last.contains '.' then dottedGroups? last
        else (group? last).map ([·])
      return front ++ back

/-- What stands before and after the first `::`. -/
def cutDoubleColon : List Char → Option (List Char × List Char)
  | ':' :: ':' :: cs => some ([], cs)
  | c :: cs => (cutDoubleColon cs).map fun (a, b) => (c :: a, b)
  | [] => none

/-- The eight groups of an IPv6 address. -/
def ipv6? (cs : List Char) : Option (List Nat) :=
  match cutDoubleColon cs with
  | none => if cs.isEmpty then none else (groups? true cs).filter (·.length == 8)
  | some (left, right) => do
    let l ← groups? false left
    let r ← groups? true right
    if l.length + r.length ≤ 7 then
      some (l ++ List.replicate (8 - l.length - r.length) 0 ++ r)
    else none

/-- The length of the run of zeros at the start. -/
def zerosAhead (gs : List Nat) : Nat := (gs.takeWhile (· == 0)).length

/-- Start and length of the first longest run of zeros of two or more. -/
def longestZeros (gs : List Nat) : Option (Nat × Nat) :=
  let runs := (List.range gs.length).map fun i => (i, zerosAhead (gs.drop i))
  runs.foldl (fun best (i, n) =>
    match best with
    | none => if 2 ≤ n then some (i, n) else none
    | some (_, m) => if m < n then some (i, n) else best) none

/-- The hexadecimal form of a number. -/
def hexText (n : Nat) : List Char := Nat.toDigits 16 n

/-- Groups with colons between them. -/
def groupsText (gs : List Nat) : List Char := ":".toList.intercalate (gs.map hexText)

/-- An IPv6 address, shown without brackets. -/
def ipv6Text (gs : List Nat) : List Char :=
  match longestZeros gs with
  | none => groupsText gs
  | some (i, n) => groupsText (gs.take i) ++ "::".toList ++ groupsText (gs.drop (i + n))

end Seedkeeper.Url
