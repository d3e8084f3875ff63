import Seedkeeper.Number.Decimal
import Seedkeeper.Number.Word
import Seedkeeper.Text.Blank

/-!
Bencode: texts with their length in front, integers between `i` and `e`, lists and dictionaries.

A document is read against a `Shape`, which says what each value has to be; members of a dictionary
that its shape does not name may be anything. Reading goes from left to right and stops at the first
fault. `Fault.pastEnd` is kept apart from every other fault: a list was wanted and nothing was left.

An integer may have a sign and leading zeros, a length leading zeros; both have to fit 64 bits.
-/

namespace Seedkeeper.Bencode

open Number (digits?)
open Text (Bytes)

/-- What a value has to be. -/
inductive Shape where
  | any
  | text
  /-- An integer between two bounds. -/
  | int (low high : Int)
  | list (item : Shape)
  /-- A dictionary; each named member with its shape and whether it has to be there. -/
  | dict (members : List (Bytes × Shape × Bool))

/-- A value as it was read. A member keeps the bytes its value was written with. -/
inductive Value where
  | text (bytes : Bytes)
  | int (n : Int)
  | list (items : List Value)
  | dict (members : List (Bytes × Bytes × Value))

/-- Why a document cannot be read. -/
inductive Fault where
  | malformed
  /-- A list is wanted where the input ends. -/
  | pastEnd
  deriving DecidableEq

/-- The integer between `i` and `e`. -/
def integer? (bs : Bytes) : Option Int :=
  let n := match bs with
    | 0x2B :: ds => (digits? ds).map Int.ofNat
    | 0x2D :: ds => (digits? ds).map fun n => -(n : Int)
    | ds => (digits? ds).map Int.ofNat
  n.filter Number.fitsInt64

/-- An integer and what follows it. -/
def readInt : Bytes → Except Fault (Int × Bytes)
  | 0x69 :: bs =>
    match Text.splitOnceChars 0x65 bs with
    | none => .error .malformed
    | some (digits, rest) =>
      match integer? digits with
      | some n => .ok (n, rest)
      | none => .error .malformed
  | _ => .error .malformed

/-- A text and what follows it. -/
def readText (bs : Bytes) : Except Fault (Bytes × Bytes) :=
  match Text.splitOnceChars 0x3A bs with
  | none => .error .malformed
  | some (digits, rest) =>
    match digits? digits with
    | none => .error .malformed
    | some n =>
      if n ≤ rest.length ∧ n < UInt64.size then .ok (rest.take n, rest.drop n)
      else .error .malformed

/-- The bytes in front of a rest. -/
def consumed (whole rest : Bytes) : Bytes := whole.take (whole.length - rest.length)

/-- Whether all members that have to be there were read. -/
def complete (wanted : List (Bytes × Shape × Bool)) (read : List (Bytes × Bytes × Value)) : Bool :=
  wanted.all fun (k, _, needed) => !needed || read.any (·.1 == k)

mutual

/-- A value and what follows it. Every value takes at least one byte, so a fuel of as many steps as
    there are bytes never runs out. -/
def read : (fuel : Nat) → Shape → Bytes → Except Fault (Value × Bytes)
  | 0, .list _, [] => .error .pastEnd
  | 0, _, _ => .error .malformed
  | fuel + 1, shape, bs =>
    match shape with
    | .text => return ((← readText bs).map Value.text id)
    | .int low high => do
      let (n, rest) ← readInt bs
      if low ≤ n ∧ n ≤ high then return (.int n, rest) else .error .malformed
    | .list item =>
      match bs with
      | [] => .error .pastEnd
      | b :: bs => if b = 0x6C then return ((← readItems fuel item bs).map Value.list id)
          else .error .malformed
    | .dict members =>
      match bs with
      | b :: bs => if b = 0x64 then return ((← readMembers fuel members [] bs).map Value.dict id)
          else .error .malformed
      | [] => .error .malformed
    | .any =>
      match bs with
      | [] => .error .malformed
      | b :: rest =>
        if b = 0x69 then return ((← readInt bs).map Value.int id)
        else if b = 0x6C then return ((← readItems fuel .any rest).map Value.list id)
        else if b = 0x64 then return ((← readPairs fuel rest).map Value.list id)
        else return ((← readText bs).map Value.text id)

/-- The items of a list, up to its end. -/
def readItems : (fuel : Nat) → Shape → Bytes → Except Fault (List Value × Bytes)
  | 0, _, _ => .error .malformed
  | fuel + 1, shape, bs =>
    match bs with
    | 0x65 :: rest => .ok ([], rest)
    | bs => do
      let (v, rest) ← read fuel shape bs
      let (vs, rest) ← readItems fuel shape rest
      return (v :: vs, rest)

/-- The members of a dictionary, up to its end. A named member may come once only. -/
def readMembers : (fuel : Nat) → List (Bytes × Shape × Bool) → List (Bytes × Bytes × Value) →
    Bytes → Except Fault (List (Bytes × Bytes × Value) × Bytes)
  | 0, _, _, _ => .error .malformed
  | fuel + 1, wanted, before, bs =>
    match bs with
    | 0x65 :: rest =>
      if complete wanted before then .ok (before.reverse, rest) else .error .malformed
    | bs => do
      let (k, rest) ← readText bs
      match wanted.find? (·.1 == k) with
      | none =>
        let (_, rest) ← read fuel .any rest
        readMembers fuel wanted before rest
      | some (_, shape, _) =>
        if before.any (·.1 == k) then .error .malformed
        else
          let (v, after) ← read fuel shape rest
          readMembers fuel wanted ((k, consumed rest after, v) :: before) after

/-- Keys and values of a dictionary that may hold anything, up to its end. -/
def readPairs : (fuel : Nat) → Bytes → Except Fault (List Value × Bytes)
  | 0, _ => .error .malformed
  | fuel + 1, bs =>
    match bs with
    | 0x65 :: rest => .ok ([], rest)
    | bs => do
      let (k, rest) ← read fuel .any bs
      let (v, rest) ← read fuel .any rest
      let (vs, rest) ← readPairs fuel rest
      return (k :: v :: vs, rest)

end

/-- The value at the start of some bytes; what follows it does not count. -/
def readValue (shape : Shape) (bs : Bytes) : Except Fault Value :=
  (read (2 * bs.length + 2) shape bs).map (·.1)

namespace Value

/-- The bytes of a text. -/
def asText? : Value → Option Bytes
  | .text bs => some bs
  | _ => none

/-- An integer. -/
def asInt? : Value → Option Int
  | .int n => some n
  | _ => none

/-- The items of a list. -/
def asList? : Value → Option (List Value)
  | .list vs => some vs
  | _ => none

/-- A member of a dictionary: its value and the bytes it was written with. -/
def member? (key : Bytes) : Value → Option (Bytes × Value)
  | .dict ms => (ms.find? (·.1 == key)).map (·.2)
  | _ => none

end Value

/-! ### Writing -/

/-- A text. -/
def writeText (bs : Bytes) : Bytes := Text.utf8 (toString bs.length) ++ 0x3A :: bs

/-- An integer. -/
def writeInt (n : Int) : Bytes := 0x69 :: Text.utf8 (toString n) ++ [0x65]

/-- A list of written items. -/
def writeList (items : List Bytes) : Bytes := 0x6C :: items.flatten ++ [0x65]

/-- A dictionary of keys and written values, in the order given. -/
def writeDict (members : List (Bytes × Bytes)) : Bytes :=
  0x64 :: members.flatMap (fun (k, v) => writeText k ++ v) ++ [0x65]

end Seedkeeper.Bencode
