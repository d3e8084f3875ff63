import Seedkeeper.Number.Decimal

/-!
JSON documents as they are written.

A document keeps the spelling of its leaves: a number is the row of bytes it was written with, a
string (and a key) the bytes between its quotes with their escapes. Members stay in the order they
are written and may repeat a key. What a leaf means is asked for later, by the reader of that leaf,
so an unread part of a document never has to mean anything.
-/

namespace Seedkeeper

open Number (digits?)
open Text (Bytes)

/-- A JSON document. -/
inductive Json where
  | null
  | bool (b : Bool)
  | number (written : Bytes)
  | string (written : Bytes)
  | array (items : List Json)
  | object (members : List (Bytes × Json))

namespace Json

/-- The bytes of an ASCII text. -/
def ascii (s : String) : Bytes := Text.utf8 s

/-! ### Strings -/

/-- The hexadecimal digit of a value below sixteen. -/
def hexByte (n : Nat) : UInt8 :=
  if n < 10 then UInt8.ofNat (48 + n) else UInt8.ofNat (87 + n)

/-- A byte of a string as it is written: the quote, the backslash and control characters are
    escaped, with the short escape where there is one. -/
def escapeByte (b : UInt8) : Bytes :=
  if b = 0x22 then [0x5C, 0x22]
  else if b = 0x5C then [0x5C, 0x5C]
  else if b = 0x08 then [0x5C, 0x62]
  else if b = 0x09 then [0x5C, 0x74]
  else if b = 0x0A then [0x5C, 0x6E]
  else if b = 0x0C then [0x5C, 0x66]
  else if b = 0x0D then [0x5C, 0x72]
  else if b < 0x20 then [0x5C, 0x75, 0x30, 0x30, hexByte (b.toNat / 16), hexByte (b.toNat % 16)]
  else [b]

/-- The written form of a string's bytes. -/
def escape (bs : Bytes) : Bytes := bs.flatMap escapeByte

/-- The string that means a text. -/
def ofText (s : String) : Json := .string (escape (Text.utf8 s))

/-- The key that means a text. -/
def key (s : String) : Bytes := escape (Text.utf8 s)

/-- The value of a hexadecimal digit, either case. -/
def hexValue? (b : UInt8) : Option Nat :=
  if 0x30 ≤ b ∧ b ≤ 0x39 then some (b.toNat - 0x30)
  else if 0x61 ≤ b ∧ b ≤ 0x66 then some (b.toNat - 0x57)
  else if 0x41 ≤ b ∧ b ≤ 0x46 then some (b.toNat - 0x37)
  else none

/-- The value of four hexadecimal digits. -/
def hex4? (a b c d : UInt8) : Option Nat := do
  let a ← hexValue? a
  let b ← hexValue? b
  let c ← hexValue? c
  let d ← hexValue? d
  some (((a * 16 + b) * 16 + c) * 16 + d)

/-- The byte that a one-letter escape stands for. -/
def shortEscape? (b : UInt8) : Option UInt8 :=
  if b = 0x22 then some 0x22
  else if b = 0x5C then some 0x5C
  else if b = 0x2F then some 0x2F
  else if b = 0x62 then some 0x08
  else if b = 0x66 then some 0x0C
  else if b = 0x6E then some 0x0A
  else if b = 0x72 then some 0x0D
  else if b = 0x74 then some 0x09
  else none

/-- The UTF-8 form of a code point. -/
def charBytes (n : Nat) : Bytes := Text.utf8 (String.singleton (Char.ofNat n))

/-- The bytes that a string's written form means. Two escapes of a surrogate pair are one character;
    a surrogate alone has no meaning. -/
def unescape? : Bytes → Option Bytes
  | [] => some []
  | 0x5C :: 0x75 :: a :: b :: c :: d :: 0x5C :: 0x75 :: e :: f :: g :: h :: rest => do
    let hi ← hex4? a b c d
    if 0xD800 ≤ hi ∧ hi < 0xDC00 then
      let lo ← hex4? e f g h
      if 0xDC00 ≤ lo ∧ lo < 0xE000 then
        return charBytes (0x10000 + (hi - 0xD800) * 0x400 + (lo - 0xDC00)) ++ (← unescape? rest)
      else none
    else if 0xDC00 ≤ hi ∧ hi < 0xE000 then none
    else return charBytes hi ++ (← unescape? (0x5C :: 0x75 :: e :: f :: g :: h :: rest))
  | 0x5C :: 0x75 :: a :: b :: c :: d :: rest => do
    let n ← hex4? a b c d
    if 0xD800 ≤ n ∧ n < 0xE000 then none
    else return charBytes n ++ (← unescape? rest)
  | 0x5C :: b :: rest => do
    let b ← shortEscape? b
    return b :: (← unescape? rest)
  | b :: rest =>
    if b = 0x5C then none else (unescape? rest).map (b :: ·)

/-- The text that a string's written form means. -/
def text? (written : Bytes) : Option String :=
  (unescape? written).bind Text.ofUtf8?

/-! ### Numbers -/

/-- The decimal digits of a natural number. -/
def natBytes (n : Nat) : Bytes := ascii (toString n)

/-- The decimal form of an integer. -/
def intBytes (n : Int) : Bytes :=
  if n < 0 then 0x2D :: natBytes n.natAbs else natBytes n.natAbs

/-- The number that means an integer. -/
def ofInt (n : Int) : Json := .number (intBytes n)

/-- The number that means a natural number. -/
def ofNat (n : Nat) : Json := .number (natBytes n)

/-- The integer that a number means. A fraction, an exponent and a negative zero make it something
    else. -/
def int? : Bytes → Option Int
  | 0x2D :: bs => (digits? bs).bind fun n => if n = 0 then none else some (-(n : Int))
  | bs => (digits? bs).map Int.ofNat

/-! ### Written form -/

mutual

/-- The shortest written form: no blanks. -/
def compact : Json → Bytes
  | .null => ascii "null"
  | .bool true => ascii "true"
  | .bool false => ascii "false"
  | .number w => w
  | .string w => 0x22 :: w ++ [0x22]
  | .array items => 0x5B :: compactItems items ++ [0x5D]
  | .object members => 0x7B :: compactMembers members ++ [0x7D]

/-- Items with commas between them. -/
def compactItems : List Json → Bytes
  | [] => []
  | [v] => compact v
  | v :: vs => compact v ++ 0x2C :: compactItems vs

/-- Members with commas between them. -/
def compactMembers : List (Bytes × Json) → Bytes
  | [] => []
  | [(k, v)] => 0x22 :: k ++ 0x22 :: 0x3A :: compact v
  | (k, v) :: ms => 0x22 :: k ++ 0x22 :: 0x3A :: compact v ++ 0x2C :: compactMembers ms

end

/-- A new line, indented by two spaces a level. -/
def newline (depth : Nat) : Bytes := 0x0A :: List.replicate (2 * depth) 0x20

mutual

/-- The indented written form: one item or member a line; empty containers stay closed. -/
def indented (depth : Nat) : Json → Bytes
  | .null => ascii "null"
  | .bool true => ascii "true"
  | .bool false => ascii "false"
  | .number w => w
  | .string w => 0x22 :: w ++ [0x22]
  | .array [] => [0x5B, 0x5D]
  | .array items => 0x5B :: indentedItems (depth + 1) items ++ newline depth ++ [0x5D]
  | .object [] => [0x7B, 0x7D]
  | .object members => 0x7B :: indentedMembers (depth + 1) members ++ newline depth ++ [0x7D]

/-- Items, each on its own line. -/
def indentedItems (depth : Nat) : List Json → Bytes
  | [] => []
  | [v] => newline depth ++ indented depth v
  | v :: vs => newline depth ++ indented depth v ++ 0x2C :: indentedItems depth vs

/-- Members, each on its own line. -/
def indentedMembers (depth : Nat) : List (Bytes × Json) → Bytes
  | [] => []
  | [(k, v)] => newline depth ++ 0x22 :: k ++ 0x22 :: 0x3A :: 0x20 :: indented depth v
  | (k, v) :: ms => newline depth ++ 0x22 :: k ++ 0x22 :: 0x3A :: 0x20 :: indented depth v ++
      0x2C :: indentedMembers depth ms

end

end Json

end Seedkeeper
