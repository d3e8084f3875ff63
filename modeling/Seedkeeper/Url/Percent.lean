import Seedkeeper.Text.Ascii
import Seedkeeper.Text.Utf8

/-!
Percent-encoding: bytes of a text written as `%` and two hexadecimal digits.

Which bytes are written that way is a set of the place in an address. Bytes beyond ASCII always are.
-/

namespace Seedkeeper.Url

open Text (Bytes)

/-- A byte as `%XX`. -/
def percentByte (b : UInt8) : List Char :=
  ['%', Text.hexDigitUpper (b.toNat / 16), Text.hexDigitUpper (b.toNat % 16)]

/-- A text with the bytes of a set, and all beyond ASCII, percent-encoded. -/
def percentEncode (inSet : Char → Bool) (cs : List Char) : List Char :=
  cs.flatMap fun c =>
    if c.toNat < 0x80 ∧ !inSet c then [c]
    else (Text.utf8 (String.singleton c)).flatMap percentByte

/-- Control characters. -/
def inControlSet (c : Char) : Bool := c.toNat < 0x20 || c.toNat == 0x7F

/-- What a query of an ordinary scheme encodes. -/
def inQuerySet (c : Char) : Bool :=
  inControlSet c || [' ', '"', '#', '<', '>'].contains c

/-- What a query of a special scheme encodes. -/
def inSpecialQuerySet (c : Char) : Bool := inQuerySet c || c == '\''

/-- What a path encodes. -/
def inPathSet (c : Char) : Bool :=
  inQuerySet c || ['?', '^', '\x60', '\x7b', '\x7d'].contains c

/-- What a fragment encodes. -/
def inFragmentSet (c : Char) : Bool :=
  inControlSet c || [' ', '"', '<', '>', '\x60'].contains c

/-- What stands for itself in a component: letters, digits and `-`, `.`, `_`, `~`. -/
def isUnreserved (c : Char) : Bool :=
  Text.isLetter c || Text.isDigit c || ['-', '.', '_', '~'].contains c

/-- A text as a component of a query: all but unreserved characters encoded. -/
def encodeComponent (s : String) : String :=
  String.ofList (percentEncode (fun c => !isUnreserved c) s.toList)

/-- Bytes with every `%XX` undone; a `%` without two hexadecimal digits is itself. -/
def percentDecode : Bytes → Bytes
  | [] => []
  | 0x25 :: a :: b :: rest =>
    match Text.hexValue? (Char.ofNat a.toNat), Text.hexValue? (Char.ofNat b.toNat) with
    | some x, some y => UInt8.ofNat (x * 16 + y) :: percentDecode rest
    | _, _ => 0x25 :: percentDecode (a :: b :: rest)
  | b :: rest => b :: percentDecode rest

end Seedkeeper.Url
