import Seedkeeper.Text.Blank
import Seedkeeper.Text.Utf8

/-!
Bytes whose first ones may say how they are to be read.

A byte order mark at the start stands for UTF-8 or for either byte order of UTF-16 and is no part of
the text; bytes without one are UTF-8. In UTF-16 a unit that has no partner becomes a replacement
character, and so does what is missing its rest at the end.
-/

namespace Seedkeeper.Text

/-- Half of a pair of units. -/
inductive Half where
  | none
  /-- The first half, by its bits. -/
  | some (bits : Nat)

/-- The characters of UTF-16 units, some of them with half a pair before them; `cut` tells that a byte
    is left over at the end. -/
def ofUnits (cut : Bool) : Half → List Nat → List Char
  | .none, [] => if cut then [replacement] else []
  | .some _, [] => [replacement]
  | .none, u :: us =>
    if 0xD800 ≤ u ∧ u < 0xDC00 then ofUnits cut (.some (u - 0xD800)) us
    else if 0xDC00 ≤ u ∧ u < 0xE000 then replacement :: ofUnits cut .none us
    else Char.ofNat u :: ofUnits cut .none us
  | .some bits, u :: us =>
    if 0xDC00 ≤ u ∧ u < 0xE000 then
      Char.ofNat (0x10000 + bits * 0x400 + (u - 0xDC00)) :: ofUnits cut .none us
    else if 0xD800 ≤ u ∧ u < 0xDC00 then
      replacement :: ofUnits cut (.some (u - 0xD800)) us
    else replacement :: Char.ofNat u :: ofUnits cut .none us

/-- The units of bytes, put together by `join`. -/
def units (join : UInt8 → UInt8 → Nat) : Bytes → List Nat
  | a :: b :: bs => join a b :: units join bs
  | _ => []

/-- The text of UTF-16 bytes. -/
def ofUtf16Lossy (join : UInt8 → UInt8 → Nat) (bs : Bytes) : String :=
  String.ofList (ofUnits (bs.length % 2 = 1) .none (units join bs))

/-- The text of bytes that may begin with a byte order mark. -/
def ofMarkedLossy : Bytes → String
  | 0xEF :: 0xBB :: 0xBF :: bs => ofUtf8Lossy bs
  | 0xFF :: 0xFE :: bs => ofUtf16Lossy (fun a b => b.toNat * 256 + a.toNat) bs
  | 0xFE :: 0xFF :: bs => ofUtf16Lossy (fun a b => a.toNat * 256 + b.toNat) bs
  | bs => ofUtf8Lossy bs

example : ofMarkedLossy [0xFF, 0xFE, 0x4F, 0x00] = "O" := by decide
example : ofMarkedLossy [0xFE, 0xFF, 0xD8, 0x3D, 0xDE, 0x00, 0xD8] = "😀\uFFFD" := by decide

end Seedkeeper.Text
