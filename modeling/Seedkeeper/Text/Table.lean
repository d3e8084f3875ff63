import Seedkeeper.Text.Ascii
import Seedkeeper.Text.Blank

/-!
Tables of characters in written form.

A table is a row of items with blanks between them, on any number of lines; all numbers are
hexadecimal code points. In a table of ranges an item is `first-last`, or one code point alone.

In a table of replacements `n:` turns to the character `n`. Any other item says what is put for the
character at hand and turns to the next one: `a.b.c` puts these characters, `a+n` puts `a` and its
successors for `n` characters, `a*n` puts `a` for each of `n` characters, and `_` puts nothing.
-/

namespace Seedkeeper.Text.Table

/-- A written number, 0 for anything else. -/
def number (cs : List Char) : Nat := (digitsValue? 16 hexValue? cs).getD 0

/-- The items of a table. -/
def items (table : List String) : List (List Char) :=
  table.flatMap fun line => (pieces ' ' line.toList).filter fun item => !item.isEmpty

/-! ### Ranges -/

/-- The range of an item. -/
def range (item : List Char) : Nat × Nat :=
  match splitOnceChars '-' item with
  | some (first, last) => (number first, number last)
  | none => (number item, number item)

/-- A table of ranges. -/
def ranges (table : List String) : List (Nat × Nat) := (items table).map range

/-- Whether one of some ranges holds a character. -/
def holds (ranges : List (Nat × Nat)) (c : Char) : Bool :=
  ranges.any fun (first, last) => first ≤ c.toNat && c.toNat ≤ last

/-! ### Replacements -/

/-- What is put for the `count` characters from `first` on: for one that stands `i` places behind
    the first, `text` with `step * i` added to its last code point. -/
structure Replacement where
  first : Nat
  count : Nat
  step : Nat
  text : List Nat

/-- What a replacement puts for a code point. -/
def Replacement.for? (r : Replacement) (n : Nat) : Option (List Char) :=
  if r.first ≤ n ∧ n < r.first + r.count then
    match r.text.reverse with
    | [] => some []
    | t :: ts => some (((t + r.step * (n - r.first)) :: ts).reverse.map Char.ofNat)
  else none

/-- The replacement of an item for the characters from one on. -/
def replacement (first : Nat) (item : List Char) : Replacement :=
  match splitOnceChars '+' item, splitOnceChars '*' item with
  | some (text, count), _ => ⟨first, number count, 1, [number text]⟩
  | none, some (text, count) => ⟨first, number count, 0, [number text]⟩
  | none, none => ⟨first, 1, 0, (pieces '.' item).map number⟩

/-- An item read at a character, after some replacements. -/
def readItem (at_ : Nat × List Replacement) (item : List Char) : Nat × List Replacement :=
  if item.getLast? = some ':' then (number item.dropLast, at_.2)
  else if item = ['_'] then (at_.1 + 1, at_.2)
  else
    let r := replacement at_.1 item
    (at_.1 + r.count, r :: at_.2)

/-- A table of replacements. -/
def replacements (table : List String) : List Replacement :=
  ((items table).foldl readItem (0, [])).2

/-- What a table puts for a character. -/
def put? (table : List Replacement) (c : Char) : Option (List Char) :=
  table.findSome? (·.for? c.toNat)

example : ranges ["41-5a 7f"] = [(0x41, 0x5a), (0x7f, 0x7f)] := by decide
example : put? (replacements ["c0: 41.300 _", "61+3"]) 'Á' = none := by decide
example : put? (replacements ["c0: 41.300 _", "61+3"]) 'Ã' = some ['b'] := by decide

end Seedkeeper.Text.Table
