import Seedkeeper.Text.CompositionTable
import Seedkeeper.Text.Table

/-!
Canonical composition: texts that look alike get one form.

Every character is taken apart, the marks behind a base are put in their order, and what can be put
together again is put together. Marks of one place keep the order they have. Korean syllables are put
together by arithmetic.
-/

namespace Seedkeeper.Text

/-- The composed characters. -/
def composed : List Table.Replacement := Table.replacements composedTable

/-- The places of marks. -/
def markPlaces : List Table.Replacement := Table.replacements markPlaceTable

/-- The place of a character among the marks behind a base; 0 for a base. -/
def markPlace (c : Char) : Nat :=
  if c.toNat < 128 then 0
  else match Table.put? markPlaces c with
    | some [place] => place.toNat
    | _ => 0

/-! ### Korean syllables -/

namespace Syllable

/-- The first syllable. -/
def first : Nat := 0xAC00

/-- The first leading consonant, vowel and trailing consonant; the last one stands for none. -/
def firstLead : Nat := 0x1100
@[inherit_doc firstLead] def firstVowel : Nat := 0x1161
@[inherit_doc firstLead] def firstTrail : Nat := 0x11A7

/-- How many leading consonants, vowels and trailing consonants there are. -/
def leads : Nat := 19
@[inherit_doc leads] def vowels : Nat := 21
@[inherit_doc leads] def trails : Nat := 28

/-- A syllable taken apart once. -/
def parts? (n : Nat) : Option (Nat × Nat) :=
  if first ≤ n ∧ n < first + leads * vowels * trails then
    let i := n - first
    if i % trails = 0 then some (firstLead + i / trails / vowels, firstVowel + i / trails % vowels)
    else some (n - i % trails, firstTrail + i % trails)
  else none

/-- Two parts put together. -/
def joined? (a b : Nat) : Option Nat :=
  if firstLead ≤ a ∧ a < firstLead + leads ∧ firstVowel ≤ b ∧ b < firstVowel + vowels then
    some (first + ((a - firstLead) * vowels + (b - firstVowel)) * trails)
  else if first ≤ a ∧ a < first + leads * vowels * trails ∧ (a - first) % trails = 0 ∧
      firstTrail < b ∧ b < firstTrail + trails then
    some (a + (b - firstTrail))
  else none

example : parts? 0xD55C = some (0xD558, 0x11AB) := by decide
example : joined? 0xD558 0x11AB = some 0xD55C := by decide
example : (parts? 0xD558).bind (fun (a, b) => joined? a b) = some 0xD558 := by decide

end Syllable

/-! ### Taking apart -/

/-- A character taken apart once. -/
def parts? (c : Char) : Option (Char × Char) :=
  match Syllable.parts? c.toNat with
  | some (a, b) => some (Char.ofNat a, Char.ofNat b)
  | none =>
    match Table.put? composed c with
    | some [a, b] => some (a, b)
    | _ => none

/-- A character taken apart so many times. -/
def takenApart : Nat → Char → List Char
  | 0, c => [c]
  | times + 1, c =>
    match parts? c with
    | some (a, b) => takenApart times a ++ [b]
    | none => [c]

/-- A character taken apart; there is nothing left to do after four times. -/
def decompose (c : Char) : List Char := if c.toNat < 128 then [c] else takenApart 4 c

/-- A mark put in its place at the end of a text whose last character comes first. -/
def placeMark (c : Char) : List Char → List Char
  | [] => [c]
  | d :: ds =>
    if markPlace c ≠ 0 ∧ markPlace c < markPlace d then d :: placeMark c ds else c :: d :: ds

/-! ### Putting together -/

/-- Two characters put together. -/
def joined? (a b : Char) : Option Char :=
  match Syllable.joined? a.toNat b.toNat with
  | some n => some (Char.ofNat n)
  | none =>
    composed.findSome? fun r =>
      if r.text = [a.toNat, b.toNat] then some (Char.ofNat r.first) else none

/-- A text that is being put together, its last character first: what is finished, the base at hand
    and the marks behind it. -/
structure Composing where
  finished : List Char
  base : Option Char
  marks : List Char

namespace Composing

/-- The text so far. -/
def reversed (t : Composing) : List Char := t.marks ++ t.base.toList ++ t.finished

/-- A character that stays for itself. -/
def push (t : Composing) (c : Char) : Composing :=
  if markPlace c = 0 then ⟨t.reversed, some c, []⟩
  else if t.base.isSome then { t with marks := c :: t.marks }
  else { t with finished := c :: t.finished }

/-- Whether no mark stands between the base and the next character. -/
def isOpenTo (t : Composing) (c : Char) : Bool :=
  t.marks.head?.all fun m => markPlace m < markPlace c

/-- The next character, put together with the base where that can be done. -/
def take (t : Composing) (c : Char) : Composing :=
  match t.base.bind fun b => if t.isOpenTo c then joined? b c else none with
  | some joined => { t with base := some joined }
  | none => t.push c

end Composing

/-- A text in composed form. -/
def compose (cs : List Char) : List Char :=
  let marked := (cs.flatMap decompose).foldl (fun placed c => placeMark c placed) []
  (marked.reverse.foldl Composing.take ⟨[], none, []⟩).reversed.reverse

end Seedkeeper.Text
