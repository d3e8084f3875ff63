import Seedkeeper.Text.Table
import Seedkeeper.Url.DomainName.Mapping
import Seedkeeper.Url.DomainName.PropertyTable

/-!
Which labels a domain name beyond ASCII can have.

A label does not begin with a mark. An invisible joiner stands only behind a mark that asks for it or,
if it separates, between letters that would join. In a name with letters that are written from right
to left every label keeps one direction.
-/

namespace Seedkeeper.Url.DomainName

/-! ### Marks and joiners -/

/-- Whether a character is a mark. -/
def isMark (c : Char) : Bool := Text.Table.holds (Text.Table.ranges markTable) c

/-- The place of the marks that ask for a joiner. -/
def joinerPlace : Nat := 9

/-- The character that separates letters which would join. -/
def separator : Char := '\u200C'

/-- The character that joins letters. -/
def joiner : Char := '\u200D'

/-- Whether a character shows in the joining of its neighbours: a mark does not. -/
def isThrough (c : Char) : Bool := Text.Table.holds (Text.Table.ranges nonspacingTable) c

/-- Whether a character joins with what follows it. -/
def joinsOn (c : Char) : Bool :=
  Text.Table.holds (Text.Table.ranges joiningOnTable ++ Text.Table.ranges joiningBothTable) c

/-- Whether a character joins with what stands before it. -/
def joinsBack (c : Char) : Bool :=
  Text.Table.holds (Text.Table.ranges joiningBackTable ++ Text.Table.ranges joiningBothTable) c

/-- Whether every joiner stands where it may, after `before` (nearest character first). -/
def joinersFit (before : List Char) : List Char → Bool
  | [] => true
  | c :: rest =>
    let asked := before.head?.any (Text.markPlace · == joinerPlace)
    let between := (before.dropWhile isThrough).head?.any joinsOn &&
      (rest.dropWhile isThrough).head?.any joinsBack
    (if c = joiner then asked else if c = separator then asked || between else true) &&
      joinersFit (c :: before) rest

/-! ### Directions -/

/-- How a character is written. -/
inductive Direction where
  | rightwards
  | leftwards
  | arabicNumeral
  | europeanNumeral
  /-- A mark, written as what it stands on. -/
  | onBase
  | neutral
  deriving DecidableEq

/-- The direction of a character. -/
def Direction.of (c : Char) : Direction :=
  if Text.isDigit c then .europeanNumeral
  else if Text.isLetter c then .rightwards
  else
    let isIn (table : List String) := Text.Table.holds (Text.Table.ranges table) c
    if isIn rightToLeftTable then .leftwards
    else if isIn arabicNumeralTable then .arabicNumeral
    else if isIn europeanNumeralTable then .europeanNumeral
    else if isIn nonspacingTable then .onBase
    else if isIn neutralTable then .neutral
    else .rightwards

/-- Whether a character is written from right to left. -/
def isLeftwards (c : Char) : Bool :=
  128 ≤ c.toNat && (Direction.of c == .leftwards || Direction.of c == .arabicNumeral)

/-- Whether a label keeps one direction: it begins with a letter of it, has no letter of the other,
    and ends with a letter of it or a numeral; numerals of both kinds do not mix. -/
def keepsDirection (label : List Char) : Bool :=
  let ds := label.map Direction.of
  let last := (ds.reverse.dropWhile (· == .onBase)).head?
  match ds with
  | [] => true
  | .leftwards :: _ =>
    !ds.contains .rightwards && last != some .neutral &&
      !(ds.contains .arabicNumeral && ds.contains .europeanNumeral)
  | .rightwards :: _ =>
    !ds.contains .leftwards && !ds.contains .arabicNumeral && last != some .neutral
  | _ => false

/-! ### Labels -/

/-- Whether a label can stand in a name, directions left aside. -/
def isLabel (label : List Char) : Bool :=
  label.all isKept && Text.compose label == label && !label.head?.any isMark &&
    joinersFit [] label

end Seedkeeper.Url.DomainName
