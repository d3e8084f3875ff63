import Seedkeeper.Text.Blank
import Seedkeeper.Url.DomainName.Label
import Seedkeeper.Url.Punycode

/-!
Domain names in ASCII form.

A name is mapped and cut into labels. A label beyond ASCII is written in Punycode behind a mark; a
label that already has the mark has to stand for one beyond ASCII that needs no mapping.
-/

namespace Seedkeeper.Url.DomainName

/-- The mark of a label in Punycode. -/
def mark : List Char := "xn--".toList

/-- Whether a text is ASCII. -/
def isAscii (cs : List Char) : Bool := cs.all (·.toNat < 128)

/-- The label that a mapped label stands for. -/
def plain? (label : List Char) : Option (List Char) := do
  let plain ← match Text.dropStart? mark label with
    | none => some label
    | some coded => do
      let plain ← Punycode.decode? coded
      if isAscii plain then none else some plain
  if isAscii plain ∨ isLabel plain then some plain else none

/-- A label in ASCII form. -/
def ascii (label : List Char) : List Char :=
  if isAscii label then label else mark ++ Punycode.encode label

/-- A domain name in ASCII form. -/
def toAscii? (name : List Char) : Option (List Char) := do
  let labels ← (Text.pieces '.' (← map? name)).mapM plain?
  if labels.any (·.any isLeftwards) ∧ !labels.all keepsDirection then none
  else some (".".toList.intercalate (labels.map ascii))

end Seedkeeper.Url.DomainName
