import Seedkeeper.Text.Composition
import Seedkeeper.Text.Lowercase
import Seedkeeper.Url.DomainName.MappingTable

/-!
Domain names before their labels are looked at: small letters instead of capital ones, one form for
characters that mean the same, nothing for characters that do not show. Some characters cannot stand
in a name at all.
-/

namespace Seedkeeper.Url.DomainName

open Text (Table.ranges Table.replacements Table.holds Table.put?)

/-- Characters that stay as they are if no other rule speaks of them. -/
def kept : List (Nat × Nat) := Table.ranges keptTable

/-- Characters that are left out. -/
def leftOut : List (Nat × Nat) := Table.ranges leftOutTable

/-- Characters with a replacement of their own. -/
def replaced : List Text.Table.Replacement := Table.replacements replacedTable

/-- What is put for a character, if it can stand in a name. -/
def mapChar? (c : Char) : Option (List Char) :=
  if c.toNat < 128 then some [Text.asciiLower c]
  else match Table.put? replaced c with
    | some cs => some cs
    | none =>
      if Table.holds leftOut c then some []
      else if Text.lowerChar c ≠ [c] then some (Text.lowerChar c)
      else if Table.holds kept c then some [c]
      else none

/-- Whether a character stays as it is. -/
def isKept (c : Char) : Bool := mapChar? c == some [c]

/-- A name with every character mapped, in composed form. -/
def map? (name : List Char) : Option (List Char) :=
  if name.all (·.toNat < 128) then some (name.map Text.asciiLower)
  else (name.mapM mapChar?).map fun css => Text.compose css.flatten

end Seedkeeper.Url.DomainName
