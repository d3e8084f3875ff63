import Seedkeeper.Text.Ascii

/-!
Strings as TOML documents write them.

A string stands between quotes, or between apostrophes where that spares escaping quotes and
backslashes; one with line ends stands between three of either.
-/

namespace Seedkeeper.Toml

/-- How a string is spelled. -/
inductive Spelling where
  | basic
  | basicLines
  | literal
  | literalTriple
  | literalLines
  deriving DecidableEq

/-- A character of a string between quotes. -/
def writtenChar (overLines : Bool) (c : Char) : List Char :=
  if c = '\x08' then ['\\', 'b']
  else if c = '\t' then ['\\', 't']
  else if c = '\n' then if overLines then ['\n'] else ['\\', 'n']
  else if c = '\x0c' then ['\\', 'f']
  else if c = '\r' then ['\\', 'r']
  else if c = '"' then ['\\', '"']
  else if c = '\\' then ['\\', '\\']
  else if c.toNat ≤ 0x1F ∨ c = '\x7f' then
    ['\\', 'u', '0', '0', Text.hexDigitUpper (c.toNat / 16), Text.hexDigitUpper (c.toNat % 16)]
  else [c]

/-- Whether three apostrophes stand next to each other. -/
def hasThreeApostrophes : List Char → Bool
  | '\'' :: '\'' :: '\'' :: _ => true
  | _ :: cs => hasThreeApostrophes cs
  | [] => false

/-- Whether apostrophes can be put around a string. -/
def fitsLiteral (cs : List Char) : Bool :=
  !hasThreeApostrophes cs && cs.getLast? != some '\'' &&
    cs.all fun c => c == '\t' || c == '\n' || (0x20 ≤ c.toNat && c.toNat != 0x7F)

/-- The spelling of a string. -/
def spellingOf (cs : List Char) : Spelling :=
  if cs.any (fun c => c == '"' || c == '\\') && fitsLiteral cs then
    if cs.contains '\n' then .literalLines
    else if cs.contains '\'' then .literalTriple
    else .literal
  else if cs.contains '\n' then .basicLines
  else .basic

/-- A string as it is written. -/
def writtenText (s : String) : String :=
  let cs := s.toList
  match spellingOf cs with
  | .basic => "\"" ++ String.ofList (cs.flatMap (writtenChar false)) ++ "\""
  | .basicLines => "\"\"\"\n" ++ String.ofList (cs.flatMap (writtenChar true)) ++ "\"\"\""
  | .literal => "'" ++ s ++ "'"
  | .literalTriple => "'''" ++ s ++ "'''"
  | .literalLines => "'''\n" ++ s ++ "'''"

end Seedkeeper.Toml
