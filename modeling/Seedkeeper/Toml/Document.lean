import Seedkeeper.Toml.Scalar
import Seedkeeper.Toml.Table

/-!
TOML documents.

A document is a row of lines: headers, members, comments and empty lines. Values may nest up to a
fixed depth.
-/

namespace Seedkeeper.Toml

open Text (Scan)
open Text.Scan

/-! ### Keys -/

/-- Characters of keys without quotes. -/
def isKeyChar (c : Char) : Bool :=
  Text.isLetter c || Text.isDigit c || c == '_' || c == '-'

/-- One part of a key. -/
def keyPart : Scan String := do
  match ← peek? with
  | some '"' => basicText
  | some '\'' => literalText
  | _ =>
    let cs ← many isKeyChar
    ensure (!cs.isEmpty)
    return String.ofList cs

/-- How many arrays and braces, and how many parts of a key, may nest. -/
def maxDepth : Nat := 79

/-- A key, its parts separated by dots. -/
def key : Scan (List String) := do
  let parts ← loop (fun (parts : List String) => do
    spaces
    let part ← keyPart
    spaces
    return if ← try_ '.' then .inl (part :: parts) else .inr (part :: parts)) []
  ensure (parts.length ≤ maxDepth)
  return parts.reverse

/-! ### Values -/

/-- A comment up to the end of its line. -/
def comment : Scan Unit := do
  eat '#'
  let _ ← many isPlain

/-- Blanks, line ends and comments, as they may stand between the items of an array. -/
def gap : Scan Unit :=
  loop (fun _ => do
    blankLines
    match ← peek? with
    | some '#' =>
      comment
      lineBreak
      return .inl ()
    | _ => return .inr ()) ()

/-- An array, given how its items are read. -/
def array (item : Scan Value) : Scan Value := do
  eat '['
  let items ← loop (fun (items : List Value) => do
    gap
    if ← try_ ']' then return .inr items
    let v ← item
    gap
    if ← try_ ',' then return .inl (v :: items)
    eat ']'
    return .inr (v :: items)) []
  return .array items.reverse

/-- A key with its value, given how values are read: the parts before the last, the last and the
    value. -/
def pair (item : Scan Value) : Scan (List String × String × Value) := do
  let parts ← key
  eat '='
  spaces
  let v ← item
  spaces
  match parts.getLast? with
  | some k => return (parts.dropLast, k, v)
  | none => failure

/-- A table in braces, given how its values are read. -/
def braces (item : Scan Value) : Scan Value := do
  eat '\x7b'
  spaces
  let members ←
    if ← try_ '\x7d' then pure []
    else
      loop (fun (members : List (List String × String × Value)) => do
        let m ← pair item
        if ← try_ ',' then return .inl (m :: members)
        eat '\x7d'
        return .inr (m :: members)) []
  match inlineTable? members.reverse with
  | some v => return v
  | none => failure

/-- A value with at most so many arrays and braces around each other in it. -/
def value : Nat → Scan Value
  | 0 => scalar
  | depth + 1 => do
    match ← peek? with
    | some '[' => array (value depth)
    | some '\x7b' => braces (value depth)
    | _ => scalar

/-! ### Lines -/

/-- What may stand behind a statement in its line, and the end of the line. -/
def lineEnd : Scan Unit := do
  spaces
  if (← peek?) = some '#' then comment
  lineBreak <|> finished

/-- A header. -/
def header : Scan Statement := do
  eat '['
  let double ← try_ '['
  let path ← key
  eat ']'
  if double then eat ']'
  lineEnd
  return if double then .listHeader path else .header path

/-- A member. -/
def member : Scan Statement := do
  let (path, k, v) ← pair (value maxDepth)
  lineEnd
  return .member path k v

/-- One line. -/
def line (statements : List Statement) : Scan (List Statement) := do
  match ← peek? with
  | some '#' =>
    comment
    lineBreak <|> finished
    return statements
  | some '[' => return (← header) :: statements
  | some '\n' | some '\r' =>
    lineBreak
    return statements
  | _ => return (← member) :: statements

/-- The statements of a document; a byte order mark may stand in front. -/
def statements : Scan (List Statement) := do
  let _ ← try_ '\uFEFF'
  let ss ← loop (fun (ss : List Statement) => do
    spaces
    if (← rest).isEmpty then return .inr ss
    return .inl (← line ss)) []
  return ss.reverse

/-- The members of the document that a text holds. -/
def read? (s : String) : Option Members := (whole statements s.toList).bind assemble?

end Seedkeeper.Toml
