import Seedkeeper.Config.Decode

/-!
Settings from the environment.

A variable whose name begins with `SEEDKEEPER_` is a setting: the rest of the name is its key in
small letters, two underscores standing between the levels of a key. Its value is read by a small
grammar of its own: truth values, braces, brackets, quoted strings, single characters, numbers and
otherwise the trimmed text; what the grammar does not read to its end is a text as it stands.
Settings of the environment win over those of a document: tables are joined, all else is replaced.
-/

namespace Seedkeeper.Config

open Text (Scan)
open Text.Scan
open Toml (Members Value)

/-! ### Values -/

/-- ASCII blanks. -/
def isAsciiBlank (c : Char) : Bool :=
  c == ' ' || c == '\t' || c == '\n' || c == '\x0c' || c == '\r'

/-- ASCII blanks taken. -/
def blanks : Scan Unit := do
  let _ ← many isAsciiBlank

/-- Characters that end a plain value. -/
def isSeparator (c : Char) : Bool := [',', '\x7b', '\x7d', '[', ']'].contains c

/-- A quoted string. -/
def quoted : Scan String := Toml.basicText

/-- A character between apostrophes. -/
def character : Scan String := do
  eat '\''
  let c ← next
  eat '\''
  return String.singleton c

/-- Whether a text is a number with a point: digits on one side of it at least, perhaps signed and
    with an exponent. -/
def isPointed (s : String) : Bool :=
  let unsigned := match s.toList with
    | '+' :: cs | '-' :: cs => cs
    | cs => cs
  let exponent (cs : List Char) : Bool := match cs with
    | [] => true
    | e :: cs =>
      let ds := match cs with
        | '+' :: ds | '-' :: ds => ds
        | ds => ds
      (e == 'e' || e == 'E') && !ds.isEmpty && ds.all Text.isDigit
  match Text.splitOnceChars '.' unsigned with
  | none => false
  | some (whole, rest) =>
    let fraction := rest.takeWhile Text.isDigit
    whole.all Text.isDigit && !(whole.isEmpty && fraction.isEmpty) &&
      exponent (rest.dropWhile Text.isDigit)

/-- The integer that a text spells, unsigned or signed with 64 bits. -/
def integer? (s : String) : Option Int :=
  match s.toList with
  | '-' :: cs => ((Text.decimalValue? cs).map fun n => -(n : Int)).filter (Number.fitsInt64 ·)
  | '+' :: cs => ((Text.decimalValue? cs).filter (· < UInt64.size)).map Int.ofNat
  | cs => ((Text.decimalValue? cs).filter (· < UInt64.size)).map Int.ofNat

/-- What a plain text means. -/
def plainValue (s : String) : Value :=
  if isPointed s then .float s
  else match integer? s with
    | some n => .integer n
    | none => .text s

/-- A plain value. -/
def plain : Scan Value := do
  let cs ← many fun c => !isSeparator c
  return plainValue (Text.trim (String.ofList cs))

/-- Items between two brackets, given how one is read; a comma may stand after the last one. -/
def enclosed {α : Type} (first last : Char) (item : Scan α) : Scan (List α) := do
  eat first
  let items ← loop (fun (items : List α) => do
    if ← try_ last then return .inr items
    let a ← item
    if ← try_ ',' then return .inl (a :: items)
    eat last
    return .inr (a :: items)) []
  return items.reverse

/-- A key. -/
def settingKey : Scan String := do
  match ← peek? with
  | some '"' => quoted
  | _ =>
    let cs ← many Toml.isKeyChar
    ensure (!cs.isEmpty)
    return String.ofList cs

/-- A key with its value, given how values are read. -/
def settingPair (item : Scan Value) : Scan (String × Value) := do
  blanks
  let k ← settingKey
  blanks
  eat '='
  let v ← item
  return (k, v)

/-- Members, the last value of a key counting. -/
def lastOfEach (pairs : List (String × Value)) : Members :=
  pairs.foldl (fun (ms : Members) (k, v) =>
    if (ms.find? k).isSome then ms.replace k v else ms.add k v) []

/-- A value with at most so many brackets and braces around each other in it. -/
def settingValue : Nat → Scan Value
  | 0 => failure
  | depth + 1 => do
    blanks
    let v ←
      if ← tryAll "true".toList then pure (.boolean true)
      else if ← tryAll "false".toList then pure (.boolean false)
      else match ← peek? with
        | some '\x7b' =>
          (fun pairs => .table .inline (lastOfEach pairs)) <$>
            enclosed '\x7b' '\x7d' (settingPair (settingValue depth))
        | some '[' => .array <$> enclosed '[' ']' (settingValue depth)
        | some '"' => .text <$> quoted
        | some '\'' => .text <$> character
        | _ => plain
    blanks
    return v

/-- The value of a setting. -/
def settingOf (s : String) : Value :=
  (whole (settingValue (s.length + 1)) s.toList).getD (.text s)

/-! ### Keys -/

/-- What a setting's name begins with. -/
def settingMark : String := "SEEDKEEPER_"

/-- Two underscores, wherever they stand next to each other, as one point. -/
def pointed : List Char → List Char
  | '_' :: '_' :: cs => '.' :: pointed cs
  | c :: cs => c :: pointed cs
  | [] => []

/-- The path that a variable's name spells, if it is a setting. -/
def settingPath? (name : String) : Option (List String) := do
  let name := (Text.trim name).toList
  let rest ← Text.dropStart? (settingMark.toList.map Text.asciiLower) (name.map Text.asciiLower)
  let path := (Text.pieces '.' (pointed (Text.trimChars rest))).map String.ofList
  if path.any (·.isEmpty) then none else some path

/-! ### Joining -/

/-- A value under a path. -/
def nest (v : Value) : List String → Value
  | [] => v
  | k :: path => .table .inline [(k, nest v path)]

/-- Members joined with those that win over them, down to a number of levels. -/
def joined : Nat → Members → Members → Members
  | 0, _, winners => winners
  | depth + 1, ms, winners =>
    winners.foldl (fun ms (k, v) =>
      match ms.find? k, v with
      | some (.table o own), .table _ wins => ms.replace k (.table o (joined depth own wins))
      | some _, v => ms.replace k v
      | none, v => ms.add k v) ms

/-- A document's members with the value of a setting; its text bounds how deep it nests. -/
def set (ms : Members) (path : List String) (value : String) : Members :=
  match nest (settingOf value) path with
  | .table _ winners => joined (path.length + value.length + 1) ms winners
  | _ => ms

/-- Variables in ascending order of their names. -/
def ascending (environment : List (String × String)) : List (String × String) :=
  environment.mergeSort fun a b => a.1 ≤ b.1

/-- A document's members with the settings of an environment. -/
def override (ms : Members) (environment : List (String × String)) : Members :=
  (ascending environment).foldl (fun ms (name, value) =>
    match settingPath? name with
    | some path => set ms path value
    | none => ms) ms

/-- The configuration of a document and an environment. -/
def layered? (document : String) (environment : List (String × String)) : Option Config := do
  ofMembers? false (override (← Toml.read? document) environment)

end Seedkeeper.Config
