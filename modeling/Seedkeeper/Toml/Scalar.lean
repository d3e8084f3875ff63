import Seedkeeper.Number.Word
import Seedkeeper.Text.Ascii
import Seedkeeper.Text.Scan
import Seedkeeper.Toml.Value

/-!
Scalars of TOML: strings in four spellings, numbers, truth values, dates and times.
-/

namespace Seedkeeper.Toml

open Text (Scan isDigit)
open Text.Scan

/-! ### Characters -/

/-- Blanks inside a line. -/
def isSpace (c : Char) : Bool := c == ' ' || c == '\t'

/-- Characters that a comment and every string may hold: all but controls other than the tab. -/
def isPlain (c : Char) : Bool := c == '\t' || (0x20 ≤ c.toNat && c.toNat != 0x7F)

/-- Blanks up to the next character of a line. -/
def spaces : Scan Unit := do
  let _ ← many isSpace

/-- The end of a line. -/
def lineBreak : Scan Unit := eat '\n' <|> eatAll ['\r', '\n']

/-- Blanks and line ends. -/
def blankLines : Scan Unit :=
  loop (fun _ => do
    let run ← many isSpace
    (do lineBreak; return .inl ()) <|> return (if run.isEmpty then .inr () else .inl ())) ()

/-! ### Strings -/

/-- The character with a code point, if it has one. -/
def charOf? (n : Nat) : Option Char :=
  if n.isValidChar then some (Char.ofNat n) else none

/-- A character by as many hexadecimal digits of its code point. -/
def codePoint (digits : Nat) : Scan Char := do
  let ds ← exactly (fun c => (Text.hexValue? c).isSome) digits
  match (Text.digitsValue? 16 Text.hexValue? ds).bind charOf? with
  | some c => return c
  | none => failure

/-- The character that an escape stands for, after its backslash. -/
def escaped : Scan Char := do
  match ← next with
  | 'b' => return '\x08'
  | 't' => return '\t'
  | 'n' => return '\n'
  | 'f' => return '\x0c'
  | 'r' => return '\r'
  | '"' => return '"'
  | '\\' => return '\\'
  | 'u' => codePoint 4
  | 'U' => codePoint 8
  | _ => failure

/-- A backslash at the end of a line, with all blanks and line ends after it. -/
def continuation : Scan Unit := do
  eat '\\'
  spaces
  lineBreak
  blankLines

/-- A string between quotes. -/
def basicText : Scan String := do
  eat '"'
  let cs ← loop (fun (cs : List Char) => do
    match ← next with
    | '"' => return .inr cs
    | '\\' => return .inl ((← escaped) :: cs)
    | c =>
      ensure (isPlain c)
      return .inl (c :: cs)) []
  return String.ofList cs.reverse

/-- A string between apostrophes, in which everything stands for itself. -/
def literalText : Scan String := do
  eat '\''
  let cs ← many fun c => isPlain c && c != '\''
  eat '\''
  return String.ofList cs

/-- What a run of quotes means inside a string with three quotes at each end: up to two are part of
    the string, three end it, and the two before those may still be part of it. -/
def quoteRun (quote : Char) (cs : List Char) : Scan (List Char ⊕ List Char) := do
  let run ← many (· == quote)
  if run.length < 3 then return .inl (run ++ cs)
  else
    ensure (run.length ≤ 5)
    return .inr (run.drop 3 ++ cs)

/-- The start of a string with three quotes at each end; a line end right after it does not count. -/
def tripleStart (quote : Char) : Scan Unit := do
  eatAll [quote, quote, quote]
  lineBreak <|> return ()

/-- A string between three quotes, over any number of lines. -/
def basicLines : Scan String := do
  tripleStart '"'
  let cs ← loop (fun (cs : List Char) => do
    match ← peek? with
    | some '"' => quoteRun '"' cs
    | some '\\' =>
      (do continuation; return .inl cs) <|> (do eat '\\'; return .inl ((← escaped) :: cs))
    | _ =>
      (do lineBreak; return .inl ('\n' :: cs)) <|>
        (do let c ← oneOf isPlain; return .inl (c :: cs))) []
  return String.ofList cs.reverse

/-- A string between three apostrophes, over any number of lines. -/
def literalLines : Scan String := do
  tripleStart '\''
  let cs ← loop (fun (cs : List Char) => do
    match ← peek? with
    | some '\'' => quoteRun '\'' cs
    | _ =>
      (do lineBreak; return .inl ('\n' :: cs)) <|>
        (do let c ← oneOf isPlain; return .inl (c :: cs))) []
  return String.ofList cs.reverse

/-- A string in any spelling. -/
def string : Scan String := basicLines <|> basicText <|> literalLines <|> literalText

/-! ### Dates and times -/

/-- A number of a given width and range. -/
def clockPart (width low high : Nat) : Scan Nat := do
  let ds ← exactly isDigit width
  match Text.decimalValue? ds with
  | some n =>
    ensure (low ≤ n && n ≤ high)
    return n
  | none => failure

/-- The days of a month. -/
def daysOfMonth (year month : Nat) : Nat :=
  if month = 2 then
    if year % 4 = 0 ∧ (year % 100 ≠ 0 ∨ year % 400 = 0) then 29 else 28
  else if month = 4 ∨ month = 6 ∨ month = 9 ∨ month = 11 then 30
  else 31

/-- A date. -/
def fullDate : Scan Unit := do
  let year ← clockPart 4 0 9999
  eat '-'
  let month ← clockPart 2 1 12
  eat '-'
  let day ← clockPart 2 1 31
  ensure (day ≤ daysOfMonth year month)

/-- A time of day. -/
def timeOfDay : Scan Unit := do
  let _ ← clockPart 2 0 23
  eat ':'
  let _ ← clockPart 2 0 59
  eat ':'
  let _ ← clockPart 2 0 60
  if ← try_ '.' then
    let fraction ← many isDigit
    ensure (!fraction.isEmpty)

/-- A distance from UTC. -/
def utcOffset : Scan Unit := do
  match ← next with
  | 'Z' | 'z' => return ()
  | '+' | '-' =>
    let _ ← clockPart 2 0 23
    eat ':'
    let _ ← clockPart 2 0 59
  | _ => failure

/-- A time after a date. -/
def timeAfterDate : Scan Unit := do
  let _ ← oneOf fun c => c == 'T' || c == 't' || c == ' '
  timeOfDay
  utcOffset <|> return ()

/-- What a scan takes, as it is written. -/
def written (scan : Scan Unit) : Scan String := do
  let before ← rest
  scan
  let after ← rest
  return String.ofList (before.take (before.length - after.length))

/-- A date, a time or both. -/
def moment : Scan Value :=
  .moment <$> written ((do fullDate; timeAfterDate <|> return ()) <|> timeOfDay)

/-! ### Numbers -/

/-- Whether digits stand on both sides of every underscore. -/
def isSpaced (cs : List Char) : Bool :=
  !cs.isEmpty && cs.head? != some '_' && cs.getLast? != some '_' &&
    (cs.zip cs.tail).all fun (a, b) => a != '_' || b != '_'

/-- Digits of a base, underscores between them left out. -/
def spacedDigits (isDigit : Char → Bool) : Scan (List Char) := do
  let cs ← many fun c => isDigit c || c == '_'
  ensure (isSpaced cs)
  return cs.filter (· != '_')

/-- A number in another base than ten, after its mark. -/
def basedInteger (base : Nat) (digit? : Char → Option Nat) : Scan Value := do
  let ds ← spacedDigits fun c => (digit? c).isSome
  match Text.digitsValue? base digit? ds with
  | some n =>
    ensure (Number.fitsInt64 n)
    return .integer n
  | none => failure

/-- The value of a digit below a base up to ten. -/
def digitBelow? (base : Nat) (c : Char) : Option Nat :=
  if isDigit c ∧ c.toNat - 48 < base then some (c.toNat - 48) else none

/-- A sign: whether it is a minus. -/
def sign : Scan Bool := do
  match ← peek? with
  | some '-' => eat '-'; return true
  | some '+' => eat '+'; return false
  | _ => return false

/-- The digits before a point; a zero stands alone. -/
def wholeDigits : Scan (List Char) := do
  let ds ← spacedDigits isDigit
  ensure (ds.head? != some '0' || ds.length == 1)
  return ds

/-- The digits after a point. -/
def fractionDigits : Scan (List Char) := do
  eat '.'
  spacedDigits isDigit

/-- An exponent. -/
def exponent : Scan Int := do
  let _ ← oneOf fun c => c == 'e' || c == 'E'
  let negative ← sign
  let ds ← spacedDigits isDigit
  let n : Int := ((Text.decimalValue? ds).getD 0 : Nat)
  return if negative then -n else n

/-- Whether digits scaled by a power of ten are too large for binary floating point of 64 bits. -/
def isTooLarge (digits : List Char) (scale : Int) : Bool :=
  let n := (Text.decimalValue? digits).getD 0
  let size := (toString n).length + scale
  if n = 0 ∨ size < 308 then false
  else if 310 < size then true
  else
    let bound := Nat.pow 2 1024 - Nat.pow 2 970
    if 0 ≤ scale then bound ≤ n * Nat.pow 10 scale.toNat
    else bound * Nat.pow 10 scale.natAbs ≤ n

/-- A number that is not finite. -/
def special : Scan Unit := do
  let _ ← sign
  eatAll "inf".toList <|> eatAll "nan".toList

/-- A number with a fraction or an exponent. -/
def fractional : Scan Unit := do
  let negative ← sign
  let whole ← wholeDigits
  let (fraction, scale) ←
    (do
      let ds ← fractionDigits
      let e ← exponent <|> return 0
      return (ds, e)) <|> (do return ([], ← exponent))
  ensure (negative || !isTooLarge (whole ++ fraction) (scale - fraction.length))

/-- A decimal integer. -/
def decimal : Scan Value := do
  let negative ← sign
  let n ← wholeDigits
  let n : Int := ((Text.decimalValue? n).getD 0 : Nat)
  let n := if negative then -n else n
  ensure (Number.fitsInt64 n)
  return .integer n

/-- A number in any spelling. -/
def number : Scan Value := do
  match (← rest).take 2 with
  | ['0', 'x'] => let _ ← next; let _ ← next; basedInteger 16 Text.hexValue?
  | ['0', 'o'] => let _ ← next; let _ ← next; basedInteger 8 (digitBelow? 8)
  | ['0', 'b'] => let _ ← next; let _ ← next; basedInteger 2 (digitBelow? 2)
  | _ => (.float <$> written (fractional <|> special)) <|> decimal

/-- A truth value. -/
def boolean : Scan Value :=
  (do eatAll "true".toList; return .boolean true) <|>
    (do eatAll "false".toList; return .boolean false)

/-- A value that holds no others. -/
def scalar : Scan Value := (.text <$> string) <|> moment <|> number <|> boolean

end Seedkeeper.Toml
