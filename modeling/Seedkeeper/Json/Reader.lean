import Seedkeeper.Json.Basic

/-!
Reading JSON documents, one byte at a time.

The reader is a machine with a stack of open containers. `step` takes one byte and either moves on
or rejects; `read?` runs it over all bytes and asks that exactly one value, and nothing but blanks
around it, was read. Since a run over `s ++ t` is a run over `t` from where `s` ended, what the
machine does with a printed value can be said once for every surrounding.

A number has no closing byte of its own: it ends at the first byte that does not continue it, and
that byte is then read as one after a value.
-/

namespace Seedkeeper.Json

open Number (isDigit)
open Text (Bytes)

/-- An open container: what it holds so far, last first. -/
inductive Frame where
  | array (items : List Json)
  | object (members : List (Bytes × Json))
  /-- An object whose last member has its key and still wants its value. -/
  | member (members : List (Bytes × Json)) (key : Bytes)

/-- Where a number stands; it may end after `zero`, `int`, `frac` and `exp`. -/
inductive Digits where
  | minus | zero | int | point | frac | expMark | expSign | exp
  deriving DecidableEq

/-- Where a string stands. -/
inductive Quoted where
  | plain
  | backslash
  /-- Inside `\u`, with so many hexadecimal digits to come. -/
  | hex (more : Nat)
  deriving DecidableEq

/-- What the reader expects next. -/
inductive Expects where
  /-- A value. -/
  | value
  /-- The first item of an array, or its end. -/
  | firstItem
  /-- The first key of an object, or its end. -/
  | firstKey
  /-- A key. -/
  | key
  /-- The colon after a key. -/
  | colon (key : Bytes)
  /-- A comma or the end of the innermost container; with no container open, the end. -/
  | next
  /-- More of a key, read so far last first. -/
  | inKey (read : Bytes) (at_ : Quoted)
  /-- More of a string, read so far last first. -/
  | inString (read : Bytes) (at_ : Quoted)
  /-- More of a number, read so far last first. -/
  | inNumber (read : Bytes) (at_ : Digits)
  /-- The rest of a fixed word. -/
  | inWord (rest : Bytes) (meaning : Json)

/-- The reader between two bytes. -/
structure State where
  expects : Expects
  stack : List Frame
  /-- The outermost value, once it is complete. -/
  result : Option Json

/-- Before the first byte. -/
def State.start : State := ⟨.value, [], none⟩

/-- A value is complete: it joins the innermost container, or is the document. -/
def complete (v : Json) : List Frame → Option State
  | [] => some ⟨.next, [], some v⟩
  | .array items :: fs => some ⟨.next, .array (v :: items) :: fs, none⟩
  | .member ms k :: fs => some ⟨.next, .object ((k, v) :: ms) :: fs, none⟩
  | .object _ :: _ => none

/-- Blanks between tokens. -/
def isSpace (b : UInt8) : Bool := b = 0x20 || b = 0x09 || b = 0x0A || b = 0x0D

/-- A byte where a value may begin. -/
def beginValue (stack : List Frame) (b : UInt8) : Option State :=
  if b = 0x22 then some ⟨.inString [] .plain, stack, none⟩
  else if b = 0x5B then some ⟨.firstItem, .array [] :: stack, none⟩
  else if b = 0x7B then some ⟨.firstKey, .object [] :: stack, none⟩
  else if b = 0x2D then some ⟨.inNumber [b] .minus, stack, none⟩
  else if b = 0x30 then some ⟨.inNumber [b] .zero, stack, none⟩
  else if isDigit b then some ⟨.inNumber [b] .int, stack, none⟩
  else if b = 0x6E then some ⟨.inWord (ascii "ull") .null, stack, none⟩
  else if b = 0x74 then some ⟨.inWord (ascii "rue") (.bool true), stack, none⟩
  else if b = 0x66 then some ⟨.inWord (ascii "alse") (.bool false), stack, none⟩
  else none

/-- A byte after a complete value. -/
def afterValue (stack : List Frame) (result : Option Json) (b : UInt8) : Option State :=
  if isSpace b then some ⟨.next, stack, result⟩
  else match stack with
    | .array items :: fs =>
      if b = 0x2C then some ⟨.value, .array items :: fs, none⟩
      else if b = 0x5D then complete (.array items.reverse) fs
      else none
    | .object ms :: fs =>
      if b = 0x2C then some ⟨.key, .object ms :: fs, none⟩
      else if b = 0x7D then complete (.object ms.reverse) fs
      else none
    | _ => none

/-- Where a number stands after one more byte, if the byte continues it. -/
def Digits.next? : Digits → UInt8 → Option Digits
  | .minus, b => if b = 0x30 then some .zero else if isDigit b then some .int else none
  | .zero, b =>
    if b = 0x2E then some .point else if b = 0x65 ∨ b = 0x45 then some .expMark else none
  | .int, b =>
    if isDigit b then some .int else if b = 0x2E then some .point
    else if b = 0x65 ∨ b = 0x45 then some .expMark else none
  | .point, b => if isDigit b then some .frac else none
  | .frac, b =>
    if isDigit b then some .frac else if b = 0x65 ∨ b = 0x45 then some .expMark else none
  | .expMark, b =>
    if isDigit b then some .exp else if b = 0x2B ∨ b = 0x2D then some .expSign else none
  | .expSign, b => if isDigit b then some .exp else none
  | .exp, b => if isDigit b then some .exp else none

/-- Whether a number may end here. -/
def Digits.mayEnd : Digits → Bool
  | .zero | .int | .frac | .exp => true
  | _ => false

/-- Where a string stands after one more byte other than its closing quote. -/
def Quoted.next? : Quoted → UInt8 → Option Quoted
  | .plain, b => if b = 0x5C then some .backslash else if b < 0x20 then none else some .plain
  | .backslash, b =>
    if b = 0x75 then some (.hex 4) else if (shortEscape? b).isSome then some .plain else none
  | .hex n, b =>
    if (hexValue? b).isSome then some (if n = 1 then .plain else .hex (n - 1)) else none

/-- One byte. -/
def step (s : State) (b : UInt8) : Option State :=
  match s.expects with
  | .value => if isSpace b then some s else beginValue s.stack b
  | .firstItem =>
    if isSpace b then some s
    else if b = 0x5D then
      match s.stack with
      | .array [] :: fs => complete (.array []) fs
      | _ => none
    else beginValue s.stack b
  | .firstKey =>
    if isSpace b then some s
    else if b = 0x7D then
      match s.stack with
      | .object [] :: fs => complete (.object []) fs
      | _ => none
    else if b = 0x22 then some { s with expects := .inKey [] .plain }
    else none
  | .key =>
    if isSpace b then some s
    else if b = 0x22 then some { s with expects := .inKey [] .plain }
    else none
  | .colon k =>
    if isSpace b then some s
    else if b = 0x3A then
      match s.stack with
      | .object ms :: fs => some ⟨.value, .member ms k :: fs, none⟩
      | _ => none
    else none
  | .next => afterValue s.stack s.result b
  | .inKey read q =>
    if q = .plain ∧ b = 0x22 then some { s with expects := .colon read.reverse }
    else (q.next? b).map fun q => { s with expects := .inKey (b :: read) q }
  | .inString read q =>
    if q = .plain ∧ b = 0x22 then complete (.string read.reverse) s.stack
    else (q.next? b).map fun q => { s with expects := .inString (b :: read) q }
  | .inNumber read d =>
    match d.next? b with
    | some d => some { s with expects := .inNumber (b :: read) d }
    | none =>
      if d.mayEnd then
        (complete (.number read.reverse) s.stack).bind fun t => afterValue t.stack t.result b
      else none
  | .inWord rest v =>
    match rest with
    | [] => none
    | [c] => if b = c then complete v s.stack else none
    | c :: cs => if b = c then some { s with expects := .inWord cs v } else none

/-- A run over bytes. -/
def run (s : State) (bs : Bytes) : Option State := bs.foldlM step s

/-- What was read, once the input has ended. -/
def State.finish (s : State) : Option Json :=
  match s.expects with
  | .next => if s.stack.isEmpty then s.result else none
  | .inNumber read d =>
    if d.mayEnd ∧ s.stack.isEmpty then some (.number read.reverse) else none
  | _ => none

/-- The document that bytes hold. -/
def read? (bs : Bytes) : Option Json := (run .start bs).bind State.finish

/-- A run may be cut anywhere. -/
theorem run_append (s : State) (as bs : Bytes) : run s (as ++ bs) = (run s as).bind (run · bs) := by
  simp only [run, List.foldlM_append]
  rfl

end Seedkeeper.Json
