/-!
Bytes and text.

`ofUtf8?` reads valid UTF-8 and nothing else. `ofUtf8Lossy` reads any bytes: each maximal part that
begins a character and cannot be continued becomes one replacement character, and so does each
byte that begins none.
-/

namespace Seedkeeper.Text

/-- Bytes as they are read, written and compared throughout. -/
abbrev Bytes := List UInt8

/-- The UTF-8 form of a text. -/
def utf8 (s : String) : Bytes := s.toUTF8.data.toList

/-- The text of valid UTF-8. -/
def ofUtf8? (bs : Bytes) : Option String := String.fromUTF8? ⟨bs.toArray⟩

/-- What a first byte asks of the bytes after it: how many there are, and the bounds of the
    next one. -/
structure Lead where
  count : Nat
  low : Nat
  high : Nat
  bits : Nat

/-- The first bytes of characters beyond ASCII. -/
def lead? (b : Nat) : Option Lead :=
  if 0xC2 ≤ b ∧ b ≤ 0xDF then some ⟨1, 0x80, 0xBF, b - 0xC0⟩
  else if b = 0xE0 then some ⟨2, 0xA0, 0xBF, 0⟩
  else if b = 0xED then some ⟨2, 0x80, 0x9F, 0xD⟩
  else if 0xE1 ≤ b ∧ b ≤ 0xEF then some ⟨2, 0x80, 0xBF, b - 0xE0⟩
  else if b = 0xF0 then some ⟨3, 0x90, 0xBF, 0⟩
  else if 0xF1 ≤ b ∧ b ≤ 0xF3 then some ⟨3, 0x80, 0xBF, b - 0xF0⟩
  else if b = 0xF4 then some ⟨3, 0x80, 0x8F, 4⟩
  else none

/-- A decoder between bytes: nothing begun, or a character that still needs bytes. -/
inductive Pending where
  | none
  | some (need : Lead)

/-- The replacement character. -/
def replacement : Char := '\uFFFD'

/-- A byte that stands where a character may begin. -/
def beginByte (b : Nat) : List Char × Pending :=
  if b < 0x80 then ([Char.ofNat b], .none)
  else match lead? b with
    | Option.some l => ([], .some l)
    | Option.none => ([replacement], .none)

/-- One byte: the characters it settles and what is pending after it. -/
def decodeByte : Pending → UInt8 → List Char × Pending
  | .none, b => beginByte b.toNat
  | .some l, b =>
    let n := b.toNat
    if l.low ≤ n ∧ n ≤ l.high then
      let bits := l.bits * 64 + (n - 0x80)
      if l.count = 1 then ([Char.ofNat bits], .none)
      else ([], .some ⟨l.count - 1, 0x80, 0xBF, bits⟩)
    else
      let (cs, p) := beginByte n
      (replacement :: cs, p)

/-- The characters of any bytes. -/
def decodeLossy : Pending → Bytes → List Char
  | .none, [] => []
  | .some _, [] => [replacement]
  | p, b :: bs => (decodeByte p b).1 ++ decodeLossy (decodeByte p b).2 bs

/-- The text of any bytes. -/
def ofUtf8Lossy (bs : Bytes) : String :=
  String.ofList (decodeLossy .none bs)

/-! ### Characters one by one -/

theorem utf8_ofList (cs : List Char) : utf8 (String.ofList cs) = cs.flatMap String.utf8EncodeChar := by
  simp [utf8, List.utf8Encode]

theorem utf8_ofList_cons (c : Char) (cs : List Char) :
    utf8 (String.ofList (c :: cs)) = String.utf8EncodeChar c ++ utf8 (String.ofList cs) := by
  rw [utf8_ofList, utf8_ofList, List.flatMap_cons]

theorem utf8_append (s t : String) : utf8 (s ++ t) = utf8 s ++ utf8 t := by
  simp [utf8]

theorem utf8_ofList_append (cs ds : List Char) :
    utf8 (String.ofList (cs ++ ds)) = utf8 (String.ofList cs) ++ utf8 (String.ofList ds) := by
  rw [String.ofList_append, utf8_append]

/-! ### Reading back -/

/-- What was written as UTF-8 is read back. -/
theorem ofUtf8?_utf8 (s : String) : ofUtf8? (utf8 s) = some s := by
  have e : (⟨(utf8 s).toArray⟩ : ByteArray) = s.toUTF8 := by simp [utf8]
  rw [ofUtf8?, e, String.fromUTF8?]
  exact dif_pos s.isValidUTF8

theorem utf8_inj {s t : String} : utf8 s = utf8 t ↔ s = t := by
  refine ⟨fun h => ?_, congrArg utf8⟩
  have hread := ofUtf8?_utf8 s
  rw [h, ofUtf8?_utf8] at hread
  exact (Option.some.inj hread).symm

end Seedkeeper.Text
