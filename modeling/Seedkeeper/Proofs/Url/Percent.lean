import Mathlib.Data.List.Basic
import Mathlib.Tactic.SplitIfs
import Seedkeeper.Url.Percent

/-!
Percent-encoding undone.

Encoding and decoding are compared byte by byte, along the cases of decoding: an escape, or a byte that
begins none (`escapeInduction`). With `%` in the set, decoding gives back what was encoded
(`percentDecode_encoded`). With escapes kept, encoding makes no difference to decoding
(`percentDecode_encoded_of_keepsEscapes`); then a text without escapes is given back, and any other one
gets shorter (`percentDecode_utf8_eq_self_iff`, `length_percentDecode_le`).
-/

namespace Seedkeeper.Url

open Text (Bytes utf8 utf8_ofList utf8_ofList_append utf8_ofList_cons)

variable {inSet : Char → Bool} {plusIsBlank : Bool} {c : Char} {cs ds : List Char} {a b : UInt8}
  {bs : Bytes}

/-! ### Bytes of characters -/

theorem utf8_ofList_inj (h : utf8 (String.ofList cs) = utf8 (String.ofList ds)) : cs = ds := by
  have hread := Text.ofUtf8?_utf8 (String.ofList cs)
  rw [h, Text.ofUtf8?_utf8] at hread
  exact (String.ofList_injective (Option.some.inj hread)).symm

/-- The byte of an ASCII character. -/
def asciiByte (c : Char) : UInt8 := UInt8.ofNat c.toNat

theorem toNat_asciiByte (h : c.toNat < 0x80) : (asciiByte c).toNat = c.toNat := by
  rw [asciiByte, UInt8.toNat_ofNat', Nat.mod_eq_of_lt (by omega)]

theorem ofNat_asciiByte (h : c.toNat < 0x80) : Char.ofNat (asciiByte c).toNat = c := by
  rw [toNat_asciiByte h, Char.ofNat_toNat]

theorem utf8EncodeChar_of_ascii (h : c.toNat < 0x80) : String.utf8EncodeChar c = [asciiByte c] := by
  have hsmall : c.val.toNat ≤ 127 := Nat.le_of_lt_succ h
  simp only [String.utf8EncodeChar, if_pos hsmall]
  rfl

theorem le_of_mem_utf8EncodeChar (h : ¬ c.toNat < 0x80) :
    ∀ b ∈ String.utf8EncodeChar c, 0x80 ≤ b.toNat := by
  have hlarge : ¬ c.val.toNat ≤ 127 := fun hle => h (Nat.lt_succ_of_le hle)
  simp only [String.utf8EncodeChar, if_neg hlarge]
  intro b hb
  split_ifs at hb <;> simp at hb <;> rcases hb with rfl | rfl | rfl | rfl <;> simp <;> omega

/-- An ASCII byte stands for its character and for nothing else. -/
theorem asciiByte_mem_utf8EncodeChar_iff {d : Char} (hd : d.toNat < 0x80) :
    asciiByte d ∈ String.utf8EncodeChar c ↔ c = d := by
  by_cases hc : c.toNat < 0x80
  · rw [utf8EncodeChar_of_ascii hc, List.mem_singleton]
    constructor
    · intro h
      rw [← ofNat_asciiByte hc, ← h, ofNat_asciiByte hd]
    · rintro rfl
      rfl
  · constructor
    · intro h
      have hle := le_of_mem_utf8EncodeChar hc _ h
      rw [toNat_asciiByte hd] at hle
      omega
    · rintro rfl
      exact absurd hd hc

theorem asciiByte_mem_utf8_iff {d : Char} (hd : d.toNat < 0x80) :
    asciiByte d ∈ utf8 (String.ofList cs) ↔ d ∈ cs := by
  rw [utf8_ofList, List.mem_flatMap]
  simp only [asciiByte_mem_utf8EncodeChar_iff hd, exists_eq_right]

/-! ### Hexadecimal digits -/

/-- Hexadecimal digits. -/
def isHexDigit (c : Char) : Bool := (Text.hexValue? c).isSome

/-- Bytes that are hexadecimal digits. -/
def isHexByte (b : UInt8) : Bool := isHexDigit (Char.ofNat b.toNat)

theorem lt_of_isHexDigit (h : isHexDigit c) : c.toNat < 0x80 := by
  have hle : c ≤ '9' ∨ c ≤ 'f' ∨ c ≤ 'F' := by
    simp only [isHexDigit, Text.hexValue?, Text.isDigit] at h
    grind
  have hbound : ∀ d : Char, d.toNat < 0x80 → c ≤ d → c.toNat < 0x80 := fun d hd hcd =>
    Nat.lt_of_le_of_lt (UInt32.le_iff_toNat_le.1 hcd) hd
  rcases hle with hle | hle | hle <;> exact hbound _ (by decide) hle

theorem lt_of_isHexByte (h : isHexByte b) : b.toNat < 0x80 := by
  have hchar : ∀ n < 256, (Char.ofNat n).toNat = n := by decide +kernel
  have hlt := lt_of_isHexDigit h
  rwa [hchar b.toNat b.toNat_lt] at hlt

/-- Whether the first two of some elements are of a kind. -/
def twoAhead {α : Type} (p : α → Bool) : List α → Bool
  | [] => false
  | a :: as => p a && as.head?.any p

/-- The first byte of a character is a hexadecimal digit exactly if the character is one. -/
theorem exists_utf8EncodeChar_eq (c : Char) : ∃ b bs, String.utf8EncodeChar c = b :: bs ∧
    isHexByte b = isHexDigit c ∧ (isHexDigit c → bs = []) := by
  by_cases hc : c.toNat < 0x80
  · exact ⟨asciiByte c, [], utf8EncodeChar_of_ascii hc, by rw [isHexByte, ofNat_asciiByte hc],
      fun _ => rfl⟩
  · have hdigit : isHexDigit c = false := Bool.eq_false_iff.2 fun h => hc (lt_of_isHexDigit h)
    cases hbytes : String.utf8EncodeChar c with
    | nil => exact absurd hbytes String.utf8EncodeChar_ne_nil
    | cons b bs =>
      have hle := le_of_mem_utf8EncodeChar hc b (hbytes ▸ List.mem_cons_self)
      have hb : isHexByte b = false :=
        Bool.eq_false_iff.2 fun h => Nat.not_lt.2 hle (lt_of_isHexByte h)
      exact ⟨b, bs, rfl, hb.trans hdigit.symm, fun h => by rw [hdigit] at h; cases h⟩

theorem head?_utf8 (cs : List Char) :
    (utf8 (String.ofList cs)).head?.any isHexByte = cs.head?.any isHexDigit := by
  cases cs with
  | nil => rfl
  | cons c cs =>
    obtain ⟨b, bs, hbytes, hb, -⟩ := exists_utf8EncodeChar_eq c
    rw [utf8_ofList_cons, hbytes, List.cons_append, List.head?_cons, List.head?_cons,
      Option.any_some, Option.any_some, hb]

theorem twoAhead_utf8 (cs : List Char) :
    twoAhead isHexByte (utf8 (String.ofList cs)) = twoAhead isHexDigit cs := by
  cases cs with
  | nil => rfl
  | cons c cs =>
    obtain ⟨b, bs, hbytes, hb, hone⟩ := exists_utf8EncodeChar_eq c
    rw [utf8_ofList_cons, hbytes, List.cons_append, twoAhead, twoAhead, hb]
    cases hdigit : isHexDigit c with
    | false => rfl
    | true => rw [hone hdigit, List.nil_append, head?_utf8]

/-! ### Decoding -/

theorem percentDecode_of_hex {x y : Nat} (ha : Text.hexValue? (Char.ofNat a.toNat) = some x)
    (hb : Text.hexValue? (Char.ofNat b.toNat) = some y) (bs : Bytes) :
    percentDecode (0x25 :: a :: b :: bs) = UInt8.ofNat (x * 16 + y) :: percentDecode bs := by
  rw [percentDecode, ha, hb]

/-- Some byte is what an escape stands for. -/
theorem percentDecode_escape (ha : isHexByte a) (hb : isHexByte b) :
    ∃ d, ∀ bs, percentDecode (0x25 :: a :: b :: bs) = d :: percentDecode bs := by
  obtain ⟨x, hx⟩ := Option.isSome_iff_exists.1 ha
  obtain ⟨y, hy⟩ := Option.isSome_iff_exists.1 hb
  exact ⟨UInt8.ofNat (x * 16 + y), percentDecode_of_hex hx hy⟩

/-- A byte that begins no escape is itself. -/
theorem percentDecode_cons (h : b = 0x25 → twoAhead isHexByte bs = false) :
    percentDecode (b :: bs) = b :: percentDecode bs := by
  by_cases hb : b = 0x25
  · subst hb
    match bs, h rfl with
    | [], _ => rfl
    | [a], _ => exact percentDecode.eq_3 _ _ nofun
    | a :: b :: bs, h =>
      rw [percentDecode]
      cases ha : Text.hexValue? (Char.ofNat a.toNat) with
      | none => rfl
      | some x =>
        cases hb : Text.hexValue? (Char.ofNat b.toNat) with
        | none => rfl
        | some y => simp [twoAhead, isHexByte, isHexDigit, ha, hb] at h
  · exact percentDecode.eq_3 b bs fun _ _ _ hpercent => absurd hpercent hb

theorem percentDecode_append (h : 0x25 ∉ bs) (rest : Bytes) :
    percentDecode (bs ++ rest) = bs ++ percentDecode rest := by
  induction bs with
  | nil => rfl
  | cons b bs ih =>
    have hb : b ≠ 0x25 := fun hb => h (hb ▸ List.mem_cons_self)
    rw [List.cons_append, percentDecode_cons fun heq => absurd heq hb,
      ih fun hmem => h (List.mem_cons_of_mem b hmem), List.cons_append]

/-- Bytes are escapes, and bytes that begin none. -/
theorem escapeInduction {motive : Bytes → Prop} (nil : motive [])
    (escape : ∀ a b bs, isHexByte a → isHexByte b → motive bs → motive (0x25 :: a :: b :: bs))
    (plain : ∀ b bs, (b = 0x25 → twoAhead isHexByte bs = false) → motive bs → motive (b :: bs))
    (bs : Bytes) : motive bs := by
  fun_induction percentDecode bs with
  | case1 => exact nil
  | case2 a b bs x y hb ha ih =>
    exact escape a b bs (Option.isSome_of_eq_some ha) (Option.isSome_of_eq_some hb) ih
  | case3 a b bs hnot ih =>
    refine plain _ _ (fun _ => Bool.eq_false_iff.2 fun htwo => ?_) ih
    obtain ⟨ha, hb⟩ : isHexByte a ∧ isHexByte b := by simpa [twoAhead] using htwo
    obtain ⟨x, hx⟩ := Option.isSome_iff_exists.1 ha
    obtain ⟨y, hy⟩ := Option.isSome_iff_exists.1 hb
    exact hnot x y hx hy
  | case4 b bs hnot ih =>
    refine plain _ _ (fun hb => ?_) ih
    match bs with
    | [] => rfl
    | [a] => exact Bool.and_false _
    | a :: b :: bs => exact (hnot a b bs hb rfl).elim

/-- Decoding never adds bytes. -/
theorem length_percentDecode_le (bs : Bytes) : (percentDecode bs).length ≤ bs.length := by
  induction bs using escapeInduction with
  | nil => exact Nat.le_refl 0
  | escape a b bs ha hb ih =>
    obtain ⟨d, hdecode⟩ := percentDecode_escape ha hb
    rw [hdecode]
    simp only [List.length_cons]
    omega
  | plain b bs h ih =>
    rw [percentDecode_cons h]
    exact Nat.succ_le_succ ih

/-- An escape is decoded to fewer bytes. -/
theorem length_percentDecode_lt (ha : isHexByte a) (hb : isHexByte b) (bs : Bytes) :
    (percentDecode (0x25 :: a :: b :: bs)).length < (0x25 :: a :: b :: bs).length := by
  obtain ⟨d, hdecode⟩ := percentDecode_escape ha hb
  have hrest := length_percentDecode_le bs
  rw [hdecode]
  simp only [List.length_cons]
  omega

/-- Decoding that keeps the length keeps everything. -/
theorem percentDecode_eq_self_of_length (h : (percentDecode bs).length = bs.length) :
    percentDecode bs = bs := by
  induction bs using escapeInduction with
  | nil => rfl
  | escape a b bs ha hb => exact absurd h (Nat.ne_of_lt (length_percentDecode_lt ha hb bs))
  | plain b bs hplain ih =>
    rw [percentDecode_cons hplain] at h ⊢
    rw [ih (Nat.succ.inj h)]

/-! ### Escapes in a text -/

/-- Whether some `%` of a text is followed by two hexadecimal digits. -/
def HasEscape (cs : List Char) : Prop :=
  ∃ a b, isHexDigit a ∧ isHexDigit b ∧ ['%', a, b] <:+: cs

theorem hasEscape_cons_iff :
    HasEscape (c :: cs) ↔ (c = '%' ∧ twoAhead isHexDigit cs) ∨ HasEscape cs := by
  constructor
  · rintro ⟨a, b, ha, hb, hinside⟩
    rcases List.infix_cons_iff.1 hinside with hahead | hinside
    · obtain ⟨hpercent, rest, rfl⟩ := List.cons_prefix_cons.1 hahead
      exact .inl ⟨hpercent.symm, by simp [twoAhead, ha, hb]⟩
    · exact .inr ⟨a, b, ha, hb, hinside⟩
  · rintro (⟨rfl, htwo⟩ | ⟨a, b, ha, hb, hinside⟩)
    · match cs, htwo with
      | [a], htwo => simp [twoAhead] at htwo
      | a :: b :: cs, htwo =>
        obtain ⟨ha, hb⟩ : isHexDigit a ∧ isHexDigit b := by simpa [twoAhead] using htwo
        exact ⟨a, b, ha, hb, ⟨[], cs, rfl⟩⟩
    · exact ⟨a, b, ha, hb, List.infix_cons hinside⟩

theorem percentDecode_ne_of_twoAhead (h : twoAhead isHexByte bs = true) :
    percentDecode (0x25 :: bs) ≠ 0x25 :: bs := by
  match bs, h with
  | [a], h => simp [twoAhead] at h
  | a :: b :: bs, h =>
    obtain ⟨ha, hb⟩ : isHexByte a ∧ isHexByte b := by simpa [twoAhead] using h
    exact fun heq => Nat.ne_of_lt (length_percentDecode_lt ha hb bs) (congrArg List.length heq)

/-- Decoding leaves a text alone exactly if it has no escapes. -/
theorem percentDecode_utf8_eq_self_iff (cs : List Char) :
    percentDecode (utf8 (String.ofList cs)) = utf8 (String.ofList cs) ↔ ¬ HasEscape cs := by
  induction cs with
  | nil => simp [HasEscape, utf8, percentDecode]
  | cons c cs ih =>
    rw [utf8_ofList_cons, hasEscape_cons_iff, ← twoAhead_utf8]
    by_cases hc : c = '%'
    · subst hc
      have hpercent : String.utf8EncodeChar '%' = [0x25] := by decide
      rw [hpercent, List.singleton_append]
      cases htwo : twoAhead isHexByte (utf8 (String.ofList cs)) with
      | true => simpa using percentDecode_ne_of_twoAhead htwo
      | false =>
        rw [percentDecode_cons fun _ => htwo, List.cons_inj_right, ih]
        simp
    · have hnot : asciiByte '%' ∉ String.utf8EncodeChar c := by
        rwa [asciiByte_mem_utf8EncodeChar_iff (by decide)]
      rw [percentDecode_append hnot, List.append_cancel_left_eq, ih]
      simp [hc]

/-! ### Encoding, byte by byte -/

/-- A byte as it stands in an encoded text. -/
def encodedByte (inSet : Char → Bool) (b : UInt8) : Bytes :=
  if b.toNat < 0x80 ∧ !inSet (Char.ofNat b.toNat) then [b] else utf8 (String.ofList (percentByte b))

/-- Bytes as they stand in an encoded text. -/
def encoded (inSet : Char → Bool) (bs : Bytes) : Bytes := bs.flatMap (encodedByte inSet)

theorem encoded_cons (inSet : Char → Bool) (b : UInt8) (bs : Bytes) :
    encoded inSet (b :: bs) = encodedByte inSet b ++ encoded inSet bs := List.flatMap_cons ..

theorem utf8_ofList_flatMap_percentByte (bs : Bytes) :
    utf8 (String.ofList (bs.flatMap percentByte))
      = bs.flatMap fun b => utf8 (String.ofList (percentByte b)) := by
  simp only [utf8_ofList, List.flatMap_assoc]

theorem utf8_percentEncode_singleton (inSet : Char → Bool) (c : Char) :
    utf8 (String.ofList (percentEncode inSet [c])) = encoded inSet (String.utf8EncodeChar c) := by
  rw [percentEncode, List.flatMap_singleton, encoded]
  by_cases hkept : c.toNat < 0x80 ∧ !inSet c
  · rw [if_pos hkept, utf8_ofList, List.flatMap_singleton, utf8EncodeChar_of_ascii hkept.1,
      List.flatMap_singleton, encodedByte, if_pos]
    rwa [ofNat_asciiByte hkept.1, toNat_asciiByte hkept.1]
  · have hbytes : ∀ b ∈ String.utf8EncodeChar c,
        encodedByte inSet b = utf8 (String.ofList (percentByte b)) := by
      intro b hb
      rw [encodedByte, if_neg]
      by_cases hascii : c.toNat < 0x80
      · rw [utf8EncodeChar_of_ascii hascii, List.mem_singleton] at hb
        rwa [hb, ofNat_asciiByte hascii, toNat_asciiByte hascii]
      · exact fun h => Nat.not_lt.2 (le_of_mem_utf8EncodeChar hascii b hb) h.1
    have hchar : utf8 (String.singleton c) = String.utf8EncodeChar c := by
      rw [String.singleton_eq_ofList, utf8_ofList, List.flatMap_singleton]
    rw [if_neg hkept, hchar, utf8_ofList_flatMap_percentByte, List.flatMap_congr hbytes]

theorem percentEncode_append (inSet : Char → Bool) (cs ds : List Char) :
    percentEncode inSet (cs ++ ds) = percentEncode inSet cs ++ percentEncode inSet ds :=
  List.flatMap_append

theorem utf8_percentEncode (inSet : Char → Bool) (cs : List Char) :
    utf8 (String.ofList (percentEncode inSet cs)) = encoded inSet (utf8 (String.ofList cs)) := by
  induction cs with
  | nil => rfl
  | cons c cs ih =>
    have hsplit := percentEncode_append inSet [c] cs
    rw [List.singleton_append] at hsplit
    rw [hsplit, utf8_ofList_append, utf8_percentEncode_singleton, ih, utf8_ofList_cons, encoded,
      encoded, encoded, List.flatMap_append]

theorem hexDigitUpper_of_lt : ∀ n < 16, Text.hexValue? (Text.hexDigitUpper n) = some n ∧
    (Text.hexDigitUpper n).toNat < 0x80 := by
  decide

/-- A percent-encoded byte is an escape that stands for it. -/
theorem utf8_percentByte (b : UInt8) : ∃ x y, utf8 (String.ofList (percentByte b)) = [0x25, x, y] ∧
    isHexByte x ∧ isHexByte y ∧
      ∀ bs, percentDecode (0x25 :: x :: y :: bs) = b :: percentDecode bs := by
  have hlt : b.toNat < 256 := b.toNat_lt
  obtain ⟨hx, hxascii⟩ := hexDigitUpper_of_lt (b.toNat / 16) (by omega)
  obtain ⟨hy, hyascii⟩ := hexDigitUpper_of_lt (b.toNat % 16) (by omega)
  have hmeans : UInt8.ofNat (b.toNat / 16 * 16 + b.toNat % 16) = b := by
    rw [Nat.div_add_mod' b.toNat 16, UInt8.ofNat_toNat]
  rw [← ofNat_asciiByte hxascii] at hx
  rw [← ofNat_asciiByte hyascii] at hy
  refine ⟨_, _, ?_, Option.isSome_of_eq_some hx, Option.isSome_of_eq_some hy, fun bs => ?_⟩
  · rw [utf8_ofList, percentByte, List.flatMap_cons, List.flatMap_cons, List.flatMap_singleton,
      utf8EncodeChar_of_ascii hxascii, utf8EncodeChar_of_ascii hyascii]
    rfl
  · rw [percentDecode_of_hex hx hy, hmeans]

/-- A byte is kept, or stands there as an escape. -/
theorem encodedByte_cases (inSet : Char → Bool) (b : UInt8) :
    (inSet (Char.ofNat b.toNat) = false ∧ encodedByte inSet b = [b]) ∨
    ∃ x y, encodedByte inSet b = [0x25, x, y] ∧ isHexByte x ∧ isHexByte y ∧
      ∀ bs, percentDecode (0x25 :: x :: y :: bs) = b :: percentDecode bs := by
  by_cases hkept : b.toNat < 0x80 ∧ !inSet (Char.ofNat b.toNat)
  · exact .inl ⟨by simpa using hkept.2, if_pos hkept⟩
  · obtain ⟨x, y, hbytes, hescape⟩ := utf8_percentByte b
    exact .inr ⟨x, y, (if_neg hkept).trans hbytes, hescape⟩

/-- With `%` encoded, decoding gives back what was encoded. -/
theorem percentDecode_encoded (hpercent : inSet '%' = true) (bs : Bytes) :
    percentDecode (encoded inSet bs) = bs := by
  induction bs with
  | nil => rfl
  | cons b bs ih =>
    rw [encoded_cons]
    rcases encodedByte_cases inSet b with ⟨hkept, hbyte⟩ | ⟨x, y, hbyte, -, -, hdecode⟩
    · have hb : b ≠ 0x25 := by
        rintro rfl
        exact absurd (hpercent.symm.trans hkept) (by decide)
      rw [hbyte, List.singleton_append, percentDecode_cons fun h => absurd h hb, ih]
    · rw [hbyte]
      exact (hdecode _).trans (congrArg _ ih)

/-! ### Encoding with escapes kept -/

/-- Sets of an encoding that leaves escapes and `+` alone. -/
def KeepsEscapes (inSet : Char → Bool) : Prop :=
  ∀ c, c = '%' ∨ c = '+' ∨ isHexDigit c → inSet c = false

theorem encodedByte_eq_self (hkeeps : KeepsEscapes inSet) (hb : b = 0x25 ∨ b = 0x2B ∨ isHexByte b) :
    encodedByte inSet b = [b] := by
  have hascii : b.toNat < 0x80 := by
    rcases hb with rfl | rfl | hb
    · decide
    · decide
    · exact lt_of_isHexByte hb
  have hset : inSet (Char.ofNat b.toNat) = false := by
    refine hkeeps _ ?_
    rcases hb with rfl | rfl | hb
    · exact .inl rfl
    · exact .inr (.inl rfl)
    · exact .inr (.inr hb)
  rw [encodedByte, if_pos ⟨hascii, by rw [hset]; rfl⟩]

theorem head?_encoded (hkeeps : KeepsEscapes inSet) (bs : Bytes) :
    (encoded inSet bs).head?.any isHexByte = bs.head?.any isHexByte := by
  cases bs with
  | nil => rfl
  | cons b bs =>
    rw [encoded_cons]
    by_cases hb : isHexByte b
    · rw [encodedByte_eq_self hkeeps (.inr (.inr hb))]
      rfl
    · rcases encodedByte_cases inSet b with ⟨-, hbyte⟩ | ⟨x, y, hbyte, -⟩
      · rw [hbyte]
        rfl
      · rw [hbyte, List.head?_cons, Option.any_some, Bool.eq_false_iff.2 hb]
        rfl

theorem twoAhead_encoded (hkeeps : KeepsEscapes inSet) (bs : Bytes) :
    twoAhead isHexByte (encoded inSet bs) = twoAhead isHexByte bs := by
  cases bs with
  | nil => rfl
  | cons b bs =>
    rw [encoded_cons, twoAhead]
    by_cases hb : isHexByte b
    · rw [encodedByte_eq_self hkeeps (.inr (.inr hb)), List.singleton_append, twoAhead,
        head?_encoded hkeeps]
    · rcases encodedByte_cases inSet b with ⟨-, hbyte⟩ | ⟨x, y, hbyte, -⟩
      · rw [hbyte, List.singleton_append, twoAhead, head?_encoded hkeeps]
      · rw [hbyte, Bool.eq_false_iff.2 hb]
        rfl

/-- A byte of a query, where `+` may stand for a blank. -/
def unplus (plusIsBlank : Bool) (b : UInt8) : UInt8 := if plusIsBlank ∧ b = 0x2B then 0x20 else b

theorem unplus_of_ne (h : b ≠ 0x2B) : unplus plusIsBlank b = b := if_neg fun hplus => h hplus.2

theorem unplus_percent : unplus plusIsBlank 0x25 = 0x25 := unplus_of_ne (by decide)

theorem unplus_of_isHexByte (h : isHexByte b) : unplus plusIsBlank b = b := by
  refine unplus_of_ne ?_
  rintro rfl
  exact absurd h (by decide)

theorem unplus_eq_percent_iff : unplus plusIsBlank b = 0x25 ↔ b = 0x25 := by
  rw [unplus]
  split
  · rename_i hplus
    rw [hplus.2]
    decide
  · rfl

theorem isHexByte_unplus (b : UInt8) : isHexByte (unplus plusIsBlank b) = isHexByte b := by
  rw [unplus]
  split
  · rename_i hplus
    rw [hplus.2]
    decide
  · rfl

theorem twoAhead_map_unplus (bs : Bytes) :
    twoAhead isHexByte (bs.map (unplus plusIsBlank)) = twoAhead isHexByte bs := by
  cases bs with
  | nil => rfl
  | cons b bs => cases bs <;> simp [twoAhead, isHexByte_unplus]

/-- With escapes kept, encoding makes no difference to decoding. -/
theorem percentDecode_encoded_of_keepsEscapes (hkeeps : KeepsEscapes inSet) (bs : Bytes) :
    percentDecode ((encoded inSet bs).map (unplus plusIsBlank))
      = percentDecode (bs.map (unplus plusIsBlank)) := by
  induction bs using escapeInduction with
  | nil => rfl
  | escape a b bs ha hb ih =>
    obtain ⟨d, hdecode⟩ := percentDecode_escape ha hb
    have hencoded : encoded inSet (0x25 :: a :: b :: bs) = 0x25 :: a :: b :: encoded inSet bs := by
      rw [encoded_cons, encoded_cons, encoded_cons, encodedByte_eq_self hkeeps (.inl rfl),
        encodedByte_eq_self hkeeps (.inr (.inr ha)), encodedByte_eq_self hkeeps (.inr (.inr hb))]
      rfl
    rw [hencoded]
    simp only [List.map_cons, unplus_percent, unplus_of_isHexByte ha, unplus_of_isHexByte hb,
      hdecode, ih]
  | plain b bs hplain ih =>
    have hrest : unplus plusIsBlank b = 0x25 →
        twoAhead isHexByte (bs.map (unplus plusIsBlank)) = false := by
      rw [unplus_eq_percent_iff, twoAhead_map_unplus]
      exact hplain
    rw [encoded_cons, List.map_append, List.map_cons, percentDecode_cons hrest, ← ih]
    rcases encodedByte_cases inSet b with ⟨-, hbyte⟩ | ⟨x, y, hbyte, hx, hy, hdecode⟩
    · rw [hbyte, List.map_singleton, List.singleton_append, percentDecode_cons]
      rwa [twoAhead_map_unplus, twoAhead_encoded hkeeps, ← twoAhead_map_unplus]
    · have hb : b ≠ 0x2B := by
        rintro rfl
        rw [encodedByte_eq_self hkeeps (.inr (.inl rfl))] at hbyte
        cases hbyte
      rw [hbyte, unplus_of_ne hb, ← hdecode]
      simp only [List.map_cons, List.map_nil, unplus_percent, unplus_of_isHexByte hx,
        unplus_of_isHexByte hy, List.cons_append, List.nil_append]

end Seedkeeper.Url
