import Mathlib.Tactic.SplitIfs
import Seedkeeper.Json.Fields

/-!
Leaves of documents: what is written is a well-formed leaf and means what was written.

`Spelled` and `Numeral` say which rows of bytes the reader takes as a string and as a number. What
`escape` writes is spelled and unescapes to the same bytes; what `intBytes` and `natBytes` write are
numerals and mean the same numbers.
-/

namespace Seedkeeper.Json

open Number (addDigit digits? isDigit)
open Text (Bytes utf8)

/-! ### Spelling of strings -/

/-- Where a string stands after some bytes that do not close it. -/
def spell? : Quoted → Bytes → Option Quoted
  | q, [] => some q
  | q, b :: bs => if q = .plain ∧ b = 0x22 then none else (q.next? b).bind (spell? · bs)

/-- Bytes that may stand between quotes. -/
def Spelled (w : Bytes) : Prop := spell? .plain w = some .plain

theorem spell?_append : ∀ (q : Quoted) (v w : Bytes),
    spell? q (v ++ w) = (spell? q v).bind (spell? · w)
  | _, [], _ => rfl
  | q, b :: v, w => by
    rw [List.cons_append, spell?, spell?]
    split
    · rfl
    · cases q.next? b with
      | none => rfl
      | some q => exact spell?_append q v w

theorem Spelled.append {v w : Bytes} (hv : Spelled v) (hw : Spelled w) : Spelled (v ++ w) := by
  rw [Spelled, spell?_append, hv]; exact hw

/-- A byte that continues a string is no control character, wherever the string stands. -/
theorem le_of_quoted_next? {q r : Quoted} {b : UInt8} (h : q.next? b = some r) : 0x20 ≤ b := by
  have hall : ∀ n < 0x20, Quoted.plain.next? (UInt8.ofNat n) = none ∧
      Quoted.backslash.next? (UInt8.ofNat n) = none ∧ hexValue? (UInt8.ofNat n) = none := by decide
  refine UInt8.not_lt.1 fun hlt => ?_
  obtain ⟨hplain, hbackslash, hhex⟩ := hall b.toNat (UInt8.lt_iff_toNat_lt.1 hlt)
  rw [UInt8.ofNat_toNat] at hplain hbackslash hhex
  cases q with
  | plain =>
    rw [hplain] at h
    cases h
  | backslash =>
    rw [hbackslash] at h
    cases h
  | hex more =>
    rw [Quoted.next?, hhex] at h
    cases h

theorem le_of_mem_of_spell? : ∀ {q r : Quoted} {w : Bytes}, spell? q w = some r →
    ∀ b ∈ w, 0x20 ≤ b
  | _, _, [], _, _, hb => by cases hb
  | q, r, c :: w, h, b, hb => by
    rw [spell?] at h
    split at h
    · cases h
    · obtain ⟨s, hs, hw⟩ := Option.bind_eq_some_iff.1 h
      rcases List.mem_cons.1 hb with rfl | hb
      · exact le_of_quoted_next? hs
      · exact le_of_mem_of_spell? hw b hb

theorem Spelled.le_of_mem {w : Bytes} (h : Spelled w) : ∀ b ∈ w, 0x20 ≤ b := le_of_mem_of_spell? h

/-- Inside a string or a key the reader follows the spelling. -/
theorem run_quoted (inside : Bytes → Quoted → Expects)
    (hstep : ∀ read q r stack result b, ¬ (q = Quoted.plain ∧ b = 0x22) → q.next? b = some r →
      step ⟨inside read q, stack, result⟩ b = some ⟨inside (b :: read) r, stack, result⟩)
    {q r : Quoted} : ∀ {w : Bytes} (read : Bytes) (stack : List Frame) (result : Option Json),
    spell? q w = some r →
    run ⟨inside read q, stack, result⟩ w = some ⟨inside (w.reverse ++ read) r, stack, result⟩
  | [], read, stack, result, h => by rw [Option.some.inj h]; rfl
  | b :: w, read, stack, result, h => by
    rw [spell?] at h
    split at h
    · cases h
    · rename_i hopen
      obtain ⟨s, hs, hw⟩ := Option.bind_eq_some_iff.1 h
      rw [run, List.foldlM_cons, hstep read q s stack result b hopen hs]
      change run _ w = _
      rw [run_quoted inside hstep (b :: read) stack result hw]
      simp

theorem run_inString {w : Bytes} (h : Spelled w) (stack : List Frame) (result : Option Json) :
    run ⟨.inString [] .plain, stack, result⟩ w
      = some ⟨.inString w.reverse .plain, stack, result⟩ := by
  have := run_quoted .inString (fun read q r stack result b hopen hr => by
    rw [step]; simp only [if_neg hopen, hr, Option.map_some]) [] stack result h
  rwa [List.append_nil] at this

theorem run_inKey {w : Bytes} (h : Spelled w) (stack : List Frame) (result : Option Json) :
    run ⟨.inKey [] .plain, stack, result⟩ w
      = some ⟨.inKey w.reverse .plain, stack, result⟩ := by
  have := run_quoted .inKey (fun read q r stack result b hopen hr => by
    rw [step]; simp only [if_neg hopen, hr, Option.map_some]) [] stack result h
  rwa [List.append_nil] at this

/-! ### Escapes -/

theorem spelled_escapeByte (b : UInt8) : Spelled (escapeByte b) := by
  have h : ∀ n < 256, Spelled (escapeByte (UInt8.ofNat n)) := by
    unfold Spelled; decide +kernel
  simpa using h b.toNat b.toNat_lt

/-- What is escaped is spelled. -/
theorem spelled_escape : ∀ bs : Bytes, Spelled (escape bs)
  | [] => rfl
  | b :: bs => by
    rw [escape, List.flatMap_cons]
    exact (spelled_escapeByte b).append (spelled_escape bs)

theorem unescape?_plain {b : UInt8} (h : b ≠ 0x5C) (rest : Bytes) :
    unescape? (b :: rest) = (unescape? rest).map (b :: ·) := by
  rw [unescape?.eq_5 b rest (fun _ _ _ _ _ _ _ _ _ hb => absurd hb h)
    (fun _ _ _ _ _ hb => absurd hb h) (fun _ _ hb => absurd hb h), if_neg h]

theorem unescape?_short {b c : UInt8} (h : b ≠ 0x75) (hc : shortEscape? b = some c)
    (rest : Bytes) : unescape? (0x5C :: b :: rest) = (unescape? rest).map (c :: ·) := by
  rw [unescape?.eq_4 b rest (fun _ _ _ _ _ _ _ _ _ hb => absurd hb h)
    (fun _ _ _ _ _ hb => absurd hb h), hc]
  cases unescape? rest <;> rfl

/-- The escape of a control character means that character, whatever follows. -/
theorem unescape?_control {n : Nat} (h : n < 0x20) (rest : Bytes) :
    unescape? (0x5C :: 0x75 :: 0x30 :: 0x30 :: hexByte (n / 16) :: hexByte (n % 16) :: rest)
      = (unescape? rest).map (UInt8.ofNat n :: ·) := by
  have hhex : ∀ n < 0x20, hex4? 0x30 0x30 (hexByte (n / 16)) (hexByte (n % 16)) = some n := by
    decide
  have hchar : ∀ n < 0x20, charBytes n = [UInt8.ofNat n] := by decide
  have hfollow : (∃ e f g h t, rest = 0x5C :: 0x75 :: e :: f :: g :: h :: t) ∨
      ∀ e f g h t, rest = 0x5C :: 0x75 :: e :: f :: g :: h :: t → False := by
    by_cases hr : ∃ e f g h t, rest = 0x5C :: 0x75 :: e :: f :: g :: h :: t
    · exact .inl hr
    · exact .inr fun e f g h t he => hr ⟨e, f, g, h, t, he⟩
  rcases hfollow with ⟨e, f, g, k, t, rfl⟩ | hfollow
  · rw [unescape?.eq_2, hhex n h]
    simp only [bind, Option.bind, pure]
    rw [if_neg (by omega), if_neg (by omega), hchar n h]
    cases unescape? (0x5C :: 0x75 :: e :: f :: g :: k :: t) <;> rfl
  · rw [unescape?.eq_3 _ _ _ _ _ hfollow, hhex n h]
    simp only [bind, Option.bind, pure]
    rw [if_neg (by omega), hchar n h]
    cases unescape? rest <;> rfl

theorem unescape?_escapeByte (b : UInt8) (rest : Bytes) :
    unescape? (escapeByte b ++ rest) = (unescape? rest).map (b :: ·) := by
  rw [escapeByte]
  split_ifs with h₁ h₂ h₃ h₄ h₅ h₆ h₇ h₈
  · subst h₁; exact unescape?_short (by decide) rfl rest
  · subst h₂; exact unescape?_short (by decide) rfl rest
  · subst h₃; exact unescape?_short (by decide) rfl rest
  · subst h₄; exact unescape?_short (by decide) rfl rest
  · subst h₅; exact unescape?_short (by decide) rfl rest
  · subst h₆; exact unescape?_short (by decide) rfl rest
  · subst h₇; exact unescape?_short (by decide) rfl rest
  · have := unescape?_control (n := b.toNat) (UInt8.lt_iff_toNat_lt.1 h₈) rest
    rwa [UInt8.ofNat_toNat] at this
  · exact unescape?_plain h₂ rest

/-- What is escaped unescapes to itself. -/
theorem unescape?_escape : ∀ bs : Bytes, unescape? (escape bs) = some bs
  | [] => by rw [escape, List.flatMap_nil, unescape?.eq_1]
  | b :: bs => by
    rw [escape, List.flatMap_cons, unescape?_escapeByte]
    change (unescape? (escape bs)).map _ = _
    rw [unescape?_escape bs]
    rfl

theorem text?_escape (s : String) : text? (escape (utf8 s)) = some s := by
  rw [text?, unescape?_escape]
  exact Text.ofUtf8?_utf8 s

/-! ### Decimal digits -/

theorem natBytes_eq (n : Nat) : natBytes n =
    if n < 10 then [UInt8.ofNat (48 + n)] else natBytes (n / 10) ++ [UInt8.ofNat (48 + n % 10)] := by
  have hdigit : ∀ d < 10, utf8 (String.ofList [Nat.digitChar d]) = [UInt8.ofNat (48 + d)] := by
    decide
  rw [natBytes, natBytes, ascii, ascii, Nat.toString_eq_ofList_toDigits,
    Nat.toDigits_eq_if (by omega)]
  split
  · rename_i h
    exact hdigit n h
  · rw [Text.utf8_ofList_append, hdigit _ (Nat.mod_lt _ (by omega)), Nat.toString_eq_ofList_toDigits]

theorem isDigit_ofNat {d : Nat} (h : d < 10) : isDigit (UInt8.ofNat (48 + d)) = true := by
  have hall : ∀ d < 10, isDigit (UInt8.ofNat (48 + d)) = true := by decide
  exact hall d h

theorem isDigit_of_mem_natBytes (n : Nat) : ∀ b ∈ natBytes n, isDigit b = true := by
  rw [natBytes_eq]
  split
  · rename_i h
    intro b hb
    rw [List.mem_singleton.1 hb]
    exact isDigit_ofNat h
  · intro b hb
    rcases List.mem_append.1 hb with hb | hb
    · exact isDigit_of_mem_natBytes (n / 10) b hb
    · rw [List.mem_singleton.1 hb]
      exact isDigit_ofNat (Nat.mod_lt _ (by omega))
termination_by n
decreasing_by omega

/-- A positive number is written with a first digit other than zero. -/
theorem natBytes_cons {n : Nat} (h : 0 < n) :
    ∃ b bs, natBytes n = b :: bs ∧ b ≠ 0x30 ∧ isDigit b = true ∧ ∀ c ∈ bs, isDigit c = true := by
  have hall := isDigit_of_mem_natBytes n
  rw [natBytes_eq] at hall ⊢
  split
  · rename_i hlt
    have hne : ∀ d < 10, 0 < d → UInt8.ofNat (48 + d) ≠ 0x30 := by decide
    exact ⟨_, [], rfl, hne n hlt h, isDigit_ofNat hlt, by simp⟩
  · rename_i hlt
    rw [if_neg hlt] at hall
    obtain ⟨b, bs, hb, hne, hd, _⟩ := natBytes_cons (n := n / 10) (by omega)
    rw [hb] at hall ⊢
    exact ⟨b, _, rfl, hne, hd, fun c hc => hall c (List.mem_cons_of_mem _ hc)⟩
termination_by n
decreasing_by omega

theorem addDigit_ofNat (n : Nat) {d : Nat} (h : d < 10) :
    addDigit n (UInt8.ofNat (48 + d)) = some (n * 10 + d) := by
  have hall : ∀ d < 10, (0x30 ≤ UInt8.ofNat (48 + d) ∧ UInt8.ofNat (48 + d) ≤ 0x39) ∧
      (UInt8.ofNat (48 + d)).toNat - 0x30 = d := by decide
  rw [addDigit, if_pos (hall d h).1, (hall d h).2]

theorem foldlM_addDigit_natBytes (n : Nat) : (natBytes n).foldlM addDigit 0 = some n := by
  rw [natBytes_eq]
  split
  · rename_i h
    rw [List.foldlM_cons, addDigit_ofNat 0 h, Nat.zero_mul, Nat.zero_add]
    rfl
  · rw [List.foldlM_append, foldlM_addDigit_natBytes (n / 10)]
    change List.foldlM addDigit (n / 10) [_] = _
    rw [List.foldlM_cons, addDigit_ofNat _ (Nat.mod_lt _ (by omega))]
    change some _ = _
    congr 1
    omega
termination_by n
decreasing_by omega

theorem natBytes_ne_nil (n : Nat) : natBytes n ≠ [] := by
  rw [natBytes_eq]
  split <;> simp

theorem digits?_natBytes (n : Nat) : digits? (natBytes n) = some n := by
  rw [← foldlM_addDigit_natBytes n]
  cases hb : natBytes n with
  | nil => exact absurd hb (natBytes_ne_nil n)
  | cons b bs => rfl

/-- A number is read back from its digits. -/
theorem int?_natBytes (n : Nat) : int? (natBytes n) = some (n : Int) := by
  have hdigits := digits?_natBytes n
  have hall := isDigit_of_mem_natBytes n
  rw [int?.eq_def]
  split
  · rename_i bs hb
    have := hall 0x2D (by rw [hb]; exact List.mem_cons_self)
    exact absurd this (by decide)
  · rw [hdigits]; rfl

theorem int?_intBytes (n : Int) : int? (intBytes n) = some n := by
  rw [intBytes]
  split
  · rw [int?, digits?_natBytes]
    simp only [Option.bind_some]
    rw [if_neg (by omega)]
    congr 1
    omega
  · rw [int?_natBytes]
    congr 1
    omega

/-! ### Numerals -/

/-- Where a number stands after its first byte. -/
def Digits.first? (b : UInt8) : Option Digits :=
  if b = 0x2D then some .minus
  else if b = 0x30 then some .zero
  else if isDigit b then some .int
  else none

/-- Bytes that are a number from the first to the last. -/
def Numeral (w : Bytes) : Prop :=
  ∃ b bs d e, w = b :: bs ∧ Digits.first? b = some d ∧ bs.foldlM Digits.next? d = some e ∧ e.mayEnd

/-- A byte that continues a number is no control character, wherever the number stands. -/
theorem le_of_digits_next? {d e : Digits} {b : UInt8} (h : d.next? b = some e) : 0x20 ≤ b := by
  have hall : ∀ n < 0x20, ∀ d ∈ [Digits.minus, .zero, .int, .point, .frac, .expMark, .expSign, .exp],
      d.next? (UInt8.ofNat n) = none := by decide
  refine UInt8.not_lt.1 fun hlt => ?_
  have hnone := hall b.toNat (UInt8.lt_iff_toNat_lt.1 hlt) d (by cases d <;> decide)
  rw [UInt8.ofNat_toNat, h] at hnone
  cases hnone

theorem le_of_first? {d : Digits} {b : UInt8} (h : Digits.first? b = some d) : 0x20 ≤ b := by
  have hall : ∀ n < 0x20, Digits.first? (UInt8.ofNat n) = none := by decide
  refine UInt8.not_lt.1 fun hlt => ?_
  have hnone := hall b.toNat (UInt8.lt_iff_toNat_lt.1 hlt)
  rw [UInt8.ofNat_toNat, h] at hnone
  cases hnone

theorem Numeral.le_of_mem {w : Bytes} (h : Numeral w) : ∀ b ∈ w, 0x20 ≤ b := by
  have hrest : ∀ {bs : Bytes} {d e : Digits}, bs.foldlM Digits.next? d = some e →
      ∀ b ∈ bs, 0x20 ≤ b := by
    intro bs
    induction bs with
    | nil =>
      intro _ _ _ b hb
      cases hb
    | cons c bs ih =>
      intro d e hrun b hb
      rw [List.foldlM_cons] at hrun
      obtain ⟨f, hf, hbs⟩ := Option.bind_eq_some_iff.1 hrun
      rcases List.mem_cons.1 hb with rfl | hb
      · exact le_of_digits_next? hf
      · exact ih hbs b hb
  obtain ⟨c, bs, d, e, rfl, hfirst, hrun, _⟩ := h
  intro b hb
  rcases List.mem_cons.1 hb with rfl | hb
  · exact le_of_first? hfirst
  · exact hrest hrun b hb

theorem foldlM_next?_int : ∀ {bs : Bytes}, (∀ b ∈ bs, isDigit b = true) →
    bs.foldlM Digits.next? .int = some .int
  | [], _ => rfl
  | b :: bs, h => by
    have hb : Digits.next? .int b = some .int := by
      rw [Digits.next?, if_pos (h b List.mem_cons_self)]
    rw [List.foldlM_cons, hb]
    exact foldlM_next?_int fun c hc => h c (List.mem_cons_of_mem _ hc)

theorem numeral_natBytes (n : Nat) : Numeral (natBytes n) := by
  rcases Nat.eq_zero_or_pos n with rfl | h
  · exact ⟨0x30, [], .zero, .zero, by rw [natBytes_eq]; rfl, rfl, rfl, rfl⟩
  · obtain ⟨b, bs, hb, hne, hd, hall⟩ := natBytes_cons h
    have hminus : b ≠ 0x2D := by rintro rfl; exact absurd hd (by decide)
    exact ⟨b, bs, .int, .int, hb, by rw [Digits.first?, if_neg hminus, if_neg hne, if_pos hd],
      foldlM_next?_int hall, rfl⟩

theorem numeral_intBytes (n : Int) : Numeral (intBytes n) := by
  rw [intBytes]
  split
  · obtain ⟨b, bs, hb, hne, hd, hall⟩ := natBytes_cons (show 0 < n.natAbs by omega)
    have hfirst : Digits.next? .minus b = some .int := by
      rw [Digits.next?, if_neg hne, if_pos hd]
    refine ⟨0x2D, natBytes n.natAbs, .minus, .int, rfl, rfl, ?_, rfl⟩
    rw [hb, List.foldlM_cons, hfirst]
    exact foldlM_next?_int hall
  · exact numeral_natBytes _

end Seedkeeper.Json
