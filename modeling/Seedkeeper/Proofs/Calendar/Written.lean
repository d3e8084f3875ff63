import Mathlib.Data.String.Basic
import Seedkeeper.Proofs.Calendar.Civil
import Seedkeeper.Text.Ascii
import Seedkeeper.Text.Blank

/-!
Written dates: they are read back, and those with years of four digits are in the order of dates.

Numbers of one width compare as their digits do, so dates written without a sign compare as texts the
way they compare as dates. A sign stands before every digit in the order of texts. So a date outside
the years 0…9999 is written before every date inside, and a window inside those years holds a written
date exactly if it holds the date (`Date.text_between_iff`).
-/

namespace Seedkeeper.Calendar

/-! ### Padded numbers -/

theorem padded_one {n : Nat} (h : n < 10) : padded 1 n = [Nat.digitChar n] := by
  simp [padded, Nat.toDigits_eq_if, h]

/-- A number of two or more places ends with its last digit. -/
theorem padded_succ (w n : Nat) :
    padded (w + 2) n = padded (w + 1) (n / 10) ++ [Nat.digitChar (n % 10)] := by
  simp only [padded, Nat.toString_eq_ofList_toDigits, String.toList_ofList]
  rw [Nat.toDigits_eq_if (n := n) (by omega)]
  split
  · rename_i h
    have hzero : n / 10 = 0 := by omega
    have hrow : List.replicate (w + 1) '0' = List.replicate w '0' ++ ['0'] := List.replicate_succ'
    have hdigits : Nat.toDigits 10 0 = ['0'] := rfl
    simp [hzero, hdigits, hrow, Nat.mod_eq_of_lt h]
  · simp

theorem length_padded {w n : Nat} (h : n < 10 ^ (w + 1)) : (padded (w + 1) n).length = w + 1 := by
  induction w generalizing n with
  | zero => rw [padded_one (by omega)]; rfl
  | succ w ih =>
    rw [Nat.pow_succ] at h
    rw [padded_succ, List.length_append, ih (by omega)]
    rfl

theorem digitChar_lt {m n : Nat} (h : m < n) (hn : n < 10) : Nat.digitChar m < Nat.digitChar n := by
  have hall : ∀ n < 10, ∀ m < n, Nat.digitChar m < Nat.digitChar n := by decide
  exact hall n hn m h

/-- Of two rows of one length the smaller one stays smaller, whatever follows them. -/
theorem append_lt_append_of_lt {us vs : List Char} : ∀ {xs ys : List Char},
    xs < ys → xs.length = ys.length → xs ++ us < ys ++ vs
  | [], [], h, _ => absurd h (List.lt_irrefl _)
  | x :: xs, y :: ys, h, hlen => by
    rw [List.cons_append, List.cons_append, List.cons_lt_cons_iff]
    rcases List.cons_lt_cons_iff.1 h with hxy | ⟨hxy, hrest⟩
    · exact .inl hxy
    · exact .inr ⟨hxy, append_lt_append_of_lt hrest (Nat.succ_inj.1 hlen)⟩

/-- Numbers of one width compare as their digits do. -/
theorem padded_lt {w m n : Nat} (h : m < n) (hn : n < 10 ^ (w + 1)) :
    padded (w + 1) m < padded (w + 1) n := by
  induction w generalizing m n with
  | zero =>
    rw [padded_one (by omega), padded_one (by omega), List.cons_lt_cons_iff]
    exact .inl (digitChar_lt h (by omega))
  | succ w ih =>
    rw [Nat.pow_succ] at hn
    rw [padded_succ, padded_succ]
    rcases Nat.lt_or_eq_of_le (Nat.div_le_div_right (c := 10) (Nat.le_of_lt h)) with hlt | heq
    · refine append_lt_append_of_lt (ih hlt (by omega)) ?_
      rw [length_padded (by omega), length_padded (by omega)]
    · rw [heq]
      refine List.append_left_lt (List.cons_lt_cons_iff.2 (.inl ?_))
      exact digitChar_lt (by omega) (by omega)

theorem isDigit_of_mem_padded {w n : Nat} {c : Char} (h : c ∈ padded w n) :
    Text.isDigit c = true := by
  simp only [padded, Nat.toString_eq_ofList_toDigits, String.toList_ofList] at h
  rcases List.mem_append.1 h with h | h
  · rw [List.eq_of_mem_replicate h]
    rfl
  · have hd := Nat.isDigit_of_mem_toDigits (by omega) (by omega) h
    simpa [Char.isDigit, Text.isDigit, Char.le_def] using hd

theorem hyphen_notMem_padded (w n : Nat) : '-' ∉ padded w n := by
  intro h
  exact absurd (isDigit_of_mem_padded h) (by decide)

theorem padded_ne_nil (w n : Nat) : padded w n ≠ [] := by
  simp [padded]

/-- One more digit of a value. -/
def addChar (n : Nat) (c : Char) : Option Nat :=
  (if Text.isDigit c then some (c.toNat - 48) else none).map (n * 10 + ·)

theorem addChar_digitChar (n : Nat) {d : Nat} (h : d < 10) :
    addChar n (Nat.digitChar d) = some (n * 10 + d) := by
  have hall : ∀ d < 10, Text.isDigit (Nat.digitChar d) = true ∧
      (Nat.digitChar d).toNat - 48 = d := by decide
  rw [addChar, if_pos (hall d h).1, (hall d h).2]
  rfl

theorem foldlM_addChar_toDigits (n : Nat) : (Nat.toDigits 10 n).foldlM addChar 0 = some n := by
  rw [Nat.toDigits_eq_if (by omega)]
  split
  · rename_i h
    rw [List.foldlM_cons, addChar_digitChar 0 h, Nat.zero_mul, Nat.zero_add]
    rfl
  · rw [List.foldlM_append, foldlM_addChar_toDigits (n / 10)]
    change List.foldlM addChar (n / 10) [_] = _
    rw [List.foldlM_cons, addChar_digitChar _ (Nat.mod_lt _ (by omega)), Nat.div_add_mod']
    rfl
termination_by n
decreasing_by omega

theorem foldlM_addChar_zeros (w : Nat) : (List.replicate w '0').foldlM addChar 0 = some 0 := by
  induction w with
  | zero => rfl
  | succ w ih =>
    rw [List.replicate_succ, List.foldlM_cons]
    exact ih

/-- A padded number is read back. -/
theorem decimalValue?_padded (w n : Nat) : Text.decimalValue? (padded w n) = some n := by
  have hvalue : (padded w n).foldlM addChar 0 = some n := by
    simp only [padded, Nat.toString_eq_ofList_toDigits, String.toList_ofList]
    rw [List.foldlM_append, foldlM_addChar_zeros]
    exact foldlM_addChar_toDigits n
  rw [Text.decimalValue?, Text.digitsValue?.eq_def]
  cases hcs : padded w n with
  | nil => exact absurd hcs (padded_ne_nil w n)
  | cons c cs =>
    rw [hcs] at hvalue
    exact hvalue

/-! ### Written dates, read -/

namespace Date

/-- The characters of a written date behind its sign. -/
def digits (d : Date) : List Char :=
  padded 4 d.civil.year.natAbs ++ '-' :: padded 2 d.civil.month ++ '-' :: padded 2 d.civil.day

/-- The date whose characters behind the sign are these, the year counted from 0 on. -/
def ofDigits? (sign : Int) (cs : List Char) : Option Date :=
  match (Text.pieces '-' cs).map Text.decimalValue? with
  | [some year, some month, some day] => some (.ofCivil ⟨sign * year, month, day⟩)
  | _ => none

/-- The date that a text is written for. -/
def ofText? (s : String) : Option Date :=
  match s.toList with
  | '-' :: cs => ofDigits? (-1) cs
  | '+' :: cs => ofDigits? 1 cs
  | cs => ofDigits? 1 cs

variable {d e : Date}

theorem toList_text_of_plain (h : 0 ≤ d.civil.year ∧ d.civil.year ≤ 9999) :
    d.text.toList = d.digits := by
  have habs : d.civil.year.toNat = d.civil.year.natAbs := by omega
  simp [text, yearText, digits, h, habs]

/-- Years that are not written with four digits have a sign. -/
theorem toList_text_of_signed (h : ¬ (0 ≤ d.civil.year ∧ d.civil.year ≤ 9999)) :
    d.text.toList = (if d.civil.year < 0 then '-' else '+') :: d.digits := by
  simp [text, yearText, digits, h]

theorem ofDigits?_digits (sign : Int) (h : sign * d.civil.year.natAbs = d.civil.year) :
    ofDigits? sign d.digits = some d := by
  have hpieces : (Text.pieces '-' d.digits).map Text.decimalValue?
      = [some d.civil.year.natAbs, some d.civil.month, some d.civil.day] := by
    rw [digits, List.append_assoc, List.cons_append, Text.pieces_append_cons,
      Text.pieces_append_cons, Text.pieces_eq_singleton (hyphen_notMem_padded _ _),
      Text.pieces_eq_singleton (hyphen_notMem_padded _ _),
      Text.pieces_eq_singleton (hyphen_notMem_padded _ _)]
    simp only [List.cons_append, List.nil_append, List.map_cons, List.map_nil, decimalValue?_padded]
  rw [ofDigits?, hpieces]
  simp only [h]
  exact congrArg some d.ofCivil_civil

/-- The first of the digits is one. -/
theorem digits_eq_cons (d : Date) : ∃ c cs, d.digits = c :: cs ∧ Text.isDigit c = true := by
  cases hcs : padded 4 d.civil.year.natAbs with
  | nil => exact absurd hcs (padded_ne_nil _ _)
  | cons c cs =>
    refine ⟨c, cs ++ '-' :: padded 2 d.civil.month ++ '-' :: padded 2 d.civil.day, ?_, ?_⟩
    · simp [digits, hcs]
    · exact isDigit_of_mem_padded (hcs ▸ List.mem_cons_self)

/-- A written date is read back. -/
theorem ofText?_text (d : Date) : ofText? d.text = some d := by
  by_cases h : 0 ≤ d.civil.year ∧ d.civil.year ≤ 9999
  · obtain ⟨c, cs, hcs, hdigit⟩ := d.digits_eq_cons
    have hread := ofDigits?_digits (d := d) 1 (by omega)
    rw [hcs] at hread
    rw [ofText?, toList_text_of_plain h, hcs]
    split
    · rename_i hc
      rw [(List.cons.inj hc).1] at hdigit
      cases hdigit
    · rename_i hc
      rw [(List.cons.inj hc).1] at hdigit
      cases hdigit
    · exact hread
  · rw [ofText?, toList_text_of_signed h]
    by_cases hneg : d.civil.year < 0
    · rw [if_pos hneg]
      exact ofDigits?_digits _ (by omega)
    · rw [if_neg hneg]
      exact ofDigits?_digits _ (by omega)

/-! ### The order of written dates -/

/-- Later dates without a sign are written later. -/
theorem text_lt (h : d.dayNumber < e.dayNumber) (hd : 0 ≤ d.civil.year)
    (he : e.civil.year ≤ 9999) : d.text < e.text := by
  have hyear := year_mono (Int.le_of_lt h)
  obtain ⟨_, hmd, _, hdd, _⟩ := d.civil_spec
  obtain ⟨_, hme, _, hde, _⟩ := e.civil_spec
  rw [String.lt_iff_toList_lt, toList_text_of_plain ⟨hd, by omega⟩,
    toList_text_of_plain ⟨by omega, he⟩, digits, digits, List.append_assoc, List.append_assoc]
  rcases civil_lt h with hy | ⟨hy, hm | ⟨hm, hday⟩⟩
  · refine append_lt_append_of_lt (padded_lt (by omega) (by omega)) ?_
    rw [length_padded (by omega), length_padded (by omega)]
  · rw [hy]
    refine List.append_left_lt (List.cons_lt_cons_iff.2 (.inr ⟨rfl, ?_⟩))
    refine append_lt_append_of_lt (padded_lt hm (by omega)) ?_
    rw [length_padded (by omega), length_padded (by omega)]
  · rw [hy, hm]
    refine List.append_left_lt (List.cons_lt_cons_iff.2 (.inr ⟨rfl, ?_⟩))
    refine List.append_left_lt (List.cons_lt_cons_iff.2 (.inr ⟨rfl, ?_⟩))
    exact padded_lt hday (by omega)

/-- A date with a sign is written before every date without. -/
theorem text_lt_of_signed (hd : ¬ (0 ≤ d.civil.year ∧ d.civil.year ≤ 9999))
    (he : 0 ≤ e.civil.year ∧ e.civil.year ≤ 9999) : d.text < e.text := by
  obtain ⟨c, cs, hcs, hdigit⟩ := e.digits_eq_cons
  have hlow : '0' ≤ c := by
    simp only [Text.isDigit, Bool.and_eq_true, decide_eq_true_eq] at hdigit
    exact hdigit.1
  have hsign : (if d.civil.year < 0 then '-' else '+') < '0' := by split <;> decide
  rw [String.lt_iff_toList_lt, toList_text_of_signed hd, toList_text_of_plain he, hcs,
    List.cons_lt_cons_iff]
  exact .inl (lt_of_lt_of_le hsign hlow)

/-- Dates without a sign compare as they are written. -/
theorem text_le_iff (hd : 0 ≤ d.civil.year ∧ d.civil.year ≤ 9999)
    (he : 0 ≤ e.civil.year ∧ e.civil.year ≤ 9999) :
    d.text ≤ e.text ↔ d.dayNumber ≤ e.dayNumber := by
  constructor
  · intro h
    by_contra hlt
    exact not_lt_of_ge h (text_lt (by omega) he.1 hd.2)
  · intro h
    rcases Int.lt_or_eq_of_le h with hlt | heq
    · exact le_of_lt (text_lt hlt hd.1 he.2)
    · have hde : d = e := by
        cases d; cases e
        exact congrArg Date.mk heq
      rw [hde]

/-- A window of years without a sign holds a written date exactly if it holds the date, whatever that
    date's year is. -/
theorem text_between_iff {first last : Date} (h : first.dayNumber ≤ last.dayNumber)
    (hfirst : 0 ≤ first.civil.year) (hlast : last.civil.year ≤ 9999) (d : Date) :
    (first.text ≤ d.text ∧ d.text ≤ last.text) ↔
      first.dayNumber ≤ d.dayNumber ∧ d.dayNumber ≤ last.dayNumber := by
  have hmono := year_mono h
  by_cases hd : 0 ≤ d.civil.year ∧ d.civil.year ≤ 9999
  · rw [text_le_iff ⟨hfirst, by omega⟩ hd, text_le_iff hd ⟨by omega, hlast⟩]
  · constructor
    · rintro ⟨hlow, _⟩
      exact absurd (text_lt_of_signed hd ⟨hfirst, by omega⟩) (not_lt_of_ge hlow)
    · rintro ⟨hlow, hhigh⟩
      have := year_mono hlow
      have := year_mono hhigh
      omega

end Date

end Seedkeeper.Calendar
