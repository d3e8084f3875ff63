import Seedkeeper.Text.Ascii
import Seedkeeper.Text.Lowercase

/-!
Lower case stays: what is in lower case already is not changed again.

A character is `Settled` if no rule changes it. The lower-case form of every character consists of
settled ones; for the characters of the table this is a fact about pairs of runs, that the forms of one
are passed over by the other (`avoids_of_mem`). So lower-casing twice is lower-casing once.
-/

namespace Seedkeeper.Text

/-! ### The table -/

/-- The least code point among the lower-case forms of a run. -/
def Run.firstForm (r : Run) : Nat := (r.first + r.offset).toNat

/-- The greatest one. -/
def Run.lastForm (r : Run) : Nat := (r.last + r.offset).toNat

/-- Whether a run passes over the lower-case forms of another: they lie before it, behind it, or between
    its characters. -/
def Run.avoids (q r : Run) : Bool :=
  (Nat.blt r.lastForm q.first || Nat.blt q.last r.firstForm) ||
    (q.stride == 2 && (r.stride == 2 || r.first == r.last) && (r.firstForm - q.first) % 2 == 1)

theorem all_avoid : (lowercaseRuns.all fun r => lowercaseRuns.all fun q => q.avoids r) = true := by
  decide +kernel

/-- No run holds a lower-case form. -/
theorem avoids_of_mem {q r : Run} (hr : r ∈ lowercaseRuns) (hq : q ∈ lowercaseRuns) :
    q.avoids r = true := List.all_eq_true.1 (List.all_eq_true.1 all_avoid r hr) q hq

/-- The lower-case forms of a run are characters beyond ASCII other than the two with rules of their
    own, or the run is the Kelvin sign and its form is `k`. -/
theorem forms_of_mem : ∀ r ∈ lowercaseRuns,
    (128 ≤ r.first + r.offset ∨ (r.first = r.last ∧ r.first + r.offset = 0x6B)) ∧
    (r.last + r.offset < 0x130 ∨ 0x130 < r.first + r.offset) ∧
    (r.last + r.offset < 0x3A3 ∨ 0x3A3 < r.first + r.offset) ∧
    (r.last + r.offset < 0xD800 ∨ 0xDFFF < r.first + r.offset ∧ r.last + r.offset < 0x110000) := by
  decide +kernel

theorem Run.holds_iff {r : Run} {n : Nat} :
    r.holds n = true ↔ r.first ≤ n ∧ n ≤ r.last ∧ (n - r.first) % r.stride = 0 := by
  simp [Run.holds, and_assoc]

/-- A run that passes over another's forms holds none of them. -/
theorem Run.holds_eq_false_of_avoids {q r : Run} (h : q.avoids r = true) {n : Nat}
    (hn : r.holds n = true) :
    q.holds (n + r.offset).toNat = false := by
  obtain ⟨hfirst, hlast, hstride⟩ := Run.holds_iff.1 hn
  refine Bool.eq_false_iff.2 fun hq => ?_
  obtain ⟨hqfirst, hqlast, hqstride⟩ := Run.holds_iff.1 hq
  simp only [Run.avoids, Run.firstForm, Run.lastForm, Bool.or_eq_true, Bool.and_eq_true,
    beq_iff_eq, Nat.blt_eq] at h
  rcases h with (hbefore | hbehind) | ⟨⟨hq2, hr⟩, hodd⟩
  · omega
  · omega
  · rw [hq2] at hqstride
    rcases hr with hr2 | hsingle
    · rw [hr2] at hstride
      omega
    · omega

/-! ### Settled characters -/

/-- A character that no rule changes. -/
def Settled (c : Char) : Prop := c ≠ 'Σ' ∧ lowerChar c = [c]

instance (c : Char) : Decidable (Settled c) := inferInstanceAs (Decidable (_ ∧ _))

/-- ASCII characters are settled in lower case. -/
theorem settled_toLower {c : Char} (h : c.toNat < 128) : Settled c.toLower :=
  forall_ascii (P := fun c => Settled c.toLower) (by decide) h

/-- The lower-case form of a character of the table is settled. -/
theorem settled_form {r : Run} (hr : r ∈ lowercaseRuns) {n : Nat} (hn : r.holds n = true) :
    Settled (Char.ofNat (n + r.offset).toNat) := by
  obtain ⟨hfirst, hlast, _⟩ := Run.holds_iff.1 hn
  obtain ⟨hlow, hdotted, hsigma, hvalid⟩ := forms_of_mem r hr
  rcases hlow with hlow | ⟨hsingle, hk⟩
  · have hchar : (n + r.offset).toNat.isValidChar := by
      rcases hvalid with hsmall | ⟨hbehind, hlarge⟩
      · exact .inl (by omega)
      · exact .inr ⟨by omega, by omega⟩
    have hcode : (Char.ofNat (n + r.offset).toNat).toNat = (n + r.offset).toNat := by
      rw [Char.ofNat, dif_pos hchar]
      rfl
    have hne : ∀ c : Char, (c.toNat : Int) ≠ n + r.offset →
        Char.ofNat (n + r.offset).toNat ≠ c := by
      rintro c hc rfl
      exact hc (by rw [hcode]; omega)
    have hnone : lowercaseRuns.find? (·.holds (n + r.offset).toNat) = none := by
      refine List.find?_eq_none.2 fun q hq => ?_
      simp [Run.holds_eq_false_of_avoids (avoids_of_mem hr hq) hn]
    refine ⟨hne 'Σ' (by have : 'Σ'.toNat = 0x3A3 := rfl; omega), ?_⟩
    rw [lowerChar, hcode, if_neg (by omega),
      if_neg (hne 'İ' (by have : 'İ'.toNat = 0x130 := rfl; omega)), hnone]
  · have hform : (n + r.offset).toNat = 0x6B := by omega
    rw [hform]
    decide

/-- A character's lower-case form consists of settled characters. -/
theorem settled_of_mem_lowerChar {c : Char} (hc : c ≠ 'Σ') : ∀ d ∈ lowerChar c, Settled d := by
  intro d hd
  by_cases hascii : c.toNat < 128
  · rw [lowerChar, if_pos hascii, List.mem_singleton] at hd
    rw [hd]
    exact settled_toLower hascii
  · by_cases hdotted : c = 'İ'
    · have hforms : lowerChar 'İ' = ['i', '\u0307'] := by decide
      rw [hdotted, hforms] at hd
      simp only [List.mem_cons, List.not_mem_nil, or_false] at hd
      rcases hd with rfl | rfl
      · decide
      · decide
    · cases hfind : lowercaseRuns.find? (·.holds c.toNat) with
      | some r =>
        rw [lowerChar, if_neg hascii, if_neg hdotted, hfind, List.mem_singleton] at hd
        rw [hd]
        have hholds := List.find?_some hfind
        exact settled_form (List.mem_of_find?_eq_some hfind) hholds
      | none =>
        have hself : lowerChar c = [c] := by rw [lowerChar, if_neg hascii, if_neg hdotted, hfind]
        rw [hself, List.mem_singleton] at hd
        rw [hd]
        exact ⟨hc, hself⟩

/-! ### Texts -/

theorem settled_of_mem_lowerAfter (cs before : List Char) :
    ∀ d ∈ lowerAfter before cs, Settled d := by
  induction cs generalizing before with
  | nil =>
    intro d hd
    cases hd
  | cons c cs ih =>
    intro d hd
    rw [lowerAfter] at hd
    rcases List.mem_append.1 hd with hd | hd
    · split at hd
      · rw [List.mem_singleton.1 hd]
        split
        · decide
        · decide
      · rename_i hc
        exact settled_of_mem_lowerChar hc d hd
    · exact ih _ d hd

/-- Settled characters are not changed, whatever stands before them. -/
theorem lowerAfter_eq_self {cs : List Char} (h : ∀ c ∈ cs, Settled c) (before : List Char) :
    lowerAfter before cs = cs := by
  induction cs generalizing before with
  | nil => rfl
  | cons c cs ih =>
    obtain ⟨hc, hself⟩ := h c List.mem_cons_self
    rw [lowerAfter, if_neg hc, hself, ih fun d hd => h d (List.mem_cons_of_mem _ hd)]
    rfl

/-- An ASCII text is in lower case when its letters are small. -/
theorem lowerAfter_of_ascii {cs : List Char} (h : ∀ c ∈ cs, c.toNat < 128) (before : List Char) :
    lowerAfter before cs = cs.map asciiLower := by
  induction cs generalizing before with
  | nil => rfl
  | cons c cs ih =>
    obtain ⟨hsigma, hlower⟩ : c ≠ 'Σ' ∧ lowerChar c = [asciiLower c] :=
      forall_ascii (P := fun c => c ≠ 'Σ' ∧ lowerChar c = [asciiLower c]) (by decide)
        (h c List.mem_cons_self)
    rw [lowerAfter, if_neg hsigma, hlower, ih fun d hd => h d (List.mem_cons_of_mem c hd)]
    rfl

theorem lowercase_of_ascii {cs : List Char} (h : ∀ c ∈ cs, c.toNat < 128) :
    lowercase (String.ofList cs) = String.ofList (cs.map asciiLower) := by
  rw [lowercase, String.toList_ofList, lowerAfter_of_ascii h]

/-- Lower-casing twice is lower-casing once. -/
theorem lowercase_lowercase (s : String) : lowercase (lowercase s) = lowercase s := by
  rw [lowercase, lowercase, String.toList_ofList,
    lowerAfter_eq_self (settled_of_mem_lowerAfter s.toList [])]

end Seedkeeper.Text
