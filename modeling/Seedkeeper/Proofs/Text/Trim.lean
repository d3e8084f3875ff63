import Mathlib.Data.List.Basic
import Mathlib.Data.List.TakeWhile
import Seedkeeper.Text.Blank

/-!
What trimming takes away.

A text is what is left of it when it is trimmed, with blanks before and after. So a text is trimmed to a
core whose ends are not blank exactly if it is that core between blanks (`trim_eq_iff`), and to nothing
exactly if it is blank (`nonBlank?_eq_none_iff`). What is trimmed stays as it is (`trim_trim`).
-/

namespace Seedkeeper.Text

/-- Characters that are all blanks. -/
def AllBlank (cs : List Char) : Prop := ∀ c ∈ cs, isBlank c = true

instance (cs : List Char) : Decidable (AllBlank cs) := List.decidableBAll _ cs

/-- A text of nothing but blanks. -/
def Blank (s : String) : Prop := AllBlank s.toList

instance (s : String) : Decidable (Blank s) := inferInstanceAs (Decidable (AllBlank s.toList))

/-- A text that is another one between blanks. -/
def Padded (core s : String) : Prop :=
  ∃ before after, s.toList = before ++ core.toList ++ after ∧ AllBlank before ∧ AllBlank after

theorem allBlank_nil : AllBlank [] := fun _ h => nomatch h

theorem allBlank_takeWhile (cs : List Char) : AllBlank (cs.takeWhile isBlank) := fun _ hc =>
  List.mem_takeWhile_imp hc

theorem AllBlank.reverse {cs : List Char} (h : AllBlank cs) : AllBlank cs.reverse := fun c hc =>
  h c (List.mem_reverse.1 hc)

/-- Blanks are dropped up to a character that is none. -/
theorem dropWhile_append {before cs : List Char} (hbefore : AllBlank before)
    (hfirst : ∀ c, cs.head? = some c → isBlank c = false) :
    (before ++ cs).dropWhile isBlank = cs := by
  rw [List.dropWhile_append_of_pos hbefore]
  cases cs with
  | nil => rfl
  | cons c cs => rw [List.dropWhile_cons_of_neg (by simp [hfirst c rfl])]

/-- Blanks around a core whose ends are not blank are what trimming takes away. -/
theorem trimChars_append {before core after : List Char} (hne : core ≠ [])
    (hfirst : ∀ c, core.head? = some c → isBlank c = false)
    (hlast : ∀ c, core.getLast? = some c → isBlank c = false)
    (hbefore : AllBlank before) (hafter : AllBlank after) :
    trimChars (before ++ core ++ after) = core := by
  have hhead : ∀ c, (core ++ after).head? = some c → isBlank c = false := by
    intro c hc
    rw [List.head?_append_of_ne_nil _ hne] at hc
    exact hfirst c hc
  have hend : ∀ c, core.reverse.head? = some c → isBlank c = false := by
    intro c hc
    rw [List.head?_reverse] at hc
    exact hlast c hc
  rw [trimChars, List.append_assoc, dropWhile_append hbefore hhead, List.reverse_append,
    dropWhile_append hafter.reverse hend, List.reverse_reverse]

/-- Every text is what is left of it between blanks. -/
theorem exists_eq_append_trimChars (cs : List Char) :
    ∃ before after, cs = before ++ trimChars cs ++ after ∧ AllBlank before ∧ AllBlank after := by
  let rest := cs.dropWhile isBlank
  refine ⟨cs.takeWhile isBlank, (rest.reverse.takeWhile isBlank).reverse, ?_, allBlank_takeWhile cs,
    (allBlank_takeWhile _).reverse⟩
  have hrest : trimChars cs ++ (rest.reverse.takeWhile isBlank).reverse = rest := by
    rw [trimChars, ← List.reverse_append, List.takeWhile_append_dropWhile, List.reverse_reverse]
  rw [List.append_assoc, hrest, List.takeWhile_append_dropWhile]

theorem trim_eq_iff {core : String} (hne : core.toList ≠ [])
    (hfirst : ∀ c, core.toList.head? = some c → isBlank c = false)
    (hlast : ∀ c, core.toList.getLast? = some c → isBlank c = false) (s : String) :
    trim s = core ↔ Padded core s := by
  constructor
  · intro htrim
    obtain ⟨before, after, hs, hbefore, hafter⟩ := exists_eq_append_trimChars s.toList
    refine ⟨before, after, ?_, hbefore, hafter⟩
    rwa [← htrim, trim, String.toList_ofList]
  · rintro ⟨before, after, hs, hbefore, hafter⟩
    rw [trim, hs, trimChars_append hne hfirst hlast hbefore hafter, String.ofList_toList]

theorem trimChars_eq_nil_iff (cs : List Char) : trimChars cs = [] ↔ AllBlank cs := by
  constructor
  · intro htrim
    obtain ⟨before, after, hcs, hbefore, hafter⟩ := exists_eq_append_trimChars cs
    rw [htrim, List.append_nil] at hcs
    intro c hc
    rw [hcs] at hc
    exact (List.mem_append.1 hc).elim (hbefore c) (hafter c)
  · intro hblank
    have hnone : cs.dropWhile isBlank = [] := List.dropWhile_eq_nil_iff.2 hblank
    rw [trimChars, hnone]
    rfl

theorem nonBlank?_eq_none_iff (s : String) : nonBlank? s = none ↔ Blank s := by
  rw [Blank, ← trimChars_eq_nil_iff, nonBlank?, trim]
  simp

theorem nonBlank?_eq_some_iff {s t : String} : nonBlank? s = some t ↔ trim s = t ∧ t ≠ "" := by
  rw [nonBlank?, Option.ite_none_left_eq_some, Option.some_inj, String.isEmpty_iff]
  constructor
  · rintro ⟨hne, rfl⟩
    exact ⟨rfl, hne⟩
  · rintro ⟨rfl, hne⟩
    exact ⟨hne, rfl⟩

/-! ### Trimming again -/

/-- What is left of a text is a part of it. -/
theorem infix_trim (s : String) : (trim s).toList <:+: s.toList := by
  obtain ⟨before, after, hs, -, -⟩ := exists_eq_append_trimChars s.toList
  rw [trim, String.toList_ofList]
  exact ⟨before, after, hs.symm⟩

theorem isBlank_of_head?_dropWhile {cs : List Char} {c : Char}
    (h : (cs.dropWhile isBlank).head? = some c) : isBlank c = false := by
  have hfirst := List.head?_dropWhile_not isBlank cs
  rwa [h] at hfirst

theorem isBlank_of_getLast?_trimChars {cs : List Char} {c : Char}
    (h : (trimChars cs).getLast? = some c) : isBlank c = false := by
  rw [trimChars, List.getLast?_reverse] at h
  exact isBlank_of_head?_dropWhile h

theorem isBlank_of_head?_trimChars {cs : List Char} {c : Char}
    (h : (trimChars cs).head? = some c) : isBlank c = false := by
  have hstart : trimChars cs <+: cs.dropWhile isBlank := by
    rw [trimChars, ← List.reverse_suffix, List.reverse_reverse]
    exact List.dropWhile_suffix _
  obtain ⟨after, hafter⟩ := hstart
  have hfirst : (cs.dropWhile isBlank).head? = some c := by
    rw [← hafter, List.head?_append, h, Option.some_or]
  exact isBlank_of_head?_dropWhile hfirst

theorem trim_trim (s : String) : trim (trim s) = trim s := by
  by_cases hne : (trim s).toList = []
  · rw [String.toList_eq_nil_iff.1 hne]
    rfl
  · refine (trim_eq_iff hne (fun c hc => ?_) (fun c hc => ?_) (trim s)).2
      ⟨[], [], by simp, allBlank_nil, allBlank_nil⟩
    · exact isBlank_of_head?_trimChars (by simpa [trim] using hc)
    · exact isBlank_of_getLast?_trimChars (by simpa [trim] using hc)

/-- Blanks in front of a text make no difference. -/
theorem trim_of_toList_eq_append {s t : String} {blanks : List Char} (hblanks : AllBlank blanks)
    (hs : s.toList = blanks ++ t.toList) : trim s = trim t := by
  rw [trim, trim, hs, trimChars, List.dropWhile_append_of_pos hblanks, trimChars]

end Seedkeeper.Text
