import Mathlib.Data.List.Infix
import Seedkeeper.Text.Blank
import Seedkeeper.Text.Lowercase

/-!
The lower-case form of a part of a text, and of that part by itself.

Only a capital sigma is lower-cased by what stands around it, so the two forms are the same exactly if each
sigma of the part `KeepsSigmas` (`lowerAmid_eq_iff`). What decides about a sigma may lie outside the part
or within it: a sigma is `Decided` if nothing put around the part makes a difference, and one letter is
enough to change any other sigma (`endsWord_of_not_decided`). So a text occurs, lower-cased, in every
text that it occurs in exactly if all its sigmas are decided (`contains_lowercase_iff`).
-/

namespace Seedkeeper.Text

variable {before after cs ds xs ys : List Char} {c z : Char}

/-! ### Words -/

/-- Whether a capital sigma is at the end of a word, what stands before it given nearest first. -/
def endsWord (before after : List Char) : Bool := casedFirst before && !casedFirst after

/-- Whether a rule on case stops at some character. -/
def Visible (cs : List Char) : Prop := ∃ c ∈ cs, isCaseIgnorable c = false

theorem casedFirst_append_of_visible (h : Visible cs) (ds : List Char) :
    casedFirst (cs ++ ds) = casedFirst cs := by
  induction cs with
  | nil =>
    obtain ⟨c, hc, -⟩ := h
    cases hc
  | cons c cs ih =>
    rw [List.cons_append, casedFirst, casedFirst]
    by_cases hc : isCaseIgnorable c = true
    · obtain ⟨d, hd, hstops⟩ := h
      rcases List.mem_cons.1 hd with rfl | hd
      · rw [hstops] at hc
        cases hc
      · rw [if_pos hc, if_pos hc, ih ⟨d, hd, hstops⟩]
    · rw [if_neg hc, if_neg hc]

theorem casedFirst_append_of_not_visible (h : ¬ Visible cs) (ds : List Char) :
    casedFirst (cs ++ ds) = casedFirst ds := by
  induction cs with
  | nil => rfl
  | cons c cs ih =>
    have hc : isCaseIgnorable c = true := by
      by_contra hstops
      exact h ⟨c, List.mem_cons_self, Bool.eq_false_iff.2 hstops⟩
    rw [List.cons_append, casedFirst, if_pos hc]
    exact ih fun ⟨d, hd, hstops⟩ => h ⟨d, List.mem_cons_of_mem c hd, hstops⟩

theorem visible_of_casedFirst (h : casedFirst cs = true) : Visible cs := by
  by_contra hnot
  have hnone := casedFirst_append_of_not_visible hnot []
  rw [List.append_nil, h] at hnone
  cases hnone

/-- Whether what stands around a capital sigma decides about it, whatever is put around that: a cased
    character follows, or one before it and, where that one is cased, one after it stop the rule. -/
def Decided (before after : List Char) : Prop :=
  casedFirst after = true ∨ Visible before ∧ (casedFirst before = false ∨ Visible after)

theorem endsWord_append_of_decided (h : Decided before after) (xs ys : List Char) :
    endsWord (before ++ xs) (after ++ ys) = endsWord before after := by
  rcases h with hcased | ⟨hvisible, huncased | hstops⟩
  · rw [endsWord, endsWord, casedFirst_append_of_visible (visible_of_casedFirst hcased), hcased,
      Bool.not_true, Bool.and_false, Bool.and_false]
  · rw [endsWord, endsWord, casedFirst_append_of_visible hvisible, huncased, Bool.false_and,
      Bool.false_and]
  · rw [endsWord, endsWord, casedFirst_append_of_visible hvisible,
      casedFirst_append_of_visible hstops]

/-- A letter that is cased, stops the rules on case and is lower-case. -/
def IsLetter (z : Char) : Prop :=
  isCased z = true ∧ isCaseIgnorable z = false ∧ z ≠ 'Σ' ∧ lowerChar z = [z]

instance (z : Char) : Decidable (IsLetter z) := inferInstanceAs (Decidable (_ ∧ _ ∧ _ ∧ _))

theorem IsLetter.casedFirst (h : IsLetter z) (cs : List Char) : casedFirst (z :: cs) = true := by
  rw [Text.casedFirst, h.2.1]
  exact h.1

/-- A sigma that is not decided is changed by every letter put behind what follows it, or by every letter
    put in front of what stands before it. -/
theorem endsWord_of_not_decided (h : ¬ Decided before after) :
    (∀ z, IsLetter z → endsWord before (after ++ [z]) ≠ endsWord before after) ∨
      ∀ z, IsLetter z → endsWord (before ++ [z]) after ≠ endsWord before after := by
  have hafter : casedFirst after = false := Bool.eq_false_iff.2 fun hcased => h (.inl hcased)
  by_cases hvisible : Visible before
  · have hcased : casedFirst before = true := by
      by_contra huncased
      exact h (.inr ⟨hvisible, .inl (Bool.eq_false_iff.2 huncased)⟩)
    have hthrough : ¬ Visible after := fun hstops => h (.inr ⟨hvisible, .inr hstops⟩)
    refine .inl fun z hz => ?_
    rw [endsWord, endsWord, casedFirst_append_of_not_visible hthrough, hz.casedFirst, hcased, hafter]
    decide
  · have hnone : casedFirst before = false := by
      by_contra hcased
      exact hvisible (visible_of_casedFirst (Bool.of_not_eq_false hcased))
    refine .inr fun z hz => ?_
    rw [endsWord, endsWord, casedFirst_append_of_not_visible hvisible, hz.casedFirst, hnone, hafter]
    decide

/-! ### Parts of a text -/

/-- The lower-case form of a character between `before` (nearest character first) and `after`. -/
def lowerAt (before after : List Char) (c : Char) : List Char :=
  if c = 'Σ' then [if endsWord before after then 'ς' else 'σ'] else lowerChar c

/-- Lower-casing of a part of a text between `before` (nearest character first) and `after`. -/
def lowerAmid (before after : List Char) : List Char → List Char
  | [] => []
  | c :: cs => lowerAt before (cs ++ after) c ++ lowerAmid (c :: before) after cs

/-- What stands before a text and after it makes no difference to its sigmas. -/
def KeepsSigmas (before after cs : List Char) : Prop :=
  ∀ xs ys, cs = xs ++ 'Σ' :: ys →
    endsWord (xs.reverse ++ before) (ys ++ after) = endsWord xs.reverse ys

/-- All sigmas of a text are decided. -/
def Steady (cs : List Char) : Prop := ∀ xs ys, cs = xs ++ 'Σ' :: ys → Decided xs.reverse ys

theorem lowerAfter_append (before cs ds : List Char) :
    lowerAfter before (cs ++ ds) = lowerAmid before ds cs ++ lowerAfter (cs.reverse ++ before) ds := by
  induction cs generalizing before with
  | nil => rfl
  | cons c cs ih =>
    rw [List.cons_append, lowerAfter, lowerAmid, ih (c :: before), List.append_assoc,
      List.reverse_cons, List.append_assoc, List.singleton_append]
    rfl

theorem lowerAfter_eq_lowerAmid (before cs : List Char) :
    lowerAfter before cs = lowerAmid before [] cs := by
  have h := lowerAfter_append before cs []
  rwa [List.append_nil, lowerAfter, List.append_nil] at h

theorem toList_lowercase (s : String) : (lowercase s).toList = lowerAmid [] [] s.toList := by
  rw [lowercase, String.toList_ofList, lowerAfter_eq_lowerAmid]

theorem length_lowerAt (before after xs ys : List Char) (c : Char) :
    (lowerAt before after c).length = (lowerAt xs ys c).length := by
  rw [lowerAt, lowerAt]
  split <;> rfl

/-- The length of a lower-case form does not depend on what stands around. -/
theorem length_lowerAmid (before after xs ys cs : List Char) :
    (lowerAmid before after cs).length = (lowerAmid xs ys cs).length := by
  induction cs generalizing before xs with
  | nil => rfl
  | cons c cs ih =>
    rw [lowerAmid, lowerAmid, List.length_append, List.length_append, ih (c :: before) (c :: xs),
      length_lowerAt before (cs ++ after) xs (cs ++ ys)]

theorem lowerAt_eq_iff : lowerAt before after c = lowerAt xs ys c ↔
    (c = 'Σ' → endsWord before after = endsWord xs ys) := by
  rw [lowerAt, lowerAt]
  by_cases hc : c = 'Σ'
  · rw [if_pos hc, if_pos hc]
    cases endsWord before after <;> cases endsWord xs ys <;> simp [hc]
  · simp [hc]

/-- The sigmas of a text are its first character, if it is one, and those of the rest. -/
theorem forall_sigma_cons_iff {p : List Char → List Char → Prop} :
    (∀ xs ys, c :: cs = xs ++ 'Σ' :: ys → p xs ys) ↔
      (c = 'Σ' → p [] cs) ∧ ∀ xs ys, cs = xs ++ 'Σ' :: ys → p (c :: xs) ys := by
  constructor
  · intro h
    exact ⟨fun hc => h [] cs (by rw [hc]; rfl), fun xs ys hcs => h (c :: xs) ys (by rw [hcs]; rfl)⟩
  · rintro ⟨hfirst, hrest⟩ xs ys heq
    cases xs with
    | nil =>
      obtain ⟨hc, rfl⟩ := List.cons.inj heq
      exact hfirst hc
    | cons x xs =>
      obtain ⟨rfl, hcs⟩ := List.cons.inj heq
      exact hrest xs ys hcs

/-- Followed through the part: `inner` is what of it was passed, nearest character first. -/
theorem lowerAmid_append_eq_iff (inner : List Char) :
    lowerAmid (inner ++ before) after cs = lowerAmid inner [] cs ↔ ∀ xs ys, cs = xs ++ 'Σ' :: ys →
      endsWord (xs.reverse ++ inner ++ before) (ys ++ after) = endsWord (xs.reverse ++ inner) ys := by
  induction cs generalizing inner with
  | nil => simp [lowerAmid]
  | cons c cs ih =>
    have hsplit : lowerAmid (inner ++ before) after (c :: cs) = lowerAmid inner [] (c :: cs) ↔
        lowerAt (inner ++ before) (cs ++ after) c = lowerAt inner (cs ++ []) c ∧
          lowerAmid (c :: inner ++ before) after cs = lowerAmid (c :: inner) [] cs := by
      rw [lowerAmid, lowerAmid]
      exact ⟨fun h => List.append_inj h (length_lowerAt _ _ _ _ c), fun ⟨h, hrest⟩ => by rw [h, ← hrest]; rfl⟩
    rw [hsplit, lowerAt_eq_iff, ih (c :: inner), forall_sigma_cons_iff, List.append_nil]
    simp

/-- A part of a text is lower-cased as it is by itself exactly if its surroundings make no difference to
    its sigmas. -/
theorem lowerAmid_eq_iff :
    lowerAmid before after cs = lowerAmid [] [] cs ↔ KeepsSigmas before after cs := by
  have h := @lowerAmid_append_eq_iff before after cs []
  simp only [List.nil_append, List.append_nil] at h
  exact h

theorem Steady.keepsSigmas (h : Steady cs) (before after : List Char) : KeepsSigmas before after cs :=
  fun xs ys hcs => endsWord_append_of_decided (h xs ys hcs) before after

theorem steady_of_not_mem (h : 'Σ' ∉ cs) : Steady cs := fun xs ys hcs => absurd (hcs ▸ by simp) h

/-! ### Occurrences -/

/-- The lower-case form of a text in three parts. -/
theorem lowercase_append (before cs after : List Char) :
    lowercase (String.ofList (before ++ cs ++ after)) = String.ofList (lowerAmid [] (cs ++ after) before ++
      lowerAmid before.reverse after cs ++ lowerAfter (cs.reverse ++ before.reverse) after) := by
  rw [lowercase, String.toList_ofList, List.append_assoc, lowerAfter_append, lowerAfter_append,
    List.append_nil, List.append_assoc]

/-- Where a text occurs in another one and its sigmas are kept, its lower-case form occurs in the
    other's. -/
theorem contains_lowercase_of_keepsSigmas {s part : String}
    (h : s.toList = before ++ part.toList ++ after)
    (hkeeps : KeepsSigmas before.reverse after part.toList) :
    contains (lowercase s) (lowercase part) = true := by
  have hs : s = String.ofList (before ++ part.toList ++ after) := by rw [← h, String.ofList_toList]
  rw [contains_iff, hs, lowercase_append, String.toList_ofList, toList_lowercase,
    ← lowerAmid_eq_iff.2 hkeeps]
  exact ⟨_, _, rfl⟩

/-- A text as long as another one does not occur in it with one more character in front, unless it is the
    other one or starts with that character. -/
theorem not_infix_cons (hlength : cs.length = ds.length) (hne : cs ≠ ds)
    (hfirst : cs.head? ≠ some z) : ¬ cs <:+: z :: ds := by
  intro h
  rcases List.infix_cons_iff.1 h with hprefix | hpart
  · rcases List.prefix_cons_iff.1 hprefix with rfl | ⟨rest, rfl, -⟩
    · exact hne (List.length_eq_zero_iff.1 hlength.symm).symm
    · exact hfirst rfl
  · exact hne (hpart.eq_of_length hlength)

/-- A text as long as another one does not occur in it with one more character behind, unless it is the
    other one or ends in that character. -/
theorem not_infix_concat (hlength : cs.length = ds.length) (hne : cs ≠ ds)
    (hlast : cs.getLast? ≠ some z) : ¬ cs <:+: ds ++ [z] := by
  intro h
  rcases List.infix_concat_iff.1 h with hsuffix | hpart
  · rcases List.suffix_concat_iff.1 hsuffix with rfl | ⟨rest, rfl, -⟩
    · exact hne (List.length_eq_zero_iff.1 hlength.symm).symm
    · exact hlast List.getLast?_concat
  · exact hne (hpart.eq_of_length hlength)

/-- Some letter is different from a given character. -/
theorem exists_letter_ne (c : Option Char) : ∃ z, IsLetter z ∧ c ≠ some z := by
  by_cases ha : c = some 'a'
  · refine ⟨'b', by decide +kernel, ?_⟩
    rw [ha]
    decide
  · exact ⟨'a', by decide +kernel, ha⟩

theorem IsLetter.lowerAmid (hz : IsLetter z) (before after : List Char) :
    lowerAmid before after [z] = [z] := by
  obtain ⟨-, -, hne, hself⟩ := hz
  rw [Text.lowerAmid, Text.lowerAmid, lowerAt, if_neg hne, hself]
  rfl

/-- A text with a sigma that is not decided occurs in another one without occurring in it lower-cased. -/
theorem exists_not_contains_lowercase {part : String} (h : ¬ Steady part.toList) :
    ∃ s : String, part.toList <:+: s.toList ∧ contains (lowercase s) (lowercase part) = false := by
  simp only [Steady, not_forall] at h
  obtain ⟨xs, ys, hpart, hundecided⟩ := h
  -- one letter next to the part, which its lower-case form does not have at that end, and no more
  rcases endsWord_of_not_decided hundecided with hbehind | hfront
  · obtain ⟨z, hz, hlast⟩ := exists_letter_ne (lowerAmid [] [] part.toList).getLast?
    refine ⟨String.ofList (part.toList ++ [z]), ?_, Bool.eq_false_iff.2 fun hcontains => ?_⟩
    · exact ⟨[], [z], by simp⟩
    · rw [contains_iff, toList_lowercase, lowercase, String.toList_ofList, String.toList_ofList,
        lowerAfter_append, lowerAfter_eq_lowerAmid, hz.lowerAmid] at hcontains
      refine not_infix_concat (length_lowerAmid [] [] [] [z] _) (fun heq => ?_) hlast hcontains
      have hkeeps := lowerAmid_eq_iff.1 heq.symm xs ys hpart
      rw [List.append_nil] at hkeeps
      exact hbehind z hz hkeeps
  · obtain ⟨z, hz, hfirst⟩ := exists_letter_ne (lowerAmid [] [] part.toList).head?
    refine ⟨String.ofList ([z] ++ part.toList), ?_, Bool.eq_false_iff.2 fun hcontains => ?_⟩
    · exact ⟨[z], [], by simp⟩
    · rw [contains_iff, toList_lowercase, lowercase, String.toList_ofList, String.toList_ofList,
        lowerAfter_append, hz.lowerAmid, lowerAfter_eq_lowerAmid] at hcontains
      refine not_infix_cons (length_lowerAmid [] [] [z] [] _) (fun heq => ?_) hfirst hcontains
      have hkeeps := lowerAmid_eq_iff.1 heq.symm xs ys hpart
      rw [List.append_nil] at hkeeps
      exact hfront z hz hkeeps

/-- A text occurs, lower-cased, in every text that it occurs in exactly if all its sigmas are decided. -/
theorem contains_lowercase_iff (part : String) :
    (∀ s : String, part.toList <:+: s.toList → contains (lowercase s) (lowercase part) = true) ↔
      Steady part.toList := by
  constructor
  · intro hall
    by_contra hundecided
    obtain ⟨s, hpart, hlost⟩ := exists_not_contains_lowercase hundecided
    rw [hall s hpart] at hlost
    cases hlost
  · rintro hsteady s ⟨before, after, hs⟩
    exact contains_lowercase_of_keepsSigmas hs.symm (hsteady.keepsSigmas _ _)

end Seedkeeper.Text
