/-!
White space, trimming and cutting.

A blank is a character with the Unicode property White_Space; trimming drops blanks from both
ends. Cutting at a separator keeps empty pieces, so joining the pieces with the separator gives
the text back. `splitOnce` cuts at the first separator only. A text contains another one that is a
contiguous part of it (`contains_iff`).
-/

namespace Seedkeeper.Text

/-- The White_Space property. -/
def isBlank (c : Char) : Bool :=
  let n := c.toNat
  (0x9 ≤ n && n ≤ 0xD) || n == 0x20 || n == 0x85 || n == 0xA0 || n == 0x1680 ||
    (0x2000 ≤ n && n ≤ 0x200A) || n == 0x2028 || n == 0x2029 || n == 0x202F || n == 0x205F ||
    n == 0x3000

/-- Blanks dropped from both ends, on characters. -/
def trimChars (cs : List Char) : List Char :=
  ((cs.dropWhile isBlank).reverse.dropWhile isBlank).reverse

/-- Blanks dropped from both ends. -/
def trim (s : String) : String :=
  String.ofList (trimChars s.toList)

/-- The trimmed text, when anything is left of it. -/
def nonBlank? (s : String) : Option String :=
  let t := trim s
  if t.isEmpty then none else some t

/-- The pieces between separators, empty ones kept: one more than there are separators. -/
def pieces {α : Type} [DecidableEq α] (sep : α) : List α → List (List α)
  | [] => [[]]
  | c :: cs =>
    if c = sep then [] :: pieces sep cs
    else match pieces sep cs with
      | [] => [[c]]
      | p :: ps => (c :: p) :: ps

/-- The pieces of a text between separators. -/
def split (sep : Char) (s : String) : List String :=
  (pieces sep s.toList).map String.ofList

/-- What stands before and after the first separator. -/
def splitOnceChars {α : Type} [DecidableEq α] (sep : α) : List α → Option (List α × List α)
  | [] => none
  | c :: cs =>
    if c = sep then some ([], cs) else (splitOnceChars sep cs).map fun (a, b) => (c :: a, b)

/-- What stands before and after the first separator of a text. -/
def splitOnce (sep : Char) (s : String) : Option (String × String) :=
  (splitOnceChars sep s.toList).map fun (a, b) => (String.ofList a, String.ofList b)

/-- What follows `pre` at the start of a list. -/
def dropStart? {α : Type} [DecidableEq α] : List α → List α → Option (List α)
  | [], cs => some cs
  | _ :: _, [] => none
  | p :: ps, c :: cs => if p = c then dropStart? ps cs else none

/-- What follows the first occurrence of `needle`. -/
def after? {α : Type} [DecidableEq α] (needle : List α) : List α → Option (List α)
  | [] => dropStart? needle []
  | c :: cs => (dropStart? needle (c :: cs)).or (after? needle cs)

/-- Whether `needle` occurs in a text as a contiguous part. -/
def contains (s needle : String) : Bool :=
  (after? needle.toList s.toList).isSome

/-- Pieces put together again, a separator between each two. -/
def joinWith (sep : String) (parts : List String) : String :=
  String.intercalate sep parts

/-- Padding on the right up to a width in characters. -/
def padRight (width : Nat) (s : String) : String :=
  String.ofList (s.toList ++ List.replicate (width - s.length) ' ')

/-- Padding on the left up to a width in characters. -/
def padLeft (width : Nat) (s : String) : String :=
  String.ofList (List.replicate (width - s.length) ' ' ++ s.toList)

/-! ### What cutting keeps -/

theorem pieces_ne_nil {α : Type} [DecidableEq α] (sep : α) (cs : List α) : pieces sep cs ≠ [] := by
  cases cs with
  | nil => simp [pieces]
  | cons c cs => simp only [pieces]; split <;> (try split) <;> simp

/-- No piece holds the separator. -/
theorem not_mem_of_mem_pieces {α : Type} [DecidableEq α] {sep : α} :
    ∀ {cs p : List α}, p ∈ pieces sep cs → sep ∉ p
  | [], p, h => by simp [pieces] at h; simp [h]
  | c :: cs, p, h => by
    simp only [pieces] at h
    split at h
    · rcases List.mem_cons.1 h with rfl | h
      · simp
      · exact not_mem_of_mem_pieces h
    · rename_i hc
      split at h
      · simp at h; subst h; simpa using fun e => hc e.symm
      · rename_i q qs hq
        rcases List.mem_cons.1 h with rfl | h
        · have : sep ∉ q := not_mem_of_mem_pieces (hq ▸ List.mem_cons_self)
          simp [this]; exact fun e => hc e.symm
        · exact not_mem_of_mem_pieces (hq ▸ List.mem_cons_of_mem _ h)

/-- A separator cuts: what stands before it and after it is cut on its own. -/
theorem pieces_append_cons {α : Type} [DecidableEq α] (sep : α) (bs : List α) : ∀ as : List α,
    pieces sep (as ++ sep :: bs) = pieces sep as ++ pieces sep bs
  | [] => by simp [pieces]
  | a :: as => by
    rw [List.cons_append, pieces, pieces, pieces_append_cons sep bs as]
    split
    · rfl
    · cases hp : pieces sep as with
      | nil => exact absurd hp (pieces_ne_nil sep as)
      | cons p ps => rfl

/-- Without a separator there is one piece. -/
theorem pieces_eq_singleton {α : Type} [DecidableEq α] {sep : α} : ∀ {as : List α}, sep ∉ as →
    pieces sep as = [as]
  | [], _ => rfl
  | a :: as, h => by
    have ha : a ≠ sep := fun ha => h (ha ▸ List.mem_cons_self)
    rw [pieces, if_neg ha, pieces_eq_singleton fun hmem => h (List.mem_cons_of_mem _ hmem)]

/-- Parts that are joined by a separator are the pieces; what stands behind each separator besides is at
    the start of the next one. -/
theorem pieces_intercalate {α : Type} [DecidableEq α] {sep : α} {gap : List α} (hgap : sep ∉ gap) :
    ∀ {part : List α} {parts : List (List α)}, (∀ p ∈ part :: parts, sep ∉ p) →
      pieces sep ((sep :: gap).intercalate (part :: parts)) = part :: parts.map (gap ++ ·)
  | part, [], h => by
    rw [List.intercalate_singleton, pieces_eq_singleton (h part List.mem_cons_self), List.map_nil]
  | part, next :: parts, h => by
    have hnext : ∀ p ∈ (gap ++ next) :: parts, sep ∉ p := by
      intro p hp
      rcases List.mem_cons.1 hp with rfl | hp
      · simp [hgap, h next (by simp)]
      · exact h p (by simp [hp])
    have hrest : gap ++ (sep :: gap).intercalate (next :: parts)
        = (sep :: gap).intercalate ((gap ++ next) :: parts) := by
      cases parts with
      | nil => rw [List.intercalate_singleton, List.intercalate_singleton]
      | cons last parts => simp only [List.intercalate_cons_cons, List.append_assoc]
    rw [List.intercalate_cons_cons, List.append_assoc, List.cons_append, hrest, pieces_append_cons,
      pieces_eq_singleton (h part List.mem_cons_self), pieces_intercalate hgap hnext,
      List.singleton_append, List.map_cons]

/-- The pieces with the separator between them are the text. -/
theorem intercalate_pieces {α : Type} [DecidableEq α] (sep : α) (cs : List α) :
    [sep].intercalate (pieces sep cs) = cs := by
  induction cs with
  | nil => rfl
  | cons c cs ih =>
    rw [pieces]
    cases hpieces : pieces sep cs with
    | nil => exact absurd hpieces (pieces_ne_nil sep cs)
    | cons piece more =>
      rw [hpieces] at ih
      by_cases hc : c = sep
      · rw [if_pos hc, List.intercalate_cons_cons, ih, hc]
        rfl
      · rw [if_neg hc, ← ih]
        cases more <;> simp

/-- The first separator is the one with no separator before it. -/
theorem splitOnceChars_eq_some_iff {α : Type} [DecidableEq α] {sep : α} : ∀ {cs as bs : List α},
    splitOnceChars sep cs = some (as, bs) ↔ cs = as ++ sep :: bs ∧ sep ∉ as
  | [], as, bs => by simp [splitOnceChars]
  | c :: cs, as, bs => by
    rw [splitOnceChars]
    by_cases hc : c = sep
    · subst hc
      cases as <;> simp +contextual
    · rw [if_neg hc, Option.map_eq_some_iff]
      simp only [Prod.exists, splitOnceChars_eq_some_iff]
      constructor
      · rintro ⟨ps, qs, ⟨rfl, hps⟩, heq⟩
        obtain ⟨rfl, rfl⟩ := Prod.mk.inj heq
        simpa [hps] using Ne.symm hc
      · rintro ⟨hcs, has⟩
        cases as with
        | nil => exact absurd (List.cons.inj hcs).1 hc
        | cons a as =>
          obtain ⟨rfl, rfl⟩ := List.cons.inj hcs
          exact ⟨as, bs, ⟨rfl, fun h => has (List.mem_cons_of_mem _ h)⟩, rfl⟩

theorem splitOnce_eq_some_iff {sep : Char} {s a b : String} :
    splitOnce sep s = some (a, b) ↔ s.toList = a.toList ++ sep :: b.toList ∧ sep ∉ a.toList := by
  rw [splitOnce, Option.map_eq_some_iff]
  simp only [Prod.exists, splitOnceChars_eq_some_iff]
  constructor
  · rintro ⟨as, bs, ⟨hs, has⟩, heq⟩
    obtain ⟨rfl, rfl⟩ := Prod.mk.inj heq
    simpa using ⟨hs, has⟩
  · rintro ⟨hs, ha⟩
    exact ⟨a.toList, b.toList, ⟨hs, ha⟩, by simp⟩

/-! ### What is found -/

theorem dropStart?_eq_some_iff {α : Type} [DecidableEq α] : ∀ {start cs rest : List α},
    dropStart? start cs = some rest ↔ cs = start ++ rest
  | [], cs, rest => by rw [dropStart?, Option.some_inj, List.nil_append]
  | p :: ps, [], rest => by simp [dropStart?]
  | p :: ps, c :: cs, rest => by
    rw [dropStart?]
    by_cases hpc : p = c
    · rw [if_pos hpc, dropStart?_eq_some_iff, hpc, List.cons_append, List.cons_inj_right]
    · rw [if_neg hpc]
      simpa using fun h => absurd h.symm hpc

theorem isSome_dropStart?_iff {α : Type} [DecidableEq α] {start cs : List α} :
    (dropStart? start cs).isSome ↔ start <+: cs := by
  rw [Option.isSome_iff_exists]
  simp only [dropStart?_eq_some_iff]
  exact ⟨fun ⟨rest, h⟩ => ⟨rest, h.symm⟩, fun ⟨rest, h⟩ => ⟨rest, h.symm⟩⟩

theorem isSome_after?_iff {α : Type} [DecidableEq α] {needle : List α} : ∀ {cs : List α},
    (after? needle cs).isSome ↔ needle <:+: cs
  | [] => by rw [after?, isSome_dropStart?_iff, List.prefix_nil, List.infix_nil]
  | c :: cs => by
    rw [after?, Option.isSome_or, Bool.or_eq_true, isSome_dropStart?_iff, isSome_after?_iff,
      List.infix_cons_iff]

/-- What occurs around a mark and does not have the mark in it, occurs on one side of it. -/
theorem infix_append_cons_iff {α : Type} {needle before after : List α} {mark : α} (h : mark ∉ needle) :
    needle <:+: before ++ mark :: after ↔ needle <:+: before ∨ needle <:+: after := by
  constructor
  · rintro ⟨s, t, heq⟩
    rw [List.append_assoc] at heq
    rcases List.append_eq_append_iff.1 heq with ⟨u, hbefore, hrest⟩ | ⟨u, hs, hrest⟩
    · rcases List.append_eq_append_iff.1 hrest with ⟨v, hu, ht⟩ | ⟨v, hneedle, hv⟩
      · exact .inl ⟨s, v, by rw [hbefore, hu, List.append_assoc]⟩
      · cases v with
        | nil => exact .inl ⟨s, [], by rw [hneedle, hbefore, List.append_nil, List.append_nil]⟩
        | cons c v =>
          obtain ⟨rfl, -⟩ := List.cons.inj hv
          exact absurd (hneedle ▸ List.mem_append_right u List.mem_cons_self) h
    · cases u with
      | nil =>
        cases needle with
        | nil => exact .inl (List.nil_infix)
        | cons c cs => exact absurd ((List.cons.inj hrest).1 ▸ List.mem_cons_self) h
      | cons c u =>
        exact .inr ⟨u, t, (List.append_assoc u needle t).trans (List.cons.inj hrest).2.symm⟩
  · rintro (⟨s, t, rfl⟩ | ⟨s, t, rfl⟩)
    · exact ⟨s, t ++ mark :: after, by simp⟩
    · exact ⟨before ++ mark :: s, t, by simp⟩

/-- A text occurs in another one as a contiguous part. -/
theorem contains_iff {s needle : String} :
    contains s needle = true ↔ needle.toList <:+: s.toList := isSome_after?_iff

/-- A text does not occur where one of its characters does not. -/
theorem contains_eq_false {s needle : String} {c : Char} (hneedle : c ∈ needle.toList)
    (hs : c ∉ s.toList) : contains s needle = false :=
  Bool.eq_false_iff.2 fun h => hs ((contains_iff.1 h).subset hneedle)

/-- A text without a mark occurs around the mark if it does before or after it. -/
theorem contains_around {needle before after : String} {mark : Char} (h : mark ∉ needle.toList) :
    contains (before ++ String.singleton mark ++ after) needle
      = (contains before needle || contains after needle) := by
  have htext : (before ++ String.singleton mark ++ after).toList
      = before.toList ++ mark :: after.toList := by simp
  rw [Bool.eq_iff_iff, Bool.or_eq_true, contains_iff, contains_iff, contains_iff, htext,
    infix_append_cons_iff h]

end Seedkeeper.Text
