import Mathlib.Data.List.Basic
import Mathlib.Data.List.TakeWhile
import Seedkeeper.Url.Basic

/-!
What a server gets of the query of an address.

The query of an address is what stands between the first `?` of its text and the fragment: of the pieces
that are cut off before it, none has a `?` or a `#` in it (`builtFrom_of_ofText?`). It is sent encoded,
and nothing of the path can be taken for it (`rawQuery?_target`). Blanks at the end of a text and breaks
in it do not count (`rawQuery?_target_of_query`).
-/

namespace Seedkeeper.Url

variable {k : Kind} {s : String} {url : Url} {c : Char} {cs before front scheme rest : List Char}
  {p : Char → Bool}

/-! ### Cuts -/

theorem takeWhile_append_of_boundary (hinside : ∀ c ∈ front, p c = true)
    (hboundary : ∀ c ∈ cs.head?, p c = false) : (front ++ cs).takeWhile p = front := by
  rw [List.takeWhile_append_of_pos hinside]
  cases cs with
  | nil => exact List.append_nil front
  | cons c cs =>
    rw [List.takeWhile_cons_of_neg (by rw [hboundary c rfl]; exact Bool.false_ne_true), List.append_nil]

theorem dropWhile_append_of_boundary (hinside : ∀ c ∈ front, p c = true)
    (hboundary : ∀ c ∈ cs.head?, p c = false) : (front ++ cs).dropWhile p = cs := by
  rw [List.dropWhile_append_of_pos hinside]
  cases cs with
  | nil => rfl
  | cons c cs =>
    exact List.dropWhile_cons_of_neg (by rw [hboundary c rfl]; exact Bool.false_ne_true)

/-! ### The query of a text -/

/-- What stands between the first `?` of a text and its fragment. -/
def rawQuery? (cs : List Char) : Option (List Char) := afterMark '?' (cs.takeWhile (· ≠ '#'))

/-- Texts in which neither a query nor a fragment begins. -/
def Unmarked (cs : List Char) : Prop := ∀ c ∈ cs, c ≠ '?' ∧ c ≠ '#'

-- Decided along the text: an instance for all characters would try every one there is.
instance (cs : List Char) : Decidable (Unmarked cs) := List.decidableBAll _ cs

theorem rawQuery?_cons (hc : c ≠ '?' ∧ c ≠ '#') (cs : List Char) :
    rawQuery? (c :: cs) = rawQuery? cs := by
  rw [rawQuery?, List.takeWhile_cons_of_pos (by simpa using hc.2), afterMark, Text.splitOnceChars,
    if_neg hc.1, Option.map_map]
  rfl

theorem rawQuery?_append (h : Unmarked before) (cs : List Char) :
    rawQuery? (before ++ cs) = rawQuery? cs := by
  induction before with
  | nil => rfl
  | cons c before ih =>
    rw [List.cons_append, rawQuery?_cons (h c List.mem_cons_self),
      ih fun d hd => h d (List.mem_cons_of_mem c hd)]

theorem all_ne_of_notMem (h : c ∉ cs) : ∀ d ∈ cs, decide (d ≠ c) = true := fun _ hd =>
  decide_eq_true fun heq => h (heq ▸ hd)

theorem takeWhile_ne_of_notMem (h : c ∉ cs) : cs.takeWhile (· ≠ c) = cs :=
  List.takeWhile_eq_self_iff.2 (all_ne_of_notMem h)

theorem rawQuery?_question (cs : List Char) :
    rawQuery? ('?' :: cs) = some (cs.takeWhile (· ≠ '#')) := by
  rw [rawQuery?, List.takeWhile_cons_of_pos (by decide), afterMark, Text.splitOnceChars, if_pos rfl,
    Option.map_some]

theorem rawQuery?_of_notMem (h : '?' ∉ cs) : rawQuery? cs = none := by
  rw [rawQuery?, afterMark, Option.map_eq_none_iff, Option.eq_none_iff_forall_ne_some]
  rintro ⟨head, tail⟩ hsplit
  have hcut := (Text.splitOnceChars_eq_some_iff.1 hsplit).1
  have hmem : '?' ∈ cs.takeWhile (· ≠ '#') := by
    rw [hcut]
    exact List.mem_append_right _ List.mem_cons_self
  exact h ((List.takeWhile_sublist _).mem hmem)

theorem rawQuery?_dropWhile (hquestion : p '?' = false) (hfragment : p '#' = false) (cs : List Char) :
    rawQuery? (cs.dropWhile p) = rawQuery? cs := by
  have hunmarked : Unmarked (cs.takeWhile p) := by
    intro c hc
    have hp := List.mem_takeWhile_imp hc
    constructor
    · rintro rfl
      rw [hquestion] at hp
      cases hp
    · rintro rfl
      rw [hfragment] at hp
      cases hp
  calc rawQuery? (cs.dropWhile p) = rawQuery? (cs.takeWhile p ++ cs.dropWhile p) :=
        (rawQuery?_append hunmarked _).symm
    _ = rawQuery? cs := by rw [List.takeWhile_append_dropWhile]

/-! ### The pieces of an address -/

/-- An address is built from a part of a text with the same query. -/
def BuiltFrom (k : Kind) (scheme cs : List Char) (url : Url) : Prop :=
  ∃ host port rest, url = build k scheme host port rest ∧ rawQuery? rest = rawQuery? cs

theorem rawQuery?_of_cutScheme (h : cutScheme cs = some (scheme, rest)) :
    rawQuery? rest = rawQuery? cs := by
  cases cs with
  | nil => cases h
  | cons c cs =>
    simp only [cutScheme] at h
    split at h
    · split at h
      · rename_i after hcolon
        obtain ⟨-, rfl⟩ := Prod.mk.inj (Option.some.inj h)
        calc rawQuery? after = rawQuery? (':' :: after) := (rawQuery?_cons (by decide) _).symm
          _ = rawQuery? (c :: cs) := by rw [← hcolon, rawQuery?_dropWhile (by decide) (by decide)]
      · cases h
    · cases h

theorem builtFrom_of_withAuthority? (h : withAuthority? k scheme cs = some url) :
    BuiltFrom k scheme cs url := by
  have hrest : rawQuery? (cs.dropWhile fun c => !endsAuthority k c) = rawQuery? cs :=
    rawQuery?_dropWhile (by simp [endsAuthority]) (by simp [endsAuthority]) cs
  simp only [withAuthority?] at h
  split at h
  · cases h
  · split at h <;>
      · obtain ⟨shown, -, h⟩ := Option.bind_eq_some_iff.1 h
        obtain ⟨port, -, h⟩ := Option.bind_eq_some_iff.1 h
        exact ⟨some shown, port, _, (Option.some.inj h).symm, hrest⟩

theorem builtFrom_of_fileUrl? (h : fileUrl? scheme cs = some url) :
    BuiltFrom .file scheme cs url := by
  have hslash : ∀ c, isSlash .file c = true → c ≠ '?' ∧ c ≠ '#' := by
    intro c hc
    constructor <;> rintro rfl <;> cases hc
  simp only [fileUrl?] at h
  split at h
  · rename_i a b cs
    split at h
    · rename_i hab
      have hcs : rawQuery? (a :: b :: cs) = rawQuery? cs := by
        rw [rawQuery?_cons (hslash a hab.1), rawQuery?_cons (hslash b hab.2)]
      have hrest : rawQuery? (cs.dropWhile fun c => !endsAuthority .file c) = rawQuery? cs :=
        rawQuery?_dropWhile (by simp [endsAuthority]) (by simp [endsAuthority]) cs
      rw [BuiltFrom, hcs]
      split at h
      · exact ⟨none, none, _, (Option.some.inj h).symm, rawQuery?_cons (by decide) cs⟩
      · split at h
        · exact ⟨none, none, _, (Option.some.inj h).symm, hrest⟩
        · obtain ⟨shown, -, h⟩ := Option.bind_eq_some_iff.1 h
          exact ⟨_, none, _, (Option.some.inj h).symm, hrest⟩
    · exact ⟨none, none, _, (Option.some.inj h).symm, rfl⟩
  · exact ⟨none, none, _, (Option.some.inj h).symm, rfl⟩

theorem builtFrom_of_ofText? (h : ofText? s = some url) :
    ∃ scheme, BuiltFrom (kindOf scheme) scheme (cleaned s.toList) url := by
  obtain ⟨⟨scheme, rest⟩, hcut, h⟩ := Option.bind_eq_some_iff.1 h
  refine ⟨scheme, ?_⟩
  rw [BuiltFrom, ← rawQuery?_of_cutScheme hcut]
  cases hkind : kindOf scheme with
  | file =>
    simp only [hkind] at h
    exact builtFrom_of_fileUrl? h
  | web =>
    simp only [hkind] at h
    have hslashes := rawQuery?_dropWhile (p := isSlash .web) (by decide) (by decide) rest
    rw [← hslashes]
    exact builtFrom_of_withAuthority? h
  | other =>
    simp only [hkind] at h
    split at h
    · rw [rawQuery?_cons (by decide), rawQuery?_cons (by decide)]
      exact builtFrom_of_withAuthority? h
    · exact ⟨none, none, rest, (Option.some.inj h).symm, rfl⟩

/-! ### What is sent -/

/-- The characters that escapes are written with. -/
def isEscapeChar (c : Char) : Bool := "%0123456789ABCDEF".toList.contains c

theorem mem_percentEncode {inSet : Char → Bool} (h : c ∈ percentEncode inSet cs) :
    (c ∈ cs ∧ inSet c = false) ∨ isEscapeChar c = true := by
  have hdigit : ∀ n < 16, isEscapeChar (Text.hexDigitUpper n) = true := by decide
  rw [percentEncode, List.mem_flatMap] at h
  obtain ⟨d, hd, hc⟩ := h
  split at hc
  · rename_i hkept
    obtain rfl := List.mem_singleton.1 hc
    exact .inl ⟨hd, by simpa using hkept.2⟩
  · obtain ⟨b, -, hc⟩ := List.mem_flatMap.1 hc
    have hlt : b.toNat < 256 := b.toNat_lt
    refine .inr ?_
    rcases List.mem_cons.1 hc with rfl | hc
    · decide
    · rcases List.mem_cons.1 hc with rfl | hc
      · exact hdigit _ (by omega)
      · rw [List.mem_singleton.1 hc]
        exact hdigit _ (by omega)

/-- A mark that is encoded does not stand in an encoded text. -/
theorem notMem_percentEncode {inSet : Char → Bool} (hset : inSet c = true)
    (hescape : isEscapeChar c = false) : c ∉ percentEncode inSet cs := by
  intro h
  rcases mem_percentEncode h with ⟨-, hkept⟩ | hchar
  · rw [hset] at hkept
    cases hkept
  · rw [hescape] at hchar
    cases hchar

theorem mem_intercalate {sep : List Char} : ∀ {parts : List (List Char)}, c ∈ sep.intercalate parts →
    c ∈ sep ∨ ∃ part ∈ parts, c ∈ part
  | [], h => by simp at h
  | [part], h => .inr ⟨part, List.mem_singleton_self part, by simpa using h⟩
  | part :: next :: parts, h => by
    rw [List.intercalate_cons_cons, List.append_assoc] at h
    rcases List.mem_append.1 h with h | h
    · exact .inr ⟨part, List.mem_cons_self, h⟩
    · rcases List.mem_append.1 h with h | h
      · exact .inl h
      · rcases mem_intercalate h with h | ⟨q, hq, h⟩
        · exact .inl h
        · exact .inr ⟨q, List.mem_cons_of_mem part hq, h⟩

theorem mem_intercalate_of_mem {sep part : List Char} (hc : c ∈ part) :
    ∀ {parts : List (List Char)}, part ∈ parts → c ∈ sep.intercalate parts
  | [one], h => by
    rw [List.intercalate_singleton, ← List.mem_singleton.1 h]
    exact hc
  | one :: next :: parts, h => by
    rw [List.intercalate_cons_cons]
    rcases List.mem_cons.1 h with rfl | h
    · exact List.mem_append_left _ (List.mem_append_left _ hc)
    · exact List.mem_append_right _ (mem_intercalate_of_mem hc h)

theorem unmarked_resolvedPath (k : Kind) (cs : List Char) : Unmarked (resolvedPath k cs) := by
  intro c hc
  rcases List.mem_cons.1 hc with rfl | hc
  · decide
  rcases mem_intercalate hc with hc | ⟨segment, hsegment, hc⟩
  · obtain rfl : c = '/' := List.mem_singleton.1 hc
    decide
  · obtain ⟨segment, -, rfl⟩ := List.mem_map.1 hsegment
    constructor
    · rintro rfl
      exact notMem_percentEncode (by decide) (by decide) hc
    · rintro rfl
      exact notMem_percentEncode (by decide) (by decide) hc

theorem unmarked_path (k : Kind) (cs : List Char) : Unmarked (pathAndQuery k cs).1 := by
  simp only [pathAndQuery]
  split
  · split
    · exact nofun
    · exact List.forall_mem_singleton.2 (by decide)
  · split <;> exact unmarked_resolvedPath k _

theorem unmarked_path_build (k : Kind) (scheme : List Char) (host : Option (List Char))
    (port : Option Nat) (rest : List Char) :
    Unmarked (build k scheme host port rest).path.toList := by
  simp only [build, String.toList_ofList]
  exact unmarked_path k _

theorem query_build (scheme : List Char) (host : Option (List Char)) (port : Option Nat)
    (rest : List Char) : (build .web scheme host port rest).query
      = (rawQuery? rest).map fun q => String.ofList (percentEncode inSpecialQuerySet q) := by
  simp only [build, pathAndQuery, Option.map_map]
  rfl

/-- What a server gets of the query of an address. -/
theorem rawQuery?_target (h : ofText? s = some url)
    (hweb : url.scheme = "http" ∨ url.scheme = "https") :
    rawQuery? url.target.toList
      = (rawQuery? (cleaned s.toList)).map (percentEncode inSpecialQuerySet) := by
  obtain ⟨scheme, host, port, rest, rfl, hrest⟩ := builtFrom_of_ofText? h
  have hkind : kindOf scheme = .web := by
    have hscheme : String.ofList scheme = "http" ∨ String.ofList scheme = "https" := hweb
    rcases hscheme with hscheme | hscheme <;> simp [kindOf, hscheme]
  rw [hkind, target, query_build, ← hrest, String.toList_append,
    rawQuery?_append (unmarked_path_build _ _ _ _ _)]
  cases rawQuery? rest with
  | none => rfl
  | some q =>
    have hfragment : '#' ∉ percentEncode inSpecialQuerySet q :=
      notMem_percentEncode (by decide) (by decide)
    have hmarked : (marked "?" (some (String.ofList (percentEncode inSpecialQuerySet q)))).toList
        = '?' :: percentEncode inSpecialQuerySet q := by
      simp [marked]
    rw [Option.map_some, hmarked, rawQuery?_question, takeWhile_ne_of_notMem hfragment, Option.map_some]

/-! ### Blanks and breaks -/

/-- Characters that do not count around an address. -/
def isAround (c : Char) : Bool := c.toNat ≤ 0x20

/-- Characters that do not count anywhere in an address. -/
def isBreak (c : Char) : Bool := c == '\t' || c == '\n' || c == '\r'

/-- A text without what does not count after it. -/
def trimEnd (cs : List Char) : List Char := (cs.reverse.dropWhile isAround).reverse

/-- What counts of the end of an address. -/
def tidied (cs : List Char) : List Char := (trimEnd cs).filter (!isBreak ·)

theorem cleaned_eq_tidied (cs : List Char) : cleaned cs = tidied (cs.dropWhile isAround) := rfl

theorem trimEnd_sublist (cs : List Char) : (trimEnd cs).Sublist cs := by
  have h := (List.dropWhile_sublist isAround (l := cs.reverse)).reverse
  rwa [List.reverse_reverse] at h

theorem tidied_sublist (cs : List Char) : (tidied cs).Sublist cs :=
  List.filter_sublist.trans (trimEnd_sublist cs)

theorem isBreak_eq_false (hc : isAround c = false) : isBreak c = false := by
  rw [Bool.eq_false_iff] at hc ⊢
  refine fun hbreak => hc ?_
  simp only [isBreak, Bool.or_eq_true, beq_iff_eq] at hbreak
  rcases hbreak with (rfl | rfl) | rfl <;> rfl

theorem filter_isBreak_of_around (h : ∀ c ∈ cs, isAround c = false) :
    cs.filter (!isBreak ·) = cs := List.filter_eq_self.2 fun c hc => by
  rw [isBreak_eq_false (h c hc), Bool.not_false]

theorem trimEnd_append_cons (hc : isAround c = false) (front cs : List Char) :
    trimEnd (front ++ c :: cs) = front ++ c :: trimEnd cs := by
  have hreverse : (front ++ c :: cs).reverse = cs.reverse ++ c :: front.reverse := by simp
  have hdrop : (c :: front.reverse).dropWhile isAround = c :: front.reverse :=
    List.dropWhile_cons_of_neg (by simp [hc])
  rw [trimEnd, hreverse, List.dropWhile_append, hdrop, trimEnd]
  split
  · rename_i hnone
    rw [List.isEmpty_iff.1 hnone]
    simp
  · simp

theorem trimEnd_eq_self_iff (cs : List Char) :
    trimEnd cs = cs ↔ ∀ c ∈ cs.getLast?, isAround c = false := by
  rcases List.eq_nil_or_concat' cs with rfl | ⟨front, c, rfl⟩
  · simp [trimEnd]
  · rw [List.getLast?_concat]
    cases hc : isAround c with
    | false =>
      have htrim : trimEnd (front ++ [c]) = front ++ [c] := trimEnd_append_cons hc front []
      simpa [hc] using htrim
    | true =>
      have hshorter : (trimEnd (front ++ [c])).length ≤ front.length := by
        rw [trimEnd, List.reverse_concat, List.dropWhile_cons_of_pos hc]
        exact (trimEnd_sublist front).length_le
      constructor
      · intro h
        rw [h, List.length_append] at hshorter
        exact absurd hshorter (Nat.not_succ_le_self front.length)
      · intro h
        cases hc.symm.trans (h c rfl)

theorem tidied_eq_self_iff (cs : List Char) : tidied cs = cs ↔
    (∀ c ∈ cs, isBreak c = false) ∧ ∀ c ∈ cs.getLast?, isAround c = false := by
  rw [← trimEnd_eq_self_iff]
  constructor
  · intro h
    have htrim : trimEnd cs = cs := by
      have hsub : (tidied cs).Sublist (trimEnd cs) := List.filter_sublist
      rw [h] at hsub
      exact (trimEnd_sublist cs).antisymm hsub
    rw [tidied, htrim, List.filter_eq_self] at h
    exact ⟨fun c hc => by simpa using h c hc, htrim⟩
  · rintro ⟨hbreaks, htrim⟩
    rw [tidied, htrim, List.filter_eq_self]
    exact fun c hc => by rw [hbreaks c hc]; rfl

theorem tidied_append_cons (hc : isAround c = false) (front cs : List Char) :
    tidied (front ++ c :: cs) = front.filter (!isBreak ·) ++ c :: tidied cs := by
  rw [tidied, trimEnd_append_cons hc, List.filter_append,
    List.filter_cons_of_pos (by rw [isBreak_eq_false hc]; rfl), tidied]

theorem rawQuery?_cleaned (hfront : Unmarked front) (q : List Char) :
    rawQuery? (cleaned (front ++ '?' :: q)) = some ((tidied q).takeWhile (· ≠ '#')) := by
  have hquestion : isAround '?' = false := by decide
  obtain ⟨rest, hsub, hdrop⟩ : ∃ rest, rest.Sublist front ∧
      (front ++ '?' :: q).dropWhile isAround = rest ++ '?' :: q := by
    rw [List.dropWhile_append]
    split
    · exact ⟨[], List.nil_sublist front, List.dropWhile_cons_of_neg (by simp [hquestion])⟩
    · exact ⟨front.dropWhile isAround, List.dropWhile_sublist isAround, rfl⟩
  have hkept : Unmarked (rest.filter (!isBreak ·)) := fun c hc =>
    hfront c (hsub.mem (List.mem_of_mem_filter hc))
  rw [cleaned_eq_tidied, hdrop, tidied_append_cons hquestion, rawQuery?_append hkept,
    rawQuery?_question]

/-- What a server gets of a query, whatever the address before it. -/
theorem rawQuery?_target_of_query {front q : String} (hfront : Unmarked front.toList)
    (h : ofText? (front ++ "?" ++ q) = some url) (hweb : url.scheme = "http" ∨ url.scheme = "https") :
    rawQuery? url.target.toList
      = some (percentEncode inSpecialQuerySet ((tidied q.toList).takeWhile (· ≠ '#'))) := by
  have htext : (front ++ "?" ++ q).toList = front.toList ++ '?' :: q.toList := by simp
  rw [rawQuery?_target h hweb, htext, rawQuery?_cleaned hfront, Option.map_some]

/-- Nothing is sent as a query that is none. -/
theorem rawQuery?_target_of_unmarked {front : String} (hfront : Unmarked front.toList)
    (h : ofText? front = some url) (hweb : url.scheme = "http" ∨ url.scheme = "https") :
    rawQuery? url.target.toList = none := by
  have hsub : (cleaned front.toList).Sublist front.toList :=
    (tidied_sublist _).trans (List.dropWhile_sublist isAround)
  rw [rawQuery?_target h hweb, rawQuery?_of_notMem fun hmem => (hfront '?' (hsub.mem hmem)).1 rfl,
    Option.map_none]

end Seedkeeper.Url
