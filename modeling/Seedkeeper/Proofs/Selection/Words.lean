import Mathlib.Data.List.Basic
import Mathlib.Data.List.Induction
import Seedkeeper.Proofs.Client.Runs
import Seedkeeper.Selection.Query

/-!
Words that are info hashes.

A word that does not begin with an underscore once it is trimmed is an info hash in lower case. Some
such words, given alone, select these info hashes, each where it first occurs, and the client is not
asked for anything (`resolve_words`).
-/

namespace Seedkeeper.Selection

open Client (Backend Run)

/-! ### First occurrences -/

section FirstOccurrences

variable {α : Type} [DecidableEq α]

theorem mem_pick (picked : List α) (a b : α) : b ∈ pick picked a ↔ b ∈ picked ∨ b = a := by
  rw [pick]
  split
  · rename_i hmem
    constructor
    · exact .inl
    · rintro (hb | rfl)
      · exact hb
      · exact hmem
  · simp

theorem mem_foldl_pick (as picked : List α) (b : α) :
    b ∈ as.foldl pick picked ↔ b ∈ picked ∨ b ∈ as := by
  induction as generalizing picked with
  | nil => simp
  | cons a as ih =>
    rw [List.foldl_cons, ih, mem_pick, List.mem_cons, or_assoc]

theorem nodup_foldl_pick (as : List α) {picked : List α} (h : picked.Nodup) :
    (as.foldl pick picked).Nodup := by
  induction as generalizing picked with
  | nil => exact h
  | cons a as ih =>
    rw [List.foldl_cons]
    refine ih ?_
    rw [pick]
    split
    · exact h
    · rename_i hnew
      refine List.nodup_append.2 ⟨h, List.pairwise_singleton _ a, ?_⟩
      intro b hb c hc hbc
      rw [List.mem_singleton.1 hc] at hbc
      exact hnew (hbc ▸ hb)

/-- Elements that are all different are all picked. -/
theorem foldl_pick_eq_append (as : List α) {picked : List α} (h : (picked ++ as).Nodup) :
    as.foldl pick picked = picked ++ as := by
  induction as generalizing picked with
  | nil => simp
  | cons a as ih =>
    have hnew : a ∉ picked := by
      intro ha
      exact (List.nodup_append.1 h).2.2 a ha a List.mem_cons_self rfl
    rw [List.foldl_cons, pick, if_neg hnew, ih (by simpa using h), List.append_assoc]
    rfl

theorem mem_firstOccurrences (as : List α) (a : α) : a ∈ firstOccurrences as ↔ a ∈ as := by
  rw [firstOccurrences, mem_foldl_pick]
  simp

theorem nodup_firstOccurrences (as : List α) : (firstOccurrences as).Nodup :=
  nodup_foldl_pick as List.nodup_nil

theorem firstOccurrences_eq_self {as : List α} (h : as.Nodup) : firstOccurrences as = as :=
  foldl_pick_eq_append as h

theorem firstOccurrences_concat (as : List α) (a : α) :
    firstOccurrences (as ++ [a]) = pick (firstOccurrences as) a := by
  rw [firstOccurrences, List.foldl_append]
  rfl

/-- What is there already is passed over. -/
theorem foldl_pick_eq (as picked : List α) :
    as.foldl pick picked = picked ++ firstOccurrences (as.filter (· ∉ picked)) := by
  induction as using List.reverseRecOn with
  | nil => simp [firstOccurrences]
  | append_singleton as a ih =>
    rw [List.foldl_append, List.foldl_cons, List.foldl_nil, ih, List.filter_append, pick]
    by_cases hold : a ∈ picked
    · rw [if_pos (List.mem_append_left _ hold), List.filter_cons_of_neg (by simpa using hold),
        List.filter_nil, List.append_nil]
    · rw [List.filter_cons_of_pos (by simpa using hold), List.filter_nil, firstOccurrences_concat, pick]
      by_cases hnew : a ∈ firstOccurrences (as.filter (· ∉ picked))
      · rw [if_pos (List.mem_append_right _ hnew), if_pos hnew]
      · rw [if_neg (List.mem_append.not.2 (not_or.2 ⟨hold, hnew⟩)), if_neg hnew, List.append_assoc]

theorem firstOccurrences_cons (a : α) (as : List α) :
    firstOccurrences (a :: as) = a :: firstOccurrences (as.filter (· ≠ a)) := by
  rw [firstOccurrences, List.foldl_cons, pick, if_neg List.not_mem_nil, List.nil_append, foldl_pick_eq]
  simp

/-- Elements stand in the order of their first occurrences. -/
theorem ordered_firstOccurrences (as : List α) :
    (firstOccurrences as).Pairwise fun a b => as.idxOf a < as.idxOf b := by
  induction as using List.reverseRecOn with
  | nil => exact .nil
  | append_singleton as a ih =>
    have hkeep : ∀ b ∈ firstOccurrences as, (as ++ [a]).idxOf b = as.idxOf b := fun b hb =>
      List.idxOf_append_of_mem ((mem_firstOccurrences as b).1 hb)
    have hold : (firstOccurrences as).Pairwise
        fun b c => (as ++ [a]).idxOf b < (as ++ [a]).idxOf c := by
      refine ih.imp_of_mem fun {b c} hb hc hbc => ?_
      rw [hkeep b hb, hkeep c hc]
      exact hbc
    rw [firstOccurrences_concat, pick]
    split
    · exact hold
    · rename_i hnew
      refine List.pairwise_append.2 ⟨hold, List.pairwise_singleton _ a, fun b hb c hc => ?_⟩
      have hlast : (as ++ [a]).idxOf a = as.length := by
        rw [List.idxOf_append_of_notMem fun ha => hnew ((mem_firstOccurrences as a).2 ha),
          List.idxOf_cons_self, Nat.add_zero]
      rw [List.mem_singleton.1 hc, hkeep b hb, hlast]
      exact List.idxOf_lt_length_iff.2 ((mem_firstOccurrences as b).1 hb)

end FirstOccurrences

/-- Members and an order among them leave no choice of a list. -/
theorem eq_of_ordered {α : Type} {as bs : List α} {place : α → Nat}
    (hmem : ∀ a, a ∈ as ↔ a ∈ bs) (ha : as.Pairwise fun a b => place a < place b)
    (hb : bs.Pairwise fun a b => place a < place b) : as = bs := by
  have hnodup : ∀ {cs : List α}, (cs.Pairwise fun a b => place a < place b) → cs.Nodup := by
    intro cs h
    refine h.imp fun {a b} hlt => ?_
    rintro rfl
    exact Nat.lt_irrefl _ hlt
  have hperm : as.Perm bs := (List.perm_ext_iff_of_nodup (hnodup ha) (hnodup hb)).2 hmem
  exact hperm.eq_of_pairwise (fun a b _ _ hab hba => absurd hab (Nat.lt_asymm hba)) ha hb

/-! ### Words -/

/-- Whether a word is an info hash: once trimmed, it does not begin with an underscore. -/
def IsHashWord (word : String) : Prop := (Text.trim word).toList.head? ≠ some '_'

instance (word : String) : Decidable (IsHashWord word) := inferInstanceAs (Decidable (_ ≠ _))

/-- The info hash that such a word is. -/
def hashOfWord (word : String) : String := Text.lowercase (Text.trim word)

theorem ofWord_of_isHashWord {word : String} (h : IsHashWord word) :
    Token.ofWord word = .hash (hashOfWord word) := by
  have hall : Text.trim word ≠ allWord := by
    intro he
    rw [IsHashWord, he] at h
    exact h rfl
  simp only [Token.ofWord, if_neg hall, if_neg h]
  rfl

/-- Words alone are no predicates. -/
theorem hasPredicates_ofArguments (words : List String) :
    (Query.ofArguments "" "" "" words).hasPredicates = false := by
  simp [Query.ofArguments, Query.hasPredicates, Text.nonBlank?, Text.split, Text.pieces, Text.trim,
    Text.trimChars]

variable {σ : Type} [Backend σ] {words : List String}

theorem tokens_ofArguments (h : ∀ w ∈ words, IsHashWord w) :
    (Query.ofArguments "" "" "" words).tokens = (words.map hashOfWord).map Token.hash := by
  rw [Query.ofArguments, List.map_map]
  exact List.map_congr_left fun w hw => ofWord_of_isHashWord (h w hw)

/-- No words at all mean every torrent. -/
theorem resolve_nil (s : σ) :
    (resolve (Query.ofArguments "" "" "" [])).from s = (.ok .all, s) := by
  have hall : (Query.ofArguments "" "" "" []).selectsAll = true := by
    rw [Query.selectsAll, hasPredicates_ofArguments]
    rfl
  rw [resolve, if_pos hall]
  rfl

/-- Some words that are info hashes select these, each where it first occurs, without a request. -/
theorem resolve_words (hne : words ≠ []) (h : ∀ w ∈ words, IsHashWord w) (s : σ) :
    (resolve (Query.ofArguments "" "" "" words)).from s
      = (.ok (.hashes (firstOccurrences (words.map hashOfWord))), s) := by
  have htokens := tokens_ofArguments h
  have hempty : (Query.ofArguments "" "" "" words).tokens.isEmpty = false := by
    rw [htokens]
    simpa using hne
  have hall : (Query.ofArguments "" "" "" words).selectsAll = false := by
    rw [Query.selectsAll, hempty, htokens]
    simp
  have hlisting : (Query.ofArguments "" "" "" words).needsListing = false := by
    rw [Query.needsListing, hempty, hasPredicates_ofArguments, htokens]
    simp
  have hchoose : choose (Query.ofArguments "" "" "" words) []
      = firstOccurrences (words.map hashOfWord) := by
    rw [choose, hempty, htokens, List.flatMap_map]
    exact congrArg firstOccurrences (List.flatMap_singleton' _)
  rw [resolve, if_neg (by simp [hall]), Run.from_bind_ok (a := []) (t := s), hchoose]
  · rfl
  · rw [admitted, if_neg (by simp [hlisting])]
    rfl

end Seedkeeper.Selection
