import Seedkeeper.Proofs.Batch.Attempts
import Seedkeeper.Proofs.Selection.Chosen
import Seedkeeper.Proofs.Text.Trim

/-!
When every torrent is meant.

Every torrent is what arguments select if one of the words is the word for it, or if there is nothing in
any of them (`MeansAll`), and never otherwise, whatever the client answers (`resolve_all_iff`). A batch on
what they select otherwise attempts explicit info hashes and nothing else.
-/

namespace Seedkeeper.Selection

open Client (Backend Filters Run)
open Text (Blank Padded)

/-- Arguments that mean every torrent: the word for it between blanks, or no words and blanks alone. -/
def MeansAll (category tag filter : String) (words : List String) : Prop :=
  (∃ w ∈ words, Padded allWord w) ∨
    (words = [] ∧ Blank category ∧ Blank filter ∧ ∀ piece ∈ Text.split ',' tag, Blank piece)

/-! ### Arguments -/

theorem isBlank_of_mem_allWord {c : Char} (hc : c ∈ allWord.toList) : Text.isBlank c = false := by
  have hplain : allWord.toList.all (!Text.isBlank ·) = true := by decide
  simpa using List.all_eq_true.1 hplain c hc

theorem ofWord_eq_all_iff (word : String) : Token.ofWord word = .all ↔ Padded allWord word := by
  have htrim : Text.trim word = allWord ↔ Padded allWord word :=
    Text.trim_eq_iff (by decide) (fun _ hc => isBlank_of_mem_allWord (List.mem_of_mem_head? hc))
      (fun _ hc => isBlank_of_mem_allWord (List.mem_of_getLast? hc)) word
  rw [← htrim, Token.ofWord]
  by_cases hall : Text.trim word = allWord
  · simp [hall]
  · simp only [hall, if_false, iff_false]
    split <;> exact Token.noConfusion

/-- Nothing is said by arguments that are blank and tags of which every piece is blank. -/
theorem hasPredicates_ofArguments_eq_false_iff (category tag filter : String) (words : List String) :
    (Query.ofArguments category tag filter words).hasPredicates = false ↔
      Blank category ∧ Blank filter ∧ ∀ piece ∈ Text.split ',' tag, Blank piece := by
  rw [Query.hasPredicates_eq_false_iff, Query.ofArguments, Text.nonBlank?_eq_none_iff,
    Text.nonBlank?_eq_none_iff, List.filterMap_eq_nil_iff]
  simp only [Text.nonBlank?_eq_none_iff]
  tauto

theorem selectsAll_ofArguments_iff (category tag filter : String) (words : List String) :
    (Query.ofArguments category tag filter words).selectsAll = true ↔
      MeansAll category tag filter words := by
  have hword : (Query.ofArguments category tag filter words).tokens.contains .all = true ↔
      ∃ w ∈ words, Padded allWord w := by
    rw [List.contains_iff_mem, Query.ofArguments, List.mem_map]
    exact exists_congr fun w => and_congr_right fun _ => ofWord_eq_all_iff w
  have hnone : (Query.ofArguments category tag filter words).tokens.isEmpty = true ↔ words = [] := by
    rw [List.isEmpty_iff, Query.ofArguments, List.map_eq_nil_iff]
  rw [Query.selectsAll, Bool.or_eq_true, Bool.and_eq_true, Bool.not_eq_true', hword, hnone,
    hasPredicates_ofArguments_eq_false_iff, MeansAll]

/-! ### What they are resolved to -/

variable {σ : Type} [Backend σ]

/-- A query that does not mean every torrent is resolved to explicit info hashes or fails, whatever the
    client answers. -/
theorem from_resolve_cases {q : Query} (hall : q.selectsAll = false) (s : σ) :
    (∃ e, ((resolve q).from s).1 = .error e) ∨ ∃ hs, ((resolve q).from s).1 = .ok (.hashes hs) := by
  rw [resolve, if_neg (by simp [hall]), Run.from_bind]
  cases (admitted q : Run σ (List Torrent)).from s with
  | mk answer t =>
    cases answer with
    | error e => exact .inl ⟨e, rfl⟩
    | ok xs => exact .inr ⟨choose q xs, rfl⟩

/-- When arguments select every torrent: exactly if they mean it, on every client in every state. All other
    arguments fail or select explicit info hashes, and a batch on these gives a report on as many targets
    and leaves the client where the attempts of these leave it. -/
theorem resolve_all_iff (category tag filter : String) (words : List String) (s : σ) :
    let answer := (resolve (Query.ofArguments category tag filter words)).from s
    (answer.1 = .ok .all ↔ MeansAll category tag filter words) ∧
      (¬ MeansAll category tag filter words →
        (∃ e, answer.1 = .error e) ∨
        ∃ hs, answer.1 = .ok (.hashes hs) ∧ ∀ action clock log t, ∃ r after,
          Batch.apply action (.hashes hs) clock t log
            = (.ok r, (Batch.attempts (Batch.records action log) action hs (t : σ)).2, after) ∧
          r.total = hs.length) := by
  rw [← selectsAll_ofArguments_iff]
  cases hall : (Query.ofArguments category tag filter words).selectsAll with
  | true =>
    have hresolve : ((resolve (Query.ofArguments category tag filter words)).from s).1 = .ok .all := by
      rw [resolve, if_pos hall]
      rfl
    exact ⟨iff_of_true hresolve rfl, fun hnot => absurd rfl hnot⟩
  | false =>
    have hcases := from_resolve_cases hall s
    constructor
    · refine iff_of_false (fun heverything => ?_) Bool.false_ne_true
      rcases hcases with ⟨e, he⟩ | ⟨hs, hhs⟩
      · cases he.symm.trans heverything
      · cases hhs.symm.trans heverything
    · intro _
      refine hcases.imp_right (Exists.imp fun hs hhs => ⟨hhs, fun action clock log t => ?_⟩)
      obtain ⟨after, hafter⟩ := Batch.apply_hashes action hs clock t log
      exact ⟨_, after, hafter, rfl⟩

end Seedkeeper.Selection
