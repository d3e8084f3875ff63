import Mathlib.Data.List.Nodup
import Mathlib.Data.String.Basic
import Seedkeeper.Client.Memory
import Seedkeeper.CrossSeed.Check
import Seedkeeper.Proofs.Client.Runs
import Seedkeeper.Proofs.CrossSeed.Folders

/-!
A check does not depend on the order of the files, nor on the name of the folder they are in.

Paths that are all different have one ascending order (`sortByPath_eq_of_perm`), and the name of a folder
in front of them leaves it as it is (`sortByPath_inside`). So the same files in two folders stand side by
side after sorting, and a check tells the names of the folders apart and nothing else.
-/

namespace Seedkeeper.CrossSeed

open Client (Backend ContentFile Memory Run)

variable {α β : Type} {path : α → String} {as bs : List α} {a b : String} {files : List Entry}

/-! ### Sorting -/

theorem sortByPath_pairwise (path : α → String) (as : List α) :
    (sortByPath path as).Pairwise (fun x y => path x ≤ path y) := by
  have hsorted : (sortByPath path as).Pairwise (fun x y => decide (path x ≤ path y) = true) := by
    refine List.pairwise_mergeSort ?_ ?_ as
    · intro x y z hxy hyz
      exact decide_eq_true ((of_decide_eq_true hxy).trans (of_decide_eq_true hyz))
    · intro x y
      simpa using le_total (path x) (path y)
  simpa using hsorted

/-- Things with different paths have one order. -/
theorem sortByPath_eq_of_perm (h : as.Perm bs) (hdistinct : (as.map path).Nodup) :
    sortByPath path as = sortByPath path bs := by
  have hperm : (sortByPath path as).Perm (sortByPath path bs) :=
    (sortByPath_perm path as).trans (h.trans (sortByPath_perm path bs).symm)
  refine hperm.eq_of_pairwise ?_ (sortByPath_pairwise path as) (sortByPath_pairwise path bs)
  intro x y hx hy hxy hyx
  have hx : x ∈ as := (sortByPath_perm path as).mem_iff.1 hx
  have hy : y ∈ as := h.mem_iff.2 ((sortByPath_perm path bs).mem_iff.1 hy)
  exact List.inj_on_of_nodup_map hdistinct hx hy (hxy.antisymm hyx)

/-- What keeps the order of paths can be done before sorting or after. -/
theorem sortByPath_map (path : α → String) (path' : β → String) (f : α → β)
    (hf : ∀ x y, path x ≤ path y ↔ path' (f x) ≤ path' (f y)) (as : List α) :
    sortByPath path' (as.map f) = (sortByPath path as).map f :=
  (List.map_mergeSort fun x _ y _ => decide_eq_decide.2 (hf x y)).symm

theorem sortByPath_ofContent (held : List ContentFile) :
    (sortByPath ContentFile.path held).map Entry.ofContent
      = sortByPath Entry.path (held.map Entry.ofContent) :=
  (sortByPath_map ContentFile.path Entry.path Entry.ofContent (fun _ _ => Iff.rfl) held).symm

/-- The name of a folder in front of paths keeps their order. -/
theorem strictMono_inside (folder : String) : StrictMono fun path : String => folder ++ "/" ++ path := by
  intro p q h
  rw [String.lt_iff_toList_lt] at h ⊢
  simp only [String.toList_append]
  exact List.Lex.append_left (· < ·) h _

theorem sortByPath_inside (folder : String) (files : List Entry) :
    sortByPath Entry.path (files.map (.inside folder))
      = (sortByPath Entry.path files).map (.inside folder) :=
  sortByPath_map Entry.path Entry.path (Entry.inside folder)
    (fun _ _ => (strictMono_inside folder).le_iff_le.symm) files

/-- Files in a folder, in any order, are sorted as they are without it. -/
theorem sortByPath_of_perm_inside {es : List Entry} (h : es.Perm (files.map (.inside a)))
    (hdistinct : (files.map (·.path)).Nodup) :
    sortByPath Entry.path es = (sortByPath Entry.path files).map (.inside a) := by
  have hpaths : ((files.map (Entry.inside a)).map Entry.path).Nodup := by
    have hinside := hdistinct.map (strictMono_inside a).injective
    rwa [List.map_map] at hinside ⊢
  rw [← sortByPath_inside]
  exact (sortByPath_eq_of_perm h.symm hpaths).symm

/-! ### Checks -/

/-- The same files in two folders, in any order, are told apart by the names of the folders alone. -/
theorem verdict_of_perm_inside {held : List ContentFile} {candidate : List Entry} (hfiles : files ≠ [])
    (hdistinct : (files.map (·.path)).Nodup) (ha : IsFolderName a) (hb : IsFolderName b)
    (hheld : (held.map Entry.ofContent).Perm (files.map (.inside a)))
    (hcandidate : candidate.Perm (files.map (.inside b))) :
    verdict held candidate = if a = b then .exact else .rootDiffers := by
  have hsorted : sortByPath Entry.path files ≠ [] := fun hnil =>
    hfiles (List.perm_nil.1 (hnil ▸ (sortByPath_perm Entry.path files).symm))
  rw [verdict, sortByPath_ofContent, sortByPath_of_perm_inside hheld hdistinct,
    sortByPath_of_perm_inside hcandidate hdistinct]
  by_cases hab : a = b
  · subst hab
    have hmeets : Meets ((sortByPath Entry.path files).map (.inside a))
        ((sortByPath Entry.path files).map (.inside a)) [] :=
      ⟨a, a, [], _, ha, ha, by simpa using hsorted, by simp, rfl⟩
    rw [compare_of_meets hmeets, if_pos rfl, if_pos rfl]
  · have hrenamed : Renamed ((sortByPath Entry.path files).map (.inside a))
        ((sortByPath Entry.path files).map (.inside b)) [] :=
      ⟨a, b, _, ha, hb, hab, hsorted, by simp, rfl⟩
    rw [compare_of_renamed hrenamed, if_neg hab]

/-- A client's files in another order are compared with a candidate's in another order as before. -/
theorem verdict_eq_of_perm {held held' : List ContentFile} {candidate candidate' : List Entry}
    (hheld : held.Perm held') (hcandidate : candidate.Perm candidate')
    (hdistinct : (held.map (·.path)).Nodup) (hdistinct' : (candidate.map (·.path)).Nodup) :
    verdict held candidate = verdict held' candidate' := by
  rw [verdict, verdict, sortByPath_eq_of_perm hheld hdistinct,
    sortByPath_eq_of_perm hcandidate hdistinct']

/-- A check answers the verdict on the files that the client reports. -/
theorem from_check {σ : Type} [Backend σ] {infoHash : String} {s t : σ} {held : List ContentFile}
    (h : (Backend.contents infoHash : Run σ (List ContentFile)).from s = (.ok held, t))
    (candidate : List Entry) : (check infoHash candidate).from s = (.ok (verdict held candidate), t) := by
  rw [check, Run.from_bind_ok h]
  rfl

/-- What a check answers does not depend on the order of the files. A check answers the verdict on what
    the client reports, and does no more than to ask for it. If all paths of a list are different, for
    either list, the verdict is the same for both lists in any other order. And if the client has some
    files in one folder and the candidate has them in another one, each in any order, they are the same
    exactly if the two folders have one name, and else differ in that name. -/
theorem check_any_order :
    (∀ {σ : Type} [Backend σ] (infoHash : String) (candidate : List Entry) (s t : σ)
      (held : List ContentFile),
      (Backend.contents infoHash : Run σ (List ContentFile)).from s = (.ok held, t) →
      (check infoHash candidate).from s = (.ok (verdict held candidate), t)) ∧
    (∀ (held held' : List ContentFile) (candidate candidate' : List Entry),
      held.Perm held' → candidate.Perm candidate' →
      (held.map (·.path)).Nodup → (candidate.map (·.path)).Nodup →
      verdict held candidate = verdict held' candidate') ∧
    ∀ (files : List Entry) (a b : String) (held : List ContentFile) (candidate : List Entry),
      files ≠ [] → (files.map (·.path)).Nodup → IsFolderName a → IsFolderName b →
      (held.map Entry.ofContent).Perm (files.map (.inside a)) →
      candidate.Perm (files.map (.inside b)) →
      verdict held candidate = if a = b then .exact else .rootDiffers := by
  refine ⟨?_, ?_, ?_⟩
  · intro σ _ infoHash candidate s t held h
    exact from_check h candidate
  · intro held held' candidate candidate' hheld hcandidate hdistinct hdistinct'
    exact verdict_eq_of_perm hheld hcandidate hdistinct hdistinct'
  · intro files a b held candidate hfiles hdistinct ha hb hheld hcandidate
    exact verdict_of_perm_inside hfiles hdistinct ha hb hheld hcandidate

/-- A file of a folder and one next to the folder, whose names differ where the folder's ends. -/
def twoFiles : List Entry := [⟨"e/2", 2⟩, ⟨"e.1", 1⟩]

/-- A client in memory that has them as a show. -/
def showKeeper : Memory :=
  (Memory.named "m").setContents "ab" [⟨0, "Show/e/2", 2, true⟩, ⟨1, "Show/e.1", 1, true⟩]

/-- A candidate that has them under a longer name differs in the name alone, in both orders. -/
theorem check_any_order_show :
    let held : List ContentFile := [⟨0, "Show/e/2", 2, true⟩, ⟨1, "Show/e.1", 1, true⟩]
    let candidate : List Entry := [⟨"Show.S01/e.1", 1⟩, ⟨"Show.S01/e/2", 2⟩]
    ((Backend.contents "ab" : Run Memory (List ContentFile)).from showKeeper = (.ok held, showKeeper) ∧
      held.Perm held.reverse ∧ candidate.Perm candidate.reverse ∧
      (held.map (·.path)).Nodup ∧ (candidate.map (·.path)).Nodup ∧
      twoFiles ≠ [] ∧ (twoFiles.map (·.path)).Nodup ∧ IsFolderName "Show" ∧ IsFolderName "Show.S01" ∧
      (held.map Entry.ofContent).Perm (twoFiles.map (.inside "Show")) ∧
      candidate.Perm (twoFiles.map (.inside "Show.S01"))) ∧
    (check "ab" candidate).from showKeeper = (.ok .rootDiffers, showKeeper) ∧
      verdict held.reverse candidate.reverse = .rootDiffers := by
  intro held candidate
  have hreported : (Backend.contents "ab" : Run Memory (List ContentFile)).from showKeeper
      = (.ok held, showKeeper) := rfl
  have hheld : held.Perm held.reverse := (List.reverse_perm held).symm
  have hcandidate : candidate.Perm candidate.reverse := (List.reverse_perm candidate).symm
  have hdistinct : (held.map (·.path)).Nodup := by decide
  have hdistinct' : (candidate.map (·.path)).Nodup := by decide
  have hfiles : (twoFiles.map (·.path)).Nodup := by decide
  have hin : (held.map Entry.ofContent).Perm (twoFiles.map (.inside "Show")) := by decide
  have hin' : candidate.Perm (twoFiles.map (.inside "Show.S01")) := by decide
  obtain ⟨hcheck, horder, hfolders⟩ := check_any_order
  have hverdict : verdict held candidate = .rootDiffers := by
    rw [hfolders twoFiles "Show" "Show.S01" held candidate (by decide) hfiles (by decide) (by decide)
      hin hin', if_neg (by decide)]
  refine ⟨⟨hreported, hheld, hcandidate, hdistinct, hdistinct', by decide, hfiles, by decide, by decide,
    hin, hin'⟩, ?_, ?_⟩
  · rw [hcheck "ab" candidate showKeeper showKeeper held hreported, hverdict]
  · rw [← horder held _ candidate _ hheld hcandidate hdistinct hdistinct', hverdict]

end Seedkeeper.CrossSeed
