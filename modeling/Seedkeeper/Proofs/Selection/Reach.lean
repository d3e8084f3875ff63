import Seedkeeper.Proofs.QBittorrent.Requests
import Seedkeeper.Proofs.Selection.Words

/-!
Which torrents a batch on words reaches.

A server takes the value that names torrents apart at its bars, and the value `all` for every torrent.
A word that is an info hash goes to the server as it is, trimmed and in lower case (`apply_words`). So a
batch reaches the torrents of its words and no others, unless a word is `all` or has a bar in it: then
the server reads more out of it than one info hash (`not_only_words_reached`).
-/

namespace Seedkeeper.Selection

open Client (Action Run)
open Http (Request)
open QBittorrent (NamesNone Session namings sent_apply)

/-! ### What a server reads out of a request -/

/-- The value that names every torrent. -/
def everyTorrent : String := "all"

/-- Whether a request is about the torrent with an info hash. -/
def Reaches (r : Request) (infoHash : String) : Prop :=
  ∃ value ∈ namings r, value = everyTorrent ∨ infoHash ∈ Text.split '|' value

theorem reaches_iff_of_namings {r : Request} {value : String} (h : namings r = [value])
    (infoHash : String) :
    Reaches r infoHash ↔ value = everyTorrent ∨ infoHash ∈ Text.split '|' value := by
  rw [Reaches, h]
  constructor
  · rintro ⟨v, hv, hreach⟩
    rw [← List.mem_singleton.1 hv]
    exact hreach
  · intro hreach
    exact ⟨value, List.mem_singleton_self _, hreach⟩

theorem not_reaches_of_namesNone {r : Request} (h : NamesNone r) (infoHash : String) :
    ¬ Reaches r infoHash := by
  rintro ⟨v, hv, _⟩
  rw [h] at hv
  cases hv

/-- A value without a bar is one info hash. -/
theorem split_eq_singleton {value : String} (h : '|' ∉ value.toList) :
    Text.split '|' value = [value] := by
  rw [Text.split, Text.pieces_eq_singleton h, List.map_singleton, String.ofList_toList]

/-! ### Batches on words -/

theorem lowercase_hashOfWord (word : String) : Text.lowercase (hashOfWord word) = hashOfWord word :=
  Text.lowercase_lowercase _

/-- What a batch on words reaches. Some words that are info hashes are resolved without a request, and
    an action on the selection then sends only requests that name no torrents or name them by one of the
    words, trimmed and in lower case. So each of them reaches only torrents that are read out of a word;
    and if no word is the one for every torrent or has a bar in it, only torrents whose info hash is one
    of the words. -/
theorem apply_words (words : List String) (hne : words ≠ []) (hwords : ∀ w ∈ words, IsHashWord w)
    (action : Action) (clock : Calendar.Clock) (s : Session) (log : Option Traffic.Log) :
    ∃ sel new, (resolve (Query.ofArguments "" "" "" words)).from s = (.ok sel, s) ∧
      (Batch.apply action sel clock s log).2.1.network.exchanges = s.network.exchanges ++ new ∧
      (∀ x ∈ new, namings x.request = [] ∨ ∃ w ∈ words, namings x.request = [hashOfWord w]) ∧
      (∀ x ∈ new, ∀ h, Reaches x.request h →
        ∃ w ∈ words, hashOfWord w = everyTorrent ∨ h ∈ Text.split '|' (hashOfWord w)) ∧
      ((∀ w ∈ words, hashOfWord w ≠ everyTorrent ∧ '|' ∉ (hashOfWord w).toList) →
        ∀ x ∈ new, ∀ h, Reaches x.request h → ∃ w ∈ words, h = hashOfWord w) := by
  obtain ⟨new, hnew, hsent⟩ := sent_apply action (firstOccurrences (words.map hashOfWord)) clock s log
  have hnamed : ∀ x ∈ new, namings x.request = [] ∨
      ∃ w ∈ words, namings x.request = [hashOfWord w] := by
    intro x hx
    rcases hsent x hx with hnone | ⟨h, hh, hone⟩
    · exact .inl hnone
    · obtain ⟨w, hw, rfl⟩ := List.mem_map.1 ((mem_firstOccurrences _ h).1 hh)
      rw [lowercase_hashOfWord] at hone
      exact .inr ⟨w, hw, hone⟩
  have hreached : ∀ x ∈ new, ∀ h, Reaches x.request h →
      ∃ w ∈ words, hashOfWord w = everyTorrent ∨ h ∈ Text.split '|' (hashOfWord w) := by
    intro x hx h hreach
    rcases hnamed x hx with hnone | ⟨w, hw, hone⟩
    · exact absurd hreach (not_reaches_of_namesNone hnone h)
    · exact ⟨w, hw, (reaches_iff_of_namings hone h).1 hreach⟩
  refine ⟨_, new, resolve_words hne hwords s, hnew, hnamed, hreached, fun hplain x hx h hreach => ?_⟩
  obtain ⟨w, hw, hall | hpiece⟩ := hreached x hx h hreach
  · exact absurd hall (hplain w hw).1
  · rw [split_eq_singleton (hplain w hw).2] at hpiece
    exact ⟨w, hw, List.mem_singleton.1 hpiece⟩

/-- A session with a server that says yes to everything. -/
def obliging : Session :=
  .start ⟨"qb", "http://127.0.0.1", "", "", 30⟩
    ⟨"http://127.0.0.1", [], .answer 200 [0x4F, 0x6B, 0x2E] true none, []⟩

/-- Two words, one with blanks and capitals: what is deleted are the torrents of these words. -/
theorem apply_words_two :
    [" AA ", "bb"] ≠ [] ∧ (∀ w ∈ [" AA ", "bb"], IsHashWord w) ∧
    ∃ sel new, (resolve (Query.ofArguments "" "" "" [" AA ", "bb"])).from obliging
        = (.ok sel, obliging) ∧
      (Batch.apply (.delete true) sel (.still 0) obliging none).2.1.network.exchanges = new ∧
      ∀ x ∈ new, ∀ h, Reaches x.request h → h = "aa" ∨ h = "bb" := by
  have hwords : ∀ w ∈ [" AA ", "bb"], IsHashWord w := by decide
  obtain ⟨sel, new, hsel, hnew, _, _, honly⟩ :=
    apply_words [" AA ", "bb"] (by decide) hwords (.delete true) (.still 0) obliging none
  have hplain : ∀ w ∈ [" AA ", "bb"],
      hashOfWord w ≠ everyTorrent ∧ '|' ∉ (hashOfWord w).toList := by decide
  refine ⟨by decide, hwords, sel, new, hsel, hnew, fun x hx h hreach => ?_⟩
  have haa : hashOfWord " AA " = "aa" := by decide
  have hbb : hashOfWord "bb" = "bb" := by decide
  obtain ⟨w, hw, rfl⟩ := honly hplain x hx h hreach
  simp only [List.mem_cons, List.not_mem_nil, or_false] at hw
  rcases hw with rfl | rfl
  · exact .inl haa
  · exact .inr hbb

/-- A batch on words does not always reach the torrents of these words only: to delete what the word
    `all` selects is to delete every torrent. -/
theorem not_only_words_reached :
    ¬ ∀ words : List String, words ≠ [] → (∀ w ∈ words, IsHashWord w) →
      ∀ (action : Action) (clock : Calendar.Clock) (s : Session) (log : Option Traffic.Log) sel new,
        (resolve (Query.ofArguments "" "" "" words)).from s = (.ok sel, s) →
        (Batch.apply action sel clock s log).2.1.network.exchanges = s.network.exchanges ++ new →
        ∀ x ∈ new, ∀ h, Reaches x.request h → ∃ w ∈ words, h = hashOfWord w := by
  intro honly
  have hsel : (resolve (Query.ofArguments "" "" "" ["all"])).from obliging
      = (.ok (.hashes ["all"]), obliging) := by
    rw [resolve_words (by decide) (by decide)]
    rfl
  have hbodies : (Batch.apply (.delete true) (.hashes ["all"]) (.still 0) obliging
      none).2.1.network.exchanges.map (·.request.body)
        = [.form [("username", ""), ("password", "")],
          .form [("hashes", "all"), ("deleteFiles", "true")]] := by decide +kernel
  have hdelete : Http.Body.form [("hashes", "all"), ("deleteFiles", "true")]
      ∈ (Batch.apply (.delete true) (.hashes ["all"]) (.still 0) obliging
        none).2.1.network.exchanges.map (·.request.body) := by
    rw [hbodies]
    exact List.mem_cons_of_mem _ List.mem_cons_self
  obtain ⟨x, hx, hbody⟩ := List.mem_map.1 hdelete
  have hnamed : namings x.request = ["all"] := by
    rw [namings, hbody]
    decide
  have hreach : Reaches x.request "bb" := (reaches_iff_of_namings hnamed "bb").2 (.inl rfl)
  obtain ⟨w, hw, hbb⟩ := honly ["all"] (by decide) (by decide) (.delete true) (.still 0) obliging none _ _ hsel
    rfl x hx "bb" hreach
  rw [List.mem_singleton.1 hw] at hbb
  exact absurd hbb (by decide)

end Seedkeeper.Selection
