import Seedkeeper.Program.Output
import Seedkeeper.Proofs.Selection.Chosen
import Seedkeeper.Proofs.Text.Trim

/-!
Printed selections, read back as words.

A selection is printed as a table of one word a line: the word for every torrent, or its info hashes.
Given as words again, the lines select the same, on whatever client and in whatever state
(`resolve_lines_selectionText`). The one exception is the explicit selection of nothing: it has no
lines, and no words at all mean every torrent.
-/

namespace Seedkeeper.Selection

open Client (Backend Filters Memory Run)
open Program (lineOf selectionText)

/-! ### Lines of a text -/

/-- The lines of a text; a last one that is empty does not count. -/
def lines (s : String) : List String :=
  let ls := Text.split '\n' s
  if ls.getLast? = some "" then ls.dropLast else ls

/-- Texts without a newline, printed a line each, are the lines of what is printed. -/
theorem pieces_join_lineOf : ∀ {ws : List String}, (∀ w ∈ ws, '\n' ∉ w.toList) →
    Text.pieces '\n' (String.join (ws.map lineOf)).toList = ws.map String.toList ++ [[]]
  | [], _ => rfl
  | w :: ws, h => by
    have hw : '\n' ∉ w.toList := h w List.mem_cons_self
    have hrest := pieces_join_lineOf fun v hv => h v (List.mem_cons_of_mem _ hv)
    have hjoin : (String.join ((w :: ws).map lineOf)).toList
        = w.toList ++ '\n' :: (String.join (ws.map lineOf)).toList := by
      simp [lineOf, String.join_cons]
    rw [hjoin, Text.pieces_append_cons, Text.pieces_eq_singleton hw, hrest]
    rfl

theorem lines_join_lineOf {ws : List String} (h : ∀ w ∈ ws, '\n' ∉ w.toList) :
    lines (String.join (ws.map lineOf)) = ws := by
  have hsplit : Text.split '\n' (String.join (ws.map lineOf)) = ws ++ [""] := by
    rw [Text.split, pieces_join_lineOf h, List.map_append, List.map_map]
    simp
  rw [lines, hsplit]
  simp

/-! ### Bare info hashes -/

/-- Info hashes as torrents have them: not empty, without blanks, in lower case, and not to be taken
    for a state. -/
structure Bare (h : String) : Prop where
  ne_empty : h ≠ ""
  no_blank : h.toList.any Text.isBlank = false
  lower : Text.lowercase h = h
  no_underscore : h.toList.head? ≠ some '_'

theorem Bare.trim {h : String} (hb : Bare h) : Text.trim h = h := by
  have hplain : ∀ c ∈ h.toList, Text.isBlank c = false := by simpa using hb.no_blank
  have hne : h.toList ≠ [] := by simpa using hb.ne_empty
  refine (Text.trim_eq_iff hne (fun c hc => hplain c (List.mem_of_mem_head? hc))
    (fun c hc => hplain c (List.mem_of_getLast? hc)) h).2 ⟨[], [], ?_, nofun, nofun⟩
  rw [List.nil_append, List.append_nil]

theorem Bare.isHashWord {h : String} (hb : Bare h) : IsHashWord h := by
  rw [IsHashWord, hb.trim]
  exact hb.no_underscore

theorem Bare.hashOfWord {h : String} (hb : Bare h) : hashOfWord h = h := by
  rw [Selection.hashOfWord, hb.trim, hb.lower]

theorem Bare.newline_notMem {h : String} (hb : Bare h) : '\n' ∉ h.toList := by
  intro hmem
  exact List.any_eq_false.1 hb.no_blank _ hmem (by decide)

/-! ### What a query selects -/

variable {σ : Type} [Backend σ]

/-- Once its torrents can be listed, a query is resolved: to every torrent, or to different info hashes,
    each one of a listed torrent or one that is given. -/
theorem resolve_of_listing {s t : σ} {listed : List Torrent} (q : Query)
    (hlist : (Backend.torrents Filters.all).from s = (.ok listed, t)) :
    ∃ sel u, (resolve q).from s = (.ok sel, u) ∧
      (sel = .all ∨ ∃ hs, sel = .hashes hs ∧ hs.Nodup ∧
        ∀ h ∈ hs, Token.hash h ∈ q.tokens ∨ ∃ x ∈ listed, x.infoHash = h) := by
  by_cases hall : q.selectsAll = true
  · refine ⟨.all, s, ?_, .inl rfl⟩
    rw [resolve, if_pos hall]
    rfl
  · have hselection := isSelection_choose q listed
    refine ⟨_, _, from_resolve (Bool.eq_false_iff.2 hall) hlist,
      .inr ⟨_, rfl, hselection.nodup, fun h hh => ?_⟩⟩
    rcases (hselection.mem_iff h).1 hh with hgiven | ⟨x, hx, hhash, _⟩
    · exact .inl hgiven
    · exact .inr ⟨x, hx, hhash⟩

/-- The lines of different bare info hashes select these info hashes. -/
theorem resolve_lines_hashes {hs : List String} (hne : hs ≠ []) (hnodup : hs.Nodup)
    (hbare : ∀ h ∈ hs, Bare h) (s : σ) :
    (resolve (Query.ofArguments "" "" "" (lines (selectionText (.hashes hs) .table)))).from s
      = (.ok (.hashes hs), s) := by
  have hlines : lines (selectionText (.hashes hs) .table) = hs :=
    lines_join_lineOf fun h hh => (hbare h hh).newline_notMem
  have hwords : hs.map Selection.hashOfWord = hs := by
    calc hs.map Selection.hashOfWord = hs.map id :=
          List.map_congr_left fun h hh => (hbare h hh).hashOfWord
      _ = hs := List.map_id hs
  rw [hlines, resolve_words hne fun h hh => (hbare h hh).isHashWord, hwords,
    firstOccurrences_eq_self hnodup]

theorem lines_selectionText_all : lines (selectionText .all .table) = [allWord] := by decide

/-- The line of the selection of every torrent selects every torrent. -/
theorem resolve_lines_all (s : σ) :
    (resolve (Query.ofArguments "" "" "" (lines (selectionText .all .table)))).from s
      = (.ok .all, s) := by
  have hall : (Query.ofArguments "" "" "" [allWord]).selectsAll = true := by decide
  rw [lines_selectionText_all, resolve, if_pos hall]
  rfl

/-- Printed selections, read back. Take a client whose torrents can be listed, with bare info hashes, and
    a query that gives only bare ones. It is resolved; and unless the selection is the explicit one of
    nothing, the lines it is printed as, given as words to any client in any state, select the same
    again. The explicit selection of nothing is printed as no lines, and these select every torrent. -/
theorem resolve_lines_selectionText (s t : σ) (listed : List Torrent) (q : Query)
    (hlist : (Backend.torrents Filters.all).from s = (.ok listed, t))
    (hlisted : ∀ x ∈ listed, Bare x.infoHash)
    (hgiven : ∀ h, Token.hash h ∈ q.tokens → Bare h) :
    ∃ sel u, (resolve q).from s = (.ok sel, u) ∧
      (sel ≠ .hashes [] → ∀ (τ : Type) [Backend τ] (v : τ),
        (resolve (Query.ofArguments "" "" "" (lines (selectionText sel .table)))).from v
          = (.ok sel, v)) ∧
      (sel = .hashes [] → lines (selectionText sel .table) = [] ∧
        ∀ (τ : Type) [Backend τ] (v : τ),
          (resolve (Query.ofArguments "" "" "" [])).from v = (.ok .all, v)) := by
  obtain ⟨sel, u, hresolve, rfl | ⟨hs, rfl, hnodup, hmem⟩⟩ := resolve_of_listing q hlist
  · refine ⟨.all, u, hresolve, ?_, ?_⟩
    · intro _ τ _ v
      exact resolve_lines_all v
    · intro hempty
      cases hempty
  · have hbare : ∀ h ∈ hs, Bare h := by
      intro h hh
      rcases hmem h hh with hgive | ⟨x, hx, rfl⟩
      · exact hgiven h hgive
      · exact hlisted x hx
    refine ⟨.hashes hs, u, hresolve, ?_, ?_⟩
    · intro hne τ _ v
      exact resolve_lines_hashes (fun hnil => hne (hnil ▸ rfl)) hnodup hbare v
    · intro hempty
      rw [hempty]
      exact ⟨by decide, fun τ _ v => resolve_nil v⟩

/-- A client with one torrent, which is seeding. -/
def oneSeeding : Memory := (Memory.named "mock").put (.sample "aa" "name" .seeding)

theorem oneSeeding_listing : (Backend.torrents Filters.all).from oneSeeding
    = (.ok [.sample "aa" "name" .seeding], oneSeeding) := rfl

theorem bare_sample : ∀ x ∈ [Torrent.sample "aa" "name" .seeding], Bare x.infoHash := by
  intro x hx
  rw [List.mem_singleton.1 hx]
  exact ⟨by decide, by decide, by decide, by decide⟩

/-- The selection of the seeding torrents, by a word and by an info hash, is read back. -/
theorem resolve_lines_selectionText_seeding :
    (Backend.torrents Filters.all).from oneSeeding
      = (.ok [.sample "aa" "name" .seeding], oneSeeding) ∧
    (∀ x ∈ [Torrent.sample "aa" "name" .seeding], Bare x.infoHash) ∧
    (∀ h, Token.hash h ∈ (Query.ofArguments "" "" "" ["_seeding", "bb"]).tokens → Bare h) ∧
    ∀ v : Memory, (resolve (Query.ofArguments "" "" "" (lines
      (selectionText (.hashes ["aa", "bb"]) .table)))).from v = (.ok (.hashes ["aa", "bb"]), v) := by
  have hgiven : ∀ h, Token.hash h ∈ (Query.ofArguments "" "" "" ["_seeding", "bb"]).tokens →
      Bare h := by
    intro h hh
    have htokens : (Query.ofArguments "" "" "" ["_seeding", "bb"]).tokens
        = [.state (.is .seeding), .hash "bb"] := by decide
    rw [htokens] at hh
    simp only [List.mem_cons, reduceCtorEq, Token.hash.injEq, List.not_mem_nil, or_false,
      false_or] at hh
    rw [hh]
    exact ⟨by decide, by decide, by decide, by decide⟩
  obtain ⟨sel, u, hresolve, hback, _⟩ := resolve_lines_selectionText oneSeeding oneSeeding _
    (Query.ofArguments "" "" "" ["_seeding", "bb"]) oneSeeding_listing bare_sample hgiven
  have hsel : (resolve (Query.ofArguments "" "" "" ["_seeding", "bb"])).from oneSeeding
      = (.ok (.hashes ["aa", "bb"]), oneSeeding) := rfl
  obtain rfl := Except.ok.inj (congrArg Prod.fst (hsel.symm.trans hresolve))
  exact ⟨oneSeeding_listing, bare_sample, hgiven, hback (by decide) Memory⟩

/-- Not every printed selection is read back: where nothing matches, nothing is printed, and that
    selects every torrent. -/
theorem not_resolve_lines_of_no_match :
    ¬ ∀ (σ : Type) [Backend σ] (s t : σ) (listed : List Torrent) (q : Query),
      (Backend.torrents Filters.all).from s = (.ok listed, t) →
      (listed.map (·.infoHash)).Nodup → (∀ x ∈ listed, Bare x.infoHash) →
      (∀ h, Token.hash h ∈ q.tokens → Bare h) →
      ∃ sel u, (resolve q).from s = (.ok sel, u) ∧ ∀ (τ : Type) [Backend τ] (v : τ),
        (resolve (Query.ofArguments "" "" "" (lines (selectionText sel .table)))).from v
          = (.ok sel, v) := by
  intro hall
  have hgiven : ∀ h, Token.hash h ∈ (Query.ofArguments "" "" "" ["_paused"]).tokens → Bare h := by
    intro h hh
    have htokens : (Query.ofArguments "" "" "" ["_paused"]).tokens = [.state (.is .paused)] := by
      decide
    rw [htokens] at hh
    cases List.mem_singleton.1 hh
  obtain ⟨sel, u, hresolve, hback⟩ := hall Memory oneSeeding oneSeeding _
    (Query.ofArguments "" "" "" ["_paused"]) oneSeeding_listing (by decide) bare_sample hgiven
  have hnothing : (resolve (Query.ofArguments "" "" "" ["_paused"])).from oneSeeding
      = (.ok (.hashes []), oneSeeding) := rfl
  obtain rfl := Except.ok.inj (congrArg Prod.fst (hnothing.symm.trans hresolve))
  have hall : (resolve (Query.ofArguments "" "" "" (lines
      (selectionText (.hashes []) .table)))).from oneSeeding = (.ok .all, oneSeeding) :=
    resolve_nil oneSeeding
  cases (hback Memory oneSeeding).symm.trans hall

end Seedkeeper.Selection
