import Seedkeeper.Proofs.Client.Memory
import Seedkeeper.Proofs.Selection.Chosen

/-!
The torrents of a query and its selection.

`fetch` goes through the tokens as `resolve` does, but picks torrents, and asks the client for every info
hash that is given. On a client in memory both agree: what is fetched are the client's torrents under the
info hashes that are selected, in the same order, unless an info hash is given that is not on the client;
the first of these is what `fetch` fails for (`fetch_agrees`).
-/

namespace Seedkeeper.Selection

open Client (Backend Filters Memory Run)

/-! ### Torrents picked -/

namespace Picked

/-- The info hashes by which torrents were picked. -/
def hashes (p : Picked) : List String := p.map (·.1)

/-- Every torrent is one of the client's, picked by its own info hash. -/
def Of (m : Memory) (p : Picked) : Prop := ∀ x ∈ p, x.2 ∈ m.torrents ∧ x.2.infoHash = x.1

theorem any_iff (p : Picked) (h : String) : p.any (·.1 == h) = true ↔ h ∈ p.hashes := by
  simp [hashes, List.any_eq_true]

theorem hashes_add (p : Picked) (h : String) (t : Torrent) :
    (p.add h t).hashes = pick p.hashes h := by
  rw [add, pick]
  by_cases hmem : h ∈ p.hashes
  · rw [if_pos ((any_iff p h).2 hmem), if_pos hmem]
  · rw [if_neg (mt (any_iff p h).1 hmem), if_neg hmem, hashes, List.map_append]
    rfl

variable {m : Memory} {p : Picked}

theorem Of.nil : Of m [] := by
  intro x hx
  cases hx

theorem Of.add (hp : p.Of m) {t : Torrent} (ht : t ∈ m.torrents) : (p.add t.infoHash t).Of m := by
  rw [Picked.add]
  split
  · exact hp
  · intro x hx
    rcases List.mem_append.1 hx with hold | hnew
    · exact hp x hold
    · rw [List.mem_singleton.1 hnew]
      exact ⟨ht, rfl⟩

theorem Of.mem_infoHashes (hp : p.Of m) {h : String} (hh : h ∈ p.hashes) : h ∈ m.infoHashes := by
  obtain ⟨x, hx, rfl⟩ := List.mem_map.1 hh
  exact List.mem_map.2 ⟨x.2, hp x hx⟩

/-- Under the info hashes by which they were picked, torrents are known to the client. -/
theorem Of.map_infoHash (hp : p.Of m) : (p.map (·.2)).map (·.infoHash) = p.hashes := by
  rw [List.map_map]
  exact List.map_congr_left fun x hx => (hp x hx).2

/-- The torrents of a state are picked by their info hashes. -/
theorem Of.addAll {ts : List Torrent} (hts : ts ⊆ m.torrents) (hp : p.Of m) :
    (ts.foldl (fun p t => p.add t.infoHash t) p).Of m ∧
      (ts.foldl (fun p t => p.add t.infoHash t) p).hashes
        = (ts.map (·.infoHash)).foldl pick p.hashes := by
  induction ts generalizing p with
  | nil => exact ⟨hp, rfl⟩
  | cons t ts ih =>
    rw [List.foldl_cons, List.map_cons, List.foldl_cons, ← hashes_add]
    exact ih (fun x hx => hts (List.mem_cons_of_mem t hx)) (hp.add (hts List.mem_cons_self))

/-! ### Tokens -/

variable {admitted : List Torrent}

/-- A token whose info hash, if it is one, is on the client picks the info hashes it selects. -/
theorem Of.addToken (hp : p.Of m) (hready : m.pending = none) (hadmitted : admitted ⊆ m.torrents)
    (token : Token) (hon : ∀ h, token = .hash h → h ∈ m.infoHashes) :
    ∃ p' : Picked, (Picked.addToken admitted p token).from m = (.ok p', m) ∧ p'.Of m ∧
      p'.hashes = (hashesOf admitted token).foldl pick p.hashes := by
  cases token with
  | all => exact ⟨p, rfl, hp, rfl⟩
  | state f =>
    have hts : admitted.filter f.holds ⊆ m.torrents := fun t ht =>
      hadmitted (List.mem_filter.1 ht).1
    exact ⟨_, rfl, hp.addAll hts⟩
  | hash h =>
    have hpicked : (hashesOf admitted (.hash h)).foldl pick p.hashes = pick p.hashes h := rfl
    rw [hpicked, Picked.addToken]
    by_cases hmem : h ∈ p.hashes
    · refine ⟨p, ?_, hp, by rw [pick, if_pos hmem]⟩
      rw [if_pos ((any_iff p h).2 hmem)]
      rfl
    · obtain ⟨t, ht, rfl, hfound⟩ := Memory.from_torrent_of_mem hready (hon h rfl)
      refine ⟨p.add t.infoHash t, ?_, hp.add ht, hashes_add p _ t⟩
      rw [if_neg (mt (any_iff p _).1 hmem), Run.from_bind_ok hfound]
      rfl

/-- An info hash that is not on the client fails. -/
theorem Of.addToken_of_notMem (hready : m.pending = none) (hp : p.Of m) {h : String}
    (hmissing : h ∉ m.infoHashes) :
    (Picked.addToken admitted p (.hash h)).from m = (.error (.torrentNotFound h), m) := by
  -- it cannot have been picked before, so it is asked for
  have hnew : h ∉ p.hashes := fun hmem => hmissing (hp.mem_infoHashes hmem)
  rw [Picked.addToken, if_neg (mt (any_iff p h).1 hnew), Run.from_bind,
    Memory.from_torrent_of_notMem hready hmissing]

/-- Tokens whose info hashes are on the client pick the info hashes they select. -/
theorem Of.addTokens (hready : m.pending = none) (hadmitted : admitted ⊆ m.torrents)
    {tokens : List Token} (hp : p.Of m) (hon : ∀ h, Token.hash h ∈ tokens → h ∈ m.infoHashes) :
    ∃ p' : Picked, (tokens.foldlM (Picked.addToken admitted) p).from m = (.ok p', m) ∧ p'.Of m ∧
      p'.hashes = (tokens.flatMap (hashesOf admitted)).foldl pick p.hashes := by
  induction tokens generalizing p with
  | nil => exact ⟨p, rfl, hp, rfl⟩
  | cons token tokens ih =>
    obtain ⟨p₁, hfirst, hp₁, hhashes₁⟩ := hp.addToken hready hadmitted token
      fun h htoken => hon h (htoken ▸ List.mem_cons_self)
    obtain ⟨p₂, hrest, hp₂, hhashes₂⟩ := ih hp₁ fun h hh => hon h (List.mem_cons_of_mem _ hh)
    refine ⟨p₂, ?_, hp₂, ?_⟩
    · rw [List.foldlM_cons, Run.from_bind_ok hfirst, hrest]
    · rw [hhashes₂, hhashes₁, List.flatMap_cons, List.foldl_append]

end Picked

/-! ### Queries -/

variable {m : Memory} {q : Query}

theorem from_fetch_of_selectsAll (hready : m.pending = none) (hall : q.selectsAll = true) :
    (fetch q).from m = (.ok m.torrents, m) := by
  rw [fetch, Run.from_bind_ok (Memory.from_torrents hready), if_pos hall]
  rfl

theorem from_fetch_of_nil (hready : m.pending = none) (hall : q.selectsAll = false)
    (hnil : q.tokens = []) : (fetch q).from m = (.ok (m.torrents.filter q.admits), m) := by
  rw [fetch, Run.from_bind_ok (Memory.from_torrents hready), if_neg (by simp [hall]),
    if_pos (by simp [hnil])]
  rfl

theorem from_fetch_of_tokens (hready : m.pending = none) (hall : q.selectsAll = false)
    (hne : q.tokens ≠ []) :
    (fetch q).from m = (do
      let picked ← q.tokens.foldlM (Picked.addToken (m.torrents.filter q.admits)) []
      return picked.map (·.2) : Run Memory (List Torrent)).from m := by
  rw [fetch, Run.from_bind_ok (Memory.from_torrents hready), if_neg (by simp [hall]),
    if_neg (by simp [hne])]

/-- If every info hash that is given is on the client, the torrents of the selection are fetched. -/
theorem from_fetch_of_known (hdistinct : m.infoHashes.Nodup) (hready : m.pending = none)
    (hall : q.selectsAll = false) (hon : ∀ h, Token.hash h ∈ q.tokens → h ∈ m.infoHashes) :
    ∃ ts, (fetch q).from m = (.ok ts, m) ∧ ts ⊆ m.torrents ∧
      ts.map (·.infoHash) = choose q (m.torrents.filter q.admits) := by
  have hadmitted : m.torrents.filter q.admits ⊆ m.torrents := List.filter_sublist.subset
  by_cases hnil : q.tokens = []
  · refine ⟨_, from_fetch_of_nil hready hall hnil, hadmitted, ?_⟩
    have hnodup : ((m.torrents.filter q.admits).map (·.infoHash)).Nodup :=
      hdistinct.sublist (List.filter_sublist.map _)
    rw [choose, if_pos (by simp [hnil]), firstOccurrences_eq_self hnodup]
  · have hnothing : Picked.Of m [] := by
      intro x hx
      cases hx
    obtain ⟨picked, hpicked, hof, hhashes⟩ := hnothing.addTokens hready hadmitted hon
    refine ⟨picked.map (·.2), ?_, ?_, ?_⟩
    · rw [from_fetch_of_tokens hready hall hnil, Run.from_bind_ok hpicked]
      rfl
    · intro t ht
      obtain ⟨x, hx, rfl⟩ := List.mem_map.1 ht
      exact (hof x hx).1
    · rw [hof.map_infoHash, hhashes, choose, if_neg (by simp [hnil])]
      rfl

/-- The first info hash that is given and is not on the client is what fetching fails for. -/
theorem from_fetch_of_missing (hready : m.pending = none) (hall : q.selectsAll = false)
    {before after : List Token} {h : String} (htokens : q.tokens = before ++ .hash h :: after)
    (hbefore : ∀ g, Token.hash g ∈ before → g ∈ m.infoHashes) (hmissing : h ∉ m.infoHashes) :
    (fetch q).from m = (.error (.torrentNotFound h), m) := by
  have hadmitted : m.torrents.filter q.admits ⊆ m.torrents := List.filter_sublist.subset
  obtain ⟨picked, hpicked, hof, _⟩ := Picked.Of.nil.addTokens hready hadmitted hbefore
  have hfailed : (q.tokens.foldlM (Picked.addToken (m.torrents.filter q.admits)) []).from m
      = (.error (.torrentNotFound h), m) := by
    rw [htokens, List.foldlM_append, Run.from_bind_ok hpicked, List.foldlM_cons, Run.from_bind,
      hof.addToken_of_notMem hready hmissing]
  rw [from_fetch_of_tokens hready hall (by simp [htokens]), Run.from_bind, hfailed]

/-- Of some tokens not all of whose info hashes are known, one is the first that is not. -/
theorem exists_first_missing {known : List String} {tokens : List Token}
    (hnot : ¬ ∀ h, Token.hash h ∈ tokens → h ∈ known) :
    ∃ before h after, tokens = before ++ .hash h :: after ∧
      (∀ g, Token.hash g ∈ before → g ∈ known) ∧ h ∉ known := by
  induction tokens with
  | nil => exact absurd (fun h hh => by cases hh) hnot
  | cons token tokens ih =>
    by_cases hhead : ∀ h, token = .hash h → h ∈ known
    · obtain ⟨before, h, after, rfl, hbefore, hmissing⟩ := ih fun htail => hnot fun h hh =>
        (List.mem_cons.1 hh).elim (fun he => hhead h he.symm) (htail h)
      refine ⟨token :: before, h, after, rfl, fun g hg => ?_, hmissing⟩
      exact (List.mem_cons.1 hg).elim (fun he => hhead g he.symm) (hbefore g)
    · push Not at hhead
      obtain ⟨h, rfl, hmissing⟩ := hhead
      exact ⟨[], h, tokens, rfl, fun g hg => (by cases hg), hmissing⟩

/-- Fetching and selecting agree. On a client in memory with different info hashes and no pending failure
    every query is resolved. If it means every torrent, the whole listing is fetched, in order. Otherwise,
    if every info hash that is given is on the client, the torrents that are fetched have the info hashes
    of the selection, in its order; and if not, fetching fails for the first one that is not. -/
theorem fetch_agrees (m : Memory) (hdistinct : m.infoHashes.Nodup) (hready : m.pending = none)
    (q : Query) :
    ∃ sel, (resolve q).from m = (.ok sel, m) ∧
      (sel = .all → (fetch q).from m = (.ok m.torrents, m)) ∧
      ∀ hs, sel = .hashes hs →
        ((∀ h, Token.hash h ∈ q.tokens → h ∈ m.infoHashes) →
          ∃ ts, (fetch q).from m = (.ok ts, m) ∧ ts ⊆ m.torrents ∧ ts.map (·.infoHash) = hs) ∧
        (¬ (∀ h, Token.hash h ∈ q.tokens → h ∈ m.infoHashes) →
          ∃ before h after, q.tokens = before ++ .hash h :: after ∧
            (∀ g, Token.hash g ∈ before → g ∈ m.infoHashes) ∧ h ∉ m.infoHashes ∧
            (fetch q).from m = (.error (.torrentNotFound h), m)) := by
  by_cases hall : q.selectsAll = true
  · refine ⟨.all, ?_, fun _ => from_fetch_of_selectsAll hready hall, fun hs hhs => by cases hhs⟩
    rw [resolve, if_pos hall]
    rfl
  · have hexplicit : q.selectsAll = false := Bool.eq_false_iff.2 hall
    have hresolve := from_resolve hexplicit (Memory.from_torrents hready)
    rw [ite_self] at hresolve
    refine ⟨_, hresolve, fun hsel => Selection.noConfusion hsel, ?_⟩
    rintro hs ⟨⟩
    refine ⟨from_fetch_of_known hdistinct hready hexplicit, fun hnot => ?_⟩
    obtain ⟨before, h, after, htokens, hbefore, hmissing⟩ := exists_first_missing hnot
    exact ⟨before, h, after, htokens, hbefore, hmissing,
      from_fetch_of_missing hready hexplicit htokens hbefore hmissing⟩

/-- An info hash is given twice, before and after states that its torrent is in: both torrents are fetched
    once. -/
theorem fetch_agrees_overlapping :
    twoTorrents.infoHashes.Nodup ∧ twoTorrents.pending = none ∧
    ∃ ts, (fetch (Query.ofArguments "" "" "" ["BB", "_done", "_paused", "aa", "bb"])).from twoTorrents
        = (.ok ts, twoTorrents) ∧
      ts ⊆ twoTorrents.torrents ∧ ts.map (·.infoHash) = ["bb", "aa"] := by
  have hdistinct : twoTorrents.infoHashes.Nodup := by decide
  obtain ⟨sel, hresolve, _, hhashes⟩ := fetch_agrees twoTorrents hdistinct rfl
    (Query.ofArguments "" "" "" ["BB", "_done", "_paused", "aa", "bb"])
  have hcomputed : (resolve (Query.ofArguments "" "" ""
      ["BB", "_done", "_paused", "aa", "bb"])).from twoTorrents
        = (.ok (.hashes ["bb", "aa"]), twoTorrents) := rfl
  obtain rfl := Except.ok.inj (congrArg Prod.fst (hcomputed.symm.trans hresolve))
  have htokens : (Query.ofArguments "" "" "" ["BB", "_done", "_paused", "aa", "bb"]).tokens
      = [.hash "bb", .state .done, .state (.is .paused), .hash "aa", .hash "bb"] := by decide
  refine ⟨hdistinct, rfl, (hhashes _ rfl).1 fun h hh => ?_⟩
  rw [htokens] at hh
  simp only [List.mem_cons, Token.hash.injEq, reduceCtorEq, List.not_mem_nil, or_false,
    false_or] at hh
  rcases hh with rfl | rfl | rfl <;> decide

end Seedkeeper.Selection
