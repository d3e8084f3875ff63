import Mathlib.Data.List.Basic
import Seedkeeper.Client.Memory
import Seedkeeper.Proofs.Selection.Words

/-!
Which info hashes a query selects, and in which order.

A query names info hashes: token by token from left to right, and for a token listed torrents in their
order (`Query.named`). It selects each of them once, in the order in which they are named first
(`IsSelection`). A query of nothing but info hashes names the same ones whatever is listed, so the client
is not asked for its listing (`resolve_isSelection`).
-/

namespace Seedkeeper.Selection

open Client (Backend Filters Memory Run)

namespace Query

/-! ### Predicates -/

/-- The predicates of a query that are given, met by a torrent. -/
structure Meets (q : Query) (t : Torrent) : Prop where
  category : ∀ c, q.category = some c → t.category = c
  tags : q.tags = [] ∨ ∃ tag ∈ q.tags, t.hasTag tag = true
  filter : ∀ f, q.filter = some f → t.matchesName f = true

theorem admits_iff (q : Query) (t : Torrent) : q.admits t = true ↔ q.Meets t := by
  have hparts : q.Meets t ↔ (∀ c, q.category = some c → t.category = c) ∧
      (q.tags = [] ∨ ∃ tag ∈ q.tags, t.hasTag tag = true) ∧
      ∀ f, q.filter = some f → t.matchesName f = true := by
    constructor
    · rintro ⟨hcategory, htags, hfilter⟩
      exact ⟨hcategory, htags, hfilter⟩
    · rintro ⟨hcategory, htags, hfilter⟩
      exact ⟨hcategory, htags, hfilter⟩
  rw [hparts]
  obtain ⟨category, tags, filter, tokens⟩ := q
  cases category <;> cases filter <;> simp [admits, Torrent.hasAnyTag, and_assoc]

/-! ### Queries of info hashes alone -/

/-- Some info hashes and no predicate. -/
structure OnlyHashes (q : Query) : Prop where
  category : q.category = none
  tags : q.tags = []
  filter : q.filter = none
  tokens_ne_nil : q.tokens ≠ []
  hashes : ∀ token ∈ q.tokens, ∃ h, token = .hash h

theorem hasPredicates_eq_false_iff (q : Query) :
    q.hasPredicates = false ↔ q.category = none ∧ q.tags = [] ∧ q.filter = none := by
  simp [hasPredicates, and_assoc]

/-- Of the queries that do not mean every torrent, these are the ones that need no listing. -/
theorem needsListing_eq_false_iff {q : Query} (hall : q.selectsAll = false) :
    q.needsListing = false ↔ q.OnlyHashes := by
  have hnoAll : Token.all ∉ q.tokens := by
    intro hmem
    rw [selectsAll, List.contains_iff_mem.2 hmem] at hall
    cases hall
  rw [needsListing, Bool.or_eq_false_iff, Bool.or_eq_false_iff, hasPredicates_eq_false_iff,
    List.isEmpty_eq_false_iff, List.any_eq_false]
  constructor
  · rintro ⟨⟨⟨hcategory, htags, hfilter⟩, hne⟩, hstate⟩
    refine ⟨hcategory, htags, hfilter, hne, fun token hmem => ?_⟩
    cases token with
    | all => exact absurd hmem hnoAll
    | hash h => exact ⟨h, rfl⟩
    | state f => exact absurd rfl (hstate _ hmem)
  · rintro ⟨hcategory, htags, hfilter, hne, hhashes⟩
    refine ⟨⟨⟨hcategory, htags, hfilter⟩, hne⟩, fun token hmem => ?_⟩
    obtain ⟨h, rfl⟩ := hhashes token hmem
    exact Bool.false_ne_true

/-! ### Info hashes that are named -/

/-- The info hashes that a query names among listed torrents, as often as it does. -/
def named (q : Query) (listed : List Torrent) : List String :=
  if q.tokens = [] then (listed.filter q.admits).map (·.infoHash)
  else q.tokens.flatMap fun
    | .all => []
    | .hash h => [h]
    | .state f => (listed.filter fun t => f.holds t && q.admits t).map (·.infoHash)

theorem mem_named (q : Query) (listed : List Torrent) (h : String) :
    h ∈ q.named listed ↔ Token.hash h ∈ q.tokens ∨ ∃ t ∈ listed, t.infoHash = h ∧ q.Meets t ∧
      (q.tokens = [] ∨ ∃ f, Token.state f ∈ q.tokens ∧ f.holds t = true) := by
  rw [named]
  split
  · rename_i hnil
    rw [hnil, List.mem_map]
    constructor
    · rintro ⟨t, ht, rfl⟩
      obtain ⟨hlisted, hadmits⟩ := List.mem_filter.1 ht
      exact .inr ⟨t, hlisted, rfl, (admits_iff q t).1 hadmits, .inl rfl⟩
    · rintro (hgiven | ⟨t, hlisted, rfl, hmeets, _⟩)
      · cases hgiven
      · exact ⟨t, List.mem_filter.2 ⟨hlisted, (admits_iff q t).2 hmeets⟩, rfl⟩
  · rename_i hne
    rw [List.mem_flatMap]
    constructor
    · rintro ⟨token, htoken, hh⟩
      cases token with
      | all => cases hh
      | hash g =>
        rw [List.mem_singleton.1 hh]
        exact .inl htoken
      | state f =>
        obtain ⟨t, ht, rfl⟩ := List.mem_map.1 hh
        obtain ⟨hlisted, hboth⟩ := List.mem_filter.1 ht
        obtain ⟨hholds, hadmits⟩ := Bool.and_eq_true_iff.1 hboth
        exact .inr ⟨t, hlisted, rfl, (admits_iff q t).1 hadmits, .inr ⟨f, htoken, hholds⟩⟩
    · rintro (hgiven | ⟨t, hlisted, rfl, hmeets, hnil | ⟨f, htoken, hholds⟩⟩)
      · exact ⟨_, hgiven, List.mem_singleton_self h⟩
      · exact absurd hnil hne
      · refine ⟨_, htoken, List.mem_map.2 ⟨t, List.mem_filter.2 ⟨hlisted, ?_⟩, rfl⟩⟩
        exact Bool.and_eq_true_iff.2 ⟨hholds, (admits_iff q t).2 hmeets⟩

/-- A query of info hashes alone names the same whatever is listed. -/
theorem OnlyHashes.named_eq {q : Query} (hq : q.OnlyHashes) (listed others : List Torrent) :
    q.named listed = q.named others := by
  rw [named, if_neg hq.tokens_ne_nil, named, if_neg hq.tokens_ne_nil]
  refine List.flatMap_congr fun token hmem => ?_
  obtain ⟨h, rfl⟩ := hq.hashes token hmem
  rfl

end Query

/-! ### The selection -/

/-- The selection of a query from listed torrents: different info hashes, those that are given and those
    of the torrents that are meant, in the order in which they are named first. -/
structure IsSelection (q : Query) (listed : List Torrent) (hs : List String) : Prop where
  nodup : hs.Nodup
  mem_iff : ∀ h, h ∈ hs ↔ Token.hash h ∈ q.tokens ∨ ∃ t ∈ listed, t.infoHash = h ∧ q.Meets t ∧
    (q.tokens = [] ∨ ∃ f, Token.state f ∈ q.tokens ∧ f.holds t = true)
  ordered : hs.Pairwise fun g h => (q.named listed).idxOf g < (q.named listed).idxOf h

/-- There is one selection. -/
theorem IsSelection.unique {q : Query} {listed : List Torrent} {hs gs : List String}
    (h : IsSelection q listed hs) (g : IsSelection q listed gs) : gs = hs :=
  eq_of_ordered (fun x => (g.mem_iff x).trans (h.mem_iff x).symm) g.ordered h.ordered

theorem choose_eq (q : Query) (listed : List Torrent) :
    choose q (listed.filter q.admits) = firstOccurrences (q.named listed) := by
  rw [choose, Query.named]
  refine congrArg firstOccurrences ?_
  cases q.tokens with
  | nil => rfl
  | cons token tokens =>
    rw [if_neg (by simp), if_neg (by simp)]
    refine List.flatMap_congr fun k _ => ?_
    cases k with
    | state f => rw [hashesOf, List.filter_filter]
    | _ => rfl

theorem isSelection_choose (q : Query) (listed : List Torrent) :
    IsSelection q listed (choose q (listed.filter q.admits)) := by
  rw [choose_eq]
  exact ⟨nodup_firstOccurrences _,
    fun h => (mem_firstOccurrences _ h).trans (q.mem_named listed h), ordered_firstOccurrences _⟩

variable {σ : Type} [Backend σ]

/-- What a query that does not mean every torrent is resolved to, once the torrents can be listed. -/
theorem from_resolve {q : Query} {s t : σ} {listed : List Torrent} (hall : q.selectsAll = false)
    (hlist : (Backend.torrents Filters.all).from s = (.ok listed, t)) :
    (resolve q).from s
      = (.ok (.hashes (choose q (listed.filter q.admits))), if q.needsListing then t else s) := by
  rw [resolve, if_neg (by simp [hall])]
  by_cases hneeds : q.needsListing = true
  · have hadmitted : (admitted q).from s = (.ok (listed.filter q.admits), t) := by
      rw [admitted, if_pos hneeds, Run.from_bind_ok hlist]
      rfl
    rw [Run.from_bind_ok hadmitted, if_pos hneeds]
    rfl
  · have honly := (Query.needsListing_eq_false_iff hall).1 (Bool.eq_false_iff.2 hneeds)
    have hadmitted : (admitted q).from s = (.ok [], s) := by
      rw [admitted, if_neg hneeds]
      rfl
    have hnothing : choose q [] = choose q (listed.filter q.admits) := by
      have hnil := choose_eq q []
      rw [List.filter_nil] at hnil
      rw [hnil, choose_eq, honly.named_eq [] listed]
    rw [Run.from_bind_ok hadmitted, if_neg hneeds, hnothing]
    rfl

/-- A query that is nothing but info hashes is resolved without the client. -/
theorem from_resolve_of_onlyHashes {q : Query} (hall : q.selectsAll = false) (hq : q.OnlyHashes)
    (s : σ) : (resolve q).from s = (.ok (.hashes (choose q [])), s) := by
  have hneeds : ¬ q.needsListing = true :=
    Bool.eq_false_iff.1 ((Query.needsListing_eq_false_iff hall).2 hq)
  rw [resolve, if_neg (by simp [hall]), admitted, if_neg hneeds]
  rfl

/-- What a query selects. For every listing that a client answers with, a query that does not mean every
    torrent is resolved to explicit info hashes, and to no others than its selection from that listing.
    A query of nothing but info hashes is resolved to them by every client in every state, one whose
    torrents cannot be listed included, and they are its selection from every listing. -/
theorem resolve_isSelection (s t : σ) (listed : List Torrent) (q : Query)
    (hlist : (Backend.torrents Filters.all).from s = (.ok listed, t)) (hall : q.selectsAll = false) :
    ∃ hs, (resolve q).from s = (.ok (.hashes hs), if q.needsListing then t else s) ∧
      IsSelection q listed hs ∧ (∀ gs, IsSelection q listed gs → gs = hs) ∧
      (q.OnlyHashes → (∀ (τ : Type) [Backend τ] (u : τ), (resolve q).from u = (.ok (.hashes hs), u)) ∧
        ∀ others, IsSelection q others hs) := by
  have hselection := isSelection_choose q listed
  refine ⟨_, from_resolve hall hlist, hselection, fun gs hgs => hselection.unique hgs,
    fun honly => ?_⟩
  have hsame : ∀ others : List Torrent,
      choose q (others.filter q.admits) = choose q (listed.filter q.admits) := by
    intro others
    rw [choose_eq, choose_eq, honly.named_eq others listed]
  constructor
  · intro τ _ u
    rw [← hsame []]
    exact from_resolve_of_onlyHashes hall honly u
  · intro others
    rw [← hsame others]
    exact isSelection_choose q others

/-- A client with two torrents, of which one is seeding and one is paused. -/
def twoTorrents : Memory :=
  ((Memory.named "mock").put (.sample "aa" "first" .seeding)).put (.sample "bb" "second" .paused)

/-- A name is looked for in both torrents, and kept from neither of the info hashes that are given, one of
    them twice and one of them of no torrent. -/
theorem resolve_isSelection_overlapping :
    (Backend.torrents Filters.all).from twoTorrents = (.ok twoTorrents.torrents, twoTorrents) ∧
    (Query.ofArguments "" "" "FIRST" ["bb", "_done", "_paused", "cc", "BB"]).selectsAll = false ∧
    IsSelection (Query.ofArguments "" "" "FIRST" ["bb", "_done", "_paused", "cc", "BB"])
      twoTorrents.torrents ["bb", "aa", "cc"] := by
  have hlist : (Backend.torrents Filters.all).from twoTorrents
      = (.ok twoTorrents.torrents, twoTorrents) := rfl
  have hall : (Query.ofArguments "" "" "FIRST"
      ["bb", "_done", "_paused", "cc", "BB"]).selectsAll = false := by decide
  obtain ⟨hs, hresolve, hselection, _⟩ := resolve_isSelection twoTorrents twoTorrents _ _ hlist hall
  have hcomputed : (resolve (Query.ofArguments "" "" "FIRST"
      ["bb", "_done", "_paused", "cc", "BB"])).from twoTorrents
        = (.ok (.hashes ["bb", "aa", "cc"]), twoTorrents) := rfl
  cases congrArg Prod.fst (hcomputed.symm.trans hresolve)
  exact ⟨hlist, hall, hselection⟩

end Seedkeeper.Selection
