import Seedkeeper.Config.Basic
import Seedkeeper.Proofs.Text.Trim

/-!
Which configurations are accepted, and what is reported of the others.

A configuration is `Valid` if its clients are `Flawless` and it says where traffic is recorded. Of any
other one the first client counts that is not flawless after those before it, and of this client the
first thing that is `Wrong` with it. The walk over the clients is followed with the clients it has passed
as a parameter, since a name is repeated only with respect to those (`clientsFault?_eq_some_iff`).
-/

namespace Seedkeeper.Config

open Text (Blank)

/-- What is wrong with a client that stands after some others. Each rule supposes that none of the rules
    before it applies. -/
inductive ClientEntry.Wrong (before : List ClientEntry) (e : ClientEntry) : Fault → Prop where
  | blankName (h : Blank e.name) : Wrong before e .blankName
  | repeatedName (hname : ¬ Blank e.name) (h : ∃ d ∈ before, d.name = e.name) :
      Wrong before e (.repeatedName e.name)
  | blankUrl (hname : ¬ Blank e.name) (hnew : ∀ d ∈ before, d.name ≠ e.name) (h : Blank e.url) :
      Wrong before e (.blankUrl e.name)
  | noTimeout (hname : ¬ Blank e.name) (hnew : ∀ d ∈ before, d.name ≠ e.name) (hurl : ¬ Blank e.url)
      (h : e.timeoutSeconds = 0) : Wrong before e (.noTimeout e.name)

/-- Clients that nothing is wrong with. -/
structure Flawless (es : List ClientEntry) : Prop where
  named : ∀ e ∈ es, ¬ Blank e.name
  distinct : es.Pairwise fun d e => d.name ≠ e.name
  addressed : ∀ e ∈ es, ¬ Blank e.url
  patient : ∀ e ∈ es, e.timeoutSeconds ≠ 0

/-- A configuration that nothing is wrong with. -/
structure Valid (c : Config) : Prop where
  clients : Flawless c.clients
  recorded : c.stats.enabled = true → c.stats.path ≠ ""

variable {before es : List ClientEntry} {e : ClientEntry} {seen : List String} {f : Fault} {c : Config}

theorem flawless_nil : Flawless [] := ⟨nofun, .nil, nofun, nofun⟩

/-- Clients before others are flawless if all of them are. -/
theorem Flawless.of_append {after : List ClientEntry} (h : Flawless (before ++ after)) :
    Flawless before :=
  ⟨fun d hd => h.named d (List.mem_append_left _ hd), (List.pairwise_append.1 h.distinct).1,
    fun d hd => h.addressed d (List.mem_append_left _ hd),
    fun d hd => h.patient d (List.mem_append_left _ hd)⟩

theorem isBlankText_iff (s : String) : isBlankText s = true ↔ Blank s := by
  rw [isBlankText, Blank, ← Text.trimChars_eq_nil_iff, Text.trim]
  simp

/-! ### One client -/

/-- A list has the names of the clients passed. -/
def Names (before : List ClientEntry) (seen : List String) : Prop :=
  ∀ name, name ∈ seen ↔ ∃ d ∈ before, d.name = name

theorem names_nil : Names [] [] := by
  intro name
  simp

theorem Names.concat (h : Names before seen) (e : ClientEntry) :
    Names (before ++ [e]) (e.name :: seen) := by
  intro name
  rw [List.mem_cons, h name]
  constructor
  · rintro (rfl | ⟨d, hd, rfl⟩)
    · exact ⟨e, by simp, rfl⟩
    · exact ⟨d, by simp [hd], rfl⟩
  · rintro ⟨d, hd, rfl⟩
    rcases List.mem_append.1 hd with hd | hd
    · exact .inr ⟨d, hd, rfl⟩
    · exact .inl (by rw [List.mem_singleton.1 hd])

/-- Nothing is wrong with a client if no rule applies. -/
theorem not_wrong_iff : (∀ f, ¬ e.Wrong before f) ↔ ¬ Blank e.name ∧ (∀ d ∈ before, d.name ≠ e.name) ∧
    ¬ Blank e.url ∧ e.timeoutSeconds ≠ 0 := by
  constructor
  · intro hright
    have hname : ¬ Blank e.name := fun hblank => hright _ (.blankName hblank)
    have hnew : ∀ d ∈ before, d.name ≠ e.name := fun d hd heq =>
      hright _ (.repeatedName hname ⟨d, hd, heq⟩)
    have hurl : ¬ Blank e.url := fun hblank => hright _ (.blankUrl hname hnew hblank)
    exact ⟨hname, hnew, hurl, fun hzero => hright _ (.noTimeout hname hnew hurl hzero)⟩
  · rintro ⟨hname, hnew, hurl, htimeout⟩ f hwrong
    cases hwrong with
    | blankName hblank => exact hname hblank
    | repeatedName _ hseen =>
      obtain ⟨d, hd, heq⟩ := hseen
      exact hnew d hd heq
    | blankUrl _ _ hblank => exact hurl hblank
    | noTimeout _ _ _ hzero => exact htimeout hzero

theorem Names.not_mem_iff (h : Names before seen) :
    e.name ∉ seen ↔ ∀ d ∈ before, d.name ≠ e.name := by
  rw [h e.name]
  simp

theorem fault?_of_wrong (h : Names before seen) (hwrong : e.Wrong before f) :
    e.fault? seen = some f := by
  rw [ClientEntry.fault?]
  cases hwrong with
  | blankName hname => rw [if_pos ((isBlankText_iff _).2 hname)]
  | repeatedName hname hseen =>
    rw [if_neg (mt (isBlankText_iff _).1 hname), if_pos ((h e.name).2 hseen)]
  | blankUrl hname hnew hurl =>
    rw [if_neg (mt (isBlankText_iff _).1 hname), if_neg (h.not_mem_iff.2 hnew),
      if_pos ((isBlankText_iff _).2 hurl)]
  | noTimeout hname hnew hurl hzero =>
    rw [if_neg (mt (isBlankText_iff _).1 hname), if_neg (h.not_mem_iff.2 hnew),
      if_neg (mt (isBlankText_iff _).1 hurl), if_pos hzero]

theorem fault?_eq_none (h : Names before seen) (hright : ∀ f, ¬ e.Wrong before f) :
    e.fault? seen = none := by
  obtain ⟨hname, hnew, hurl, htimeout⟩ := not_wrong_iff.1 hright
  rw [ClientEntry.fault?, if_neg (mt (isBlankText_iff _).1 hname), if_neg (h.not_mem_iff.2 hnew),
    if_neg (mt (isBlankText_iff _).1 hurl), if_neg htimeout]

/-- What is reported of a client is what is wrong with it. -/
theorem fault?_eq_some_iff (h : Names before seen) : e.fault? seen = some f ↔ e.Wrong before f := by
  refine ⟨fun hfault => ?_, fault?_of_wrong h⟩
  by_cases hwrong : ∃ g, e.Wrong before g
  · obtain ⟨g, hg⟩ := hwrong
    rw [fault?_of_wrong h hg] at hfault
    rwa [← Option.some.inj hfault]
  · rw [fault?_eq_none h (not_exists.1 hwrong)] at hfault
    cases hfault

/-- One more client is flawless exactly if nothing is wrong with it after the others. -/
theorem flawless_concat_iff :
    Flawless (before ++ [e]) ↔ Flawless before ∧ ∀ f, ¬ e.Wrong before f := by
  rw [not_wrong_iff]
  constructor
  · intro h
    have hmem : e ∈ before ++ [e] := List.mem_append_right before (List.mem_singleton.2 rfl)
    obtain ⟨-, -, hnew⟩ := List.pairwise_append.1 h.distinct
    exact ⟨h.of_append, h.named e hmem, fun d hd => hnew d hd e (List.mem_singleton.2 rfl),
      h.addressed e hmem, h.patient e hmem⟩
  · rintro ⟨h, hname, hnew, hurl, htimeout⟩
    have hall : ∀ p : ClientEntry → Prop, (∀ d ∈ before, p d) → p e → ∀ d ∈ before ++ [e], p d :=
      fun p hbefore he => List.forall_mem_append.2 ⟨hbefore, List.forall_mem_singleton.2 he⟩
    refine ⟨hall _ h.named hname, ?_, hall _ h.addressed hurl, hall _ h.patient htimeout⟩
    exact List.pairwise_append.2 ⟨h.distinct, List.pairwise_singleton _ e,
      fun d hd => List.forall_mem_singleton.2 (hnew d hd)⟩

/-- After flawless clients, nothing is reported of a client exactly if it is flawless with them. -/
theorem fault?_eq_none_iff (hbefore : Flawless before) (h : Names before seen) :
    e.fault? seen = none ↔ Flawless (before ++ [e]) := by
  rw [flawless_concat_iff, Option.eq_none_iff_forall_ne_some]
  simp only [ne_eq, fault?_eq_some_iff h, hbefore, true_and]

/-! ### All clients -/

/-- Nothing is reported after flawless clients exactly if the ones that follow are flawless too. -/
theorem clientsFault?_eq_none_iff (hbefore : Flawless before) (h : Names before seen) :
    clientsFault? seen es = none ↔ Flawless (before ++ es) := by
  induction es generalizing before seen with
  | nil => simpa [clientsFault?] using hbefore
  | cons e es ih =>
    rw [clientsFault?, Option.or_eq_none_iff, fault?_eq_none_iff hbefore h,
      List.append_cons before e es]
    constructor
    · rintro ⟨hflawless, hrest⟩
      exact (ih hflawless (h.concat e)).1 hrest
    · intro hall
      exact ⟨hall.of_append, (ih hall.of_append (h.concat e)).2 hall⟩

/-- What is reported after flawless clients is the first thing wrong with the first client that
    something is wrong with. -/
theorem clientsFault?_eq_some_iff (hbefore : Flawless before) (h : Names before seen) :
    clientsFault? seen es = some f ↔ ∃ passed e after, es = passed ++ e :: after ∧
      Flawless (before ++ passed) ∧ e.Wrong (before ++ passed) f := by
  induction es generalizing before seen with
  | nil => simp [clientsFault?]
  | cons e es ih =>
    rw [clientsFault?]
    constructor
    · intro hfault
      cases hfirst : e.fault? seen with
      | some g =>
        rw [hfirst] at hfault
        obtain rfl : g = f := Option.some.inj hfault
        exact ⟨[], e, es, rfl, (List.append_nil before).symm ▸ hbefore,
          (List.append_nil before).symm ▸ (fault?_eq_some_iff h).1 hfirst⟩
      | none =>
        rw [hfirst, Option.none_or] at hfault
        have hflawless := (fault?_eq_none_iff hbefore h).1 hfirst
        obtain ⟨passed, d, after, rfl, hpassed, hwrong⟩ := (ih hflawless (h.concat e)).1 hfault
        rw [← List.append_cons] at hpassed hwrong
        exact ⟨e :: passed, d, after, rfl, hpassed, hwrong⟩
    · rintro ⟨passed, d, after, heq, hpassed, hwrong⟩
      cases passed with
      | nil =>
        obtain ⟨rfl, rfl⟩ := List.cons.inj heq
        rw [List.append_nil] at hwrong
        rw [fault?_of_wrong h hwrong]
        rfl
      | cons p passed =>
        obtain ⟨rfl, rfl⟩ := List.cons.inj heq
        rw [List.append_cons] at hpassed hwrong
        have hflawless := hpassed.of_append
        rw [(fault?_eq_none_iff hbefore h).2 hflawless, Option.none_or]
        exact (ih hflawless (h.concat e)).2 ⟨passed, d, after, rfl, hpassed, hwrong⟩

/-! ### Configurations -/

/-- What is reported of a configuration: the first thing wrong with the first client that something is
    wrong with, and what is wrong with where traffic is recorded only if there is no such client. -/
inductive Reported (c : Config) : Fault → Prop where
  | client {before after : List ClientEntry} {e : ClientEntry} {f : Fault}
      (hclients : c.clients = before ++ e :: after) (hbefore : Flawless before)
      (hwrong : e.Wrong before f) : Reported c f
  | noStatsPath (hclients : Flawless c.clients) (henabled : c.stats.enabled = true)
      (hpath : c.stats.path = "") : Reported c .noStatsPath

theorem statsFault?_eq_none_iff (s : StatsEntry) :
    s.fault? = none ↔ (s.enabled = true → s.path ≠ "") := by
  rw [StatsEntry.fault?]
  simp

theorem statsFault?_eq_some_iff (s : StatsEntry) :
    s.fault? = some f ↔ (s.enabled = true ∧ s.path = "") ∧ f = .noStatsPath := by
  rw [StatsEntry.fault?, Option.ite_none_right_eq_some, Option.some_inj, String.isEmpty_iff,
    eq_comm (a := f)]

theorem fault?_eq_none_iff_valid (c : Config) : c.fault? = none ↔ c.Valid := by
  rw [fault?, Option.or_eq_none_iff, clientsFault?_eq_none_iff flawless_nil names_nil,
    statsFault?_eq_none_iff]
  exact ⟨fun ⟨hclients, hrecorded⟩ => ⟨hclients, hrecorded⟩, fun h => ⟨h.clients, h.recorded⟩⟩

theorem fault?_eq_some_iff_reported (c : Config) (f : Fault) : c.fault? = some f ↔ c.Reported f := by
  have hclient := @clientsFault?_eq_some_iff [] c.clients [] f flawless_nil names_nil
  rw [fault?, Option.or_eq_some_iff, hclient, clientsFault?_eq_none_iff flawless_nil names_nil,
    statsFault?_eq_some_iff]
  constructor
  · rintro (⟨before, e, after, hclients, hbefore, hwrong⟩ | ⟨hclients, ⟨henabled, hpath⟩, rfl⟩)
    · exact .client hclients hbefore hwrong
    · exact .noStatsPath hclients henabled hpath
  · rintro (⟨hclients, hbefore, hwrong⟩ | ⟨hclients, henabled, hpath⟩)
    · exact .inl ⟨_, _, _, hclients, hbefore, hwrong⟩
    · exact .inr ⟨hclients, ⟨henabled, hpath⟩, rfl⟩

/-! ### Choosing a client -/

/-- Among clients with different names each is the first with its own. -/
theorem find?_name (h : es.Pairwise fun d e => d.name ≠ e.name) (he : e ∈ es) :
    es.find? (·.name == e.name) = some e := by
  obtain ⟨before, after, rfl⟩ := List.append_of_mem he
  obtain ⟨-, -, hnew⟩ := List.pairwise_append.1 h
  refine List.find?_eq_some_iff_append.2 ⟨beq_self_eq_true _, before, after, rfl, fun d hd => ?_⟩
  simpa using hnew d hd e List.mem_cons_self

theorem choose_none_eq_ok_iff (c : Config) (e : ClientEntry) :
    c.choose none = .ok e ↔ c.clients = [e] := by
  obtain ⟨clients, stats⟩ := c
  match clients with
  | [] => simp [choose]
  | [only] => simp [choose]
  | _ :: _ :: _ => simp [choose]

/-- Which configurations are accepted, what is reported of the others, and how clients are found.

    A configuration is accepted exactly if all names are different and not blank, no address is blank, no
    timeout is zero and the file for the traffic has a path if traffic is recorded. Of any other one the
    first client counts that is not in order after those before it, and of its faults the first in the
    order blank name, repeated name, blank address, no timeout; that there is no path is reported only
    if all clients are in order. In an accepted configuration each client is found by its name. Without
    a name a client is chosen exactly if it is the only one. -/
theorem acceptance (c : Config) :
    (c.fault? = none ↔ c.Valid) ∧
    (∀ f, c.fault? = some f ↔ c.Reported f) ∧
    (c.fault? = none → ∀ e ∈ c.clients, c.client? e.name = some e ∧ c.choose (some e.name) = .ok e) ∧
    ∀ e, c.choose none = .ok e ↔ c.clients = [e] := by
  refine ⟨fault?_eq_none_iff_valid c, fault?_eq_some_iff_reported c, fun hnone e he => ?_,
    choose_none_eq_ok_iff c⟩
  have hvalid := (fault?_eq_none_iff_valid c).1 hnone
  have hfound : c.client? e.name = some e := find?_name hvalid.clients.distinct he
  exact ⟨hfound, by rw [choose, hfound]⟩

/-- A client on this machine. -/
def localEntry (name : String) : ClientEntry :=
  ⟨name, .qbittorrent, "http://localhost:8080", "", "", defaultTimeout⟩

/-- Two clients with different names are accepted; the second is found by its name, and none is chosen
    without one. -/
theorem acceptance_twoClients :
    let c : Config := ⟨[localEntry "a", localEntry "b"], .default⟩
    c.fault? = none ∧ c.Valid ∧ c.client? "b" = some (localEntry "b") ∧
      ¬ ∃ e, c.choose none = .ok e := by
  intro c
  obtain ⟨hvalid, -, hfound, hchosen⟩ := acceptance c
  have hnone : c.fault? = none := by decide
  refine ⟨hnone, hvalid.1 hnone, (hfound hnone (localEntry "b") (by simp [c])).1, ?_⟩
  rintro ⟨e, he⟩
  have hone := (hchosen e).1 he
  cases hone

/-- A repeated name is reported before the blank address of a client after it and the missing path. -/
example : Config.fault? ⟨[localEntry "a", { localEntry "a" with timeoutSeconds := 0 },
    { localEntry "b" with url := " " }], ⟨true, ""⟩⟩ = some (.repeatedName "a") := by
  decide

end Seedkeeper.Config
