import Seedkeeper.Proofs.Batch.InMemory
import Seedkeeper.Proofs.Traffic.TornLog

/-!
What a batch takes off a client in memory, and what it records of that.

Attempts to delete take torrents off the client, and `removals` are these torrents in batch order. They
are the torrents that are gone in the end, each once (`removals_perm`), whatever failed. A batch that
records appends one event for each of them, in the same order, and nothing else (`log_apply`): what it
knows of a target when it acts, from the listing or from a lookup, is what the client has at that moment,
and the clock is read once for each event (`departures`).
A batch that does not record leaves the log alone.
-/

namespace Seedkeeper.Batch

open Calendar (Clock)
open Client (Action Backend Memory Run)
open Traffic (Log)

/-! ### Batches that do not record -/

section AnyClient

variable {σ : Type} [Backend σ] {plan : Plan}

theorem log_step_of_not_records (hrecords : plan.records = false) (p : Progress σ) (target : Target) :
    (step plan p target).log = p.log := by
  have hclose : ∀ name seen, recordClose name plan seen p.clock p.log = (p.log, p.clock) := by
    intro name seen
    simp only [recordClose, hrecords]
  rw [step]
  split
  · rfl
  · split
    · rfl
    · rw [hclose]

theorem log_foldl_step_of_not_records (hrecords : plan.records = false) (ts : List Target)
    (p : Progress σ) : (ts.foldl (step plan) p).log = p.log := by
  induction ts generalizing p with
  | nil => rfl
  | cons t ts ih => rw [List.foldl_cons, ih, log_step_of_not_records hrecords]

/-- A batch that does not record leaves the log as it was. -/
theorem log_apply_of_not_records {action : Action} {log : Option Log}
    (hrecords : records action log = false) (selection : Selection) (clock : Clock) (s : σ) :
    (apply action selection clock s log).2.2 = log := by
  rw [apply]
  split
  · rfl
  · exact log_foldl_step_of_not_records hrecords _ _

end AnyClient

/-! ### One attempt -/

variable {looks : Bool} {action : Action} {m n : Memory} {h : String} {hs : List String}
  {t : Torrent}

/-- All that an attempt can come to. -/
theorem from_attempt_cases (looks : Bool) (action : Action) (m : Memory) (h : String) :
    (∃ e, (attempt looks action h).from m = (.error e, m.settled)) ∨
    (attempt looks action h).from m = (.ok (), took action h m) := by
  cases hpending : m.pending with
  | some e => exact .inl ⟨e, from_attempt_of_pending hpending⟩
  | none =>
    by_cases hrefuses : Refuses m looks h
    · rw [Memory.settled_of_ready hpending]
      exact .inl (from_attempt_of_refuses action hpending hrefuses)
    · exact .inr (from_attempt hpending hrefuses)

theorem name_attempt (looks : Bool) (action : Action) (m : Memory) (h : String) :
    ((attempt looks action h).from m).2.name = m.name := by
  rcases from_attempt_cases looks action m h with ⟨e, hattempt⟩ | hattempt
  · rw [hattempt]
    rfl
  · rw [hattempt, took_eq]

theorem pending_attempt (hready : m.pending = none) (h : String) :
    ((attempt looks action h).from m).2.pending = none := by
  rcases from_attempt_cases looks action m h with ⟨e, hattempt⟩ | hattempt
  · rw [hattempt]
    rfl
  · rw [hattempt, pending_took, hready]

/-- To attempt a deletion makes a choice among the torrents, and those with other info hashes stay. -/
theorem torrents_attempt (looks : Bool) (hdelete : action.isDelete = true) (m : Memory) (h : String) :
    ∃ stays : Torrent → Bool, (∀ t, t.infoHash ≠ h → stays t = true) ∧
      ((attempt looks action h).from m).2.torrents = m.torrents.filter stays := by
  rcases from_attempt_cases looks action m h with ⟨e, hattempt⟩ | hattempt
  · rw [hattempt]
    exact ⟨fun _ => true, fun _ _ => rfl, (List.filter_eq_self.2 fun _ _ => rfl).symm⟩
  · rw [hattempt, torrents_took, Memory.torrents_acted_of_delete hdelete]
    exact ⟨_, fun t hother => by simpa using hother, rfl⟩

theorem mem_attempt (hdelete : action.isDelete = true) (ht : t ∈ m.torrents) (hother : t.infoHash ≠ h) :
    t ∈ ((attempt looks action h).from m).2.torrents := by
  obtain ⟨stays, hothers, hstays⟩ := torrents_attempt looks hdelete m h
  rw [hstays]
  exact List.mem_filter.2 ⟨ht, hothers t hother⟩

theorem distinct_attempt (looks : Bool) (hdelete : action.isDelete = true)
    (hdistinct : m.infoHashes.Nodup) (h : String) :
    ((attempt looks action h).from m).2.infoHashes.Nodup := by
  obtain ⟨stays, _, hstays⟩ := torrents_attempt looks hdelete m h
  rw [Memory.infoHashes, hstays]
  exact hdistinct.sublist (List.filter_sublist.map _)

/-- Where a target is looked up first, only a torrent that is there is acted on. -/
theorem mem_of_attempt (hattempt : (attempt true action h).from m = (.ok (), n)) :
    h ∈ m.infoHashes := by
  refine Decidable.byContradiction fun hmissing => ?_
  cases hpending : m.pending with
  | some e =>
    rw [from_attempt_of_pending hpending] at hattempt
    cases hattempt
  | none =>
    have hrefuses : Refuses m true h := .inr ⟨rfl, hmissing⟩
    obtain ⟨e, herror⟩ := from_attempt_of_refuses action hpending hrefuses
    rw [herror] at hattempt
    cases hattempt

/-! ### What attempts take off a client -/

/-- The torrents that were on a client and are not any more. -/
def gone (before after : Memory) : List Torrent := before.torrents.filter (· ∉ after.torrents)

/-- Where all info hashes are different, each tells its torrent. -/
theorem filter_infoHash_eq (hdistinct : m.infoHashes.Nodup) (ht : t ∈ m.torrents) :
    m.torrents.filter (·.infoHash = t.infoHash) = [t] := by
  obtain ⟨before, after, hlist⟩ := List.append_of_mem ht
  rw [Memory.infoHashes, hlist, List.map_append, List.map_cons] at hdistinct
  obtain ⟨_, hafter, hbefore⟩ := List.nodup_append.1 hdistinct
  have hnone : ∀ us : List Torrent, (∀ u ∈ us, u.infoHash ≠ t.infoHash) →
      us.filter (·.infoHash = t.infoHash) = [] := fun us hus =>
    List.filter_eq_nil_iff.2 fun u hu => by simpa using hus u hu
  have hbefore : ∀ u ∈ before, u.infoHash ≠ t.infoHash := fun u hu =>
    hbefore _ (List.mem_map_of_mem hu) _ List.mem_cons_self
  have hafter : ∀ u ∈ after, u.infoHash ≠ t.infoHash := fun u hu hsame =>
    (List.nodup_cons.1 hafter).1 (hsame ▸ List.mem_map_of_mem hu)
  rw [hlist, List.filter_append, List.filter_cons_of_pos (by simp), hnone before hbefore,
    hnone after hafter, List.nil_append]

/-- The torrents that attempts take off a client, in batch order, each as it stands just before. -/
def removals (looks : Bool) (action : Action) : List String → Memory → List Torrent
  | [], _ => []
  | h :: hs, m =>
    let next := ((attempt looks action h).from m).2
    gone m next ++ removals looks action hs next

theorem gone_of_torrents_eq (h : n.torrents = m.torrents) : gone m n = [] := by
  rw [gone, h]
  exact List.filter_eq_nil_iff.2 fun t ht => by simpa using ht

/-- A deletion that succeeds takes off what has its info hash. -/
theorem gone_took (hdelete : action.isDelete = true) (h : String) (m : Memory) :
    gone m (took action h m) = m.torrents.filter (·.infoHash = h) := by
  rw [gone, torrents_took, Memory.torrents_acted_of_delete hdelete]
  exact List.filter_congr fun t ht => by simp [ht]

theorem attempts_subset (looks : Bool) (hdelete : action.isDelete = true) (m : Memory)
    (hs : List String) :
    (attempts looks action hs m).2.torrents ⊆ m.torrents := by
  induction hs generalizing m with
  | nil => exact List.Subset.refl _
  | cons h hs ih =>
    obtain ⟨stays, _, hstays⟩ := torrents_attempt looks hdelete m h
    exact List.Subset.trans (ih _) (hstays ▸ List.filter_subset_self _)

/-- What attempts take off a client is what is gone after them, each torrent once. -/
theorem removals_perm (hdelete : action.isDelete = true) (m : Memory) (hs : List String) :
    (removals looks action hs m).Perm (gone m (attempts looks action hs m).2) := by
  induction hs generalizing m with
  | nil =>
    rw [attempts, gone_of_torrents_eq rfl]
    exact List.Perm.nil
  | cons h hs ih =>
    obtain ⟨stays, _, hstays⟩ := torrents_attempt looks hdelete m h
    have hrest := ih ((attempt looks action h).from m).2
    have hlater := attempts_subset looks hdelete ((attempt looks action h).from m).2 hs
    rw [removals, attempts]
    generalize (attempts looks action hs ((attempt looks action h).from m).2).2 = last at hrest hlater ⊢
    -- what is gone at the end either stayed in the first attempt or went in it
    have hstayed : gone ((attempt looks action h).from m).2 last = (gone m last).filter stays := by
      rw [gone, hstays, gone, List.filter_filter, List.filter_filter]
      exact List.filter_congr fun t _ => Bool.and_comm _ _
    have hwent : gone m ((attempt looks action h).from m).2 = (gone m last).filter (!stays ·) := by
      rw [gone, gone, List.filter_filter]
      refine List.filter_congr fun t ht => ?_
      have hkept : t ∈ last.torrents → stays t = true := fun hlast =>
        (List.mem_filter.1 (hstays ▸ hlater hlast)).2
      cases hstay : stays t with
      | true => simp [hstays, ht, hstay]
      | false =>
        have hnot : t ∉ last.torrents := fun hlast => by
          rw [hkept hlast] at hstay
          cases hstay
        simp [hstays, hstay, hnot]
    rw [hwent]
    refine (hrest.append_left _).trans ?_
    rw [hstayed]
    exact List.perm_append_comm.trans (List.filter_append_perm stays (gone m last))

/-- Where every target is looked up first, each one that succeeds takes its torrent off the client. -/
theorem infoHashes_removals (hdelete : action.isDelete = true) (hdistinct : m.infoHashes.Nodup)
    (hs : List String) :
    (removals true action hs m).map (·.infoHash) = (attempts true action hs m).1.done := by
  induction hs generalizing m with
  | nil => rfl
  | cons h hs ih =>
    have hrest := ih (distinct_attempt true hdelete hdistinct h)
    rw [removals, attempts, List.map_append, hrest]
    rcases from_attempt_cases true action m h with ⟨e, hattempt⟩ | hattempt
    · rw [hattempt, gone_of_torrents_eq (m := m) (n := m.settled) rfl]
      rfl
    · obtain ⟨t, ht, rfl⟩ := List.mem_map.1 (mem_of_attempt hattempt)
      rw [hattempt, gone_took hdelete, filter_infoHash_eq hdistinct ht]
      rfl

/-! ### Looking first -/

/-- On a client that has no failure pending, to look first at a torrent that is there changes nothing. -/
theorem attempt_looking (action : Action) (hready : m.pending = none) (hon : h ∈ m.infoHashes) :
    ((attempt true action h).from m).1.isOk = ((attempt false action h).from m).1.isOk ∧
      ((attempt true action h).from m).2 = ((attempt false action h).from m).2 := by
  have hsame : Refuses m true h ↔ Refuses m false h := by simp [Refuses, hon]
  by_cases hrefuses : Refuses m false h
  · obtain ⟨_, hfirst⟩ := from_attempt_of_refuses action hready (hsame.2 hrefuses)
    obtain ⟨_, hsecond⟩ := from_attempt_of_refuses action hready hrefuses
    rw [hfirst, hsecond]
    exact ⟨rfl, rfl⟩
  · rw [from_attempt hready hrefuses, from_attempt hready (hsame.not.2 hrefuses)]
    exact ⟨rfl, rfl⟩

/-- Nor does it in a batch of deletions, if the torrents are different ones: those that are still to be
    looked at are not the ones that are gone. -/
theorem attempts_looking (hdelete : action.isDelete = true) (hready : m.pending = none)
    (hnodup : hs.Nodup) (hon : ∀ h ∈ hs, h ∈ m.infoHashes) :
    attempts true action hs m = attempts false action hs m ∧
      removals true action hs m = removals false action hs m := by
  induction hs generalizing m with
  | nil => exact ⟨rfl, rfl⟩
  | cons h hs ih =>
    obtain ⟨hnew, hnodup⟩ := List.nodup_cons.1 hnodup
    obtain ⟨hanswer, hafter⟩ := attempt_looking action hready (hon h List.mem_cons_self)
    have hon' : ∀ g ∈ hs, g ∈ ((attempt false action h).from m).2.infoHashes := by
      intro g hg
      obtain ⟨t, ht, rfl⟩ := List.mem_map.1 (hon g (List.mem_cons_of_mem h hg))
      exact List.mem_map_of_mem (mem_attempt hdelete ht fun hsame => hnew (hsame ▸ hg))
    obtain ⟨hattempts, hremovals⟩ := ih (pending_attempt hready h) hnodup hon'
    rw [attempts, attempts, removals, removals, hanswer, hafter]
    exact ⟨by rw [hattempts], by rw [hremovals]⟩

/-! ### What is recorded of a target -/

variable {plan : Plan} {target : Target} {ts : List Target}

/-- Torrents that are removed one after the other, each with the time that a clock shows then. -/
def departures (clock : Clock) (ts : List Torrent) : List Departure :=
  ts.mapIdx fun i t => ⟨clock.shows i, t⟩

theorem departures_append (clock : Clock) (ts us : List Torrent) :
    departures clock (ts ++ us) = departures clock ts ++ departures (clock.after ts.length) us :=
  List.mapIdx_append

theorem infoHashes_departures (clock : Clock) (ts : List Torrent) :
    (departures clock ts).map (·.torrent.infoHash) = ts.map (·.infoHash) := by
  refine List.ext_getElem ?_ fun i _ _ => ?_
  · rw [List.length_map, departures, List.length_mapIdx, List.length_map]
  · simp only [departures, List.getElem_map, List.getElem_mapIdx]

theorem departures_eq_nil_iff {clock : Clock} {ts : List Torrent} :
    departures clock ts = [] ↔ ts = [] := List.mapIdx_eq_nil_iff

/-- What is known of a target beforehand is true of the client. -/
def Target.TrueOf (m : Memory) (target : Target) : Prop :=
  ∀ t, target.2 = some t → t ∈ m.torrents ∧ t.infoHash = target.1

/-- All that looking at a target can come to. -/
theorem from_snapshot_cases (hrecords : plan.records = true) (htrue : target.TrueOf m) :
    (∃ e, (snapshot plan target : Run Memory (Option Torrent)).from m = (.error e, m.settled)) ∨
    ∃ t ∈ m.torrents, t.infoHash = target.1 ∧ (snapshot plan target).from m = (.ok (some t), m) := by
  obtain ⟨h, seen⟩ := target
  cases seen with
  | some t =>
    obtain ⟨ht, hhash⟩ := htrue t rfl
    exact .inr ⟨t, ht, hhash, rfl⟩
  | none =>
    have hsnapshot : snapshot plan (h, none)
        = (Backend.torrent h >>= fun t => pure (some t) : Run Memory (Option Torrent)) := by
      rw [snapshot]
      simp only [hrecords, if_true, map_eq_pure_bind]
    rw [hsnapshot, Run.from_bind]
    rcases Memory.from_torrent_cases m h with ⟨e, hlookup⟩ | ⟨t, ht, hhash, hlookup⟩
    · exact .inl ⟨e, by rw [hlookup]⟩
    · exact .inr ⟨t, ht, hhash, by rw [hlookup]; rfl⟩

/-- A step records what it takes off the client, and reads the clock as often as it records. -/
theorem log_step (hrecords : plan.records = true) (hdelete : plan.action.isDelete = true)
    (hdistinct : m.infoHashes.Nodup) (htrue : target.TrueOf m) (l : Log) (failed : Nat) (clock : Clock) :
    let removed := gone m ((attempt (looksUp plan target) plan.action target.1).from m).2
    let p := step plan ⟨m, some l, failed, clock⟩ target
    p.log = some (l.appendAll ((departures clock removed).map (closeEvent m.name plan.action))).2 ∧
      p.clock = clock.after removed.length := by
  rw [attempt_eq, Run.from_bind, step]
  rcases from_snapshot_cases hrecords htrue with ⟨e, hsnapshot⟩ | ⟨t, ht, hhash, hsnapshot⟩
  · simp only [hsnapshot, gone_of_torrents_eq (m := m) (n := m.settled) rfl]
    exact ⟨rfl, rfl⟩
  · simp only [hsnapshot]
    rcases Memory.from_act_cases plan.action m target.1 with ⟨e, hact⟩ | hact
    · simp only [hact, gone_of_torrents_eq (m := m) (n := m.settled) rfl]
      exact ⟨rfl, rfl⟩
    · change _ = (_, took plan.action target.1 m) at hact
      have hname : (took plan.action target.1 m).name = m.name := by rw [took_eq]
      have hclose : recordClose m.name plan (some t) clock (some l)
          = (some (l.append (closeEvent m.name plan.action ⟨clock.now, t⟩)).2, clock.after 1) := by
        simp only [recordClose, hrecords, Log.log_record]
      have hremoved : gone m (took plan.action target.1 m) = [t] := by
        rw [gone_took hdelete, ← hhash, filter_infoHash_eq hdistinct ht]
      simp only [hact, hremoved]
      change (recordClose (took plan.action target.1 m).name plan (some t) clock (some l)).1 = _ ∧
        (recordClose (took plan.action target.1 m).name plan (some t) clock (some l)).2 = _
      rw [hname, hclose]
      exact ⟨rfl, rfl⟩

/-! ### What is recorded of a batch -/

/-- What is known of targets is true of the client, and stays so while those before them are deleted. -/
structure Known (m : Memory) (ts : List Target) : Prop where
  holds : ∀ x ∈ ts, x.TrueOf m
  apart : ts.Pairwise fun x y => y.2.isSome → y.1 ≠ x.1

theorem Known.attempt (hknown : Known m (target :: ts)) (hdelete : action.isDelete = true) :
    Known ((attempt looks action target.1).from m).2 ts := by
  obtain ⟨holds, hapart⟩ := hknown
  obtain ⟨hothers, hrest⟩ := List.pairwise_cons.1 hapart
  refine ⟨fun x hx t ht => ?_, hrest⟩
  obtain ⟨hlisted, hhash⟩ := holds x (List.mem_cons_of_mem _ hx) t ht
  have hother : t.infoHash ≠ target.1 := hhash ▸ hothers x hx (by rw [ht]; rfl)
  exact ⟨mem_attempt hdelete hlisted hother, hhash⟩

theorem known_hashes (m : Memory) (hs : List String) : Known m (hs.map (·, none)) := by
  refine ⟨fun x hx t ht => ?_, ?_⟩
  · obtain ⟨y, _, rfl⟩ := List.mem_map.1 hx
    cases ht
  · rw [List.pairwise_map]
    exact List.pairwise_of_forall fun _ _ h => by cases h

theorem known_listed (hdistinct : m.infoHashes.Nodup) :
    Known m (m.torrents.map fun t => (t.infoHash, some t)) := by
  refine ⟨fun x hx t ht => ?_, ?_⟩
  · obtain ⟨y, hy, rfl⟩ := List.mem_map.1 hx
    obtain rfl := Option.some.inj ht
    exact ⟨hy, rfl⟩
  · rw [List.pairwise_map]
    exact (List.pairwise_map.1 hdistinct).imp fun hne _ => hne.symm

/-- Steps in a row record what they take off the client, in order. -/
theorem log_foldl_step (hrecords : plan.records = true) (hdelete : plan.action.isDelete = true)
    (hlooks : ∀ x ∈ ts, looksUp plan x = looks) (hdistinct : m.infoHashes.Nodup) (hknown : Known m ts)
    (l : Log) (failed : Nat) (clock : Clock) :
    (ts.foldl (step plan) ⟨m, some l, failed, clock⟩).log = some (l.appendAll
      ((departures clock (removals looks plan.action (ts.map (·.1)) m)).map
        (closeEvent m.name plan.action))).2 := by
  induction ts generalizing m l failed clock with
  | nil => rfl
  | cons x ts ih =>
    obtain ⟨hlog, hclock⟩ :=
      log_step hrecords hdelete hdistinct (hknown.holds x List.mem_cons_self) l failed clock
    obtain ⟨hclient, -⟩ := step_eq plan ⟨m, some l, failed, clock⟩ x
    rw [hlooks x List.mem_cons_self] at hlog hclock hclient
    rw [List.foldl_cons]
    generalize step plan ⟨m, some l, failed, clock⟩ x = p at hlog hclock hclient ⊢
    obtain ⟨client, after, counted, later⟩ := p
    obtain rfl : client = _ := hclient
    obtain rfl : after = _ := hlog
    obtain rfl : later = _ := hclock
    rw [ih (fun y hy => hlooks y (List.mem_cons_of_mem x hy))
        (distinct_attempt looks hdelete hdistinct x.1) (hknown.attempt hdelete),
      name_attempt, List.map_cons, removals, departures_append, List.map_append, Log.appendAll_append]

variable {selection : Selection} {log : Option Log}

/-- All that a batch can come to, its log apart. -/
theorem apply_cases (action : Action) (selection : Selection) (clock : Clock) (m : Memory)
    (log : Option Log) :
    let attempted := attempts (looksFor action log selection) action (targetHashes m selection) m
    (∃ e, selection = .all ∧ m.pending = some e ∧
      apply action selection clock m log = (.error e, m.settled, log)) ∨
    (selection = .all → m.pending = none) ∧ ∃ after, apply action selection clock m log
      = (.ok ⟨(targetHashes m selection).length, attempted.1.failures⟩, attempted.2, after) := by
  cases selection with
  | all =>
    cases hpending : m.pending with
    | some e => exact .inl ⟨e, rfl, rfl, apply_unlisted (Memory.from_torrents_of_pending hpending)⟩
    | none =>
      obtain ⟨after, hafter⟩ := apply_listed action clock log (Memory.from_torrents hpending)
      refine .inr ⟨fun _ => rfl, after, hafter.trans ?_⟩
      rw [targetHashes, Memory.infoHashes, List.length_map]
      rfl
  | hashes hs => exact .inr ⟨(by cases ·), apply_hashes action hs clock m log⟩

/-- A batch that records appends an event for each torrent that it takes off the client, in order. -/
theorem log_apply (hdistinct : m.infoHashes.Nodup) (hrecords : records action log = true)
    (hready : selection = .all → m.pending = none) (clock : Clock) :
    (apply action selection clock m log).2.2 = log.map fun l => (l.appendAll
      ((departures clock
        (removals (looksFor action log selection) action (targetHashes m selection) m)).map
          (closeEvent m.name action))).2 := by
  obtain ⟨hdelete, havailable⟩ := Bool.and_eq_true_iff.1 hrecords
  obtain ⟨l, rfl, -⟩ := (Option.any_eq_true _ _).1 havailable
  have hplan : (⟨action, action.isDelete && (some l).any Log.isAvailable⟩ : Plan) = ⟨action, true⟩ :=
    congrArg (Plan.mk action) hrecords
  cases selection with
  | all =>
    have htargets : (targets .all : Run Memory (List Target)).from m
        = (.ok (m.torrents.map fun t => (t.infoHash, some t)), m) := by
      rw [targets, Run.from_bind_ok (Memory.from_torrents (hready rfl))]
      rfl
    have hlooks : ∀ x ∈ m.torrents.map fun t => ((t.infoHash, some t) : Target),
        looksUp ⟨action, true⟩ x = false := by simp [looksUp]
    simp only [apply, htargets, hplan]
    rw [log_foldl_step rfl hdelete hlooks hdistinct (known_listed hdistinct), List.map_map]
    rfl
  | hashes hs =>
    have htargets : (targets (.hashes hs) : Run Memory (List Target)).from m
        = (.ok (hs.map (·, none)), m) := rfl
    have hlooks : ∀ x ∈ hs.map fun h => ((h, none) : Target),
        looksUp ⟨action, true⟩ x = true := by simp [looksUp]
    simp only [apply, htargets, hplan]
    rw [log_foldl_step rfl hdelete hlooks hdistinct (known_hashes m hs), List.map_map]
    simp only [looksFor, hrecords, Function.comp_def, List.map_id', targetHashes, Option.map_some]

end Seedkeeper.Batch
