import Seedkeeper.Proofs.Batch.Attempts
import Seedkeeper.Proofs.Client.Actions
import Seedkeeper.Proofs.Client.Memory
import Seedkeeper.Proofs.Selection.Words

/-!
Batches on a client in memory.

A target fails if the pending failure meets it, if its info hash is one that fails, or if it is looked up
and not on the client, where it may have been until the batch removed it. All others succeed (`able`).
A batch leaves the client as if the action had been done once to each torrent that a target succeeded for,
with a mutation in the record for each such target, and nothing else changed (`apply_memory`).
-/

namespace Seedkeeper.Batch

open Calendar (Clock)
open Client (Action Backend Error Filters Memory Run)
open Selection (firstOccurrences firstOccurrences_cons)
open Traffic (Log)

variable {looks : Bool} {action : Action} {m : Memory} {h : String} {hs : List String}

/-! ### One target -/

/-- Whether a client that has no failure pending fails for a target. -/
def Refuses (m : Memory) (looks : Bool) (h : String) : Prop :=
  h ∈ m.failing ∨ (looks = true ∧ h ∉ m.infoHashes)

/-- A client after a target that succeeded. -/
def took (action : Action) (h : String) (m : Memory) : Memory :=
  Memory.acted action [h] (m.noted (.act action [h]))

theorem took_eq (action : Action) (h : String) (m : Memory) :
    took action h m = { m with
      torrents := (Memory.acted action [h] m).torrents
      calls := m.calls ++ [.act action [h]] } := by
  rw [took, Memory.acted_eq,
    Memory.torrents_acted_congr action [h] (m := m.noted _) (n := m) rfl]
  rfl

theorem failing_took (action : Action) (h : String) (m : Memory) :
    (took action h m).failing = m.failing := by
  rw [took_eq]

theorem pending_took (action : Action) (h : String) (m : Memory) :
    (took action h m).pending = m.pending := by
  rw [took_eq]

theorem torrents_took (action : Action) (h : String) (m : Memory) :
    (took action h m).torrents = (Memory.acted action [h] m).torrents := by
  rw [took_eq]

theorem from_attempt_of_pending {e : Error} (hpending : m.pending = some e) :
    (attempt looks action h).from m = (.error e, m.settled) := by
  cases looks with
  | false => exact Memory.from_act_of_pending hpending
  | true =>
    change (Backend.torrent h >>= fun _ => Backend.act action [h] : Run Memory Unit).from m = _
    rw [Run.from_bind, Memory.from_torrent_of_pending hpending]

theorem from_attempt_of_refuses (action : Action) (hready : m.pending = none)
    (hrefuses : Refuses m looks h) :
    ∃ e, (attempt looks action h).from m = (.error e, m) := by
  cases looks with
  | false =>
    have hfail : h ∈ m.failing := hrefuses.resolve_right (by simp)
    exact ⟨_, Memory.from_act_of_failing hready hfail⟩
  | true =>
    change ∃ e, (Backend.torrent h >>= fun _ => Backend.act action [h] : Run Memory Unit).from m = _
    by_cases hon : h ∈ m.infoHashes
    · obtain ⟨t, _, _, hfound⟩ := Memory.from_torrent_of_mem hready hon
      have hfail : h ∈ m.failing := hrefuses.resolve_right fun hmissing => hmissing.2 hon
      rw [Run.from_bind_ok hfound]
      exact ⟨_, Memory.from_act_of_failing hready hfail⟩
    · rw [Run.from_bind, Memory.from_torrent_of_notMem hready hon]
      exact ⟨_, rfl⟩

theorem from_attempt (hready : m.pending = none) (haccepts : ¬ Refuses m looks h) :
    (attempt looks action h).from m = (.ok (), took action h m) := by
  obtain ⟨hwilling, hon⟩ := not_or.1 haccepts
  cases looks with
  | false => exact Memory.from_act hready hwilling
  | true =>
    obtain ⟨t, _, _, hfound⟩ := Memory.from_torrent_of_mem hready (by simpa using hon)
    change (Backend.torrent h >>= fun _ => Backend.act action [h] : Run Memory Unit).from m = _
    rw [Run.from_bind_ok hfound]
    exact Memory.from_act hready hwilling

/-! ### Which targets succeed -/

/-- The targets of a batch that succeed. A pending failure is for the first one. -/
def able (looks : Bool) (m : Memory) (hs : List String) : List String :=
  let tried := if m.pending.isSome then hs.tail else hs
  if looks then firstOccurrences (tried.filter fun h => h ∉ m.failing ∧ h ∈ m.infoHashes)
  else tried.filter (· ∉ m.failing)

theorem able_nil (looks : Bool) (m : Memory) : able looks m [] = [] := by
  cases looks <;> simp [able, firstOccurrences]

theorem able_of_refuses (hready : m.pending = none) (hrefuses : Refuses m looks h) :
    able looks m (h :: hs) = able looks m hs := by
  by_cases hfail : h ∈ m.failing
  · simp [able, hready, hfail]
  · obtain ⟨rfl, hmissing⟩ := hrefuses.resolve_left hfail
    simp [able, hready, hfail, hmissing]

theorem mem_infoHashes_took (hdelete : action.isDelete = true) (g : String) :
    g ∈ (took action h m).infoHashes ↔ g ≠ h ∧ g ∈ m.infoHashes := by
  rw [Memory.infoHashes, took, Memory.torrents_acted_of_delete hdelete, Memory.infoHashes]
  constructor
  · intro hg
    obtain ⟨t, ht, rfl⟩ := List.mem_map.1 hg
    obtain ⟨hlisted, hother⟩ := List.mem_filter.1 ht
    exact ⟨by simpa using hother, List.mem_map.2 ⟨t, hlisted, rfl⟩⟩
  · rintro ⟨hother, hg⟩
    obtain ⟨t, hlisted, rfl⟩ := List.mem_map.1 hg
    exact List.mem_map.2 ⟨t, List.mem_filter.2 ⟨hlisted, by simpa using hother⟩, rfl⟩

/-- Of the targets after one that succeeded, those that are looked up must be others. -/
theorem able_cons (hdelete : looks = true → action.isDelete = true) (hready : m.pending = none)
    (haccepts : ¬ Refuses m looks h) :
    able looks m (h :: hs) = h :: able looks (took action h m) hs := by
  obtain ⟨hwilling, hon⟩ := not_or.1 haccepts
  cases looks with
  | false => simp [able, hready, pending_took, failing_took, hwilling]
  | true =>
    have hmem : h ∈ m.infoHashes := by simpa using hon
    have hlater : ∀ g, (g ∉ m.failing ∧ g ∈ (took action h m).infoHashes) ↔
        (g ∉ m.failing ∧ g ∈ m.infoHashes) ∧ g ≠ h := by
      intro g
      rw [mem_infoHashes_took (hdelete rfl), and_assoc, and_comm (a := g ≠ h)]
    simp only [able, hready, pending_took, failing_took, Option.isSome_none, Bool.false_eq_true,
      if_false, if_true, hlater]
    rw [List.filter_cons_of_pos (by simp [hwilling, hmem]), firstOccurrences_cons, List.filter_filter]
    simp [Bool.and_comm]

/-! ### All targets -/

/-- A client after targets that succeeded: each of them is done once and stands in the record. -/
def tookAll (action : Action) (hs : List String) (m : Memory) : Memory :=
  { m with
    torrents := (Memory.acted action hs m).torrents
    calls := m.calls ++ hs.map fun h => .act action [h] }

theorem tookAll_nil (action : Action) (m : Memory) : tookAll action [] m = m := by
  rw [tookAll, Memory.torrents_acted_nil, List.map_nil, List.append_nil]

theorem tookAll_cons (action : Action) (h : String) (hs : List String) (m : Memory) :
    tookAll action (h :: hs) m = tookAll action hs (took action h m) := by
  rw [tookAll, tookAll, Memory.torrents_acted_cons,
    Memory.torrents_acted_congr action hs (torrents_took action h m).symm, took_eq,
    List.map_cons, List.append_assoc]
  rfl

/-- What becomes of targets on a client that has no failure pending. -/
theorem attempts_of_ready (hdelete : looks = true → action.isDelete = true)
    (hready : m.pending = none) (hs : List String) :
    let attempted := attempts looks action hs m
    attempted.1.done = able looks m hs ∧ attempted.2 = tookAll action (able looks m hs) m := by
  -- the client differs from step to step, since a target that was removed is not found again
  induction hs generalizing m with
  | nil =>
    rw [able_nil, tookAll_nil]
    exact ⟨rfl, rfl⟩
  | cons h hs ih =>
    by_cases hrefuses : Refuses m looks h
    · obtain ⟨e, hattempt⟩ := from_attempt_of_refuses action hready hrefuses
      rw [attempts, hattempt, able_of_refuses hready hrefuses]
      exact ih hready
    · obtain ⟨hdone, hafter⟩ := ih (m := took action h m) (by rw [pending_took, hready])
      rw [attempts, from_attempt hready hrefuses, able_cons hdelete hready hrefuses, tookAll_cons]
      exact ⟨congrArg (h :: ·) hdone, hafter⟩

theorem able_cons_of_pending {e : Error} (hpending : m.pending = some e) :
    able looks m (h :: hs) = able looks m.settled hs := by
  rw [able, able, hpending]
  rfl

theorem tookAll_settled (action : Action) (hs : List String) (m : Memory) :
    tookAll action hs m.settled = { tookAll action hs m with pending := none } := by
  rw [tookAll, tookAll, Memory.torrents_acted_congr action hs (m := m.settled) (n := m) rfl]
  rfl

/-- What becomes of targets on any client. -/
theorem attempts_eq (hdelete : looks = true → action.isDelete = true) (m : Memory)
    (hs : List String) :
    let attempted := attempts looks action hs m
    attempted.1.done = able looks m hs ∧ attempted.2 = { tookAll action (able looks m hs) m with
      pending := if hs = [] then m.pending else none } := by
  cases hpending : m.pending with
  | none =>
    obtain ⟨hdone, hafter⟩ := attempts_of_ready hdelete hpending hs
    refine ⟨hdone, hafter.trans ?_⟩
    rw [ite_self, tookAll, hpending]
  | some e =>
    cases hs with
    | nil =>
      rw [able_nil, tookAll_nil, if_pos rfl, ← hpending]
      exact ⟨rfl, rfl⟩
    | cons h hs =>
      -- the first target is lost to the pending failure, and none is pending for the others
      have hready : m.settled.pending = none := rfl
      rw [attempts, from_attempt_of_pending hpending, able_cons_of_pending hpending,
        if_neg (List.cons_ne_nil h hs), ← tookAll_settled]
      exact attempts_of_ready hdelete hready hs

/-! ### Batches -/

/-- The targets of a batch. -/
def targetHashes (m : Memory) : Selection → List String
  | .all => m.infoHashes
  | .hashes hs => hs

/-- Whether a batch looks its targets up: it deletes explicit info hashes, and there is a log to record
    them in. -/
def looksFor (action : Action) (log : Option Log) : Selection → Bool
  | .all => false
  | .hashes _ => records action log

/-- What a batch on a client in memory amounts to. -/
structure Account (action : Action) (looks : Bool) (hs : List String) (m m' : Memory) (r : Report)
    (journal : Journal) : Prop where
  /-- The targets were attempted one after the other, whatever became of those before. -/
  attempted : attempts looks action hs m = (journal, m')
  once : journal.map (·.1) = hs
  total : r.total = hs.length
  failed : r.failed = journal.failures
  /-- Which targets succeeded can be told beforehand. -/
  done : journal.done = able looks m hs
  calls : m'.calls = m.calls ++ journal.done.map fun h => .act action [h]
  removed : action.isDelete = true → m'.torrents = m.torrents.filter (·.infoHash ∉ journal.done)
  changed : action.isDelete = false → List.Forall₂ (fun t u =>
    if t.infoHash ∈ journal.done then action.Makes t u else u = t) m.torrents m'.torrents
  /-- Nothing else is touched, but a failure that was pending has met the first target. -/
  rest : m' = { m with
    torrents := m'.torrents
    calls := m'.calls
    pending := if hs = [] then m.pending else none }

/-- Attempts account for themselves. -/
theorem account_attempts (looks : Bool) (action : Action)
    (hdelete : looks = true → action.isDelete = true) (m : Memory) (hs : List String) :
    let attempted := attempts looks action hs m
    Account action looks hs m attempted.2 ⟨hs.length, attempted.1.failures⟩ attempted.1 := by
  obtain ⟨hdone, hafter⟩ := attempts_eq hdelete m hs
  refine ⟨rfl, attempts_targets looks action hs m, rfl, rfl, hdone, ?_, fun hremoves => ?_,
    fun hstays => ?_, ?_⟩
  · rw [hafter, hdone]
    rfl
  · rw [hafter, hdone]
    simp [tookAll, Memory.torrents_acted_of_delete hremoves]
  · rw [hafter, hdone]
    exact Memory.makes_acted hstays (able looks m hs) m
  · rw [hafter]
    rfl

/-- What a batch comes to on a client in memory, whatever fails on it. It fails as a whole only on every
    torrent when these cannot be listed; then nothing has changed but the failure that was pending, and
    nothing is recorded. Otherwise its report and the client after it are accounted for, target by
    target. -/
theorem apply_memory (action : Action) (selection : Selection) (clock : Clock) (m : Memory)
    (log : Option Log) :
    let answer := apply action selection clock m log
    (∀ e, answer.1 = .error e → selection = .all ∧
      (Backend.torrents Filters.all).from m = (.error e, m.settled) ∧ answer.2 = (m.settled, log)) ∧
    ∀ r, answer.1 = .ok r → ∃ journal, Account action (looksFor action log selection)
      (targetHashes m selection) m answer.2.1 r journal := by
  cases selection with
  | all =>
    cases hpending : m.pending with
    | some e =>
      have hlist := Memory.from_torrents_of_pending hpending
      rw [apply_unlisted hlist]
      refine ⟨?_, nofun⟩
      rintro _ ⟨⟩
      exact ⟨rfl, hlist, rfl⟩
    | none =>
      obtain ⟨after, hafter⟩ := apply_listed action clock log (Memory.from_torrents hpending)
      rw [hafter]
      refine ⟨nofun, ?_⟩
      rintro _ ⟨⟩
      have haccount := account_attempts false action nofun m m.infoHashes
      rw [Memory.infoHashes, List.length_map] at haccount
      exact ⟨_, haccount⟩
  | hashes hs =>
    obtain ⟨after, hafter⟩ := apply_hashes action hs clock m log
    rw [hafter]
    refine ⟨nofun, ?_⟩
    rintro _ ⟨⟩
    exact ⟨_, account_attempts (records action log) action
      (fun hrecords => (Bool.and_eq_true_iff.1 hrecords).1) m hs⟩

end Seedkeeper.Batch
