import Seedkeeper.Client.Memory
import Seedkeeper.Proofs.Client.Runs

/-!
What the operations of a client in memory answer.

An operation fails with the pending failure, if there is one, and takes it away. Otherwise a listing and
a lookup leave the client as it is, and a mutation is refused for an info hash that fails or else kept in
the record and applied.
-/

namespace Seedkeeper.Client.Memory

/-- The info hashes of a client, in listing order. -/
def infoHashes (m : Memory) : List String := m.torrents.map (·.infoHash)

/-- The client once its pending failure, if there is one, has been taken. -/
def settled (m : Memory) : Memory := { m with pending := none }

/-! ### The pending failure -/

variable {m : Memory} {e : Error}

theorem settled_of_ready (h : m.pending = none) : m.settled = m := by
  rw [settled, ← h]

theorem from_ready (h : m.pending = none) : ready.from m = (.ok (), m) := by
  rw [ready, Run.from_bind_ok (Run.from_get m), h]
  rfl

theorem from_ready_of_pending (h : m.pending = some e) : ready.from m = (.error e, m.settled) := by
  rw [ready, Run.from_bind_ok (Run.from_get m), h]
  rfl

/-! ### Listings and lookups -/

theorem listed_all (t : Torrent) : listed Filters.all t = true := rfl

/-- Without a pending failure everything is listed. -/
theorem from_torrents (h : m.pending = none) :
    (Backend.torrents Filters.all).from m = (.ok m.torrents, m) := by
  change (ready >>= _).from m = _
  rw [Run.from_bind_ok (from_ready h), Run.from_bind_ok (Run.from_get m), Run.from_pure,
    List.filter_eq_self.2 fun t _ => listed_all t]

theorem from_torrents_of_pending (h : m.pending = some e) :
    (Backend.torrents Filters.all).from m = (.error e, m.settled) := by
  change (ready >>= _).from m = _
  rw [Run.from_bind, from_ready_of_pending h]

/-- Without a pending failure, an info hash that is on the client is found there. -/
theorem from_torrent_of_mem {infoHash : String} (h : m.pending = none)
    (hmem : infoHash ∈ m.infoHashes) :
    ∃ t ∈ m.torrents, t.infoHash = infoHash ∧
      (Backend.torrent infoHash).from m = (.ok t, m) := by
  obtain ⟨x, hx, hhash⟩ := List.mem_map.1 hmem
  have hfound : (m.torrents.find? (·.infoHash == infoHash)).isSome :=
    List.find?_isSome.2 ⟨x, hx, beq_iff_eq.2 hhash⟩
  obtain ⟨t, ht⟩ := Option.isSome_iff_exists.1 hfound
  refine ⟨t, List.mem_of_find?_eq_some ht, by simpa using List.find?_some ht, ?_⟩
  change (ready >>= _).from m = _
  rw [Run.from_bind_ok (from_ready h), Run.from_bind_ok (Run.from_get m), ht]
  rfl

/-- Without a pending failure, one that is not is not found. -/
theorem from_torrent_of_notMem {infoHash : String} (h : m.pending = none)
    (hmem : infoHash ∉ m.infoHashes) :
    (Backend.torrent infoHash).from m = (.error (.torrentNotFound infoHash), m) := by
  have hnone : m.torrents.find? (·.infoHash == infoHash) = none := by
    rw [List.find?_eq_none]
    intro t ht hhash
    exact hmem (List.mem_map.2 ⟨t, ht, beq_iff_eq.1 hhash⟩)
  change (ready >>= _).from m = _
  rw [Run.from_bind_ok (from_ready h), Run.from_bind_ok (Run.from_get m), hnone]
  rfl

theorem from_torrent_of_pending {infoHash : String} (h : m.pending = some e) :
    (Backend.torrent infoHash).from m = (.error e, m.settled) := by
  change (ready >>= _).from m = _
  rw [Run.from_bind, from_ready_of_pending h]

/-- All that a lookup can come to. -/
theorem from_torrent_cases (m : Memory) (infoHash : String) :
    (∃ e, (Backend.torrent infoHash).from m = (.error e, m.settled)) ∨
    ∃ t ∈ m.torrents, t.infoHash = infoHash ∧ (Backend.torrent infoHash).from m = (.ok t, m) := by
  cases hpending : m.pending with
  | some e => exact .inl ⟨e, from_torrent_of_pending hpending⟩
  | none =>
    by_cases hon : infoHash ∈ m.infoHashes
    · exact .inr (from_torrent_of_mem hpending hon)
    · rw [settled_of_ready hpending]
      exact .inl ⟨_, from_torrent_of_notMem hpending hon⟩

/-! ### Actions on one torrent -/

variable {action : Action} {infoHash : String}

/-- A client with one more mutation in its record. -/
def noted (m : Memory) (call : Call) : Memory := { m with calls := m.calls ++ [call] }

theorem from_act_of_pending (h : m.pending = some e) :
    (Backend.act action [infoHash]).from m = (.error e, m.settled) := by
  change (accept [infoHash] (.act action [infoHash]) >>= _).from m = _
  rw [Run.from_bind, accept, Run.from_bind, from_ready_of_pending h]

/-- Without a pending failure, an action on an info hash that fails changes nothing. -/
theorem from_act_of_failing (h : m.pending = none) (hfail : infoHash ∈ m.failing) :
    (Backend.act action [infoHash]).from m
      = (.error (.apiError ("mock failure for " ++ infoHash)), m) := by
  have hfind : [infoHash].find? m.failing.contains = some infoHash := by simp [hfail]
  change (accept [infoHash] (.act action [infoHash]) >>= _).from m = _
  rw [Run.from_bind, accept, Run.from_bind_ok (from_ready h), Run.from_bind_ok (Run.from_get m),
    hfind]
  rfl

/-- Without a pending failure, an action on any other is recorded and applied. -/
theorem from_act (h : m.pending = none) (hfail : infoHash ∉ m.failing) :
    (Backend.act action [infoHash]).from m
      = (.ok (), acted action [infoHash] (m.noted (.act action [infoHash]))) := by
  have hfind : [infoHash].find? m.failing.contains = none := by simp [hfail]
  change (accept [infoHash] (.act action [infoHash]) >>= _).from m = _
  rw [Run.from_bind, accept, Run.from_bind_ok (from_ready h), Run.from_bind_ok (Run.from_get m),
    hfind]
  rfl

/-- All that an action on one torrent can come to. -/
theorem from_act_cases (action : Action) (m : Memory) (infoHash : String) :
    (∃ e, (Backend.act action [infoHash]).from m = (.error e, m.settled)) ∨
    (Backend.act action [infoHash]).from m
      = (.ok (), acted action [infoHash] (m.noted (.act action [infoHash]))) := by
  cases hpending : m.pending with
  | some e => exact .inl ⟨e, from_act_of_pending hpending⟩
  | none =>
    by_cases hfail : infoHash ∈ m.failing
    · rw [settled_of_ready hpending]
      exact .inl ⟨_, from_act_of_failing hpending hfail⟩
    · exact .inr (from_act hpending hfail)

end Seedkeeper.Client.Memory
