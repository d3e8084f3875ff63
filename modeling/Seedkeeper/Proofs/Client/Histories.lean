import Mathlib.Data.List.Nodup
import Seedkeeper.Proofs.Client.Actions
import Seedkeeper.Proofs.Client.Memory
import Seedkeeper.Proofs.Client.Operations

/-!
Histories of a client in memory.

An operation fails with the pending failure, or because one of its targets fails, or because it looks for
something that is not there, and for no other reason (`Fails`); it then leaves the client as it was, less
the pending failure (`failsWith_run`). Whatever is set up and done on a client, in any order, its info
hashes stay different (`distinct_after`).
-/

namespace Seedkeeper.Client.Memory

/-! ### Why operations fail -/

/-- The error for the first of some targets that fails. -/
def RefusedFor (targets : List String) (m : Memory) (e : Error) : Prop :=
  ∃ before h after, targets = before ++ h :: after ∧ (∀ g ∈ before, g ∉ m.failing) ∧
    h ∈ m.failing ∧ e = .apiError ("mock failure for " ++ h)

/-- Why a client without a pending failure refuses an operation. -/
def Refused (m : Memory) (op : Operation) (e : Error) : Prop :=
  match op with
  | .torrent h => h ∉ m.infoHashes ∧ e = .torrentNotFound h
  | .contents h => (∀ files, (h, files) ∉ m.contents) ∧ e = .torrentNotFound h
  | .modify h _ => RefusedFor [h] m e
  | .act _ hs => RefusedFor hs m e
  | _ => False

/-- Why an operation fails; a pending failure comes first. -/
def Fails (m : Memory) (op : Operation) (e : Error) : Prop :=
  m.pending = some e ∨ m.pending = none ∧ Refused m op e

variable {α β : Type} {m : Memory} {reason : Memory → Error → Prop} {x : Run Memory α}

/-- Once the pending failure is taken, if there is one, what fails leaves the client alone. -/
theorem failsWith_ready_bind (hx : x.FailsWith reason id) :
    (ready >>= fun _ => x).FailsWith
      (fun m e => m.pending = some e ∨ m.pending = none ∧ reason m e) settled := by
  intro m e m'
  cases hpending : m.pending with
  | some e' =>
    rw [Run.from_bind_error (from_ready_of_pending hpending)]
    simp [hpending, eq_comm]
  | none =>
    rw [Run.from_bind_ok (from_ready hpending), hx m e m', settled_of_ready hpending]
    simp [hpending]

/-- A lookup fails where nothing is found. -/
theorem failsWith_lookup (find? : Memory → Option β) (answer : β → α) (e : Error)
    {look : Memory → Run Memory α} (hfound : ∀ m b, find? m = some b → look m = pure (answer b))
    (hnone : ∀ m, find? m = none → look m = throw e) :
    (get >>= look).FailsWith (fun m e' => find? m = none ∧ e' = e) id := by
  intro m e' m'
  rw [Run.from_bind_ok (Run.from_get m)]
  cases hfind : find? m with
  | some b => simp [hfound m b hfind, hfind]
  | none => simp [hnone m hfind, hfind, eq_comm]

/-! ### Refusals of one kind of operation -/

theorem refusedFor_iff {targets : List String} {e : Error} : RefusedFor targets m e ↔
    ∃ h, targets.find? m.failing.contains = some h ∧ e = .apiError ("mock failure for " ++ h) := by
  simp only [RefusedFor, List.find?_eq_some_iff_append, Bool.not_eq_true',
    List.contains_eq_mem, decide_eq_true_eq, decide_eq_false_iff_not]
  constructor
  · rintro ⟨before, h, after, htargets, hbefore, hfails, he⟩
    exact ⟨h, ⟨hfails, before, after, htargets, hbefore⟩, he⟩
  · rintro ⟨h, ⟨hfails, before, after, htargets, hbefore⟩, he⟩
    exact ⟨before, h, after, htargets, hbefore, hfails, he⟩

/-- A mutation is refused for its targets, before it is kept in the record. -/
theorem failsWith_accept (targets : List String) (call : Call) :
    (accept targets call).FailsWith
      (fun m e => m.pending = some e ∨ m.pending = none ∧ RefusedFor targets m e) settled := by
  refine failsWith_ready_bind fun m e m' => ?_
  rw [Run.from_bind_ok (Run.from_get m), refusedFor_iff]
  cases hfind : targets.find? m.failing.contains with
  | some h => simp [eq_comm]
  | none => simp

theorem not_refusedFor_nil {e : Error} : ¬ RefusedFor [] m e := by
  rw [refusedFor_iff]
  simp

theorem failsWith_torrent (h : String) :
    (Backend.torrent h : Run Memory Torrent).FailsWith
      (fun m e => Fails m (.torrent h) e) settled := by
  refine (failsWith_ready_bind (failsWith_lookup (fun m => m.torrents.find? (·.infoHash == h)) id
    (.torrentNotFound h) ?_ ?_)).congr fun m e => ?_
  · intro m t hfind
    simp only [hfind, id]
  · intro m hfind
    simp only [hfind]
  · have hmissing : m.torrents.find? (·.infoHash == h) = none ↔ h ∉ m.infoHashes := by
      simp [infoHashes]
    rw [hmissing]
    rfl

theorem failsWith_contents (h : String) :
    (Backend.contents h : Run Memory (List ContentFile)).FailsWith
      (fun m e => Fails m (.contents h) e) settled := by
  refine (failsWith_ready_bind (failsWith_lookup (fun m => m.contents.find? (·.1 == h)) Prod.snd
    (.torrentNotFound h) ?_ ?_)).congr fun m e => ?_
  · intro m c hfind
    simp only [hfind]
  · intro m hfind
    simp only [hfind]
  · have hmissing : m.contents.find? (·.1 == h) = none ↔ ∀ files, (h, files) ∉ m.contents := by
      rw [List.find?_eq_none]
      constructor
      · intro hnone files hmem
        exact hnone _ hmem (beq_self_eq_true h)
      · rintro hnone ⟨g, files⟩ hmem hsame
        exact hnone files (beq_iff_eq.1 hsame ▸ hmem)
    rw [hmissing]
    rfl

theorem failsWith_add (request : AddRequest) :
    (Backend.add request : Run Memory (Option String)).FailsWith
      (fun m e => Fails m (.add request) e) settled := by
  refine ((failsWith_accept [] _).bind fun _ =>
    (Run.succeeds_modify _).bind fun _ => Run.succeeds_pure _).congr fun m e => ?_
  simp only [Fails, Refused, not_refusedFor_nil]

/-! ### All operations -/

/-- What an operation finds is left out; it fails all the same. -/
theorem failsWith_discard (hx : x.FailsWith reason settled) :
    (do let _ ← x; return () : Run Memory Unit).FailsWith reason settled :=
  hx.bind fun _ => Run.succeeds_pure ()

/-- To read something off a client fails with the pending failure only. -/
theorem failsWith_read (f : Memory → α) :
    (ready >>= fun _ => get >>= fun m => pure (f m) : Run Memory α).FailsWith
      (fun m e => m.pending = some e ∨ m.pending = none ∧ False) settled :=
  failsWith_ready_bind (Run.Succeeds.failsWith fun m => ⟨f m, m, rfl⟩)

/-- So does to change something on it. -/
theorem failsWith_edit (f : Memory → Memory) :
    (ready >>= fun _ => modify f : Run Memory Unit).FailsWith
      (fun m e => m.pending = some e ∨ m.pending = none ∧ False) settled :=
  failsWith_ready_bind (Run.succeeds_modify f).failsWith

/-- An operation fails for these reasons, and leaves the client as it was then, less the pending
    failure. -/
theorem failsWith_run (op : Operation) :
    (op.run : Run Memory Unit).FailsWith (fun m e => Fails m op e) settled := by
  cases op with
  | torrent h => exact failsWith_discard (failsWith_torrent h)
  | torrents filters => exact failsWith_discard (failsWith_read _)
  | add request => exact failsWith_discard (failsWith_add request)
  | modify h changes => exact (failsWith_accept [h] _).bind fun _ => Run.succeeds_modify _
  | act action hs => exact (failsWith_accept hs _).bind fun _ => Run.succeeds_modify _
  | createTags names => exact failsWith_edit _
  | deleteTags names => exact failsWith_edit _
  | tags => exact failsWith_discard (failsWith_read _)
  | categories => exact failsWith_discard (failsWith_read _)
  | createCategory name savePath => exact failsWith_edit _
  | deleteCategories names => exact failsWith_edit _
  | contents h => exact failsWith_discard (failsWith_contents h)

/-! ### Different info hashes -/

/-- From one client to another, different info hashes stay different. -/
def StayDistinct (m n : Memory) : Prop := m.infoHashes.Nodup → n.infoHashes.Nodup

theorem StayDistinct.trans {k m n : Memory} (h : StayDistinct k m) (h' : StayDistinct m n) :
    StayDistinct k n := fun hdistinct => h' (h hdistinct)

theorem stayDistinct_put (m : Memory) (t : Torrent) : StayDistinct m (m.put t) := by
  intro hdistinct
  have hothers : (m.torrents.filter (·.infoHash != t.infoHash)).map (·.infoHash)
      = m.infoHashes.filter (· != t.infoHash) := by
    rw [infoHashes, List.filter_map]
    rfl
  rw [infoHashes, put, List.map_append, hothers]
  refine List.nodup_append.2 ⟨hdistinct.filter _, List.nodup_singleton _, fun g hg h hh => ?_⟩
  rw [List.mem_singleton.1 hh]
  simpa using (List.mem_filter.1 hg).2

theorem stayDistinct_update {change : Torrent → Torrent} (hs : List String)
    (hchange : ∀ t, (change t).infoHash = t.infoHash) (m : Memory) :
    StayDistinct m (m.update hs change) := by
  have hsame : (m.update hs change).infoHashes = m.infoHashes := by
    rw [infoHashes, update, List.map_map]
    refine List.map_congr_left fun t _ => ?_
    rw [Function.comp_apply]
    split
    · exact hchange t
    · rfl
  rw [StayDistinct, hsame]
  exact id

theorem stayDistinct_acted (action : Action) (hs : List String) (m : Memory) :
    StayDistinct m (acted action hs m) := by
  cases action with
  | delete files => exact fun hdistinct => hdistinct.sublist (List.filter_sublist.map _)
  | _ => exact stayDistinct_update hs (infoHash_changed _) m

theorem keeps_of_torrents_eq (h : ∀ m, (x.from m).2.torrents = m.torrents) : x.Keeps StayDistinct := by
  intro m hdistinct
  rwa [infoHashes, h m]

theorem keeps_ready : ready.Keeps StayDistinct := by
  refine keeps_of_torrents_eq fun m => ?_
  cases hpending : m.pending with
  | some e => rw [from_ready_of_pending hpending, settled]
  | none => rw [from_ready hpending]

/-- What stands behind the pending failure keeps them different if it does so by itself. -/
theorem keeps_ready_bind (h : x.Keeps StayDistinct) :
    (ready >>= fun _ => x).Keeps StayDistinct :=
  .bind StayDistinct.trans keeps_ready fun _ => h

theorem keeps_lookup {look : Memory → Run Memory α} (h : ∀ m, ((look m).from m).2 = m) :
    (ready >>= fun _ => get >>= look).Keeps StayDistinct :=
  keeps_ready_bind <| keeps_of_torrents_eq fun m => by
    rw [Run.from_bind_ok (Run.from_get m), h m]

theorem keeps_accept (targets : List String) (call : Call) :
    (accept targets call).Keeps StayDistinct := by
  refine keeps_ready_bind (keeps_of_torrents_eq fun m => ?_)
  rw [Run.from_bind_ok (Run.from_get m)]
  cases targets.find? m.failing.contains <;> rfl

theorem keeps_modify {f : Memory → Memory} (h : ∀ m, StayDistinct m (f m)) :
    (modify f : Run Memory Unit).Keeps StayDistinct := h

theorem keeps_discard (h : x.Keeps StayDistinct) :
    (do let _ ← x; return () : Run Memory Unit).Keeps StayDistinct :=
  .bind StayDistinct.trans h fun _ _ => id

/-- Every operation keeps different info hashes different, whether it fails or not. -/
theorem keeps_run (op : Operation) : (op.run : Run Memory Unit).Keeps StayDistinct := by
  cases op with
  | torrent h =>
    refine keeps_discard (keeps_lookup fun m => ?_)
    cases m.torrents.find? (·.infoHash == h) <;> rfl
  | torrents filters => exact keeps_discard (keeps_lookup fun _ => rfl)
  | add request =>
    refine keeps_discard (.bind StayDistinct.trans (keeps_accept _ _) fun _ =>
      .bind StayDistinct.trans (keeps_modify fun m => ?_) fun _ _ => id)
    split
    · exact stayDistinct_put m _
    · exact id
  | modify h changes =>
    exact .bind StayDistinct.trans (keeps_accept _ _) fun _ =>
      keeps_modify (stayDistinct_update [h] fun _ => rfl)
  | act action hs =>
    exact .bind StayDistinct.trans (keeps_accept _ _) fun _ => keeps_modify (stayDistinct_acted action hs)
  | createTags names => exact keeps_ready_bind (keeps_modify fun _ => id)
  | deleteTags names => exact keeps_ready_bind (keeps_modify fun _ => id)
  | tags => exact keeps_discard (keeps_lookup fun _ => rfl)
  | categories => exact keeps_discard (keeps_lookup fun _ => rfl)
  | createCategory name savePath => exact keeps_ready_bind (keeps_modify fun _ => id)
  | deleteCategories names => exact keeps_ready_bind (keeps_modify fun _ => id)
  | contents h =>
    refine keeps_discard (keeps_lookup fun m => ?_)
    cases m.contents.find? (·.1 == h) <;> rfl

/-! ### Histories -/

/-- What can happen to a client in memory: it is set up, or an operation is done. -/
inductive Step where
  | put (t : Torrent)
  | setContents (infoHash : String) (files : List ContentFile)
  | failNext (e : Error)
  | failHash (infoHash : String)
  | operate (op : Operation)

/-- The client after a step. -/
def step (m : Memory) : Step → Memory
  | .put t => m.put t
  | .setContents infoHash files => m.setContents infoHash files
  | .failNext e => m.failNext e
  | .failHash infoHash => m.failHash infoHash
  | .operate op => (op.run.from m).2

/-- The client after some steps. -/
def after (steps : List Step) (m : Memory) : Memory := steps.foldl step m

theorem stayDistinct_step (m : Memory) (s : Step) : StayDistinct m (m.step s) := by
  cases s with
  | put t => exact stayDistinct_put m t
  | operate op => exact keeps_run op m
  | _ => exact id

theorem distinct_after (steps : List Step) (h : m.infoHashes.Nodup) :
    (after steps m).infoHashes.Nodup := by
  induction steps generalizing m with
  | nil => exact h
  | cons s steps ih => exact ih (stayDistinct_step m s h)

/-- A listing shows some of the torrents, in their order. -/
theorem sublist_of_torrents {filters : Filters} {ts : List Torrent} {m' : Memory}
    (h : (Backend.torrents filters).from m = (.ok ts, m')) : ts.Sublist m.torrents := by
  change (ready >>= fun _ => get >>= fun m => pure (m.torrents.filter (listed filters))).from m = _ at h
  cases hpending : m.pending with
  | some e =>
    rw [Run.from_bind_error (from_ready_of_pending hpending)] at h
    cases h
  | none =>
    rw [Run.from_bind_ok (from_ready hpending), Run.from_bind_ok (Run.from_get m)] at h
    cases h
    exact List.filter_sublist

/-- What a client in memory is like after any steps from the empty one.

    All its info hashes are different, also in what a listing shows of them. An operation fails with the
    pending failure or, if there is none, because of the first of its targets that fails or because what it
    looks for is not there, and for no other reason; and after it fails everything is as it was, but that
    no failure is pending. -/
theorem after_intact (name : String) (steps : List Step) :
    let m := after steps (named name)
    m.infoHashes.Nodup ∧
    (∀ filters ts m', (Backend.torrents filters).from m = (.ok ts, m') →
      (ts.map (·.infoHash)).Nodup) ∧
    ∀ (op : Operation) e m',
      op.run.from m = (.error e, m') ↔ Fails m op e ∧ m' = { m with pending := none } := by
  intro m
  have hdistinct : m.infoHashes.Nodup := distinct_after steps List.nodup_nil
  exact ⟨hdistinct, fun filters ts m' h => hdistinct.sublist ((sublist_of_torrents h).map _),
    fun op => failsWith_run op m⟩

end Seedkeeper.Client.Memory
