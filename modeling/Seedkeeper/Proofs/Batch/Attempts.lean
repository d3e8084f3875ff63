import Seedkeeper.Batch
import Seedkeeper.Proofs.Client.Runs

/-!
A batch as attempts in a row.

To attempt a target is to look at it first, where that is asked for, and then to act on it alone. A batch
attempts its targets one after the other, each once, whatever became of those before; it counts the
attempts that fail, and recording what was removed takes no part in that (`apply_hashes`, `apply_listed`).
-/

namespace Seedkeeper.Batch

open Calendar (Clock)
open Client (Action Backend Filters Run)
open Traffic (Log)

variable {σ : Type} [Backend σ]

/-! ### Attempts -/

/-- One target looked at, if that is asked for, and acted on. -/
def attempt (looksUp : Bool) (action : Action) (infoHash : String) : Run σ Unit := do
  if looksUp then
    let _ ← (Backend.torrent infoHash : Run σ Torrent)
  Backend.act action [infoHash]

/-- Targets by their info hashes, each with whether it succeeded. -/
abbrev Journal := List (String × Bool)

/-- The targets that succeeded. -/
def Journal.done (j : Journal) : List String := (j.filter (·.2)).map (·.1)

/-- How many targets failed. -/
def Journal.failures (j : Journal) : Nat := j.countP fun x => !x.2

/-- Targets attempted one after the other, whatever became of those before, and the client after them. -/
def attempts (looksUp : Bool) (action : Action) : List String → σ → Journal × σ
  | [], s => ([], s)
  | h :: hs, s =>
    let first := (attempt looksUp action h).from s
    let rest := attempts looksUp action hs first.2
    ((h, first.1.isOk) :: rest.1, rest.2)

/-- Each target is attempted once, in order. -/
theorem attempts_targets (looksUp : Bool) (action : Action) (hs : List String) (s : σ) :
    (attempts looksUp action hs s).1.map (·.1) = hs := by
  induction hs generalizing s with
  | nil => rfl
  | cons h hs ih =>
    rw [attempts, List.map_cons, ih]

/-! ### Steps of a batch -/

/-- Whether a batch looks a target up: it records, and nothing is known of the target yet. -/
def looksUp (plan : Plan) (target : Target) : Bool := plan.records && target.2.isNone

/-- An attempt is what a batch does to a target, recording apart. -/
theorem attempt_eq (plan : Plan) (target : Target) :
    (attempt (looksUp plan target) plan.action target.1 : Run σ Unit)
      = snapshot plan target >>= fun _ => Backend.act plan.action [target.1] := by
  obtain ⟨infoHash, seen⟩ := target
  cases seen with
  | some t => simp [attempt, looksUp, snapshot]
  | none => cases hrecords : plan.records <;> simp [attempt, looksUp, snapshot, hrecords]

/-- A step leads to where the attempt leads, and counts it if it fails. -/
theorem step_eq (plan : Plan) (p : Progress σ) (target : Target) :
    let attempted := (attempt (looksUp plan target) plan.action target.1).from p.client
    (step plan p target).client = attempted.2 ∧
      (step plan p target).failed = p.failed + if attempted.1.isOk then 0 else 1 := by
  rw [attempt_eq, Run.from_bind, step]
  cases (snapshot plan target : Run σ (Option Torrent)).from p.client with
  | mk answer s =>
    cases answer with
    | error e => exact ⟨rfl, rfl⟩
    | ok seen =>
      rcases hdone : (Backend.act plan.action [target.1] : Run σ Unit).from s with ⟨_ | _, t⟩ <;>
        simp [hdone, Except.isOk, Except.toBool]

/-- Steps in a row lead to where the attempts lead, and count those that fail. -/
theorem foldl_step (plan : Plan) {looks : Bool} (ts : List Target)
    (hlooks : ∀ x ∈ ts, looksUp plan x = looks) (p : Progress σ) :
    let attempted := attempts looks plan.action (ts.map (·.1)) p.client
    (ts.foldl (step plan) p).client = attempted.2 ∧
      (ts.foldl (step plan) p).failed = p.failed + attempted.1.failures := by
  induction ts generalizing p with
  | nil => exact ⟨rfl, rfl⟩
  | cons t ts ih =>
    obtain ⟨hclient, hfailed⟩ := step_eq plan p t
    rw [hlooks t List.mem_cons_self] at hclient hfailed
    obtain ⟨ihclient, ihfailed⟩ := ih (fun x hx => hlooks x (List.mem_cons_of_mem t hx)) (step plan p t)
    rw [hclient] at ihclient ihfailed
    refine ⟨ihclient, ?_⟩
    rw [List.foldl_cons, ihfailed, hfailed, Nat.add_assoc, List.map_cons, attempts, Journal.failures,
      Journal.failures, List.countP_cons, Nat.add_comm (List.countP _ _)]
    cases ((attempt looks plan.action t.1).from p.client).1.isOk <;> rfl

/-! ### Batches -/

/-- Whether a batch that takes some log records. -/
def records (action : Action) (log : Option Log) : Bool := action.isDelete && log.any Log.isAvailable

variable {action : Action} {clock : Clock} {s t : σ} {log : Option Log}

/-- A batch attempts its targets, all of them with a lookup or all of them without. -/
theorem apply_of_targets {selection : Selection} {ts : List Target} {looks : Bool}
    (htargets : (targets selection : Run σ (List Target)).from s = (.ok ts, t))
    (hlooks : ∀ x ∈ ts, looksUp ⟨action, records action log⟩ x = looks) :
    let attempted := attempts looks action (ts.map (·.1)) t
    ∃ after, apply action selection clock s log
      = (.ok ⟨ts.length, attempted.1.failures⟩, attempted.2, after) := by
  obtain ⟨hclient, hfailed⟩ := foldl_step ⟨action, records action log⟩ ts hlooks ⟨t, log, 0, clock⟩
  rw [Nat.zero_add] at hfailed
  refine ⟨(ts.foldl (step ⟨action, records action log⟩) ⟨t, log, 0, clock⟩).log, ?_⟩
  rw [← hclient, ← hfailed, apply, htargets]
  rfl

/-- A batch on explicit info hashes attempts these, and always gives a report. -/
theorem apply_hashes (action : Action) (hs : List String) (clock : Clock) (s : σ) (log : Option Log) :
    let attempted := attempts (records action log) action hs s
    ∃ after, apply action (.hashes hs) clock s log
      = (.ok ⟨hs.length, attempted.1.failures⟩, attempted.2, after) := by
  have htargets : (targets (.hashes hs) : Run σ (List Target)).from s
      = (.ok (hs.map (·, none)), s) := rfl
  have hlooks : ∀ x ∈ hs.map fun h => ((h, none) : Target),
      looksUp ⟨action, records action log⟩ x = records action log := by
    intro x hx
    obtain ⟨h, _, rfl⟩ := List.mem_map.1 hx
    exact Bool.and_true _
  simpa [Function.comp_def] using apply_of_targets htargets hlooks

/-- A batch on every torrent attempts those that are listed, and looks at none of them again. -/
theorem apply_listed (action : Action) (clock : Clock) (log : Option Log) {listed : List Torrent}
    (hlist : (Backend.torrents Filters.all).from s = (.ok listed, t)) :
    let attempted := attempts false action (listed.map (·.infoHash)) t
    ∃ after, apply action .all clock s log
      = (.ok ⟨listed.length, attempted.1.failures⟩, attempted.2, after) := by
  have htargets : (targets .all : Run σ (List Target)).from s
      = (.ok (listed.map fun x => (x.infoHash, some x)), t) := by
    rw [targets, Run.from_bind_ok hlist]
    rfl
  have hlooks : ∀ x ∈ listed.map fun x => ((x.infoHash, some x) : Target),
      looksUp ⟨action, records action log⟩ x = false := by
    intro x hx
    obtain ⟨y, _, rfl⟩ := List.mem_map.1 hx
    exact Bool.and_false _
  simpa [Function.comp_def] using apply_of_targets htargets hlooks

/-- Without a listing there is no batch on every torrent, and nothing is recorded. -/
theorem apply_unlisted {e : Client.Error}
    (hlist : (Backend.torrents Filters.all).from s = (.error e, t)) :
    apply action .all clock s log = (.error e, t, log) := by
  have htargets : (targets .all : Run σ (List Target)).from s = (.error e, t) := by
    rw [targets, Run.from_bind, hlist]
  rw [apply, htargets]

end Seedkeeper.Batch
