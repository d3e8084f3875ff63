import Seedkeeper.Calendar.Clock
import Seedkeeper.Selection.Query
import Seedkeeper.Traffic.Log
import Seedkeeper.Torrent.Tracker

/-!
One action on every torrent of a selection, torrent by torrent.

Every target is attempted whatever failed before it; failures are counted. Only the listing behind a
selection of everything can fail a batch as a whole. While torrents are deleted and a stats log is
available, each one is looked at before it goes, and its last counters are recorded once it is gone,
with the time that a clock shows then.
-/

namespace Seedkeeper.Batch

open Calendar (Clock)
open Client (Action Backend Filters Run)
open Traffic (Event Log)

/-- What became of a batch. -/
structure Report where
  total : Nat
  failed : Nat
  deriving DecidableEq

/-- Targets that did not fail. -/
def Report.succeeded (r : Report) : Nat := r.total - r.failed

/-- Whether no target failed. -/
def Report.isSuccess (r : Report) : Bool := r.failed == 0

/-- A report in words. -/
def Report.text (r : Report) : String :=
  toString r.succeeded ++ "/" ++ toString r.total ++ " succeeded" ++
    (if r.failed > 0 then ", " ++ toString r.failed ++ " failed" else "")

/-- A torrent to act on: its info hash and, where it was listed, what the listing said of it. -/
abbrev Target := String × Option Torrent

/-- A batch between two targets. -/
structure Progress (σ : Type) where
  client : σ
  log : Option Log
  failed : Nat
  /-- It is read for every event that is recorded. -/
  clock : Clock

/-- The settings of a batch that all its targets share. -/
structure Plan where
  action : Action
  /-- Whether deletions are recorded. -/
  records : Bool

/-- A torrent that was removed, and when that was recorded. -/
structure Departure where
  time : Int64
  torrent : Torrent
  deriving DecidableEq

variable {σ : Type} [Backend σ]

/-- What is known of a target before it is acted on. -/
def snapshot (plan : Plan) (target : Target) : Run σ (Option Torrent) :=
  match target.2 with
  | some t => return some t
  | none => if plan.records then some <$> Backend.torrent target.1 else return none

/-- The event of a torrent that was removed. -/
def closeEvent (clientName : String) (action : Action) (d : Departure) : Event :=
  .ofTorrent clientName (d.torrent.trackerHost?.getD "") d.torrent d.time Event.closed action.name

/-- A target that was acted on, recorded if the batch records; the clock is read for it, whether the log
    takes the event or not. -/
def recordClose (clientName : String) (plan : Plan) (seen : Option Torrent) (clock : Clock)
    (log : Option Log) : Option Log × Clock :=
  match plan.records, log, seen with
  | true, some l, some t =>
    (some (l.record (closeEvent clientName plan.action ⟨clock.now, t⟩)).2, clock.after 1)
  | _, log, _ => (log, clock)

/-- One target. -/
def step (plan : Plan) (p : Progress σ) (target : Target) : Progress σ :=
  match (snapshot plan target : Run σ (Option Torrent)).from p.client with
  | (.error _, s) => { p with client := s, failed := p.failed + 1 }
  | (.ok seen, s) =>
    match (Backend.act plan.action [target.1] : Run σ Unit).from s with
    | (.error _, s) => { p with client := s, failed := p.failed + 1 }
    | (.ok _, s) =>
      let (log, clock) := recordClose (Backend.name s) plan seen p.clock p.log
      { p with client := s, log, clock }

/-- The targets of a selection. -/
def targets : Selection → Run σ (List Target)
  | .all => return (← Backend.torrents Filters.all).map fun t => (t.infoHash, some t)
  | .hashes hs => return hs.map (·, none)

/-- An action on a selection: the report or the failure of the listing, the client after it and the
    log after it. -/
def apply (action : Action) (selection : Selection) (clock : Clock) (s : σ) (log : Option Log) :
    Except Client.Error Report × σ × Option Log :=
  let records := action.isDelete && log.any Log.isAvailable
  match (targets selection : Run σ (List Target)).from s with
  | (.error e, s) => (.error e, s, log)
  | (.ok ts, s) =>
    let p := ts.foldl (step ⟨action, records⟩) ⟨s, log, 0, clock⟩
    (.ok ⟨ts.length, p.failed⟩, p.client, p.log)

end Seedkeeper.Batch
