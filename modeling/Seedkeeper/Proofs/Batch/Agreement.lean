import Seedkeeper.Proofs.Batch.Deletions

/-!
Runs of a batch that come to the same.

Whether a batch looks a target up before it acts depends on the log, and on how the targets were chosen.
On a client that has no failure pending, a lookup of a torrent that is there does nothing, and to delete
one torrent does not disturb what is found of another. So a deletion does not depend on whether it is
recorded, nor on how recording goes (`apply_delete_any_log`), and to act on everything is to act on the
listed info hashes one by one (`apply_all_eq_hashes`).
-/

namespace Seedkeeper.Batch

open Calendar (Clock)
open Client (Action Memory)
open Traffic (Log)

variable {m : Memory} {selection : Selection}

/-- Selections of different torrents that a client has: all of them, or some. -/
def Selects (m : Memory) : Selection → Prop
  | .all => True
  | .hashes hs => hs.Nodup ∧ ∀ h ∈ hs, h ∈ m.infoHashes

instance (m : Memory) : (selection : Selection) → Decidable (Selects m selection)
  | .all => inferInstanceAs (Decidable True)
  | .hashes _ => inferInstanceAs (Decidable (_ ∧ _))

/-- What a batch on different torrents comes to, and what it removes, is as if it looked none of them
    up. -/
theorem attempts_selected (hready : m.pending = none) (hselects : Selects m selection)
    (action : Action) (log : Option Log) :
    attempts (looksFor action log selection) action (targetHashes m selection) m
        = attempts false action (targetHashes m selection) m ∧
      removals (looksFor action log selection) action (targetHashes m selection) m
        = removals false action (targetHashes m selection) m := by
  cases selection with
  | all => exact ⟨rfl, rfl⟩
  | hashes hs =>
    obtain ⟨hnodup, hon⟩ := hselects
    rw [looksFor]
    cases hrecords : records action log with
    | false => exact ⟨rfl, rfl⟩
    | true => exact attempts_looking (Bool.and_eq_true_iff.1 hrecords).1 hready hnodup hon

/-- So the log has no part in the report and in the client. -/
theorem apply_selected (hready : m.pending = none) (hselects : Selects m selection) (action : Action)
    (clock : Clock) (log : Option Log) :
    let attempted := attempts false action (targetHashes m selection) m
    ∃ after, apply action selection clock m log
      = (.ok ⟨(targetHashes m selection).length, attempted.1.failures⟩, attempted.2, after) := by
  rcases apply_cases action selection clock m log with ⟨e, _, hpending, _⟩ | ⟨_, hbatch⟩
  · rw [hready] at hpending
    cases hpending
  · rwa [(attempts_selected hready hselects action log).1] at hbatch

/-- A batch on different torrents hands the log the deletions of those that it removes, if it records. -/
theorem log_apply_selected (hdistinct : m.infoHashes.Nodup) (hready : m.pending = none)
    (hselects : Selects m selection) (action : Action) (clock : Clock) (log : Option Log) :
    let removed := if records action log then removals false action (targetHashes m selection) m else []
    (apply action selection clock m log).2.2
      = log.map fun l => (l.appendAll ((departures clock removed).map (deletion m.name))).2 := by
  cases hrecords : records action log with
  | false =>
    rw [log_apply_of_not_records hrecords]
    exact Option.map_id'.symm
  | true =>
    rw [log_apply hdistinct hrecords fun _ => hready,
      (attempts_selected hready hselects action log).2,
      closeEvent_of_isDelete (Bool.and_eq_true_iff.1 hrecords).1]
    rfl

/-- Recording does not influence deleting. If no failure is pending and the targets are different
    torrents of the client, a batch of deletions gives one report and leaves one client, whatever the clock
    shows and whatever log it is given: no log, one that is not available, one whose file cannot be opened
    or takes no bytes, or one that works. -/
theorem apply_delete_any_log (hready : m.pending = none) (hselects : Selects m selection)
    (files : Bool) :
    ∃ report m', ∀ clock log, ∃ after,
      apply (.delete files) selection clock m log = (.ok report, m', after) :=
  ⟨_, _, apply_selected hready hselects (.delete files)⟩

/-- With every log and every clock, one torrent of two is deleted. -/
theorem apply_delete_any_log_stuck :
    oneStuck.pending = none ∧ Selects oneStuck (.hashes ["b", "a"]) ∧
    ∀ clock log, ∃ after, apply (.delete false) (.hashes ["b", "a"]) clock oneStuck log
      = (.ok ⟨2, 1⟩, { oneStuck with
          torrents := [.sample "a" "A" .seeding]
          calls := [.act (.delete false) ["b"]] }, after) := by
  have hselects : Selects oneStuck (.hashes ["b", "a"]) := by decide
  obtain ⟨report, m', hall⟩ := apply_delete_any_log (m := oneStuck) rfl hselects false
  have hunrecorded : apply (.delete false) (.hashes ["b", "a"]) (.still 0) oneStuck none
      = (.ok ⟨2, 1⟩, { oneStuck with
          torrents := [.sample "a" "A" .seeding]
          calls := [.act (.delete false) ["b"]] }, none) := rfl
  obtain ⟨_, hnone⟩ := hall (.still 0) none
  rw [hunrecorded] at hnone
  cases hnone
  exact ⟨rfl, hselects, hall⟩

/-- To act on everything is to act on every listed info hash. If info hashes are different and no failure
    is pending, both batches give one report and leave one client, and they hand the log the deletions of
    the same torrents, in the same order, with the times that the clock shows for the first, the second and
    so on. -/
theorem apply_all_eq_hashes (hdistinct : m.infoHashes.Nodup) (hready : m.pending = none)
    (action : Action) (log : Option Log) :
    ∃ (report : Report) (m' : Memory) (removed : List Torrent), ∀ clock,
      ∀ selection ∈ [Selection.all, .hashes m.infoHashes],
        apply action selection clock m log = (.ok report, m',
          log.map fun l => (l.appendAll ((departures clock removed).map (deletion m.name))).2) := by
  refine ⟨⟨m.infoHashes.length, (attempts false action m.infoHashes m).1.failures⟩,
    (attempts false action m.infoHashes m).2,
    if records action log then removals false action m.infoHashes m else [],
    fun clock selection hselection => ?_⟩
  have hselects : Selects m selection ∧ targetHashes m selection = m.infoHashes := by
    rcases List.mem_pair.1 hselection with rfl | rfl
    · exact ⟨trivial, rfl⟩
    · exact ⟨⟨hdistinct, fun _ hmem => hmem⟩, rfl⟩
  obtain ⟨hselects, htargets⟩ := hselects
  obtain ⟨after, hbatch⟩ := apply_selected hready hselects action clock log
  have hlog := log_apply_selected hdistinct hready hselects action clock log
  rw [htargets] at hbatch hlog
  rw [hbatch] at hlog ⊢
  exact congrArg (fun left => (_, _, left)) hlog

/-- Recorded or not, the batch on everything is the batch on both torrents. -/
theorem apply_all_eq_hashes_stuck :
    oneStuck.infoHashes.Nodup ∧ oneStuck.pending = none ∧ ∀ clock,
      apply (.delete true) .all clock oneStuck (some (Log.onMedium (.file none)))
        = apply (.delete true) (.hashes ["a", "b"]) clock oneStuck (some (Log.onMedium (.file none))) := by
  have hdistinct : oneStuck.infoHashes.Nodup := by decide
  obtain ⟨_, _, _, hall⟩ := apply_all_eq_hashes hdistinct rfl (.delete true)
    (some (Log.onMedium (.file none)))
  exact ⟨hdistinct, rfl, fun clock => (hall clock .all List.mem_cons_self).trans
    (hall clock (.hashes ["a", "b"]) (List.mem_cons_of_mem _ List.mem_cons_self)).symm⟩

end Seedkeeper.Batch
