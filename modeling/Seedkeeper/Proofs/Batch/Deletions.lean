import Seedkeeper.Proofs.Batch.Removed
import Seedkeeper.Proofs.Traffic.Closings

/-!
From deletions to traffic reports.

A batch of deletions leaves one event in the log for each torrent that it takes off the client, and none
for a target that failed (`apply_delete_recorded`). The events are of different info hashes, so a replay
takes none of them for a repetition of another: of a log that was empty, the report over all time shows
the sums over the torrents that were there for some time (`allTimeTotals_deletions`).
-/

namespace Seedkeeper.Batch

open Calendar (Clock Date Zone readable)
open Client (Action Memory)
open Traffic (Event Log Torn accepted eventsOf maxSpan replay? replayMedium)

variable {m : Memory} {l : Log} {clock : Clock} {now : Int64} {ds : List Departure} {ts : List Torrent}

/-! ### The events of deletions -/

/-- What is recorded of a torrent that a client deletes. -/
def deletion (client : String) (d : Departure) : Event :=
  ⟨d.time, Event.closed,
    { client
      site := d.torrent.trackerHost?.getD ""
      category := d.torrent.category
      infoHash := d.torrent.infoHash
      name := d.torrent.name
      size := d.torrent.size
      addedAt := d.torrent.addedAt
      uploaded := d.torrent.uploaded
      downloaded := d.torrent.downloaded
      message := "delete" }⟩

theorem closeEvent_of_isDelete {action : Action} (hdelete : action.isDelete = true)
    (client : String) : closeEvent client action = deletion client := by
  cases action with
  | delete files => rfl
  | _ => cases hdelete

/-- For how many seconds a torrent was there. -/
def Departure.stay (d : Departure) : Int := d.time.toInt - d.torrent.addedAt.toInt

/-- What removed torrents have downloaded together. -/
def downloadedBy (ds : List Departure) : Nat := (ds.map (·.torrent.downloaded.toNat)).sum

/-- What removed torrents have uploaded together. -/
def uploadedBy (ds : List Departure) : Nat := (ds.map (·.torrent.uploaded.toNat)).sum

/-- Torrents that were there for some time, and no longer than the longest span. -/
def counted (ds : List Departure) : List Departure := ds.filter fun d => 0 < d.stay ∧ d.stay ≤ maxSpan

/-- Times that a clock shows: not before the epoch, and in the calendar. -/
def ClockTime (now : Int64) : Prop := 0 ≤ now.toInt ∧ readable now.toInt

instance (now : Int64) : Decidable (ClockTime now) := inferInstanceAs (Decidable (_ ∧ _))

/-- Up to the longest span before a time that a clock shows, times are in the calendar. -/
theorem ClockTime.readable_of_span {addedAt : Int64} (h : ClockTime now)
    (hpast : 0 < now.toInt - addedAt.toInt) (hspan : now.toInt - addedAt.toInt ≤ maxSpan) :
    readable addedAt.toInt := by
  obtain ⟨hepoch, hread⟩ := h
  rw [readable, Date.inCalendar, Bool.and_eq_true, decide_eq_true_iff, decide_eq_true_iff] at hread ⊢
  simp only [Date.first, Date.last, Calendar.daySeconds, maxSpan] at *
  omega

/-- Exactly the deletions of these torrents bring traffic to the reports. -/
theorem attributable_deletion_iff {d : Departure} (h : ClockTime d.time) (client : String) :
    (deletion client d).Attributable ↔ 0 < d.stay ∧ d.stay ≤ maxSpan :=
  ⟨fun ⟨hpast, hspan, _⟩ => ⟨hpast, hspan⟩,
    fun ⟨hpast, hspan⟩ => ⟨hpast, hspan, h.readable_of_span hpast hspan⟩⟩

/-- Deletions of torrents with different info hashes are different closings. -/
theorem nodup_closings (client : String) (h : (ds.map (·.torrent.infoHash)).Nodup) :
    ((ds.map (deletion client)).map Event.closing).Nodup := by
  refine List.Nodup.of_map (·.infoHash) ?_
  rw [List.map_map, List.map_map]
  exact h

/-- What is accepted of deletions and brings traffic to the reports. -/
theorem accepted_deletions (hclock : ∀ d ∈ ds, ClockTime d.time) (client : String)
    (h : (ds.map (·.torrent.infoHash)).Nodup) :
    (accepted (ds.map (deletion client))).filter (·.Attributable)
      = (counted ds).map (deletion client) := by
  have hcounts : ∀ d ∈ ds, (decide (deletion client d).Attributable
      && decide (deletion client d).Counts) = decide (0 < d.stay ∧ d.stay ≤ maxSpan) := by
    intro d hd
    rw [← Bool.decide_and]
    refine decide_eq_decide.2 ?_
    rw [and_iff_left_of_imp fun h => h.counts rfl, attributable_deletion_iff (hclock d hd)]
  rw [Traffic.accepted_eq_filter (nodup_closings client h), List.filter_filter, List.filter_map]
  exact congrArg _ (List.filter_congr hcounts)

/-- What reports show over all time: each group with the bytes it downloaded and uploaded. -/
def allTimeTotals (reports : List Traffic.Report) : List (String × Nat × Nat) :=
  (reports.filter (·.span = .allTime)).map fun r => (r.group, r.downloaded.toNat, r.uploaded.toNat)

/-- Of a log of deletions alone, the report over all time is one entry for the client with the sums over
    the torrents that were there for some time, or none if there are none. -/
theorem allTimeTotals_deletions (hclock : ∀ d ∈ ds, ClockTime d.time) {client : String}
    (hdistinct : (ds.map (·.torrent.infoHash)).Nodup) (hd : downloadedBy (counted ds) < 2 ^ 63)
    (hu : uploadedBy (counted ds) < 2 ^ 63) {z : Zone}
    (hz : ∀ d ∈ counted ds, z.localDate d.torrent.addedAt.toInt ≠ .outside) {bs : Text.Bytes}
    (hbs : eventsOf bs = ds.map (deletion client)) (today : Date) :
    ∃ ledger reports, replay? z bs = some ledger ∧ ledger.summarize none today = .ok reports ∧
      allTimeTotals reports = if counted ds = [] then [] else
        [(client, downloadedBy (counted ds), uploadedBy (counted ds))] := by
  have hes : (accepted (eventsOf bs)).filter (·.Attributable)
      = (counted ds).map (deletion client) := by
    rw [hbs, accepted_deletions hclock client hdistinct]
  have hdown : (((counted ds).map (deletion client)).map (·.snapshot.downloaded.toNat)).sum
      = downloadedBy (counted ds) := by
    rw [List.map_map]
    rfl
  have hup : (((counted ds).map (deletion client)).map (·.snapshot.uploaded.toNat)).sum
      = uploadedBy (counted ds) := by
    rw [List.map_map]
    rfl
  obtain ⟨ledger, reports, hledger, hreports, hall⟩ := Traffic.summarize_allTime_of_dates bs today hes
    (List.forall_mem_map.2 hz) (hdown ▸ hd) (hup ▸ hu)
  refine ⟨ledger, reports, hledger, hreports, ?_⟩
  have hspread : ∀ e ∈ (counted ds).map (deletion client), e.Attributable := by
    refine List.forall_mem_map.2 fun d hmem => ?_
    obtain ⟨hmem, hstay⟩ := List.mem_filter.1 hmem
    exact (attributable_deletion_iff (hclock d hmem) client).2 (of_decide_eq_true hstay)
  have hclient : ∀ e ∈ (counted ds).map (deletion client), e.snapshot.client = client :=
    List.forall_mem_map.2 fun _ _ => rfl
  rw [allTimeTotals, hall, Traffic.allTimeEntries_of_client hclient hspread, hdown, hup]
  simp only [List.map_eq_nil_iff]
  split
  · rfl
  · simp only [List.map_cons, List.map_nil, UInt64.toNat_ofNat']
    rw [Nat.mod_eq_of_lt (by omega), Nat.mod_eq_of_lt (by omega)]

/-! ### Batches -/

/-- What a batch of deletions leaves in a log that takes events: of a client before it and after it, of
    the torrents it removed, and of a clock that was read for each of them. -/
structure Recorded (clock : Clock) (m m' : Memory) (removed : List Torrent) (l l' : Log) : Prop where
  /-- They are the torrents that are gone, as they were, each once. -/
  perm : removed.Perm (gone m m')
  /-- One entry for each is added to the file, and before them at most the newline that ends its last
      line. -/
  bytes : l'.bytes = l.bytes ++ (if removed = [] then [] else l.lead)
    ++ ((departures clock removed).map (deletion m.name)).flatMap Log.entry
  /-- Read back, the file holds the events of before and then these. -/
  events : (l.state = .opened → ¬ Torn l.bytes) →
    eventsOf l'.bytes = eventsOf l.bytes ++ (departures clock removed).map (deletion m.name)
  /-- Of a log that was empty, the report over all time shows what they carried. -/
  allTime : let ds := departures clock removed
    l.bytes = [] → (∀ d ∈ ds, ClockTime d.time) → downloadedBy (counted ds) < 2 ^ 63 →
    uploadedBy (counted ds) < 2 ^ 63 → ∀ (z : Zone) (today : Date),
    (∀ d ∈ counted ds, z.localDate d.torrent.addedAt.toInt ≠ .outside) →
    ∃ ledger reports, replayMedium z l'.medium = .ok ledger ∧
      ledger.summarize none today = .ok reports ∧
      allTimeTotals reports = if counted ds = [] then [] else
        [(m.name, downloadedBy (counted ds), uploadedBy (counted ds))]

theorem recorded_appendAll (hdistinct : m.infoHashes.Nodup) (hlog : l.Writable) {m' : Memory}
    (hremoved : ts.Perm (gone m m')) :
    Recorded clock m m' ts l (l.appendAll ((departures clock ts).map (deletion m.name))).2 := by
  have hhashes : ((departures clock ts).map (·.torrent.infoHash)).Nodup := by
    rw [infoHashes_departures]
    exact (hremoved.map _).nodup_iff.2 (hdistinct.sublist (List.filter_sublist.map _))
  refine ⟨hremoved, ?_, fun hopened => hlog.eventsOf_appendAll hopened _, ?_⟩
  · rw [hlog.bytes_appendAll]
    simp only [List.map_eq_nil_iff, departures_eq_nil_iff]
  · intro ds hempty hclock hd hu z today hz
    have hwhole : l.state = .opened → ¬ Torn l.bytes := fun _ htorn => htorn.1 hempty
    have hevents := hlog.eventsOf_appendAll hwhole (ds.map (deletion m.name))
    rw [hempty, Traffic.eventsOf_nil, List.nil_append] at hevents
    obtain ⟨content, hfile⟩ := (hlog.appendAll (ds.map (deletion m.name))).file
    rw [Log.bytes, hfile] at hevents
    obtain ⟨ledger, reports, hledger, hreports, hall⟩ :=
      allTimeTotals_deletions hclock hhashes hd hu hz hevents today
    exact ⟨ledger, reports, hfile ▸ Traffic.replayMedium_file hledger, hreports, hall⟩

/-- A batch that records removes one torrent for each target that succeeds, in batch order. Those that it
    does not look up are listed. -/
theorem infoHashes_removals_apply {action : Action} {selection : Selection} {log : Option Log}
    (hdistinct : m.infoHashes.Nodup) (hrecords : records action log = true)
    (hready : selection = .all → m.pending = none) :
    (removals (looksFor action log selection) action (targetHashes m selection) m).map (·.infoHash)
      = (attempts (looksFor action log selection) action (targetHashes m selection) m).1.done := by
  have hdelete : action.isDelete = true := (Bool.and_eq_true_iff.1 hrecords).1
  cases selection with
  | all =>
    obtain ⟨hattempts, hremovals⟩ :=
      attempts_looking hdelete (hready rfl) hdistinct fun _ hmem => hmem
    change (removals false action m.infoHashes m).map _ = (attempts false action m.infoHashes m).1.done
    rw [← hattempts, ← hremovals]
    exact infoHashes_removals hdelete hdistinct m.infoHashes
  | hashes hs =>
    rw [looksFor, hrecords]
    exact infoHashes_removals hdelete hdistinct hs

/-- Every torrent that a batch of deletions removes is accounted for. If the client's info hashes are
    different and the log takes events, then a batch that gives a report removes one torrent for each
    target that did not fail, and adds an event for each of them to the log, in batch order, with what
    the client knew of the torrent; a batch that gives none adds nothing, and neither does a batch with
    another action. -/
theorem apply_delete_recorded (hdistinct : m.infoHashes.Nodup) (hlog : l.Writable)
    (selection : Selection) (clock : Clock) :
    (∀ files, let batch := apply (.delete files) selection clock m (some l)
      (∀ e, batch.1 = .error e → batch.2.2 = some l) ∧
      ∀ report, batch.1 = .ok report →
        ∃ (journal : Journal) (removed : List Torrent) (l' : Log), batch.2.2 = some l' ∧
        journal.map (·.1) = targetHashes m selection ∧
        report = ⟨(targetHashes m selection).length, journal.failures⟩ ∧
        removed.map (·.infoHash) = journal.done ∧
        Recorded clock m batch.2.1 removed l l') ∧
    ∀ action, action.isDelete = false → ∀ log, (apply action selection clock m log).2.2 = log := by
  refine ⟨fun files => ?_, fun action hstays log => ?_⟩
  · have hrecords : records (.delete files) (some l) = true := by
      rcases hlog.state with hstate | hstate <;>
        simp [records, Action.isDelete, Log.isAvailable, hstate]
    rcases apply_cases (.delete files) selection clock m (some l) with
      ⟨e, _, _, hbatch⟩ | ⟨hready, after, hbatch⟩
    · rw [hbatch]
      exact ⟨fun _ _ => rfl, nofun⟩
    · have hafter : (apply (.delete files) selection clock m (some l)).2.2 = _ :=
        log_apply hdistinct hrecords hready clock
      rw [closeEvent_of_isDelete rfl, hbatch] at hafter
      rw [hbatch]
      refine ⟨nofun, ?_⟩
      rintro _ ⟨⟩
      exact ⟨_, _, _, hafter, attempts_targets _ _ _ m, rfl,
        infoHashes_removals_apply hdistinct hrecords hready,
        recorded_appendAll hdistinct hlog (removals_perm rfl m _)⟩
  · exact log_apply_of_not_records (by rw [records, hstays]; rfl) selection clock m

/-- A client with two torrents, one of which cannot be deleted. -/
def oneStuck : Memory :=
  { Memory.named "Files" with
    torrents := [.sample "a" "A" .seeding, .sample "b" "B" .seeding]
    failing := ["a"] }

/-- A torrent without a tracker. -/
def untracked : Torrent := { Torrent.sample "c" "C" .paused with tracker := "" }

/-- The same client with a third torrent. -/
def oneStuckOfThree : Memory := { oneStuck with torrents := oneStuck.torrents ++ [untracked] }

/-- A clock that is set back by a second after each reading. -/
def setBack : Clock := ⟨fun n => 1700086400 - Int64.ofNat n⟩

/-- Of five targets one is unknown, one is gone already and one cannot be deleted; the other two are what
    the log tells of, each at its own time. -/
theorem apply_delete_recorded_stuck :
    oneStuckOfThree.infoHashes.Nodup ∧ (Log.onMedium (.file none)).Writable ∧
    let batch := apply (.delete true) (.hashes ["x", "b", "b", "a", "c"]) setBack oneStuckOfThree
      (some (Log.onMedium (.file none)))
    batch.1 = .ok ⟨5, 3⟩ ∧ ∃ l', batch.2.2 = some l' ∧
      eventsOf l'.bytes =
        [⟨1700086400, Event.closed,
          { client := "Files", site := "tracker.example.org", category := "", infoHash := "b"
            name := "B", size := 104857600, addedAt := 1700000000, uploaded := 0
            downloaded := 104857600, message := "delete" }⟩,
         ⟨1700086399, Event.closed,
          { client := "Files", site := "", category := "", infoHash := "c"
            name := "C", size := 104857600, addedAt := 1700000000, uploaded := 0
            downloaded := 52428800, message := "delete" }⟩] ∧
      ∀ today, ∃ ledger reports, replayMedium .utc l'.medium = .ok ledger ∧
        ledger.summarize none today = .ok reports ∧
        allTimeTotals reports = [("Files", 157286400, 0)] := by
  have hdistinct : oneStuckOfThree.infoHashes.Nodup := by decide
  have hlog := Log.writable_onMedium none
  have hreport : (apply (.delete true) (.hashes ["x", "b", "b", "a", "c"]) setBack oneStuckOfThree
      (some (Log.onMedium (.file none)))).1 = .ok ⟨5, 3⟩ := by decide +kernel
  have hgone : gone oneStuckOfThree (apply (.delete true) (.hashes ["x", "b", "b", "a", "c"]) setBack
      oneStuckOfThree (some (Log.onMedium (.file none)))).2.1
        = [.sample "b" "B" .seeding, untracked] := by decide +kernel
  have hcounted : counted (departures setBack [.sample "b" "B" .seeding, untracked])
      = departures setBack [.sample "b" "B" .seeding, untracked] := by decide
  obtain ⟨journal, removed, l', hafter, htargets, _, hhashes, hperm, _, hevents, hall⟩ :=
    ((apply_delete_recorded hdistinct hlog (.hashes ["x", "b", "b", "a", "c"]) setBack).1 true).2 _
      hreport
  rw [hgone] at hperm
  -- the torrents are gone in the order of the targets
  have horder : journal.done.Sublist (journal.map (·.1)) := List.filter_sublist.map _
  rw [← hhashes, htargets] at horder
  obtain ⟨first, rest, rfl⟩ := List.exists_cons_of_length_eq_add_one hperm.length_eq
  rcases List.mem_pair.1 (hperm.subset List.mem_cons_self) with rfl | rfl
  · obtain rfl := List.perm_singleton.1 hperm.cons_inv
    simp only [hcounted] at hall
    refine ⟨hdistinct, hlog, hreport, l', hafter, (hevents nofun).trans (by decide +kernel), fun today => ?_⟩
    exact hall rfl (by decide) (by decide) (by decide) .utc today
      fun _ _ => Traffic.localDate_utc_ne_outside _
  · obtain rfl := List.perm_singleton.1 (hperm.trans (.swap _ _ _)).cons_inv
    exact absurd horder (by decide)

end Seedkeeper.Batch
