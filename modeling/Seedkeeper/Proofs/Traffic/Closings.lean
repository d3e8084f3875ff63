import Seedkeeper.Proofs.Traffic.LogRun
import Seedkeeper.Proofs.Traffic.Outcome
import Seedkeeper.Proofs.Traffic.TornLog

/-!
Logs of closing events, and reports on them.

A log that takes events adds them in a row after those of its file (`Log.Writable.eventsOf_appendAll`).
Where no closing stands twice, all events that count are accepted. Only those whose traffic can be put on
days take part in a report, and a replay asks the zone about no others; so it succeeds if the zone has
dates for them (`summarize_allTime_of_dates`). If all events are of one client, the report over all time
is one entry with the sums of what they carry, or none (`allTimeEntries_of_client`).
-/

namespace Seedkeeper.Traffic

open Text (Bytes)
open Calendar (Date Zone)

variable {z : Zone} {e : Event} {es : List Event} {l : Log}

/-! ### Events handed to a log in a row -/

/-- A log whose file takes bytes adds an entry for each event, after the newline that opening the file
    may take. -/
theorem Log.Writable.log_appendAll (h : l.Writable) : ∀ {es : List Event}, es ≠ [] →
    (l.appendAll es).2 = ⟨.opened, .file (some (l.bytes ++ l.lead ++ es.flatMap Log.entry))⟩
  | [], hes => absurd rfl hes
  | e :: es, _ => by
    change ((l.append e).2.appendAll es).2 = _
    rw [h.append_eq, Log.appendAll_opened, List.append_assoc _ (Log.entry e), ← List.flatMap_cons]

theorem Log.Writable.appendAll (h : l.Writable) (es : List Event) : (l.appendAll es).2.Writable := by
  by_cases hes : es = []
  · rw [hes]
    exact h
  · rw [h.log_appendAll hes]
    exact ⟨.inr rfl, _, rfl⟩

theorem Log.Writable.bytes_appendAll (h : l.Writable) (es : List Event) :
    (l.appendAll es).2.bytes
      = l.bytes ++ (if es = [] then [] else l.lead) ++ es.flatMap Log.entry := by
  by_cases hes : es = []
  · rw [hes, List.flatMap_nil, if_pos rfl, List.append_nil, List.append_nil]
    rfl
  · rw [h.log_appendAll hes, if_neg hes]
    rfl

/-- Events come after those of the file, if the log opens it or it is not torn. -/
theorem Log.Writable.eventsOf_appendAll (h : l.Writable)
    (hopened : l.state = .opened → ¬ Torn l.bytes) (es : List Event) :
    eventsOf (l.appendAll es).2.bytes = eventsOf l.bytes ++ es := by
  rw [h.bytes_appendAll]
  split
  · rename_i hes
    rw [hes, List.flatMap_nil, List.append_nil, List.append_nil, List.append_nil]
  · rw [bytes_append_lead h hopened, Log.eventsOf_mended_append, eventsOf_entries]

/-- A file that can be replayed has a ledger, and so has the place of one that is not there. -/
theorem replayMedium_file {content : Option Bytes} {ledger : Ledger}
    (h : replay? z (content.getD []) = some ledger) : replayMedium z (.file content) = .ok ledger := by
  cases content with
  | none =>
    -- nothing to read, and nothing in an empty file
    obtain rfl : Ledger.empty = ledger := Option.some.inj h
    rfl
  | some bs =>
    change replay? z bs = _ at h
    simp only [replayMedium, Medium.read, h]

/-! ### Events that take part -/

theorem accepted_eq_filter (h : (es.map Event.closing).Nodup) : accepted es = es.filter (·.Counts) := by
  induction es with
  | nil => rfl
  | cons e es ih =>
    obtain ⟨hnew, hrest⟩ := List.nodup_cons.1 h
    rw [accepted, ih hrest]
    by_cases hc : e.Counts
    · have hothers : ∀ x ∈ es.filter (·.Counts), x.closing ≠ e.closing := fun x hx hsame =>
        hnew (hsame ▸ List.mem_map_of_mem (List.mem_filter.1 hx).1)
      rw [if_pos hc, List.filter_cons_of_pos (by simpa using hc),
        List.filter_eq_self.2 fun x hx => by simpa using hothers x hx]
    · rw [if_neg hc, List.filter_cons_of_neg (by simpa using hc)]

/-- Closing events with traffic to put on days count. -/
theorem Event.Attributable.counts (h : e.Attributable) (hkind : e.kind = Event.closed) : e.Counts := by
  obtain ⟨hpos, hspan, _⟩ := h
  rw [maxSpan] at hspan
  exact ⟨hkind, hpos, by omega⟩

theorem bookings_of_not_attributable (h : ¬ e.Attributable) : e.bookings z = [] := by
  rw [Event.bookings, Event.days?, (splitByDay?_of_not_spreadable z _ _ h).1]
  rfl

/-- Events without traffic to put on days book nothing. -/
theorem flatMap_bookings_filter (z : Zone) (es : List Event) :
    (es.filter (·.Attributable)).flatMap (Event.bookings z) = es.flatMap (Event.bookings z) := by
  induction es with
  | nil => rfl
  | cons e es ih =>
    by_cases h : e.Attributable
    · rw [List.filter_cons_of_pos (by simpa using h), List.flatMap_cons, List.flatMap_cons, ih]
    · rw [List.filter_cons_of_neg (by simpa using h), List.flatMap_cons, ih,
        bookings_of_not_attributable h, List.nil_append]

/-! ### Reports over all time -/

/-- If the zone has dates for the accepted events with traffic to put on days, and these carry together
    less than a signed word holds, the log is replayed and they are what the report over all time
    shows. -/
theorem summarize_allTime_of_dates (log : Bytes) (today : Date)
    (hes : (accepted (eventsOf log)).filter (·.Attributable) = es)
    (hz : ∀ e ∈ es, z.localDate e.snapshot.addedAt.toInt ≠ .outside)
    (hd : (es.map (·.snapshot.downloaded.toNat)).sum < 2 ^ 63)
    (hu : (es.map (·.snapshot.uploaded.toNat)).sum < 2 ^ 63) :
    ∃ l reports, replay? z log = some l ∧ l.summarize none today = .ok reports ∧
      reports.filter (·.span = .allTime) = allTimeEntries es := by
  have hsome : replay? z log ≠ none := by
    intro hnone
    obtain ⟨e, he, hspread, houtside⟩ := replay?_eq_none_iff.1 hnone
    exact hz e (hes ▸ List.mem_filter.2 ⟨he, by simpa using hspread⟩) houtside
  obtain ⟨l, hl⟩ := Option.ne_none_iff_exists'.1 hsome
  have hbookings : bookingsOf z log = es.flatMap (Event.bookings z) := by
    rw [bookingsOf, ← flatMap_bookings_filter, hes]
  have hdown : ∀ p, total (·.downloaded) p (es.flatMap (Event.bookings z)) < 2 ^ 63 := fun p =>
    Nat.lt_of_le_of_lt (total_flatMap_bookings_le p fun e he => (sum_bookings (hz e he)).1) hd
  have hup : ∀ p, total (·.uploaded) p (es.flatMap (Event.bookings z)) < 2 ^ 63 := fun p =>
    Nat.lt_of_le_of_lt (total_flatMap_bookings_le p fun e he => (sum_bookings (hz e he)).2) hu
  have hreports := summarize_map_row none today (tally (es.flatMap (Event.bookings z)))
    ((accepted (eventsOf log)).map Event.closing).reverse fun span g => by
      rw [total_tally fun _ _ => rfl, total_tally fun _ _ => rfl]
      exact ⟨hdown _, hup _⟩
  have hrows : bookAll [] (bookingsOf z log)
      = (tally (es.flatMap (Event.bookings z))).map Booking.row := by
    rw [hbookings, bookAll_eq _ fun _ => ⟨hdown _, hup _⟩]
  rw [← hrows, ← eq_of_replay? hl] at hreports
  refine ⟨l, _, hl, hreports, ?_⟩
  rw [filter_span_flatMap]
  exact spanReports_allTime today hz

/-- What is reported of one client's events: one entry, or none if there are no events. -/
theorem allTimeEntries_of_client {client : String} (hclient : ∀ e ∈ es, e.snapshot.client = client)
    (hspread : ∀ e ∈ es, e.Attributable) :
    allTimeEntries es = if es = [] then [] else
      [⟨client, .allTime, .ofNat (es.map (·.snapshot.downloaded.toNat)).sum,
        .ofNat (es.map (·.snapshot.uploaded.toNat)).sum⟩] := by
  have hattributed : ∀ count, attributed count client es = (es.map count).sum := fun count => by
    rw [attributed, List.filter_eq_self.2 fun e he => by simp [hclient e he, hspread e he]]
  have hclients : ascendingTexts ((es.filter (·.Attributable)).map (·.snapshot.client))
      = if es = [] then [] else [client] := by
    rw [List.filter_eq_self.2 fun e he => by simpa using hspread e he]
    refine (ascendingTexts_pairwise _).eq_of_mem_iff ?_ fun c => ?_
    · split
      · exact .nil
      · exact List.pairwise_singleton _ _
    · rw [mem_ascendingTexts, List.mem_map]
      split
      · rename_i hnil
        simp [hnil]
      · rename_i hne
        rw [List.mem_singleton]
        constructor
        · rintro ⟨e, he, rfl⟩
          exact hclient e he
        · rintro rfl
          obtain ⟨e, he⟩ := List.exists_mem_of_ne_nil _ hne
          exact ⟨e, he, hclient e he⟩
  rw [allTimeEntries, hclients]
  split
  · rfl
  · rw [List.map_singleton, hattributed, hattributed]

end Seedkeeper.Traffic
