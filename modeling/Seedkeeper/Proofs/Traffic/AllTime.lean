import Seedkeeper.Proofs.Traffic.Summary

/-!
Conservation from the log to the report.

The traffic that a client's accepted events carry, and nothing else, is what the report over all time
shows for it. The days in between depend on the zone; their sum does not, so neither does the report.
-/

namespace Seedkeeper.Traffic

open Text (Bytes)
open Calendar (Date Zone)

/-- Whether an event's traffic can be put on days. -/
def Event.Attributable (e : Event) : Prop := Spreadable e.snapshot.addedAt e.time

instance (e : Event) : Decidable e.Attributable :=
  inferInstanceAs (Decidable (Spreadable _ _))

/-- What the attributable ones among a client's events count together. -/
def attributed (count : Event → Nat) (client : String) (es : List Event) : Nat :=
  ((es.filter fun e => e.snapshot.client = client ∧ e.Attributable).map count).sum

/-! ### The bookings of an event -/

variable {z : Zone} {e : Event}

/-- The days of an event carry all of its traffic, or there are none. -/
theorem sum_bookings (hz : z.localDate e.snapshot.addedAt.toInt ≠ .outside) :
    ((e.bookings z).map (·.downloaded)).sum
        = (if e.Attributable then e.snapshot.downloaded.toNat else 0) ∧
      ((e.bookings z).map (·.uploaded)).sum
        = (if e.Attributable then e.snapshot.uploaded.toNat else 0) := by
  rw [Event.bookings, Event.days?]
  by_cases h : e.Attributable
  · obtain ⟨_, ss, _, hss, _⟩ := Spreadable.exists_stretches h hz
    have hlt : e.snapshot.addedAt.toInt < e.time.toInt := by have := h.1; omega
    rw [Spreadable.splitByDay?_eq h hss, if_pos h, if_pos h]
    simp only [Option.getD_some, List.map_map]
    exact ⟨hss.sum_share_first _ hlt, hss.sum_share_first _ hlt⟩
  · rw [(splitByDay?_of_not_spreadable z _ _ h).1, if_neg h, if_neg h]
    exact ⟨rfl, rfl⟩

theorem bookings_ne_nil_iff (hz : z.localDate e.snapshot.addedAt.toInt ≠ .outside) :
    e.bookings z ≠ [] ↔ e.Attributable := by
  rw [Event.bookings, Event.days?]
  by_cases h : e.Attributable
  · obtain ⟨_, ss, _, hss, hne⟩ := Spreadable.exists_stretches h hz
    rw [Spreadable.splitByDay?_eq h hss]
    simpa [h] using hne
  · rw [(splitByDay?_of_not_spreadable z _ _ h).1]
    simpa using h

theorem client_of_mem_bookings {b : Booking} (h : b ∈ e.bookings z) :
    b.bucket.client = e.snapshot.client := by
  obtain ⟨_, _, rfl⟩ := List.mem_map.1 h
  rfl

/-! ### The bookings of some events -/

variable {amount : Booking → Nat} {count : Event → Nat} {es : List Event}

/-- A client's total is what its attributable events carry. -/
theorem total_flatMap_bookings (client : String) : ∀ {es : List Event},
    (∀ e ∈ es, ((e.bookings z).map amount).sum = if e.Attributable then count e else 0) →
    total amount (·.client == client) (es.flatMap (Event.bookings z)) = attributed count client es
  | [], _ => rfl
  | e :: es, h => by
    have hclient : ∀ b ∈ e.bookings z,
        (b.bucket.client == client) = decide (e.snapshot.client = client) := fun b hb => by
      rw [client_of_mem_bookings hb]; rfl
    rw [List.flatMap_cons, total_append, total_eq_ite hclient, h e List.mem_cons_self,
      total_flatMap_bookings client fun x hx => h x (List.mem_cons_of_mem _ hx), attributed,
      attributed, List.filter_cons]
    by_cases hc : e.snapshot.client = client <;> by_cases ha : e.Attributable <;> simp [hc, ha]

/-- A client has bookings exactly if it has an attributable event. -/
theorem exists_booking_iff {client : String}
    (hz : ∀ e ∈ es, z.localDate e.snapshot.addedAt.toInt ≠ .outside) :
    (∃ b ∈ es.flatMap (Event.bookings z), (b.bucket.client == client) = true) ↔
      ∃ e ∈ es, e.Attributable ∧ e.snapshot.client = client := by
  constructor
  · rintro ⟨b, hb, hc⟩
    obtain ⟨e, he, hb⟩ := List.mem_flatMap.1 hb
    refine ⟨e, he, (bookings_ne_nil_iff (hz e he)).1 (List.ne_nil_of_mem hb), ?_⟩
    rw [← client_of_mem_bookings hb]
    exact eq_of_beq hc
  · rintro ⟨e, he, ha, rfl⟩
    obtain ⟨b, hb⟩ := List.exists_mem_of_ne_nil _ ((bookings_ne_nil_iff (hz e he)).2 ha)
    exact ⟨b, List.mem_flatMap.2 ⟨e, he, hb⟩, by rw [client_of_mem_bookings hb, beq_self_eq_true]⟩

/-- No total is greater than what all events carry. -/
theorem total_flatMap_bookings_le (p : Bucket → Bool) : ∀ {es : List Event},
    (∀ e ∈ es, ((e.bookings z).map amount).sum = if e.Attributable then count e else 0) →
    total amount p (es.flatMap (Event.bookings z)) ≤ (es.map count).sum
  | [], _ => Nat.le_refl _
  | e :: es, h => by
    have hle : total amount p (e.bookings z) ≤ count e := by
      refine Nat.le_trans (total_le _) ?_
      rw [h e List.mem_cons_self]
      split <;> omega
    rw [List.flatMap_cons, total_append, List.map_cons, List.sum_cons]
    exact Nat.add_le_add hle
      (total_flatMap_bookings_le p fun x hx => h x (List.mem_cons_of_mem _ hx))

/-! ### The report over all time -/

/-- The entries of the report over all time, read off the events alone. -/
def allTimeEntries (es : List Event) : List Report :=
  (ascendingTexts ((es.filter (·.Attributable)).map (·.snapshot.client))).map fun c =>
    ⟨c, .allTime, .ofNat (attributed (·.snapshot.downloaded.toNat) c es),
      .ofNat (attributed (·.snapshot.uploaded.toNat) c es)⟩

theorem concerns_allTime (today : Date) (c : String) :
    Bucket.concerns none .allTime today c = (·.client == c) := by
  funext k
  simp [Bucket.concerns, Bucket.inReport, Bucket.group, Timespan.covers, Timespan.window?]

theorem spanReports_allTime (today : Date)
    (hz : ∀ e ∈ es, z.localDate e.snapshot.addedAt.toInt ≠ .outside) :
    spanReports none today (tally (es.flatMap (Event.bookings z))) .allTime = allTimeEntries es := by
  rw [spanReports, allTimeEntries]
  have hgroups : ascendingTexts (((tally (es.flatMap (Event.bookings z))).filter
      (·.bucket.inReport none .allTime today)).map (·.bucket.group none))
      = ascendingTexts ((es.filter (·.Attributable)).map (·.snapshot.client)) := by
    refine (ascendingTexts_pairwise _).eq_of_mem_iff (ascendingTexts_pairwise _) fun c => ?_
    rw [mem_groups_iff, concerns_allTime, exists_mem_tally (fun k => (k.client == c) = true),
      exists_booking_iff hz, mem_ascendingTexts]
    simp [and_assoc]
  rw [hgroups]
  refine List.map_congr_left fun c _ => ?_
  rw [concerns_allTime, total_tally fun _ _ => rfl, total_tally fun _ _ => rfl,
    total_flatMap_bookings c fun e he => (sum_bookings (hz e he)).1,
    total_flatMap_bookings c fun e he => (sum_bookings (hz e he)).2]

theorem attributed_le (count : Event → Nat) (client : String) : ∀ es : List Event,
    attributed count client es ≤ (es.map count).sum
  | [] => Nat.le_refl _
  | e :: es => by
    have := attributed_le count client es
    rw [attributed] at this ⊢
    rw [List.filter_cons, List.map_cons, List.sum_cons]
    split
    · rw [List.map_cons, List.sum_cons]; omega
    · omega

/-- The report over all time conserves what the log carries. As long as the accepted events' counters
    add up to less than a signed word holds, there is one list of entries such that in every zone in
    which the accepted events' torrents were added on dates, and on every day, replaying and reporting
    succeed and this list is the part over all time. It has, in ascending order, exactly the clients
    with an attributable accepted event, each with the sums of these events' counters. -/
theorem summarize_allTime_conserves (log : Bytes)
    (hd : ((accepted (eventsOf log)).map (·.snapshot.downloaded.toNat)).sum < 2 ^ 63)
    (hu : ((accepted (eventsOf log)).map (·.snapshot.uploaded.toNat)).sum < 2 ^ 63) :
    ∃ entries : List Report,
      (∀ (z : Zone) (today : Date),
        (∀ e ∈ accepted (eventsOf log), z.localDate e.snapshot.addedAt.toInt ≠ .outside) →
        ∃ l reports, replay? z log = some l ∧ l.summarize none today = .ok reports ∧
          reports.filter (·.span = .allTime) = entries) ∧
      (entries.map (·.group)).Pairwise (· < ·) ∧
      (∀ client, client ∈ entries.map (·.group) ↔
        ∃ e ∈ accepted (eventsOf log), e.Attributable ∧ e.snapshot.client = client) ∧
      ∀ r ∈ entries,
        r.downloaded.toNat
            = attributed (·.snapshot.downloaded.toNat) r.group (accepted (eventsOf log)) ∧
          r.uploaded.toNat
            = attributed (·.snapshot.uploaded.toNat) r.group (accepted (eventsOf log)) := by
  have hgroups : (allTimeEntries (accepted (eventsOf log))).map (·.group)
      = ascendingTexts (((accepted (eventsOf log)).filter (·.Attributable)).map
        (·.snapshot.client)) := by
    rw [allTimeEntries, List.map_map]
    exact List.map_id _
  refine ⟨allTimeEntries (accepted (eventsOf log)), fun z today hz => ?_, ?_, fun client => ?_,
    fun r hr => ?_⟩
  · have hdown : ∀ p, total (·.downloaded) p (bookingsOf z log) < 2 ^ 63 := fun p =>
      Nat.lt_of_le_of_lt
        (total_flatMap_bookings_le p fun e he => (sum_bookings (hz e he)).1) hd
    have hup : ∀ p, total (·.uploaded) p (bookingsOf z log) < 2 ^ 63 := fun p =>
      Nat.lt_of_le_of_lt
        (total_flatMap_bookings_le p fun e he => (sum_bookings (hz e he)).2) hu
    have hrows : bookAll [] (bookingsOf z log) = (tally (bookingsOf z log)).map Booking.row :=
      bookAll_eq _ fun _ => ⟨hdown _, hup _⟩
    have hreports := summarize_map_row none today (tally (bookingsOf z log))
      ((accepted (eventsOf log)).map Event.closing).reverse fun span g => by
        rw [total_tally fun _ _ => rfl, total_tally fun _ _ => rfl]
        exact ⟨hdown _, hup _⟩
    refine ⟨_, _, replay?_eq hz, by rw [hrows]; exact hreports, ?_⟩
    rw [filter_span_flatMap]
    exact spanReports_allTime today hz
  · rw [hgroups]; exact ascendingTexts_pairwise _
  · rw [hgroups, mem_ascendingTexts]
    simp [and_assoc]
  · obtain ⟨c, _, rfl⟩ := List.mem_map.1 hr
    have h₁ := Nat.lt_of_le_of_lt (attributed_le (·.snapshot.downloaded.toNat) c _) hd
    have h₂ := Nat.lt_of_le_of_lt (attributed_le (·.snapshot.uploaded.toNat) c _) hu
    exact ⟨UInt64.toNat_ofNat_of_lt' (by simp only [UInt64.size]; omega),
      UInt64.toNat_ofNat_of_lt' (by simp only [UInt64.size]; omega)⟩

/-- All-time traffic of a closing that was written twice: the first one's counters, in each zone. -/
theorem summarize_allTime_repeatedClosing :
    ((accepted (eventsOf repeatedClosing)).map (·.snapshot.downloaded.toNat)).sum < 2 ^ 63 ∧
    ((accepted (eventsOf repeatedClosing)).map (·.snapshot.uploaded.toNat)).sum < 2 ^ 63 ∧
    ∃ entries : List Report, entries.map (·.group) ≠ [] ∧
      (∀ r ∈ entries, r.group = "qb" → r.downloaded.toNat = 172800 ∧ r.uploaded.toNat = 48) ∧
      ∀ today, ∃ l reports, replay? skippedMidnight repeatedClosing = some l ∧
        l.summarize none today = .ok reports ∧ reports.filter (·.span = .allTime) = entries := by
  have hevents : eventsOf repeatedClosing
      = [closedAfterTwoDays, { closedAfterTwoDays with time := 1711972801 }] := eventsOf_entries _
  have hdown : ((accepted (eventsOf repeatedClosing)).map (·.snapshot.downloaded.toNat)).sum
      < 2 ^ 63 := by rw [hevents]; decide
  have hup : ((accepted (eventsOf repeatedClosing)).map (·.snapshot.uploaded.toNat)).sum
      < 2 ^ 63 := by rw [hevents]; decide
  obtain ⟨entries, hreport, _, hclients, hsums⟩ :=
    summarize_allTime_conserves repeatedClosing hdown hup
  refine ⟨hdown, hup, entries, ?_, fun r hr hgroup => ?_, fun today => ?_⟩
  · have hmem : "qb" ∈ entries.map (·.group) := by
      rw [hclients, hevents]; exact ⟨closedAfterTwoDays, by decide, by decide, rfl⟩
    exact List.ne_nil_of_mem hmem
  · have hcounters := hsums r hr
    rw [hgroup, hevents] at hcounters
    exact ⟨hcounters.1.trans (by decide), hcounters.2.trans (by decide)⟩
  · exact hreport skippedMidnight today (by rw [hevents]; decide)

end Seedkeeper.Traffic
