import Seedkeeper.Proofs.Traffic.EventLine
import Seedkeeper.Proofs.Traffic.Split
import Seedkeeper.Proofs.Traffic.Tally

/-!
The events a replay takes in, and what it makes of them.

An event counts if it closes a torrent after a positive time that 64 bits hold, and of the events
with one client, info hash and time added only the first is accepted. A run of the ledger books the
accepted events among those it has not met before, in order, and nothing else (`takeAll?_eq`); so
the rows of a replayed log are the tally of the accepted events' shares.
-/

namespace Seedkeeper.Traffic

open Text (Bytes)
open Calendar (Zone)

/-! ### Accepted events -/

namespace Event

/-- Whether an event can count at all: it closes, after a positive time that 64 bits hold. -/
def Counts (e : Event) : Prop :=
  e.kind = closed ∧ 0 < e.time.toInt - e.snapshot.addedAt.toInt ∧
    e.time.toInt - e.snapshot.addedAt.toInt < 2 ^ 63

instance (e : Event) : Decidable e.Counts := inferInstanceAs (Decidable (_ ∧ _ ∧ _))

/-- Which torrent an event closes. -/
def closing (e : Event) : Closing := ⟨e.snapshot.client, e.snapshot.infoHash, e.snapshot.addedAt⟩

/-- The days of an event's traffic, if they can be told. -/
def days? (z : Zone) (e : Event) : Option (List DayShare) :=
  splitByDay? z e.snapshot.addedAt e.time e.snapshot.downloaded e.snapshot.uploaded

/-- An event's shares, each for its bucket. -/
def bookings (z : Zone) (e : Event) : List Booking :=
  ((e.days? z).getD []).map fun d =>
    ⟨⟨e.snapshot.client, d.day.text, e.snapshot.site⟩, d.downloaded, d.uploaded⟩

end Event

/-- The events that count, each closing only where it comes first. -/
def accepted : List Event → List Event
  | [] => []
  | e :: es =>
    if e.Counts then e :: (accepted es).filter (·.closing ≠ e.closing) else accepted es

/-- The shares of a log's accepted events, in order. -/
def bookingsOf (z : Zone) (log : Bytes) : List Booking :=
  (accepted (eventsOf log)).flatMap (Event.bookings z)

/-! ### One event -/

theorem closing?_eq (e : Event) :
    Ledger.closing? e = if e.Counts then some e.closing else none := by
  rw [Ledger.closing?, Event.elapsed?, Event.span?]
  by_cases hfits : Number.fitsInt64 (e.time.toInt - e.snapshot.addedAt.toInt)
  · have hlt := (Number.fitsInt64_iff.1 hfits).2
    have hiff : (e.isClose ∧ 0 < e.time.toInt - e.snapshot.addedAt.toInt) ↔ e.Counts := by
      rw [Event.isClose, beq_iff_eq]
      exact ⟨fun h => ⟨h.1, h.2, by omega⟩, fun h => ⟨h.1, h.2.1⟩⟩
    simp only [hfits, if_true, hiff]
    rfl
  · have hnot : ¬ e.Counts := fun h => hfits (Number.fitsInt64_iff.2 ⟨by
      have := h.2.1; omega, by have := h.2.2; omega⟩)
    simp [hfits, hnot]

variable {z : Zone} {l : Ledger} {e : Event}

theorem take_of_not_counts (h : ¬ e.Counts) : l.take z e = (.passedOver, l) := by
  rw [Ledger.take, closing?_eq, if_neg h]

theorem take_of_mem (h : e.closing ∈ l.closings) : l.take z e = (.passedOver, l) := by
  rw [Ledger.take, closing?_eq]
  split
  · rfl
  · rename_i c hc
    split at hc
    · obtain rfl := Option.some.inj hc
      rw [if_pos h]
    · cases hc

theorem bookDays_eq (client site : String) (rows : List Row) (days : List DayShare) :
    Ledger.bookDays client site rows days
      = bookAll rows (days.map fun d => ⟨⟨client, d.day.text, site⟩, d.downloaded, d.uploaded⟩) := by
  rw [bookAll, List.foldl_map]; rfl

/-- A new closing with days is remembered and its shares are booked. -/
theorem take_of_days {days : List DayShare} (h : e.Counts) (hnew : e.closing ∉ l.closings)
    (hdays : e.days? z = some days) :
    l.take z e = (.counted, ⟨bookAll l.rows (e.bookings z), e.closing :: l.closings⟩) := by
  rw [Ledger.take, closing?_eq, if_pos h]
  simp only [if_neg hnew]
  rw [Event.days?] at hdays
  simp only [hdays, bookDays_eq, Event.bookings, Event.days?, Option.getD_some]

/-! ### A run of events -/

/-- The accepted events among some whose closing is not one of those met before. -/
def fresh (met : List Closing) (es : List Event) : List Event :=
  (accepted es).filter (·.closing ∉ met)

theorem fresh_of_not_counts {met : List Closing} {es : List Event} (h : ¬ e.Counts) :
    fresh met (e :: es) = fresh met es := by
  rw [fresh, accepted, if_neg h, fresh]

theorem fresh_of_mem {met : List Closing} {es : List Event} (h : e.closing ∈ met) :
    fresh met (e :: es) = fresh met es := by
  rw [fresh, accepted]
  split
  · rw [List.filter_cons, if_neg (by simpa using h), List.filter_filter]
    refine List.filter_congr fun x _ => ?_
    by_cases hx : x.closing = e.closing <;> simp [hx, h]
  · rfl

theorem fresh_of_not_mem {met : List Closing} {es : List Event} (hc : e.Counts)
    (h : e.closing ∉ met) : fresh met (e :: es) = e :: fresh (e.closing :: met) es := by
  rw [fresh, accepted, if_pos hc, List.filter_cons, if_pos (by simpa using h), List.filter_filter]
  refine congrArg _ (List.filter_congr fun x _ => ?_)
  simp [Bool.and_comm]

theorem fresh_nil (es : List Event) : fresh [] es = accepted es :=
  List.filter_eq_self.2 fun _ _ => by simp

/-- A run books the accepted events it has not met before, in order, and remembers them. -/
theorem takeAll?_eq (z : Zone) : ∀ (es : List Event) (l : Ledger),
    (∀ e ∈ fresh l.closings es, e.days? z ≠ none) →
    takeAll? z l es = some
      ⟨bookAll l.rows ((fresh l.closings es).flatMap (Event.bookings z)),
        ((fresh l.closings es).map Event.closing).reverse ++ l.closings⟩
  | [], _, _ => rfl
  | e :: es, l, h => by
    rw [takeAll?]
    by_cases hc : e.Counts
    · by_cases hmem : e.closing ∈ l.closings
      · rw [fresh_of_mem hmem] at h ⊢
        rw [take_of_mem hmem]
        exact takeAll?_eq z es l h
      · rw [fresh_of_not_mem hc hmem] at h ⊢
        obtain ⟨days, hdays⟩ := Option.ne_none_iff_exists'.1 (h e List.mem_cons_self)
        rw [take_of_days hc hmem hdays]
        simp only
        rw [takeAll?_eq z es _ fun x hx => h x (List.mem_cons_of_mem _ hx)]
        simp only [List.flatMap_cons, bookAll_append, List.map_cons, List.reverse_cons,
          List.append_assoc, List.singleton_append]
    · rw [fresh_of_not_counts hc] at h ⊢
      rw [take_of_not_counts hc]
      exact takeAll?_eq z es l h

/-! ### A log -/

theorem days?_ne_none (h : z.localDate e.snapshot.addedAt.toInt ≠ .outside) : e.days? z ≠ none := by
  rw [Event.days?]
  by_cases hs : Spreadable e.snapshot.addedAt e.time
  · obtain ⟨_, ss, _, hss, _⟩ := hs.exists_stretches h
    rw [hs.splitByDay?_eq hss]
    exact Option.some_ne_none _
  · rw [(splitByDay?_of_not_spreadable z _ _ hs).1]
    exact Option.some_ne_none _

/-- A log whose accepted events have dates leaves the ledger of their shares. -/
theorem replay?_eq {log : Bytes}
    (hz : ∀ e ∈ accepted (eventsOf log), z.localDate e.snapshot.addedAt.toInt ≠ .outside) :
    replay? z log = some ⟨bookAll [] (bookingsOf z log),
      ((accepted (eventsOf log)).map Event.closing).reverse⟩ := by
  have hfresh : fresh Ledger.empty.closings (eventsOf log) = accepted (eventsOf log) := fresh_nil _
  rw [replay?, takeAll?_eq z _ _ fun e he => days?_ne_none (hz e (hfresh ▸ he)), hfresh]
  simp only [Ledger.empty, List.append_nil]
  rfl

/-! ### Shown rows -/

/-- A shown row as an amount of traffic. -/
def Ledger.ShownRow.booking (r : Ledger.ShownRow) : Booking :=
  ⟨r.bucket, r.downloaded.toNat, r.uploaded.toNat⟩

theorem mapM_eq_ok {α β ε : Type} {f : α → Except ε β} {g : α → β} : ∀ {xs : List α},
    (∀ x ∈ xs, f x = .ok (g x)) → xs.mapM f = .ok (xs.map g)
  | [], _ => rfl
  | x :: xs, h => by
    rw [List.mapM_cons, h x List.mem_cons_self, mapM_eq_ok fun y hy => h y (List.mem_cons_of_mem _ hy)]
    rfl

/-- Rows that stand for entries are shown as these entries. -/
theorem shownRows_map_row (xs : List Booking) (closings : List Closing)
    (h : ∀ x ∈ xs, x.downloaded < 2 ^ 63 ∧ x.uploaded < 2 ^ 63) :
    ∃ rows, (Ledger.mk (xs.map Booking.row) closings).shownRows = .ok rows ∧
      rows.map Ledger.ShownRow.booking = xs := by
  refine ⟨xs.map fun x => ⟨x.bucket, .ofNat x.downloaded, .ofNat x.uploaded⟩, ?_, ?_⟩
  · rw [Ledger.shownRows, List.mapM_map]
    exact mapM_eq_ok fun _ _ => rfl
  · rw [List.map_map]
    conv_rhs => rw [← List.map_id xs]
    refine List.map_congr_left fun x hx => ?_
    obtain ⟨hd, hu⟩ := h x hx
    simp only [Function.comp_apply, Ledger.ShownRow.booking, id]
    rw [UInt64.toNat_ofNat_of_lt' (by simp only [UInt64.size]; omega),
      UInt64.toNat_ofNat_of_lt' (by simp only [UInt64.size]; omega)]

/-- Replaying a log succeeds and shows the tally of its accepted events' shares and nothing else, if
    every accepted event's torrent was added on a date of the zone and no bucket's shares add up to
    more than a signed word holds. -/
theorem replay?_isTally (z : Zone) (log : Bytes)
    (hz : ∀ e ∈ accepted (eventsOf log), z.localDate e.snapshot.addedAt.toInt ≠ .outside)
    (hbound : ∀ k : Bucket, total (·.downloaded) (· = k) (bookingsOf z log) < 2 ^ 63 ∧
      total (·.uploaded) (· = k) (bookingsOf z log) < 2 ^ 63) :
    ∃ l rows, replay? z log = some l ∧ l.shownRows = .ok rows ∧
      IsTally (bookingsOf z log) (rows.map Ledger.ShownRow.booking) ∧
      ∀ other, IsTally (bookingsOf z log) other → other = rows.map Ledger.ShownRow.booking := by
  have htally := isTally_tally (bookingsOf z log)
  obtain ⟨rows, hrows, hshown⟩ := shownRows_map_row (tally (bookingsOf z log))
    ((accepted (eventsOf log)).map Event.closing).reverse fun x hx =>
      ⟨htally.downloaded_eq x hx ▸ (hbound x.bucket).1,
        htally.uploaded_eq x hx ▸ (hbound x.bucket).2⟩
  refine ⟨_, rows, replay?_eq hz, ?_, ?_, fun other hother => ?_⟩
  · rw [bookAll_eq _ hbound]; exact hrows
  · rw [hshown]; exact htally
  · rw [hshown]; exact hother.unique htally

/-- The log of a torrent whose closing was written twice, the second time with other counters. -/
def repeatedClosing : Bytes :=
  [closedAfterTwoDays, { closedAfterTwoDays with time := 1711972801 }].flatMap Log.entry

/-- Of a closing that was written twice, the first is shown and the second is not. -/
theorem replay?_repeatedClosing :
    (∀ e ∈ accepted (eventsOf repeatedClosing),
      skippedMidnight.localDate e.snapshot.addedAt.toInt ≠ .outside) ∧
    (∀ k : Bucket,
      total (·.downloaded) (· = k) (bookingsOf skippedMidnight repeatedClosing) < 2 ^ 63 ∧
        total (·.uploaded) (· = k) (bookingsOf skippedMidnight repeatedClosing) < 2 ^ 63) ∧
    ∃ l rows, replay? skippedMidnight repeatedClosing = some l ∧ l.shownRows = .ok rows ∧
      rows.map Ledger.ShownRow.booking
        = [⟨⟨"qb", "2024-03-30", "tracker.example"⟩, 43200, 12⟩,
          ⟨⟨"qb", "2024-03-31", "tracker.example"⟩, 82800, 23⟩,
          ⟨⟨"qb", "2024-04-01", "tracker.example"⟩, 46800, 13⟩] := by
  have hevents : eventsOf repeatedClosing
      = [closedAfterTwoDays, { closedAfterTwoDays with time := 1711972801 }] := eventsOf_entries _
  have hz : ∀ e ∈ accepted (eventsOf repeatedClosing),
      skippedMidnight.localDate e.snapshot.addedAt.toInt ≠ .outside := by
    rw [hevents]; decide
  have hdown : ((bookingsOf skippedMidnight repeatedClosing).map (·.downloaded)).sum < 2 ^ 63 := by
    rw [bookingsOf, hevents]; decide +kernel
  have hup : ((bookingsOf skippedMidnight repeatedClosing).map (·.uploaded)).sum < 2 ^ 63 := by
    rw [bookingsOf, hevents]; decide +kernel
  have hbound : ∀ k : Bucket,
      total (·.downloaded) (· = k) (bookingsOf skippedMidnight repeatedClosing) < 2 ^ 63 ∧
        total (·.uploaded) (· = k) (bookingsOf skippedMidnight repeatedClosing) < 2 ^ 63 :=
    fun k => ⟨Nat.lt_of_le_of_lt (total_le _) hdown, Nat.lt_of_le_of_lt (total_le _) hup⟩
  obtain ⟨l, rows, hl, hrows, _, hunique⟩ :=
    replay?_isTally skippedMidnight repeatedClosing hz hbound
  refine ⟨hz, hbound, l, rows, hl, hrows, ?_⟩
  rw [← hunique _ (isTally_tally _), bookingsOf, hevents]
  decide +kernel

end Seedkeeper.Traffic
