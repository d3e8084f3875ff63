import Seedkeeper.Proofs.Traffic.AllTime

/-!
How replays and reports end.

A replay fails for one reason: an accepted event's traffic can be put on days, and the zone shows no
date at the time its torrent was added (`replay?_eq_none_iff`). Otherwise it leaves the ledger of the
accepted events' shares (`eq_of_replay?`). While every bucket's shares add up to less than half of
what a word holds, its rows are shown; its reports then fail for one reason again, that the shares of
one group over one timespan add up to more (`summarize_map_row_okIff`). No other content of a log,
however odd, makes either fail.
-/

namespace Seedkeeper.Traffic

open Text (Bytes)
open Calendar (Date Zone readable)

/-! ### Days that cannot be told -/

variable {z : Zone} {l : Ledger} {e : Event}

/-- The days of an event cannot be told only if the first one has no date. -/
theorem days?_eq_none_iff :
    e.days? z = none ↔ e.Attributable ∧ z.localDate e.snapshot.addedAt.toInt = .outside := by
  constructor
  · intro hdays
    have hdate : z.localDate e.snapshot.addedAt.toInt = .outside :=
      Decidable.byContradiction fun hdate => days?_ne_none hdate hdays
    refine ⟨Decidable.byContradiction fun hspread => ?_, hdate⟩
    rw [Event.days?, (splitByDay?_of_not_spreadable z _ _ hspread).1] at hdays
    cases hdays
  · rintro ⟨hspread, hdate⟩
    have hlt : e.snapshot.addedAt.toInt < e.time.toInt := by have := hspread.1; omega
    rw [Event.days?, splitByDay?, span?_eq_some hspread.1 hspread.2.1]
    simp only
    rw [if_pos ⟨hspread.1, hspread.2.1⟩, walk, dif_pos hlt, hdate]

theorem take_of_no_days (h : e.Counts) (hnew : e.closing ∉ l.closings) (hdays : e.days? z = none) :
    (l.take z e).1 = .outsideCalendar := by
  rw [Ledger.take, closing?_eq, if_pos h]
  simp only [if_neg hnew]
  rw [Event.days?] at hdays
  simp only [hdays]

/-! ### Replays -/

/-- A run fails only at an event it has not met before whose days cannot be told. -/
theorem takeAll?_eq_none_iff (z : Zone) (es : List Event) (l : Ledger) :
    takeAll? z l es = none ↔ ∃ e ∈ fresh l.closings es, e.days? z = none := by
  induction es generalizing l with
  | nil => simp [takeAll?, fresh, accepted]
  | cons e es ih =>
    rw [takeAll?]
    by_cases hc : e.Counts
    · by_cases hmem : e.closing ∈ l.closings
      · rw [take_of_mem hmem, fresh_of_mem hmem]
        exact ih l
      · rw [fresh_of_not_mem hc hmem]
        cases hdays : e.days? z with
        | none =>
          have hout := take_of_no_days hc hmem hdays
          constructor
          · intro _
            exact ⟨e, List.mem_cons_self, hdays⟩
          · intro _
            split
            · rfl
            · rename_i hne heq
              rw [heq] at hout
              exact absurd hout hne
        | some days =>
          rw [take_of_days hc hmem hdays]
          simp only
          rw [ih]
          simp [hdays]
    · rw [take_of_not_counts hc, fresh_of_not_counts hc]
      exact ih l

/-- A replay fails only at an accepted event with traffic to put on days whose torrent was added
    where the zone shows no date. -/
theorem replay?_eq_none_iff {log : Bytes} : replay? z log = none ↔
    ∃ e ∈ accepted (eventsOf log), e.Attributable ∧
      z.localDate e.snapshot.addedAt.toInt = .outside := by
  rw [replay?, takeAll?_eq_none_iff]
  change (∃ e ∈ fresh [] (eventsOf log), _) ↔ _
  simp only [fresh_nil, days?_eq_none_iff]

/-- A replay that does not fail leaves the ledger of the accepted events' shares. -/
theorem eq_of_replay? {log : Bytes} (h : replay? z log = some l) :
    l = ⟨bookAll [] (bookingsOf z log), ((accepted (eventsOf log)).map Event.closing).reverse⟩ := by
  have hdays : ∀ e ∈ fresh Ledger.empty.closings (eventsOf log), e.days? z ≠ none := by
    intro e he hnone
    have hfail := (takeAll?_eq_none_iff z (eventsOf log) .empty).2 ⟨e, he, hnone⟩
    rw [replay?, hfail] at h
    cases h
  rw [replay?, takeAll?_eq z _ _ hdays] at h
  change some (Ledger.mk _ (_ ++ [])) = _ at h
  rw [List.append_nil] at h
  change some (Ledger.mk (bookAll [] ((fresh [] _).flatMap _)) ((fresh [] _).map _).reverse) = _ at h
  rw [fresh_nil] at h
  exact (Option.some.inj h).symm

/-- On a clock without offset every readable time has a date. -/
theorem localDate_utc_ne_outside (t : Int) : Zone.utc.localDate t ≠ .outside := by
  have hlocal : Zone.utc.localTime t = t := Int.add_zero t
  rw [Zone.localDate, hlocal]
  split
  · rename_i hread
    rw [readable] at hread
    simp only [hread, if_true]
    exact fun h => by cases h
  · exact fun h => by cases h

/-- No log makes a replay fail that puts traffic on days without an offset. -/
theorem replay?_utc_ne_none (log : Bytes) : replay? Zone.utc log ≠ none := by
  intro h
  obtain ⟨e, _, _, hdate⟩ := replay?_eq_none_iff.1 h
  exact localDate_utc_ne_outside _ hdate

/-! ### Sums that leave the signed range -/

theorem foldl_add_overflow : ∀ ns : List Nat,
    (ns.map Counter.start).foldl Sum.add .overflow = .overflow
  | [] => rfl
  | _ :: ns => foldl_add_overflow ns

/-- Amounts within the signed range whose sum leaves it overflow. -/
theorem foldl_add_start_of_le : ∀ {ns : List Nat} {m : Nat}, (∀ n ∈ ns, n < 2 ^ 63) → m < 2 ^ 63 →
    2 ^ 63 ≤ m + ns.sum →
    (ns.map Counter.start).foldl Sum.add (.exact (Int64.ofNat m)) = .overflow
  | [], m, _, hm, hsum => by
    rw [List.sum_nil] at hsum
    omega
  | n :: ns, m, hns, hm, hsum => by
    have hn := hns n List.mem_cons_self
    rw [List.sum_cons, ← Nat.add_assoc] at hsum
    rw [List.map_cons, List.foldl_cons]
    by_cases hfit : m + n < 2 ^ 63
    · rw [add_start hfit]
      exact foldl_add_start_of_le (fun k hk => hns k (List.mem_cons_of_mem _ hk)) hfit hsum
    · have hm' : (Int64.ofNat m).toInt = m := Int64.toInt_ofNat_of_lt (by omega)
      have hn' : (Int64.ofNat n).toInt = n := Int64.toInt_ofNat_of_lt (by omega)
      have hover : Sum.add (.exact (Int64.ofNat m)) (.start n) = .overflow := by
        rw [start_eq_exact, Sum.add]
        simp only [hm', hn']
        refine if_neg fun h => ?_
        have := (Number.fitsInt64_iff.1 h).2
        omega
      rw [hover]
      exact foldl_add_overflow ns

theorem sumOf_start_of_le {ns : List Nat} (hns : ∀ n ∈ ns, n < 2 ^ 63) (hsum : 2 ^ 63 ≤ ns.sum) :
    Sum.of (ns.map Counter.start) = .overflow :=
  foldl_add_start_of_le hns (show 0 < 2 ^ 63 by omega) (by omega)

/-! ### Reports -/

/-- An outcome that is a success exactly if `p` holds, and else fails for one reason. -/
def OkIff {ε β : Type} (reason : ε) (outcome : Except ε β) (p : Prop) : Prop :=
  (∃ y, outcome = .ok y) ∧ p ∨ outcome = .error reason ∧ ¬ p

/-- Steps that fail for one reason succeed together if each one does. -/
theorem OkIff.mapM {α β ε : Type} {reason : ε} {f : α → Except ε β} {p : α → Prop} :
    ∀ {xs : List α}, (∀ x ∈ xs, OkIff reason (f x) (p x)) →
    OkIff reason (xs.mapM f) (∀ x ∈ xs, p x)
  | [], _ => .inl ⟨⟨[], rfl⟩, fun _ hx => absurd hx List.not_mem_nil⟩
  | x :: xs, h => by
    rw [List.mapM_cons]
    rcases h x List.mem_cons_self with ⟨⟨y, hy⟩, hp⟩ | ⟨herror, hp⟩
    · rcases OkIff.mapM fun x hx => h x (List.mem_cons_of_mem _ hx) with
        ⟨⟨ys, hys⟩, hall⟩ | ⟨herror, hnot⟩
      · rw [hy, hys]
        refine .inl ⟨⟨y :: ys, rfl⟩, fun w hw => ?_⟩
        rcases List.mem_cons.1 hw with rfl | hw
        · exact hp
        · exact hall w hw
      · rw [hy, herror]
        exact .inr ⟨rfl, fun hall => hnot fun w hw => hall w (List.mem_cons_of_mem _ hw)⟩
    · rw [herror]
      exact .inr ⟨rfl, fun hall => hp (hall x List.mem_cons_self)⟩

theorem OkIff.congr {ε β : Type} {reason : ε} {outcome : Except ε β} {p q : Prop}
    (h : OkIff reason outcome p) (hpq : p ↔ q) : OkIff reason outcome q := by
  rwa [OkIff, ← hpq]

/-- Bookings whose amounts for the buckets of a kind add up to a number of the signed range. -/
def Fits (p : Bucket → Bool) (bs : List Booking) : Prop :=
  total (·.downloaded) p bs < 2 ^ 63 ∧ total (·.uploaded) p bs < 2 ^ 63

instance (p : Bucket → Bool) (bs : List Booking) : Decidable (Fits p bs) :=
  inferInstanceAs (Decidable (_ ∧ _))

theorem fits_tally {p : Bucket → Bool} {bs : List Booking} : Fits p (tally bs) ↔ Fits p bs := by
  rw [Fits, Fits, total_tally fun _ _ => rfl, total_tally fun _ _ => rfl]

variable {client : Option String} {today : Date} {span : Timespan} {xs : List Booking}

/-- A report of a group succeeds if its sums fit, and overflows otherwise. -/
theorem reportOf_map_row_okIff (g : String) (span : Timespan)
    (h : ∀ x ∈ xs, x.downloaded < 2 ^ 63 ∧ x.uploaded < 2 ^ 63) :
    OkIff .overflow (reportOf g span (xs.map Booking.row))
      ((xs.map (·.downloaded)).sum < 2 ^ 63 ∧ (xs.map (·.uploaded)).sum < 2 ^ 63) := by
  have hover : ∀ amount : Booking → Nat, (∀ x ∈ xs, amount x < 2 ^ 63) →
      ¬ (xs.map amount).sum < 2 ^ 63 →
      Sum.of ((xs.map amount).map Counter.start) = .overflow := by
    intro amount hsmall hsum
    refine sumOf_start_of_le (fun n hn => ?_) (Nat.le_of_not_lt hsum)
    obtain ⟨x, hx, rfl⟩ := List.mem_map.1 hn
    exact hsmall x hx
  have hdown : (xs.map Booking.row).map (·.downloaded) = (xs.map (·.downloaded)).map Counter.start := by
    rw [List.map_map, List.map_map]; rfl
  have hup : (xs.map Booking.row).map (·.uploaded) = (xs.map (·.uploaded)).map Counter.start := by
    rw [List.map_map, List.map_map]; rfl
  by_cases hd : (xs.map (·.downloaded)).sum < 2 ^ 63
  · by_cases hu : (xs.map (·.uploaded)).sum < 2 ^ 63
    · exact .inl ⟨⟨_, reportOf_map_row hd hu⟩, hd, hu⟩
    · refine .inr ⟨?_, fun hfits => hu hfits.2⟩
      rw [reportOf, hdown, hup, sumOf_start hd, hover _ (fun x hx => (h x hx).2) hu]
  · refine .inr ⟨?_, fun hfits => hd hfits.1⟩
    rw [reportOf, hdown, hup, hover _ (fun x hx => (h x hx).1) hd]

/-- The reports over one timespan succeed if every group's sums fit, and overflow otherwise. -/
theorem reportsOver_map_row_okIff (client : Option String) (today : Date) (span : Timespan)
    (h : ∀ x ∈ xs, x.downloaded < 2 ^ 63 ∧ x.uploaded < 2 ^ 63) :
    OkIff .overflow (reportsOver client today (xs.map Booking.row) span)
      (∀ g, Fits (Bucket.concerns client span today g) xs) := by
  rw [reportsOver_map_row_eq]
  have hgroups : OkIff .overflow ((ascendingTexts ((xs.filter (·.bucket.inReport client span
      today)).map (·.bucket.group client))).mapM fun g => reportOf g span
        ((xs.filter fun x => x.bucket.concerns client span today g).map Booking.row))
      (∀ g ∈ ascendingTexts ((xs.filter (·.bucket.inReport client span today)).map
        (·.bucket.group client)), Fits (Bucket.concerns client span today g) xs) :=
    OkIff.mapM fun g _ => reportOf_map_row_okIff g span
      fun x hx => h x (List.mem_of_mem_filter hx)
  refine hgroups.congr ⟨fun hall g => ?_, fun hall g _ => hall g⟩
  -- a group that no row belongs to has nothing to add up
  by_cases hg : ∃ x ∈ xs, x.bucket.concerns client span today g
  · exact hall g ((mem_groups_iff g).2 hg)
  · have hnone : ∀ x ∈ xs, x.bucket.concerns client span today g = false := by
      intro x hx
      exact Bool.eq_false_iff.2 fun hc => hg ⟨x, hx, hc⟩
    rw [Fits, total_eq_zero hnone, total_eq_zero hnone]
    omega

/-- All reports succeed if every group's sums over every timespan fit, and overflow otherwise. -/
theorem summarize_map_row_okIff (client : Option String) (today : Date) (closings : List Closing)
    (h : ∀ x ∈ xs, x.downloaded < 2 ^ 63 ∧ x.uploaded < 2 ^ 63) :
    OkIff .overflow ((Ledger.mk (xs.map Booking.row) closings).summarize client today)
      (∀ span g, Fits (Bucket.concerns client span today g) xs) := by
  have hspans : OkIff .overflow (Timespan.all.mapM (reportsOver client today (xs.map Booking.row)))
      (∀ span ∈ Timespan.all, ∀ g, Fits (Bucket.concerns client span today g) xs) :=
    OkIff.mapM fun span _ => reportsOver_map_row_okIff client today span h
  have hall : ∀ span : Timespan, span ∈ Timespan.all := by
    intro span
    cases span <;> decide
  rw [Ledger.summarize]
  rcases hspans with ⟨⟨reports, hreports⟩, hfits⟩ | ⟨herror, hnot⟩
  · rw [hreports]
    exact .inl ⟨⟨reports.flatten, rfl⟩, fun span => hfits span (hall span)⟩
  · rw [herror]
    exact .inr ⟨rfl, fun hfits => hnot fun span _ => hfits span⟩

theorem small_tally {bs : List Booking} (h : ∀ k : Bucket, Fits (· = k) bs) :
    ∀ x ∈ tally bs, x.downloaded < 2 ^ 63 ∧ x.uploaded < 2 ^ 63 := by
  intro x hx
  have htally := isTally_tally bs
  rw [htally.downloaded_eq x hx, htally.uploaded_eq x hx]
  exact h x.bucket

/-- The rows of a replay are shown if no bucket's shares leave the signed range. -/
theorem exists_shownRows {log : Bytes} (hl : replay? z log = some l)
    (hfits : ∀ k : Bucket, Fits (· = k) (bookingsOf z log)) : ∃ rows, l.shownRows = .ok rows := by
  obtain rfl := eq_of_replay? hl
  rw [bookAll_eq _ hfits]
  obtain ⟨rows, hrows, _⟩ := shownRows_map_row (tally (bookingsOf z log))
    ((accepted (eventsOf log)).map Event.closing).reverse (small_tally hfits)
  exact ⟨rows, hrows⟩

/-- What can make a report fail. A replay fails exactly if an accepted event with traffic to put on
    days was added at a time for which the zone shows no date. If it does not fail and no bucket's
    shares leave the signed range, the rows are shown, and the reports for a client on a day succeed
    exactly if the shares of every group stay in that range over every timespan. -/
theorem replay?_outcome (z : Zone) (log : Bytes) :
    (replay? z log = none ↔ ∃ e ∈ accepted (eventsOf log), e.Attributable ∧
      z.localDate e.snapshot.addedAt.toInt = .outside) ∧
    ∀ l, replay? z log = some l → (∀ k : Bucket, Fits (· = k) (bookingsOf z log)) →
      (∃ rows, l.shownRows = .ok rows) ∧
      ∀ client today, OkIff .overflow (l.summarize client today)
        (∀ span g, Fits (Bucket.concerns client span today g) (bookingsOf z log)) := by
  refine ⟨replay?_eq_none_iff, fun l hl hfits => ⟨exists_shownRows hl hfits, fun client today => ?_⟩⟩
  have hreports := summarize_map_row_okIff client today
    ((accepted (eventsOf log)).map Event.closing).reverse (small_tally hfits)
  obtain rfl := eq_of_replay? hl
  rw [bookAll_eq _ hfits]
  simpa only [fits_tally] using hreports

/-! ### Logs that fail -/

/-- The closing of a torrent that was added in the last second of the calendar. -/
def lastSecond : Event :=
  ⟨8210266876800, Event.closed,
    { client := "c", site := "s", category := "", infoHash := "h", name := "n"
      size := 0, addedAt := 8210266876799, uploaded := 0, downloaded := 1, message := "" }⟩

/-- The closing of a torrent that carries a quarter of what a word holds. -/
def quarterWord (site infoHash : String) : Event :=
  ⟨1, Event.closed,
    { client := "c", site, category := "", infoHash, name := "n"
      size := 0, addedAt := 0, uploaded := 0, downloaded := 4611686018427387904, message := "" }⟩

/-- Two such closings in one bucket, and in two. -/
def oneBucket : List Event := [quarterWord "s" "h", quarterWord "s" "i"]
def twoBuckets : List Event := [quarterWord "s" "h", quarterWord "t" "i"]

/-- With two such closings in two buckets the rows can be shown, and no report on all clients can. -/
theorem replay?_outcome_quarterWords :
    (∀ k : Bucket, Fits (· = k)
      (bookingsOf .utc (twoBuckets.flatMap Log.entry))) ∧
    ∃ l, replay? .utc (twoBuckets.flatMap Log.entry) = some l ∧
      (∃ rows, l.shownRows = .ok rows) ∧ ∀ today, l.summarize none today = .error .overflow := by
  have hbookings : bookingsOf .utc (twoBuckets.flatMap Log.entry)
      = [⟨⟨"c", "1970-01-01", "s"⟩, 4611686018427387904, 0⟩,
        ⟨⟨"c", "1970-01-01", "t"⟩, 4611686018427387904, 0⟩] := by
    rw [bookingsOf, eventsOf_entries]
    decide +kernel
  have hfits : ∀ k : Bucket, Fits (· = k)
      (bookingsOf .utc (twoBuckets.flatMap Log.entry)) := by
    intro k
    rw [hbookings]
    by_cases hs : k = ⟨"c", "1970-01-01", "s"⟩
    · rw [hs]
      decide
    · by_cases ht : k = ⟨"c", "1970-01-01", "t"⟩
      · rw [ht]
        decide
      · simp [Fits, total, Ne.symm hs, Ne.symm ht]
  obtain ⟨l, hl⟩ := Option.ne_none_iff_exists'.1
    (replay?_utc_ne_none (twoBuckets.flatMap Log.entry))
  obtain ⟨hrows, hreports⟩ := (replay?_outcome .utc _).2 l hl hfits
  refine ⟨hfits, l, hl, hrows, fun today => ?_⟩
  rcases hreports none today with ⟨_, hgroups⟩ | ⟨herror, _⟩
  · -- the client's own all-time sum is half of what a word holds
    have hall : Bucket.concerns none .allTime today "c" = (·.client == "c") := rfl
    have hsum := hgroups .allTime "c"
    rw [hall, hbookings] at hsum
    exact absurd hsum (by decide)
  · exact herror

/-- One line is enough to make a replay fail east of UTC, two to make the rows unreadable, and two to
    make the reports overflow on readable rows. -/
theorem replay?_hostile :
    replay? (.fixed 3600) (Log.entry lastSecond) = none ∧
    (∃ l, replay? .utc (oneBucket.flatMap Log.entry) = some l ∧
      l.shownRows = .error (.rounded 3 "downloaded")) ∧
    ∃ l, replay? .utc (twoBuckets.flatMap Log.entry) = some l ∧
      l.shownRows = .ok [⟨⟨"c", "1970-01-01", "s"⟩, 4611686018427387904, 0⟩,
        ⟨⟨"c", "1970-01-01", "t"⟩, 4611686018427387904, 0⟩] ∧
      l.summarize none ⟨0⟩ = .error .overflow := by
  have hlast : eventsOf (Log.entry lastSecond) = [lastSecond] := eventsOf_entries [lastSecond]
  refine ⟨?_, ?_, ?_⟩
  · rw [replay?, hlast]
    decide +kernel
  · rw [replay?, eventsOf_entries]
    have hrows : (takeAll? .utc .empty oneBucket).map
        Ledger.shownRows = some (.error (.rounded 3 "downloaded")) := by decide +kernel
    exact Option.map_eq_some_iff.1 hrows
  · rw [replay?, eventsOf_entries]
    have hshown : (takeAll? .utc .empty twoBuckets).map
        (fun l => (l.shownRows, l.summarize none ⟨0⟩))
          = some (.ok [⟨⟨"c", "1970-01-01", "s"⟩, 4611686018427387904, 0⟩,
            ⟨⟨"c", "1970-01-01", "t"⟩, 4611686018427387904, 0⟩], .error .overflow) := by
      decide +kernel
    obtain ⟨l, hl, hboth⟩ := Option.map_eq_some_iff.1 hshown
    obtain ⟨hrows, hreports⟩ := Prod.mk.inj hboth
    exact ⟨l, hl, hrows, hreports⟩

end Seedkeeper.Traffic
