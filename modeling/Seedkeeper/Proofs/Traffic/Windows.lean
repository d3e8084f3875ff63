import Mathlib.Algebra.BigOperators.Group.List.Basic
import Seedkeeper.Proofs.Calendar.Written
import Seedkeeper.Proofs.Traffic.Outcome
import Seedkeeper.Proofs.Traffic.Repeated

/-!
Reports, read off the rows that are shown.

The days of rows are texts, and a report compares texts. As long as the thirty days up to today have
years of four digits, that is the comparison of dates, for rows of every year (`covers_text`). So a
ledger's reports can be told from its shown rows: each timespan has one entry for each group with a row
on a date of the timespan, in ascending order, with the sums of these rows (`IsReport`). The sites of a
client are groups within one group of the report on all clients, so their entries add up to its entry.
-/

namespace Seedkeeper.Traffic

open Calendar (Date Zone)

/-! ### Dates of a timespan -/

/-- Whether a date lies in a timespan that is told today. -/
def Timespan.includes (span : Timespan) (today d : Date) : Bool :=
  match span with
  | .allTime => true
  | .last30Days => today.dayNumber - 29 ≤ d.dayNumber && d.dayNumber ≤ today.dayNumber
  | .last7Days => today.dayNumber - 6 ≤ d.dayNumber && d.dayNumber ≤ today.dayNumber
  | .yesterday => d.dayNumber = today.dayNumber - 1
  | .today => d.dayNumber = today.dayNumber

/-- Days whose thirty days have years of four digits. -/
structure FourDigitWindow (today : Date) : Prop where
  first : 0 ≤ (Date.mk (today.dayNumber - 29)).civil.year
  last : today.civil.year ≤ 9999

variable {today : Date}

/-- Dates of the years 0…9999 are in the calendar. -/
theorem inCalendar_of_year {d : Date} (hlow : 0 ≤ d.civil.year) (hhigh : d.civil.year ≤ 9999) :
    d.inCalendar = true := by
  have hfirst : Date.first.civil.year = -262143 := by decide
  have hlast : Date.last.civil.year = 262142 := by decide
  simp only [Date.inCalendar, Bool.and_eq_true, decide_eq_true_eq]
  constructor
  · by_contra hlt
    have := Date.year_mono (d := d) (e := .first) (by omega)
    omega
  · by_contra hlt
    have := Date.year_mono (d := .last) (e := d) (by omega)
    omega

/-- The days before today that a timespan can begin with are not cut off. -/
theorem FourDigitWindow.back_eq (h : FourDigitWindow today) {n : Nat} (hn : n ≤ 29) :
    today.back n = ⟨today.dayNumber - n⟩ ∧ 0 ≤ (today.back n).civil.year ∧
      (today.back n).civil.year ≤ 9999 := by
  have hlow : 0 ≤ (Date.mk (today.dayNumber - n)).civil.year := by
    have := Date.year_mono (d := ⟨today.dayNumber - 29⟩) (e := ⟨today.dayNumber - n⟩) (by
      simp only
      omega)
    exact Int.le_trans h.first this
  have hhigh : (Date.mk (today.dayNumber - n)).civil.year ≤ 9999 := by
    have := Date.year_mono (d := ⟨today.dayNumber - n⟩) (e := today) (by
      simp only
      omega)
    exact Int.le_trans this h.last
  have hback : today.back n = ⟨today.dayNumber - n⟩ := by
    rw [Date.back]
    simp only [inCalendar_of_year hlow hhigh, if_true]
  rw [hback]
  exact ⟨rfl, hlow, hhigh⟩

theorem covers_of_window {span : Timespan} {first last : Date}
    (hwindow : span.window? today = some (first, last)) (h : first.dayNumber ≤ last.dayNumber)
    (hfirst : 0 ≤ first.civil.year) (hlast : last.civil.year ≤ 9999) (d : Date) :
    span.covers today d.text = true ↔
      first.dayNumber ≤ d.dayNumber ∧ d.dayNumber ≤ last.dayNumber := by
  rw [Timespan.covers, hwindow, ← Date.text_between_iff h hfirst hlast d]
  simp

/-- A timespan covers a written date, of whatever year, exactly if it includes the date. -/
theorem FourDigitWindow.covers_text (h : FourDigitWindow today) (span : Timespan) (d : Date) :
    span.covers today d.text = span.includes today d := by
  obtain ⟨h29, hlow29, _⟩ := h.back_eq (n := 29) (by omega)
  obtain ⟨h6, hlow6, _⟩ := h.back_eq (n := 6) (by omega)
  obtain ⟨h1, hlow1, hhigh1⟩ := h.back_eq (n := 1) (by omega)
  have hlow0 := (h.back_eq (n := 0) (by omega)).2.1
  rw [(h.back_eq (n := 0) (by omega)).1] at hlow0
  rw [Bool.eq_iff_iff]
  cases span with
  | allTime => exact Iff.rfl
  | last30Days =>
    rw [covers_of_window rfl (by rw [h29]; simp only; omega) hlow29 h.last, h29]
    simp [Timespan.includes]
  | last7Days =>
    rw [covers_of_window rfl (by rw [h6]; simp only; omega) hlow6 h.last, h6]
    simp [Timespan.includes]
  | yesterday =>
    rw [covers_of_window rfl (Int.le_refl _) hlow1 hhigh1, h1]
    simp only [Timespan.includes, decide_eq_true_eq]
    omega
  | today =>
    rw [covers_of_window rfl (Int.le_refl _) (by simpa using hlow0) h.last]
    simp only [Timespan.includes, decide_eq_true_eq]
    omega

/-! ### Ledgers of any events -/

/-- The ledger after some events, each taken in on the clock of its own zone, whatever became of it. -/
def Ledger.takeEach (l : Ledger) : List (Zone × Event) → Ledger
  | [] => l
  | (z, e) :: steps => Ledger.takeEach (l.take z e).2 steps

/-- The shares that some events add to a ledger that remembers the closings `met`. -/
def sharesOf (met : List Closing) : List (Zone × Event) → List Booking
  | [] => []
  | (z, e) :: steps =>
    if e.Counts ∧ e.closing ∉ met then e.bookings z ++ sharesOf (e.closing :: met) steps
    else sharesOf met steps

/-- An event adds its shares to the rows if it counts and its closing is new. -/
theorem Ledger.rows_take (z : Zone) (l : Ledger) (e : Event) :
    (l.take z e).2.rows
      = if e.Counts ∧ e.closing ∉ l.closings then bookAll l.rows (e.bookings z) else l.rows := by
  by_cases hc : e.Counts
  · by_cases hmem : e.closing ∈ l.closings
    · rw [take_of_mem hmem, if_neg fun h => h.2 hmem]
    · rw [if_pos ⟨hc, hmem⟩]
      cases hdays : e.days? z with
      | some days => rw [take_of_days hc hmem hdays]
      | none =>
        have hnone : e.bookings z = [] := by rw [Event.bookings, hdays]; rfl
        rw [hnone, Ledger.take, closing?_eq, if_pos hc]
        rw [Event.days?] at hdays
        simp only [if_neg hmem, hdays]
        rfl
  · rw [take_of_not_counts hc, if_neg fun h => hc h.1]

/-- The rows of a ledger of any events are what their shares make of its rows. -/
theorem Ledger.rows_takeEach (steps : List (Zone × Event)) (l : Ledger) :
    (l.takeEach steps).rows = bookAll l.rows (sharesOf l.closings steps) := by
  induction steps generalizing l with
  | nil => rfl
  | cons step steps ih =>
    obtain ⟨z, e⟩ := step
    rw [Ledger.takeEach, ih, l.rows_take, l.closings_take, sharesOf]
    by_cases h : e.Counts ∧ e.closing ∉ l.closings
    · rw [if_pos h, if_pos h, if_pos h, bookAll_append]
    · rw [if_neg h, if_neg h, if_neg h]

/-- Shares are of written dates. -/
theorem exists_date_of_mem_sharesOf (steps : List (Zone × Event)) (met : List Closing) :
    ∀ b ∈ sharesOf met steps, ∃ d : Date, b.bucket.day = d.text := by
  induction steps generalizing met with
  | nil =>
    intro b hb
    cases hb
  | cons step steps ih =>
    obtain ⟨z, e⟩ := step
    intro b hb
    rw [sharesOf] at hb
    split at hb
    · rcases List.mem_append.1 hb with hb | hb
      · obtain ⟨share, _, rfl⟩ := List.mem_map.1 hb
        exact ⟨share.day, rfl⟩
      · exact ih _ b hb
    · exact ih _ b hb

/-! ### Totals of groups -/

variable {amount : Booking → Nat} {bs xs : List Booking} {client : Option String} {span : Timespan}

/-- Fewer buckets have no greater total. -/
theorem total_mono {p q : Bucket → Bool} (h : ∀ k, p k = true → q k = true) (bs : List Booking) :
    total amount p bs ≤ total amount q bs := by
  induction bs with
  | nil => exact Nat.le_refl _
  | cons b bs ih =>
    rw [total_cons, total_cons]
    by_cases hp : p b.bucket = true
    · rw [if_pos hp, if_pos (h _ hp)]
      omega
    · rw [if_neg hp]
      omega

theorem Fits.mono {p q : Bucket → Bool} (hfits : Fits q bs) (h : ∀ k, p k = true → q k = true) :
    Fits p bs :=
  ⟨Nat.lt_of_le_of_lt (total_mono h bs) hfits.1, Nat.lt_of_le_of_lt (total_mono h bs) hfits.2⟩

/-- What a group's report adds up is one client's. -/
theorem fits_concerns (hfits : ∀ c, Fits (·.client = c) bs) (client : Option String)
    (span : Timespan) (today : Date) (group : String) :
    Fits (Bucket.concerns client span today group) bs := by
  cases client with
  | none =>
    refine (hfits group).mono fun k hk => ?_
    simp only [Bucket.concerns, Bool.and_eq_true, beq_iff_eq] at hk
    exact decide_eq_true hk.2
  | some c =>
    refine (hfits c).mono fun k hk => ?_
    simp only [Bucket.concerns, Bucket.inReport, Bool.and_eq_true, beq_iff_eq] at hk
    exact decide_eq_true hk.1.1

theorem sum_map_ite_mem {gs : List String} (hnodup : gs.Nodup) {s : String} (hs : s ∈ gs) (n : Nat) :
    (gs.map fun g => if s == g then n else 0).sum = n := by
  induction gs with
  | nil => cases hs
  | cons g gs ih =>
    obtain ⟨hg, hgs⟩ := List.nodup_cons.1 hnodup
    rw [List.map_cons, List.sum_cons]
    rcases List.mem_cons.1 hs with rfl | hs
    · have hrest : (gs.map fun g => if s == g then n else 0).sum = 0 := by
        refine List.sum_eq_zero fun m hm => ?_
        obtain ⟨t, ht, rfl⟩ := List.mem_map.1 hm
        have hne : ¬ (s == t) = true := fun he => hg (eq_of_beq he ▸ ht)
        exact if_neg hne
      rw [hrest, if_pos (beq_self_eq_true s), Nat.add_zero]
    · have hne : ¬ (s == g) = true := fun he => hg (eq_of_beq he ▸ hs)
      rw [if_neg hne, ih hgs hs, Nat.zero_add]

/-- The totals of the groups that some buckets fall into add up to the total of these buckets. -/
theorem sum_total_groups (amount : Booking → Nat) (p : Bucket → Bool) (group : Bucket → String)
    {gs : List String} (hnodup : gs.Nodup) : ∀ {xs : List Booking},
    (∀ x ∈ xs, p x.bucket = true → group x.bucket ∈ gs) →
    (gs.map fun g => total amount (fun k => p k && group k == g) xs).sum = total amount p xs
  | [], _ => by
    simp only [total_nil]
    exact List.sum_eq_zero fun m hm => by
      obtain ⟨_, _, rfl⟩ := List.mem_map.1 hm
      rfl
  | x :: xs, h => by
    have hrest := sum_total_groups amount p group hnodup fun y hy => h y (List.mem_cons_of_mem _ hy)
    simp only [total_cons]
    rw [List.sum_map_add, hrest]
    congr 1
    by_cases hp : p x.bucket = true
    · simp only [hp, Bool.true_and, if_true]
      exact sum_map_ite_mem hnodup (h x List.mem_cons_self hp) _
    · simp only [hp, Bool.false_and, Bool.false_eq_true, if_false]
      exact List.sum_eq_zero fun m hm => by
        obtain ⟨_, _, rfl⟩ := List.mem_map.1 hm
        rfl

/-! ### Reports on shown rows -/

/-- Whether a shown row is of a group's report: of its client or site, on a date of the timespan. -/
def Ledger.ShownRow.reported (client : Option String) (span : Timespan) (today : Date)
    (group : String) (r : ShownRow) : Bool :=
  (match client with
    | none => r.bucket.client == group
    | some c => r.bucket.client == c && r.bucket.site == group) &&
    (Date.ofText? r.bucket.day).any (span.includes today)

/-- What the reports over a timespan are: one for each group that has a row there, in ascending order,
    with the sums of the group's rows. -/
structure IsReport (client : Option String) (span : Timespan) (today : Date)
    (rows : List Ledger.ShownRow) (reports : List Report) : Prop where
  span_eq : ∀ r ∈ reports, r.span = span
  ascending : (reports.map (·.group)).Pairwise (· < ·)
  mem_iff : ∀ g, g ∈ reports.map (·.group) ↔ ∃ row ∈ rows, row.reported client span today g
  downloaded_eq : ∀ r ∈ reports, r.downloaded.toNat
    = ((rows.filter (·.reported client span today r.group)).map (·.downloaded.toNat)).sum
  uploaded_eq : ∀ r ∈ reports, r.uploaded.toNat
    = ((rows.filter (·.reported client span today r.group)).map (·.uploaded.toNat)).sum

variable {rows : List Ledger.ShownRow}

/-- A row on a written date belongs to a report if its date does. -/
theorem FourDigitWindow.reported_eq (h : FourDigitWindow today) {row : Ledger.ShownRow}
    (hday : ∃ d : Date, row.bucket.day = d.text) (client : Option String) (span : Timespan)
    (group : String) :
    row.reported client span today group = row.bucket.concerns client span today group := by
  obtain ⟨d, hd⟩ := hday
  have hread : (Date.ofText? row.bucket.day).any (span.includes today)
      = span.covers today row.bucket.day := by
    rw [hd, Date.ofText?_text, h.covers_text]
    rfl
  cases client with
  | none =>
    simp only [Ledger.ShownRow.reported, hread]
    exact Bool.and_comm _ _
  | some c =>
    simp only [Ledger.ShownRow.reported, hread]
    exact Bool.and_right_comm _ _ _

/-- A total over the entries that rows stand for, as a word, is a sum over the rows. -/
theorem toNat_total_map_booking {p : Bucket → Bool} {count : Ledger.ShownRow → Nat}
    (hcount : ∀ row, amount row.booking = count row)
    (hlt : total amount p (rows.map Ledger.ShownRow.booking) < 2 ^ 63) :
    (UInt64.ofNat (total amount p (rows.map Ledger.ShownRow.booking))).toNat
      = ((rows.filter (p ·.bucket)).map count).sum := by
  rw [UInt64.toNat_ofNat_of_lt' (by simp only [UInt64.size]; omega), total, List.filter_map,
    List.map_map]
  exact congrArg List.sum (List.map_congr_left fun row _ => hcount row)

theorem groups_spanReports (client : Option String) (today : Date) (xs : List Booking)
    (span : Timespan) :
    (spanReports client today xs span).map (·.group)
      = ascendingTexts ((xs.filter (·.bucket.inReport client span today)).map
        (·.bucket.group client)) := by
  rw [spanReports, List.map_map]
  exact List.map_id _

/-- The reports on rows of written dates are what the rows say. -/
theorem FourDigitWindow.isReport (h : FourDigitWindow today)
    (hdays : ∀ row ∈ rows, ∃ d : Date, row.bucket.day = d.text)
    (hfits : ∀ c, Fits (·.client = c) (rows.map Ledger.ShownRow.booking))
    (client : Option String) (span : Timespan) :
    IsReport client span today rows
      (spanReports client today (rows.map Ledger.ShownRow.booking) span) := by
  have hrows : ∀ g, rows.filter (·.reported client span today g)
      = rows.filter (·.bucket.concerns client span today g) := by
    intro g
    exact List.filter_congr fun row hrow => h.reported_eq (hdays row hrow) client span g
  constructor
  · intro r hr
    obtain ⟨g, _, rfl⟩ := List.mem_map.1 hr
    rfl
  · rw [groups_spanReports]
    exact ascendingTexts_pairwise _
  · intro g
    rw [groups_spanReports, mem_groups_iff]
    constructor
    · rintro ⟨_, hx, hconcerns⟩
      obtain ⟨row, hrow, rfl⟩ := List.mem_map.1 hx
      exact ⟨row, hrow, (h.reported_eq (hdays row hrow) client span g).trans hconcerns⟩
    · rintro ⟨row, hrow, hreported⟩
      rw [h.reported_eq (hdays row hrow)] at hreported
      exact ⟨row.booking, List.mem_map_of_mem hrow, hreported⟩
  · intro r hr
    obtain ⟨g, _, rfl⟩ := List.mem_map.1 hr
    rw [hrows]
    exact toNat_total_map_booking (fun _ => rfl) (fits_concerns hfits client span today g).1
  · intro r hr
    obtain ⟨g, _, rfl⟩ := List.mem_map.1 hr
    rw [hrows]
    exact toNat_total_map_booking (fun _ => rfl) (fits_concerns hfits client span today g).2

/-! ### Sites of one client -/

/-- What concerns a client is what a report on its sites looks at. -/
theorem concerns_none (c : String) (span : Timespan) (today : Date) :
    Bucket.concerns none span today c = Bucket.inReport (some c) span today := by
  funext k
  exact Bool.and_comm _ _

/-- The amounts of a client's sites, as words, add up to the amount of the client. -/
theorem sum_sites (amount : Booking → Nat) (c : String) (span : Timespan) (today : Date)
    (hlt : total amount (Bucket.concerns none span today c) xs < 2 ^ 63) :
    ((ascendingTexts ((xs.filter (·.bucket.inReport (some c) span today)).map
      (·.bucket.group (some c)))).map fun g =>
        (UInt64.ofNat (total amount (Bucket.concerns (some c) span today g) xs)).toNat).sum
      = (UInt64.ofNat (total amount (Bucket.concerns none span today c) xs)).toNat := by
  rw [concerns_none] at hlt ⊢
  have hword : ∀ g, (UInt64.ofNat (total amount (Bucket.concerns (some c) span today g) xs)).toNat
      = total amount (Bucket.concerns (some c) span today g) xs := by
    intro g
    have hle : total amount (Bucket.concerns (some c) span today g) xs
        ≤ total amount (Bucket.inReport (some c) span today) xs :=
      total_mono (fun k hk => (Bool.and_eq_true_iff.1 hk).1) xs
    exact UInt64.toNat_ofNat_of_lt' (by simp only [UInt64.size]; omega)
  have hnodup := (ascendingTexts_pairwise ((xs.filter (·.bucket.inReport (some c) span today)).map
    (·.bucket.group (some c)))).imp fun h => ne_of_lt h
  simp only [hword]
  rw [UInt64.toNat_ofNat_of_lt' (by simp only [UInt64.size]; omega)]
  refine sum_total_groups amount _ (Bucket.group (some c)) hnodup fun x hx hin => ?_
  exact (mem_ascendingTexts _ _).2 (List.mem_map_of_mem (List.mem_filter.2 ⟨hx, hin⟩))

/-- A client has an entry exactly if one of its sites has, and their entries add up to it. -/
theorem spanReports_sites (hfits : ∀ c, Fits (·.client = c) xs) (today : Date) (c : String)
    (span : Timespan) :
    (c ∈ (spanReports none today xs span).map (·.group) ↔
      spanReports (some c) today xs span ≠ []) ∧
    ∀ r ∈ spanReports none today xs span, r.group = c →
      ((spanReports (some c) today xs span).map (·.downloaded.toNat)).sum = r.downloaded.toNat ∧
        ((spanReports (some c) today xs span).map (·.uploaded.toNat)).sum = r.uploaded.toNat := by
  constructor
  · rw [groups_spanReports, mem_groups_iff, concerns_none]
    constructor
    · rintro ⟨x, hx, hin⟩ hnil
      have hsite : x.bucket.site ∈ (spanReports (some c) today xs span).map (·.group) := by
        rw [groups_spanReports, mem_ascendingTexts]
        exact List.mem_map_of_mem (List.mem_filter.2 ⟨hx, hin⟩)
      rw [hnil] at hsite
      cases hsite
    · intro hne
      obtain ⟨r, hr⟩ := List.exists_mem_of_ne_nil _ hne
      have hgroup := List.mem_map_of_mem hr (f := (·.group))
      rw [groups_spanReports, mem_groups_iff] at hgroup
      obtain ⟨x, hx, hconcerns⟩ := hgroup
      exact ⟨x, hx, (Bool.and_eq_true_iff.1 hconcerns).1⟩
  · intro r hr hgroup
    obtain ⟨g, _, rfl⟩ := List.mem_map.1 hr
    obtain rfl : g = c := hgroup
    have hclient := fits_concerns hfits none span today g
    rw [spanReports, List.map_map, List.map_map]
    exact ⟨sum_sites _ g span today hclient.1, sum_sites _ g span today hclient.2⟩

/-! ### Reports of a ledger -/

/-- Reports of a ledger, read off its shown rows. Take the ledger of any events, each taken in on
    the clock of some zone, whose shares of every client stay in the signed range, and a day whose
    thirty days have years of four digits. Its rows are shown, each on a date; and for all clients
    or one, its reports are those of the five timespans in order, each with one entry for every
    group that has a row on a date of the timespan, in ascending order, with the sums of these rows.
    The entries of a client's sites add up to its own, and there are some exactly if it has one. -/
theorem summarize_isReport (steps : List (Zone × Event)) (today : Date)
    (htoday : FourDigitWindow today)
    (hfits : ∀ c, Fits (·.client = c) (sharesOf [] steps)) :
    ∃ (rows : List Ledger.ShownRow) (reports : Option String → Timespan → List Report),
      (Ledger.empty.takeEach steps).shownRows = .ok rows ∧
      (∀ row ∈ rows, ∃ d : Date, row.bucket.day = d.text ∧ Date.ofText? row.bucket.day = some d) ∧
      (∀ client, (Ledger.empty.takeEach steps).summarize client today
        = .ok ([.allTime, .last30Days, .last7Days, .yesterday, .today].flatMap (reports client))) ∧
      (∀ client span, IsReport client span today rows (reports client span)) ∧
      ∀ c span, (c ∈ (reports none span).map (·.group) ↔ reports (some c) span ≠ []) ∧
        ∀ r ∈ reports none span, r.group = c →
          ((reports (some c) span).map (·.downloaded.toNat)).sum = r.downloaded.toNat ∧
            ((reports (some c) span).map (·.uploaded.toNat)).sum = r.uploaded.toNat := by
  have hbuckets : ∀ k : Bucket, Fits (· = k) (sharesOf [] steps) := by
    intro k
    refine (hfits k.client).mono fun j hj => ?_
    rw [of_decide_eq_true hj]
    exact decide_eq_true rfl
  have htally : ∀ c, Fits (·.client = c) (tally (sharesOf [] steps)) := by
    intro c
    exact fits_tally.2 (hfits c)
  have hledger : Ledger.empty.takeEach steps = ⟨(tally (sharesOf [] steps)).map Booking.row,
      (Ledger.empty.takeEach steps).closings⟩ := by
    rw [← bookAll_eq _ hbuckets]
    exact congrArg (Ledger.mk · _) (Ledger.rows_takeEach steps .empty)
  obtain ⟨rows, hrows, hshown⟩ := shownRows_map_row (tally (sharesOf [] steps))
    (Ledger.empty.takeEach steps).closings (small_tally hbuckets)
  have hdays : ∀ row ∈ rows, ∃ d : Date, row.bucket.day = d.text := by
    intro row hrow
    have hentry : row.booking ∈ tally (sharesOf [] steps) := hshown ▸ List.mem_map_of_mem hrow
    have hbucket := (mem_buckets_tally row.bucket _).1 (List.mem_map.2 ⟨_, hentry, rfl⟩)
    obtain ⟨b, hb, hbucket⟩ := List.mem_map.1 hbucket
    rw [← hbucket]
    exact exists_date_of_mem_sharesOf steps [] b hb
  refine ⟨rows, fun client => spanReports client today (tally (sharesOf [] steps)), ?_, ?_, ?_, ?_,
    spanReports_sites htally today⟩
  · rw [hledger]
    exact hrows
  · intro row hrow
    obtain ⟨d, hd⟩ := hdays row hrow
    exact ⟨d, hd, hd ▸ d.ofText?_text⟩
  · intro client
    rw [hledger]
    exact summarize_map_row client today _ _ fun span g => fits_concerns htally client span today g
  · intro client span
    rw [← hshown] at htally ⊢
    exact htoday.isReport hdays htally client span

/-- The closing of a torrent that was there on the first day of the year 10000. -/
def closedInYear10000 : Event :=
  ⟨253402387200, Event.closed,
    { client := "qb", site := "far.example", category := "", infoHash := "bb", name := "n"
      size := 1, addedAt := 253402300800, uploaded := 1, downloaded := 7, message := "" }⟩

/-- Two closings of one client, eight thousand years apart. -/
def farApart : List (Zone × Event) :=
  [(skippedMidnight, closedAfterTwoDays), (.utc, closedInYear10000)]

/-- A row of the year 10000, whose text stands before every window, is in the report over all time and
    in no other. -/
theorem summarize_isReport_farApart :
    FourDigitWindow ⟨19814⟩ ∧ (∀ c, Fits (·.client = c) (sharesOf [] farApart)) ∧
    ∃ (rows : List Ledger.ShownRow) (reports : Timespan → List Report),
      (Ledger.empty.takeEach farApart).shownRows = .ok rows ∧
      rows.map (·.bucket.day) = ["+10000-01-01", "2024-03-30", "2024-03-31", "2024-04-01"] ∧
      (Ledger.empty.takeEach farApart).summarize none ⟨19814⟩
        = .ok ([.allTime, .last30Days, .last7Days, .yesterday, .today].flatMap reports) ∧
      "qb" ∈ (reports .allTime).map (·.group) ∧
      (∀ r ∈ reports .allTime, r.group = "qb" → r.downloaded.toNat = 172807) ∧
      (∀ r ∈ reports .last30Days, r.group = "qb" → r.downloaded.toNat = 172800) ∧
      ∀ r ∈ reports .yesterday, r.group = "qb" → r.downloaded.toNat = 82800 := by
  have hplain : FourDigitWindow ⟨19814⟩ := ⟨by decide, by decide⟩
  have hdown : ((sharesOf [] farApart).map (·.downloaded)).sum < 2 ^ 63 := by decide +kernel
  have hup : ((sharesOf [] farApart).map (·.uploaded)).sum < 2 ^ 63 := by decide +kernel
  have hfits : ∀ c, Fits (·.client = c) (sharesOf [] farApart) := fun c =>
    ⟨Nat.lt_of_le_of_lt (total_le _) hdown, Nat.lt_of_le_of_lt (total_le _) hup⟩
  obtain ⟨rows, reports, hrows, _, hall, hreports, _⟩ :=
    summarize_isReport farApart ⟨19814⟩ hplain hfits
  have hshown : (Ledger.empty.takeEach farApart).shownRows = .ok
      [⟨⟨"qb", "+10000-01-01", "far.example"⟩, 7, 1⟩,
        ⟨⟨"qb", "2024-03-30", "tracker.example"⟩, 43200, 12⟩,
        ⟨⟨"qb", "2024-03-31", "tracker.example"⟩, 82800, 23⟩,
        ⟨⟨"qb", "2024-04-01", "tracker.example"⟩, 46800, 13⟩] := by decide +kernel
  obtain rfl := Except.ok.inj (hrows.symm.trans hshown)
  refine ⟨hplain, hfits, _, reports none, hrows, rfl, hall none, ?_, ?_, ?_, ?_⟩
  · refine ((hreports none .allTime).mem_iff "qb").2 ⟨_, List.mem_cons_self, ?_⟩
    decide +kernel
  · intro r hr hgroup
    rw [(hreports none .allTime).downloaded_eq r hr, hgroup]
    decide +kernel
  · intro r hr hgroup
    rw [(hreports none .last30Days).downloaded_eq r hr, hgroup]
    decide +kernel
  · intro r hr hgroup
    rw [(hreports none .yesterday).downloaded_eq r hr, hgroup]
    decide +kernel

end Seedkeeper.Traffic
