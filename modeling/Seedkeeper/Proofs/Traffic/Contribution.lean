import Seedkeeper.Proofs.Traffic.Closings
import Seedkeeper.Proofs.Traffic.Windows

/-!
What one event does to a ledger.

A booking goes onto its bucket's row, or makes it, and leaves every other row alone (`rowOf?_book_self`,
`rowOf?_book_other`); rows that events have made are in ascending order, so a bucket has one row. The
shares of an event are on different days, hence in different buckets. So an event that is counted adds
each of its shares to one row and does nothing else to the rows, and one that is passed over does nothing
at all (`take_effect`). An event that is counted may have no shares: its closing is remembered all the
same, and stands in the way of every later event of that closing (`counted_without_shares`).
-/

namespace Seedkeeper.Traffic

open Calendar (Date Zone)

/-! ### Rows of buckets -/

/-- The row of a bucket. -/
def rowOf? (rows : List Row) (k : Bucket) : Option Row := rows.find? (·.bucket = k)

/-- A booking added to its bucket's row, or as that row where there was none. -/
def Booking.onto (b : Booking) : Option Row → Row
  | some r => r.add b.downloaded b.uploaded
  | none => b.row

/-- Whether rows are in ascending order of their buckets, which are all different. -/
def Ascending (rows : List Row) : Prop := (rows.map (·.bucket)).Pairwise (fun a b => a.before b)

variable {k : Bucket} {b : Booking} {bs : List Booking} {rows : List Row}

@[simp] theorem rowOf?_cons (r : Row) (rows : List Row) (k : Bucket) :
    rowOf? (r :: rows) k = if r.bucket = k then some r else rowOf? rows k := by
  rw [rowOf?, List.find?_cons, rowOf?]
  by_cases h : r.bucket = k <;> simp [h]

theorem rowOf?_eq_none (h : ∀ r ∈ rows, r.bucket ≠ k) : rowOf? rows k = none := by
  simpa [rowOf?] using h

/-- The buckets of rows change as those of a tally. -/
theorem buckets_book (k : Bucket) (downloaded uploaded : Nat) (rows : List Row) :
    (book k downloaded uploaded rows).map (·.bucket)
      = (post ⟨k, downloaded, uploaded⟩ (rows.map fun r => ⟨r.bucket, 0, 0⟩)).map (·.bucket) := by
  induction rows with
  | nil => rfl
  | cons r rows ih =>
    rw [book, List.map_cons, post]
    by_cases hr : r.bucket = k
    · simp [hr, Row.add, Booking.add]
    · by_cases hbefore : k.before r.bucket = true
      · simp [hr, hbefore]
      · simp [hr, hbefore, ih]

theorem Ascending.book (h : Ascending rows) (k : Bucket) (downloaded uploaded : Nat) :
    Ascending (book k downloaded uploaded rows) := by
  rw [Ascending, buckets_book]
  refine ascending_post _ ?_
  rw [List.map_map]
  exact h

theorem Ascending.bookAll (h : Ascending rows) (bs : List Booking) : Ascending (bookAll rows bs) := by
  induction bs generalizing rows with
  | nil => exact h
  | cons b bs ih => exact ih (h.book b.bucket b.downloaded b.uploaded)

/-- A booking goes onto its bucket's row. -/
theorem rowOf?_book_self (h : Ascending rows) (b : Booking) :
    rowOf? (book b.bucket b.downloaded b.uploaded rows) b.bucket
      = some (b.onto (rowOf? rows b.bucket)) := by
  induction rows with
  | nil => simp [book, rowOf?, Booking.onto, Booking.row]
  | cons r rows ih =>
    rw [Ascending, List.map_cons, List.pairwise_cons] at h
    rw [book]
    by_cases hr : r.bucket = b.bucket
    · simp [hr, Row.add, Booking.onto]
    · rw [if_neg hr]
      by_cases hbefore : b.bucket.before r.bucket = true
      · -- the rows after `r` come later still, so none of them is the bucket's
        have hlater : ∀ x ∈ rows, x.bucket ≠ b.bucket := by
          intro x hx hxb
          have hrx := h.1 x.bucket (List.mem_map_of_mem hx)
          rw [hxb] at hrx
          exact hr (antisymm_of (fun a b : Bucket => (a.before b : Prop)) hrx hbefore)
        simp [hbefore, hr, rowOf?_eq_none hlater, Booking.onto, Booking.row]
      · simp [hbefore, hr, ih h.2]

/-- A booking leaves the rows of other buckets as they are. -/
theorem rowOf?_book_other (hne : b.bucket ≠ k) (rows : List Row) :
    rowOf? (book b.bucket b.downloaded b.uploaded rows) k = rowOf? rows k := by
  induction rows with
  | nil => simp [book, rowOf?, hne]
  | cons r rows ih =>
    rw [book]
    by_cases hr : r.bucket = b.bucket
    · simp [hr, Row.add, hne]
    · by_cases hbefore : b.bucket.before r.bucket = true
      · simp [hr, hbefore, hne]
      · simp [hr, hbefore, ih]

theorem rowOf?_bookAll_other (h : ∀ b ∈ bs, b.bucket ≠ k) (rows : List Row) :
    rowOf? (bookAll rows bs) k = rowOf? rows k := by
  induction bs generalizing rows with
  | nil => rfl
  | cons b bs ih =>
    obtain ⟨hb, hbs⟩ := List.forall_mem_cons.1 h
    exact (ih hbs _).trans (rowOf?_book_other hb rows)

/-- Of bookings for different buckets, each goes onto its own row. -/
theorem rowOf?_bookAll_self (hrows : Ascending rows) (hdistinct : (bs.map (·.bucket)).Nodup)
    (hb : b ∈ bs) : rowOf? (bookAll rows bs) b.bucket = some (b.onto (rowOf? rows b.bucket)) := by
  induction bs generalizing rows with
  | nil => cases hb
  | cons c bs ih =>
    rw [List.map_cons, List.nodup_cons] at hdistinct
    have hother : ∀ x ∈ bs, x.bucket ≠ c.bucket := by
      intro x hx hxc
      exact hdistinct.1 (hxc ▸ List.mem_map_of_mem hx)
    change rowOf? (bookAll (book c.bucket c.downloaded c.uploaded rows) bs) b.bucket = _
    rcases List.mem_cons.1 hb with rfl | hb
    · rw [rowOf?_bookAll_other hother, rowOf?_book_self hrows]
    · rw [ih (hrows.book _ _ _) hdistinct.2 hb, rowOf?_book_other (hother b hb).symm]

/-! ### Shares of an event -/

variable {z : Zone} {l : Ledger} {e : Event}

theorem ascending_takeEach (steps : List (Zone × Event)) :
    Ascending (Ledger.empty.takeEach steps).rows := by
  have hempty : Ascending Ledger.empty.rows := List.Pairwise.nil
  rw [Ledger.rows_takeEach]
  exact hempty.bookAll _

theorem date_text_injective : Function.Injective Date.text := by
  intro d e h
  have hd := d.ofText?_text
  rw [h, e.ofText?_text] at hd
  exact (Option.some.inj hd).symm

/-- An event has one share for a bucket. -/
theorem nodup_bookings (z : Zone) (e : Event) : ((e.bookings z).map (·.bucket)).Nodup := by
  by_cases h : e.Attributable
  · by_cases hdate : z.localDate e.snapshot.addedAt.toInt = .outside
    · rw [Event.bookings, days?_eq_none_iff.2 ⟨h, hdate⟩]
      exact List.nodup_nil
    · obtain ⟨first, ss, hfirst, hss, -⟩ := Spreadable.exists_stretches h hdate
      rw [Event.bookings, Event.days?, h.splitByDay?_eq hss]
      simp only [Option.getD_some, List.map_map]
      have hdays := (hss.days_nodup hfirst).map date_text_injective
      rw [List.map_map] at hdays
      refine List.Nodup.of_map Bucket.day ?_
      rwa [List.map_map]
  · rw [bookings_of_not_attributable h]
    exact List.nodup_nil

/-- What an event that is counted does to a ledger. -/
structure Contributed (z : Zone) (e : Event) (l l' : Ledger) : Prop where
  /-- Each of its shares is added to the row of its bucket. -/
  added : ∀ b ∈ e.bookings z, rowOf? l'.rows b.bucket = some (b.onto (rowOf? l.rows b.bucket))
  /-- The rows of other buckets are left as they were. -/
  others : ∀ k, (∀ b ∈ e.bookings z, b.bucket ≠ k) → rowOf? l'.rows k = rowOf? l.rows k
  /-- Its closing is remembered besides those that were. -/
  remembered : l'.closings = e.closing :: l.closings
  /-- So no event of the closing counts after it. -/
  closed : ∀ y f, f.closing = e.closing → l'.take y f = (.passedOver, l')

/-- A new closing whose days can be told is counted, whatever days it has. -/
theorem contributed_take (hrows : Ascending l.rows) (hcounts : e.Counts) (hnew : e.closing ∉ l.closings)
    (hdays : e.days? z ≠ none) :
    (l.take z e).1 = .counted ∧ Contributed z e l (l.take z e).2 := by
  obtain ⟨days, hdays⟩ := Option.ne_none_iff_exists'.1 hdays
  rw [take_of_days hcounts hnew hdays]
  refine ⟨rfl, ?_, ?_, rfl, ?_⟩
  · intro b hb
    exact rowOf?_bookAll_self hrows (nodup_bookings z e) hb
  · intro k hk
    exact rowOf?_bookAll_other hk l.rows
  · intro y f hf
    exact take_of_mem (hf ▸ List.mem_cons_self)

/-- What an event does to a ledger of any events, each taken in on the clock of some zone. If it does not
    count, or its closing is remembered, it is passed over and the ledger is left as it was. If not, and
    its days can be told, it is counted: its shares are added to the rows and its closing is remembered.
    It has shares exactly if its times are within the limits; an event whose times are not is counted
    and remembered too. -/
theorem take_effect (steps : List (Zone × Event)) (z : Zone) (e : Event) :
    let l := Ledger.empty.takeEach steps
    ((¬ e.Counts ∨ e.closing ∈ l.closings) ∧ l.take z e = (.passedOver, l)) ∨
    ((e.Counts ∧ e.closing ∉ l.closings ∧ e.days? z ≠ none) ∧
      (l.take z e).1 = .counted ∧ Contributed z e l (l.take z e).2 ∧
      (e.bookings z ≠ [] ↔ e.Attributable) ∧
      (¬ e.Attributable → (l.take z e).2.rows = l.rows)) ∨
    ((e.Counts ∧ e.closing ∉ l.closings ∧ e.days? z = none) ∧ (l.take z e).1 = .outsideCalendar) := by
  intro l
  by_cases hcounts : e.Counts
  · by_cases hmem : e.closing ∈ l.closings
    · exact .inl ⟨.inr hmem, take_of_mem hmem⟩
    · by_cases hdays : e.days? z = none
      · exact .inr (.inr ⟨⟨hcounts, hmem, hdays⟩, take_of_no_days hcounts hmem hdays⟩)
      · obtain ⟨hcounted, hcontributed⟩ :=
          contributed_take (ascending_takeEach steps) hcounts hmem hdays
        refine .inr (.inl ⟨⟨hcounts, hmem, hdays⟩, hcounted, hcontributed, ?_, ?_⟩)
        · constructor
          · intro hne
            exact Decidable.byContradiction fun h => hne (bookings_of_not_attributable h)
          · intro h
            exact (bookings_ne_nil_iff fun hdate => hdays (days?_eq_none_iff.2 ⟨h, hdate⟩)).2 h
        · intro h
          rw [Ledger.rows_take, if_pos ⟨hcounts, hmem⟩, bookings_of_not_attributable h]
          rfl
  · exact .inl ⟨.inl hcounts, take_of_not_counts hcounts⟩

/-- The closing of a torrent that was there for a second longer than the longest span. -/
def closedTooLate : Event := { closedAfterTwoDays with time := 4874040001 }

/-- It has no shares, and is counted. Its closing is remembered, so that the event with the right time is
    passed over, which has shares. -/
theorem counted_without_shares :
    closedTooLate.bookings .utc = [] ∧ closedAfterTwoDays.bookings .utc ≠ [] ∧
    closedTooLate.closing = closedAfterTwoDays.closing ∧
    Ledger.empty.take .utc closedTooLate = (.counted, ⟨[], [closedTooLate.closing]⟩) ∧
    (Ledger.empty.take .utc closedTooLate).2.take .utc closedAfterTwoDays
      = (.passedOver, ⟨[], [closedTooLate.closing]⟩) ∧
    (Ledger.empty.take .utc closedAfterTwoDays).1 = .counted := by
  refine ⟨?_, ?_, rfl, ?_, ?_, ?_⟩
  · decide +kernel
  · decide +kernel
  · rfl
  · rfl
  · decide +kernel

end Seedkeeper.Traffic
