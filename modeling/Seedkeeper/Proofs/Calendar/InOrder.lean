import Seedkeeper.Proofs.Calendar.DayStart

/-!
Clocks that go through the dates in order.

A change of the clock may skip a midnight, repeat one, or take the clock back over one. Where it does
neither, or skips a midnight in such a way that the date still begins where its start is looked for, the
clock stays on a date or goes on to the next one at that one's start (`Zone.InOrder`). Then dates never go
back (`Zone.InOrder.mono`). A clock that is never changed goes in order as long as it shows dates at all
(`Zone.inOrder_fixed`).
-/

namespace Seedkeeper.Calendar

variable {z : Zone} {d last : Date} {start stop t u : Int}

/-! ### Dates shown -/

theorem Date.dayNumber_next (d : Date) : d.next.dayNumber = d.dayNumber + 1 := rfl

theorem readable_iff :
    readable t ↔ Date.first.dayNumber ≤ t / daySeconds ∧ t / daySeconds ≤ Date.last.dayNumber := by
  rw [readable, Date.inCalendar, Bool.and_eq_true, decide_eq_true_eq, decide_eq_true_eq]

/-- All times between two readable ones are readable. -/
theorem readable_of_between (ht : readable t) (hu : readable u) {v : Int} (h₁ : t ≤ v) (h₂ : v ≤ u) :
    readable v := by
  rw [readable_iff] at *
  rw [daySeconds] at *
  omega

theorem Zone.localDate_eq_on_iff :
    z.localDate t = .on d ↔
      readable t ∧ d.inCalendar ∧ z.localTime t / daySeconds = d.dayNumber := by
  constructor
  · intro h
    rw [Zone.localDate] at h
    split at h
    · rename_i hreadable
      simp only at h
      split at h
      · rename_i hcalendar
        obtain rfl := LocalDate.on.inj h
        exact ⟨hreadable, hcalendar, rfl⟩
      · cases h
    · cases h
  · rintro ⟨hreadable, hcalendar, hday⟩
    rw [Zone.localDate, if_pos hreadable, hday]
    exact if_pos hcalendar

/-- Away from the ends of the calendar every time has a date, if the offsets are shorter than a day. -/
theorem Zone.WithinDay.exists_localDate (hz : z.WithinDay) (hfirst : Date.first.dayNumber < t / daySeconds)
    (hlast : t / daySeconds < Date.last.dayNumber) : ∃ d, z.localDate t = .on d := by
  have hlocal := hz.localTime_bounds t
  have hday : Date.first.dayNumber ≤ z.localTime t / daySeconds ∧
      z.localTime t / daySeconds ≤ Date.last.dayNumber := by
    rw [daySeconds] at *
    omega
  refine ⟨⟨z.localTime t / daySeconds⟩, Zone.localDate_eq_on_iff.2
    ⟨readable_iff.2 ⟨Int.le_of_lt hfirst, Int.le_of_lt hlast⟩, ?_, rfl⟩⟩
  rw [Date.inCalendar, Bool.and_eq_true, decide_eq_true_eq, decide_eq_true_eq]
  exact hday

/-- A time shows at most one date. -/
theorem Zone.date_unique {e : Date} (hd : z.localDate t = .on d) (he : z.localDate t = .on e) : d = e :=
  LocalDate.on.inj (hd.symm.trans he)

/-! ### Dates in order -/

/-- From one second to the next the date stays, or the next one begins, at the time that is found as its
    start; for all times from `start` up to `stop`. -/
def Zone.InOrder (z : Zone) (start stop : Int) : Prop :=
  ∀ (t : Int) (d : Date), start ≤ t → t + 1 < stop → z.localDate t = .on d →
    z.localDate (t + 1) = .on d ∨
      (z.localDate (t + 1) = .on d.next ∧ z.dayStart? d.next = some (t + 1))

theorem Zone.InOrder.later (h : z.InOrder start stop) {later : Int} (hle : start ≤ later) :
    z.InOrder later stop :=
  fun t d ht => h t d (Int.le_trans hle ht)

/-- In order, dates are shown throughout, and never an earlier one after a later one. -/
theorem Zone.InOrder.mono (h : z.InOrder start stop) (hd : z.localDate start = .on d) (n : Nat) :
    start + n < stop → ∃ e, z.localDate (start + n) = .on e ∧ d.dayNumber ≤ e.dayNumber := by
  induction n with
  | zero => exact fun _ => ⟨d, by rw [Int.natCast_zero, Int.add_zero]; exact hd, Int.le_refl _⟩
  | succ n ih =>
    intro hlt
    obtain ⟨e, he, hle⟩ := ih (by omega)
    rw [Int.natCast_succ, ← Int.add_assoc]
    rcases h (start + n) e (by omega) (by omega) he with hstay | ⟨hgo, -⟩
    · exact ⟨e, hstay, hle⟩
    · exact ⟨e.next, hgo, by rw [Date.dayNumber_next]; omega⟩

theorem Zone.InOrder.le_of_le (h : z.InOrder start stop) {e : Date} (hd : z.localDate t = .on d)
    (he : z.localDate u = .on e) (hstart : start ≤ t) (hle : t ≤ u) (hlt : u < stop) :
    d.dayNumber ≤ e.dayNumber := by
  obtain ⟨n, rfl⟩ := Int.le.dest hle
  obtain ⟨e', he', hde⟩ := (h.later hstart).mono hd n hlt
  rwa [Zone.date_unique he he']

/-! ### One offset for all times -/

theorem Zone.localTime_fixed (offset t : Int) : (Zone.fixed offset).localTime t = t + offset := by
  simp [Zone.localTime, Zone.offsetAt, Zone.fixed]

/-- With one offset a date begins at its midnight. -/
theorem Zone.dayStart?_fixed {offset : Int} (h : t + offset = d.dayNumber * daySeconds)
    (hreadable : readable t) : (Zone.fixed offset).dayStart? d = some t := by
  have hmidnight : d.dayNumber * daySeconds - offset = t := by omega
  simp [Zone.dayStart?, Zone.earliest?, Zone.unixTimes_fixed, hmidnight, hreadable]

/-- With one offset the clock goes in order up to any time at which it still shows a date. -/
theorem Zone.inOrder_fixed {offset : Int} (hlast : (Zone.fixed offset).localDate (stop - 1) = .on last)
    (start : Int) : (Zone.fixed offset).InOrder start stop := by
  intro t d _ hstop hd
  obtain ⟨hreadable, hcalendar, hday⟩ := Zone.localDate_eq_on_iff.1 hd
  obtain ⟨hlastReadable, hlastCalendar, hlastDay⟩ := Zone.localDate_eq_on_iff.1 hlast
  have hnext : readable (t + 1) := readable_of_between hreadable hlastReadable (by omega) (by omega)
  rw [Zone.localTime_fixed] at hday hlastDay
  rcases Int.lt_or_le (t + 1 + offset) ((d.dayNumber + 1) * daySeconds) with hsame | hover
  · refine .inl (Zone.localDate_eq_on_iff.2 ⟨hnext, hcalendar, ?_⟩)
    rw [Zone.localTime_fixed]
    rw [daySeconds] at *
    omega
  · have hmidnight : t + 1 + offset = d.next.dayNumber * daySeconds := by
      rw [Date.dayNumber_next]
      rw [daySeconds] at *
      omega
    refine .inr ⟨Zone.localDate_eq_on_iff.2 ⟨hnext, ?_, ?_⟩, Zone.dayStart?_fixed hmidnight hnext⟩
    · rw [Date.inCalendar, Bool.and_eq_true, decide_eq_true_eq, decide_eq_true_eq] at *
      rw [Date.dayNumber_next]
      rw [daySeconds] at *
      omega
    · rw [Zone.localTime_fixed, hmidnight, daySeconds]
      omega

end Seedkeeper.Calendar
