import Seedkeeper.Calendar.Zone

/-!
Where a date begins in a zone.

The start of a date is a local time turned back into a unix time, and a clock change may skip,
repeat or misplace it. Whatever it does, the time that is found is readable and shows that very date,
because its local time is the date's midnight or its 01:00. Apart from that only the size of the
offsets matters: a local time is less than a day away from the unix time it is shown at.
-/

namespace Seedkeeper.Calendar

/-- Every offset of the zone is shorter than a day. -/
def Zone.WithinDay (z : Zone) : Prop :=
  ∀ offset ∈ z.base :: z.changes.map (·.2), -daySeconds < offset ∧ offset < daySeconds

instance (z : Zone) : Decidable z.WithinDay :=
  inferInstanceAs (Decidable (∀ _ ∈ _, _))

/-! ### Offsets -/

theorem foldl_offset_mem (t : Int) : ∀ (changes : List (Int × Int)) (base : Int),
    changes.foldl (fun off (since, next) => if since ≤ t then next else off) base
      ∈ base :: changes.map (·.2)
  | [], base => by simp
  | (since, next) :: changes, base => by
    rw [List.foldl_cons]
    have h := foldl_offset_mem t changes (if since ≤ t then next else base)
    rw [List.mem_cons] at h
    rcases h with h | h
    · rw [h]; split <;> simp
    · simp [h]

/-- The offset at any time is one the zone lists. -/
theorem Zone.offsetAt_mem (z : Zone) (t : Int) : z.offsetAt t ∈ z.base :: z.changes.map (·.2) :=
  foldl_offset_mem t z.changes z.base

theorem Zone.WithinDay.localTime_bounds {z : Zone} (hz : z.WithinDay) (t : Int) :
    t - daySeconds < z.localTime t ∧ z.localTime t < t + daySeconds := by
  have h := hz _ (z.offsetAt_mem t)
  rw [Zone.localTime]
  omega

/-! ### The start of a date -/

/-- A unix time found for a local time shows that local time. -/
theorem Zone.localTime_of_earliest? {z : Zone} {l t : Int} (h : z.earliest? l = some t) :
    readable t ∧ z.localTime t = l := by
  have hm := List.min?_mem h
  rw [List.mem_filter, Zone.unixTimes, List.mem_filter] at hm
  exact ⟨hm.2, of_decide_eq_true hm.1.2⟩

theorem Zone.localTime_of_dayStart? {z : Zone} {d : Date} {t : Int} (h : z.dayStart? d = some t) :
    readable t ∧ d.dayNumber * daySeconds ≤ z.localTime t ∧
      z.localTime t ≤ d.dayNumber * daySeconds + 3600 := by
  rw [Zone.dayStart?, Option.or_eq_some_iff] at h
  rcases h with h | ⟨_, h⟩
  · obtain ⟨hr, hl⟩ := Zone.localTime_of_earliest? h
    exact ⟨hr, by omega⟩
  · obtain ⟨hr, hl⟩ := Zone.localTime_of_earliest? h
    exact ⟨hr, by omega⟩

/-- The clock shows a date of the calendar at its start. -/
theorem Zone.localDate_of_dayStart? {z : Zone} {d : Date} {t : Int} (hd : d.inCalendar)
    (h : z.dayStart? d = some t) : z.localDate t = .on d := by
  obtain ⟨hr, low, high⟩ := Zone.localTime_of_dayStart? h
  have hday : z.localTime t / daySeconds = d.dayNumber := by
    rw [daySeconds] at *; omega
  rw [Zone.localDate, if_pos hr, hday]
  exact if_pos hd

/-- The local time at which a clock shows a date lies on that date. -/
theorem Zone.localTime_of_localDate {z : Zone} {d : Date} {t : Int} (h : z.localDate t = .on d) :
    readable t ∧ d.dayNumber * daySeconds ≤ z.localTime t ∧
      z.localTime t < (d.dayNumber + 1) * daySeconds := by
  rw [Zone.localDate] at h
  split at h
  · rename_i hr
    simp only at h
    split at h
    · obtain rfl := LocalDate.on.inj h
      refine ⟨hr, ?_⟩
      simp only [daySeconds]; omega
    · cases h
  · cases h

theorem Zone.localDate_eq_unreadable_iff {z : Zone} {t : Int} :
    z.localDate t = .unreadable ↔ readable t = false := by
  rw [Zone.localDate]
  split
  · simp only
    split <;> simp_all
  · simp_all

end Seedkeeper.Calendar
