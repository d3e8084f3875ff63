import Seedkeeper.Proofs.Calendar.InOrder
import Seedkeeper.Proofs.Traffic.Split

/-!
The last day that traffic is put on.

A walk goes on from a date to the next one if that one is found to begin in time, which a change of the
clock can prevent: it can skip the hours at which a date may begin, or take the clock back to a date that
has already been over, whose end then lies behind. A walk stops at the first date that is not followed by
another one in this way (`EndsOn`, `Stretches.exists_last`), and all that is left is put on that date,
whatever the clock shows at the end. If the clock goes through the dates in order, each date gets the time
at which the clock shows it (`Stretches.mem_iff_of_inOrder`), so the last one is the date shown at the end.
-/

namespace Seedkeeper.Traffic

open Calendar (Date Zone LocalDate readable readable_of_between daySeconds)

variable {z : Zone} {d e first last : Date} {start stop n t : Int} {ss : List Stretch}

/-! ### From one date to the next -/

/-- The time at which a walk takes a date to begin: where the walk starts if the date is its first one,
    else the start that is found for the date. -/
def Begins (z : Zone) (first : Date) (start : Int) (d : Date) (t : Int) : Prop :=
  if d = first then t = start else z.dayStart? d = some t

/-- Whether another date follows a date on a walk: the next one is found to begin later than the date
    itself and before the walk is over. -/
def Followed (z : Zone) (first : Date) (start stop : Int) (d : Date) : Prop :=
  ∃ t next, Begins z first start d t ∧ d.next.inCalendar ∧ z.dayStart? d.next = some next ∧
    t < next ∧ next < stop

/-- The date a walk ends on: the first one, from the date of its start on, that no other one follows. -/
def EndsOn (z : Zone) (first : Date) (start stop : Int) (last : Date) : Prop :=
  first.dayNumber ≤ last.dayNumber ∧
    (∀ d : Date, first.dayNumber ≤ d.dayNumber → d.dayNumber < last.dayNumber →
      Followed z first start stop d) ∧
    ¬ Followed z first start stop last

/-- A walk ends on one date. -/
theorem EndsOn.unique (hd : EndsOn z first start stop d) (he : EndsOn z first start stop e) : d = e := by
  rcases Int.lt_trichotomy d.dayNumber e.dayNumber with hlt | heq | hlt
  · exact absurd (he.2.1 d hd.1 hlt) hd.2.2
  · exact congrArg Date.mk heq
  · exact absurd (hd.2.1 e he.1 hlt) he.2.2

/-- A day that ends before the walk does ends where the next date begins. -/
theorem dayStart?_of_dayEnd_lt (h : dayEnd z d start stop < stop) :
    d.next.inCalendar ∧ z.dayStart? d.next = some (dayEnd z d start stop) := by
  unfold dayEnd at h ⊢
  split at h
  · rename_i hcalendar
    split at h
    · rename_i next hnext
      split at h
      · rename_i hlater
        rw [if_pos hcalendar, if_pos hlater, Int.min_eq_left (by omega)]
        exact ⟨hcalendar, hnext⟩
      · exact absurd h (Int.lt_irrefl _)
    · exact absurd h (Int.lt_irrefl _)
  · exact absurd h (Int.lt_irrefl _)

theorem dayEnd_eq_of_dayStart? (hcalendar : d.next.inCalendar) (hnext : z.dayStart? d.next = some n)
    (hlater : start < n) (hstop : n ≤ stop) : dayEnd z d start stop = n := by
  rw [dayEnd, if_pos hcalendar, hnext]
  simp only
  rw [if_pos hlater, Int.min_eq_left hstop]

/-- The first date is followed exactly if its day ends before the walk does. -/
theorem followed_first_iff (hlt : start < stop) :
    Followed z d start stop d ↔ dayEnd z d start stop < stop := by
  constructor
  · rintro ⟨t, next, hbegins, hcalendar, hnext, hlater, hstop⟩
    obtain rfl : t = start := by rwa [Begins, if_pos rfl] at hbegins
    rwa [dayEnd_eq_of_dayStart? hcalendar hnext hlater (Int.le_of_lt hstop)]
  · intro h
    obtain ⟨hcalendar, hnext⟩ := dayStart?_of_dayEnd_lt h
    exact ⟨start, _, by rw [Begins, if_pos rfl], hcalendar, hnext, lt_dayEnd z d hlt, h⟩

/-- For dates after the first one it does not matter whether a walk starts there or on the next date. -/
theorem begins_next_iff (hnext : z.dayStart? d.next = some n) (hlt : d.dayNumber < e.dayNumber) :
    Begins z d.next n e t ↔ Begins z d start e t := by
  have hne : e ≠ d := by
    rintro rfl
    exact Int.lt_irrefl _ hlt
  rw [Begins, Begins, if_neg hne]
  split
  · rename_i he
    rw [he, hnext, Option.some.injEq, eq_comm]
  · rfl

theorem followed_next_iff (hnext : z.dayStart? d.next = some n) (hlt : d.dayNumber < e.dayNumber) :
    Followed z d.next n stop e ↔ Followed z d start stop e :=
  exists_congr fun _ => exists_congr fun _ => and_congr_left fun _ => begins_next_iff hnext hlt

/-- A walk that goes on from a date ends where the walk from the next date ends. -/
theorem EndsOn.of_next (hlt : start < stop) (hin : dayEnd z d start stop < stop)
    (h : EndsOn z d.next (dayEnd z d start stop) stop e) :
    d.dayNumber < e.dayNumber ∧ EndsOn z d start stop e := by
  obtain ⟨hle, hbefore, hnot⟩ := h
  obtain ⟨-, hnext⟩ := dayStart?_of_dayEnd_lt hin
  rw [Date.dayNumber_next] at hle
  have hde : d.dayNumber < e.dayNumber := by omega
  refine ⟨hde, Int.le_of_lt hde, fun c hc hce => ?_, ?_⟩
  · rcases Int.lt_or_eq_of_le hc with hdc | hdc
    · exact (followed_next_iff hnext hdc).1 (hbefore c (by rw [Date.dayNumber_next]; omega) hce)
    · obtain rfl : d = c := congrArg Date.mk hdc
      exact (followed_first_iff hlt).2 hin
  · rwa [← followed_next_iff hnext hde]

/-! ### The last stretch -/

/-- A walk ends with a stretch on the date it ends on, from where that date begins up to the end. -/
theorem Stretches.exists_last (h : Stretches z stop start ss) :
    ∀ {first : Date}, z.localDate start = .on first → start < stop →
      ∃ init last, ss = init ++ [last] ∧ EndsOn z first start stop last.day ∧
        Begins z first start last.day last.start ∧ last.stop = stop := by
  induction h with
  | done => exact fun _ hlt => absurd hlt (Int.lt_irrefl _)
  | @day start d ss lt on rest ih =>
    intro first hfirst _
    obtain rfl := Zone.date_unique on hfirst
    rcases Int.lt_or_eq_of_le (dayEnd_le z d start stop) with hin | hout
    · obtain ⟨init, last, rfl, hends, hbegins, hstop⟩ := ih (localDate_dayEnd hin) hin
      obtain ⟨hlater, hends⟩ := hends.of_next lt hin
      exact ⟨_ :: init, last, rfl, hends,
        (begins_next_iff (dayStart?_of_dayEnd_lt hin).2 hlater).1 hbegins, hstop⟩
    · refine ⟨[], ⟨d, start, dayEnd z d start stop⟩, by rw [rest.eq_nil (Int.le_of_eq hout.symm)]; rfl,
        ⟨Int.le_refl _, fun c hc hcd => absurd (Int.lt_of_le_of_lt hc hcd) (Int.lt_irrefl _), ?_⟩, ?_,
        hout⟩
      · rw [followed_first_iff lt, hout]
        exact Int.lt_irrefl _
      · rw [Begins, if_pos rfl]

/-! ### Clocks in order -/

/-- In order, the clock shows a day's date until the day ends. -/
theorem localDate_of_lt_dayEnd (h : z.InOrder start stop) (hd : z.localDate start = .on d) (k : Nat) :
    start + k < dayEnd z d start stop → z.localDate (start + k) = .on d := by
  have hle := dayEnd_le z d start stop
  induction k with
  | zero => exact fun _ => by rw [Int.natCast_zero, Int.add_zero]; exact hd
  | succ k ih =>
    intro hlt
    have hshown := ih (by omega)
    rw [Int.natCast_succ, ← Int.add_assoc] at hlt ⊢
    rcases h (start + k) d (by omega) (by omega) hshown with hstay | ⟨hgo, hnext⟩
    · exact hstay
    · -- the day would have ended here
      have hcalendar := (Zone.localDate_eq_on_iff.1 hgo).2.1
      rw [dayEnd_eq_of_dayStart? hcalendar hnext (by omega) (by omega)] at hlt
      exact absurd hlt (Int.lt_irrefl _)

/-- In order, a stretch is all of the walk's time at which the clock shows the stretch's date. -/
theorem Stretches.mem_iff_of_inOrder (h : Stretches z stop start ss) : z.InOrder start stop →
    ∀ s ∈ ss, ∀ t, s.start ≤ t ∧ t < s.stop ↔ start ≤ t ∧ t < stop ∧ z.localDate t = .on s.day := by
  induction h with
  | done => exact fun _ s hs => absurd hs List.not_mem_nil
  | @day start d ss lt on rest ih =>
    intro horder s hs t
    have hstart := lt_dayEnd z d lt
    have hstop := dayEnd_le z d start stop
    have hshown : ∀ u, start ≤ u → u < dayEnd z d start stop → z.localDate u = .on d := by
      intro u hu hlt
      obtain ⟨k, rfl⟩ := Int.le.dest hu
      exact localDate_of_lt_dayEnd horder on k hlt
    -- from the end of the day on, later dates are shown
    have hlater : ∀ u e, dayEnd z d start stop ≤ u → u < stop → z.localDate u = .on e →
        d.dayNumber < e.dayNumber := by
      intro u e hu hlt he
      have hle := horder.le_of_le (localDate_dayEnd (Int.lt_of_le_of_lt hu hlt)) he (by omega) hu hlt
      rw [Date.dayNumber_next] at hle
      omega
    rcases List.mem_cons.1 hs with rfl | hs
    · constructor
      · rintro ⟨hle, hlt⟩
        exact ⟨hle, Int.lt_of_lt_of_le hlt hstop, hshown t hle hlt⟩
      · rintro ⟨hle, hlt, he⟩
        refine ⟨hle, Int.not_le.1 fun hend => ?_⟩
        exact Int.lt_irrefl _ (hlater t d hend hlt he)
    · obtain ⟨hsstart, hsstop, hson⟩ := rest.start_lt s hs
      have hne := hlater s.start s.day hsstart hsstop hson
      rw [ih (horder.later (Int.le_of_lt hstart)) s hs t]
      constructor
      · rintro ⟨hle, hlt, he⟩
        exact ⟨by omega, hlt, he⟩
      · rintro ⟨hle, hlt, he⟩
        refine ⟨Int.not_lt.1 fun hbefore => ?_, hlt, he⟩
        obtain rfl := Zone.date_unique (hshown t hle hbefore) he
        exact Int.lt_irrefl _ hne

/-- In order, a walk ends on the date shown in its last second. -/
theorem Stretches.localDate_last {init : List Stretch} {last : Stretch}
    (h : Stretches z stop start (init ++ [last])) (horder : z.InOrder start stop)
    (hstop : last.stop = stop) : z.localDate (stop - 1) = .on last.day := by
  obtain ⟨-, hbefore, -⟩ := h.start_lt last (by simp)
  exact ((h.mem_iff_of_inOrder horder last (by simp) (stop - 1)).1 (by omega)).2.2

/-! ### The last day of a split -/

/-- A stretch up to the end gets all that has not flowed before it. -/
theorem Stretch.share_of_stop {s : Stretch} (hstop : s.stop = stop) (hlt : start < stop) (total : Nat) :
    s.share start stop total = total - flowed total (s.start - start) (stop - start) := by
  rw [Stretch.share, hstop, flowed_self total (by omega)]

/-- In every zone, traffic that can be spread over days has a last one. It is the date on which the walk
    ends, whatever the clock shows at the end: the first date, from that of the start on, that is not
    followed by one found to begin later and in time; and all that has not flowed when it begins is put on
    it. If the clock goes through the dates in order, it is the date shown in the last second. -/
theorem splitByDay?_last (z : Zone) (addedAt time : Int64) (downloaded uploaded : UInt64) (first : Date)
    (hlater : 0 < time.toInt - addedAt.toInt) (hspan : time.toInt - addedAt.toInt ≤ maxSpan)
    (hfirst : z.localDate addedAt.toInt = .on first) :
    ∃ days last, splitByDay? z addedAt time downloaded uploaded = some days ∧
      days.getLast? = some last ∧
      (∀ d, last.day = d ↔ EndsOn z first addedAt.toInt time.toInt d) ∧
      (∃ t, Begins z first addedAt.toInt last.day t ∧
        last.downloaded = downloaded.toNat
          - flowed downloaded.toNat (t - addedAt.toInt) (time.toInt - addedAt.toInt) ∧
        last.uploaded = uploaded.toNat
          - flowed uploaded.toNat (t - addedAt.toInt) (time.toInt - addedAt.toInt)) ∧
      (z.InOrder addedAt.toInt time.toInt → z.localDate (time.toInt - 1) = .on last.day) := by
  have hlt : addedAt.toInt < time.toInt := by omega
  have hspreadable : Spreadable addedAt time :=
    ⟨hlater, hspan, (Zone.localDate_eq_on_iff.1 hfirst).1⟩
  obtain ⟨ss, hss⟩ := exists_stretches z (Int.le_of_lt hlt) hfirst
  obtain ⟨init, last, rfl, hends, hbegins, hstop⟩ := hss.exists_last hfirst hlt
  refine ⟨_, last.traffic addedAt.toInt time.toInt downloaded.toNat uploaded.toNat,
    hspreadable.splitByDay?_eq hss, by simp, fun d => ⟨?_, hends.unique⟩,
    ⟨last.start, hbegins, last.share_of_stop hstop hlt _, last.share_of_stop hstop hlt _⟩,
    fun horder => hss.localDate_last horder hstop⟩
  rintro rfl
  exact hends

/-- Over two days around a midnight that the clock skips, it goes through the dates in order. -/
theorem skippedMidnight_inOrder : skippedMidnight.InOrder 1711800000 1711972800 := by
  have hoffset : ∀ t, skippedMidnight.localTime t = t + if 1711843200 ≤ t then 3600 else 0 :=
    fun _ => rfl
  intro t d hstart hstop hd
  obtain ⟨hreadable, hcalendar, hday⟩ := Zone.localDate_eq_on_iff.1 hd
  obtain ⟨day⟩ := d
  have hnext : readable (t + 1) := readable_of_between hreadable (u := 1711972800) (by decide)
    (by omega) (by omega)
  rw [hoffset, daySeconds] at hday
  simp only [Zone.localDate_eq_on_iff, hnext, hcalendar, hoffset, daySeconds, true_and]
  by_cases hskip : t + 1 = 1711843200
  · obtain rfl : day = 19812 := by split at hday <;> simp only at hday <;> omega
    exact .inr ⟨⟨by decide, by rw [hskip]; decide⟩, by rw [hskip]; decide⟩
  by_cases hmidnight : t + 1 = 1711926000
  · obtain rfl : day = 19813 := by split at hday <;> simp only at hday <;> omega
    exact .inr ⟨⟨by decide, by rw [hmidnight]; decide⟩, by rw [hmidnight]; decide⟩
  · refine .inl ?_
    split at hday <;> split <;> simp only at hday ⊢ <;> omega

/-- Traffic of two days around such a midnight ends up on the day the clock shows at the end. -/
theorem splitByDay?_last_skippedMidnight :
    let addedAt : Int64 := 1711800000
    let time : Int64 := 1711972800
    (0 < time.toInt - addedAt.toInt ∧ time.toInt - addedAt.toInt ≤ maxSpan ∧
      skippedMidnight.localDate addedAt.toInt = .on ⟨19812⟩ ∧
      skippedMidnight.InOrder addedAt.toInt time.toInt) ∧
    ∃ days last, splitByDay? skippedMidnight addedAt time 172800 48 = some days ∧
      days.getLast? = some last ∧ last.day = ⟨19814⟩ := by
  intro addedAt time
  have hlater : 0 < time.toInt - addedAt.toInt := by decide
  have hspan : time.toInt - addedAt.toInt ≤ maxSpan := by decide
  have hfirst : skippedMidnight.localDate addedAt.toInt = .on ⟨19812⟩ := by decide
  have horder : skippedMidnight.InOrder addedAt.toInt time.toInt := skippedMidnight_inOrder
  obtain ⟨days, last, hsplit, hlast, -, -, hshown⟩ :=
    splitByDay?_last skippedMidnight addedAt time 172800 48 ⟨19812⟩ hlater hspan hfirst
  have hend : skippedMidnight.localDate (time.toInt - 1) = .on ⟨19814⟩ := by decide
  exact ⟨⟨hlater, hspan, hfirst, horder⟩, days, last, hsplit, hlast,
    Zone.date_unique (hshown horder) hend⟩

/-- A zone whose clock is put forward by two hours at a midnight. -/
def skippedHours : Zone := ⟨0, [(1711843200, 7200)]⟩

/-- The last day is not always the date shown in the last second, in zones whose offsets are all shorter
    than a day and change in order of time, and for times that all have a date: where neither the midnight
    nor the 01:00 of a date is ever shown, the date before it gets what belongs to it. -/
theorem not_last_of_skippedHours :
    ¬ ∀ (z : Zone) (addedAt time : Int64) (downloaded uploaded : UInt64), z.WithinDay →
      (z.changes.map (·.1)).Pairwise (· < ·) → 0 < time.toInt - addedAt.toInt →
      time.toInt - addedAt.toInt ≤ maxSpan → readable addedAt.toInt →
      (∀ t, addedAt.toInt ≤ t → t ≤ time.toInt → ∃ d, z.localDate t = .on d) →
      ∀ days last, splitByDay? z addedAt time downloaded uploaded = some days →
        days.getLast? = some last → z.localDate (time.toInt - 1) = .on last.day := by
  intro h
  have hz : skippedHours.WithinDay := by decide
  have hdates : ∀ t, (1711800000 : Int64).toInt ≤ t → t ≤ (1711886400 : Int64).toInt →
      ∃ d, skippedHours.localDate t = .on d := by
    intro t hstart hstop
    have hstart : 1711800000 ≤ t := hstart
    have hstop : t ≤ 1711886400 := hstop
    refine hz.exists_localDate ?_ ?_ <;> rw [daySeconds] <;> simp only [Date.first, Date.last] <;> omega
  have hspreadable : Spreadable 1711800000 1711886400 := by decide
  -- the walk never leaves its first date
  have hss : Stretches skippedHours (1711886400 : Int64).toInt (1711800000 : Int64).toInt
      [⟨⟨19812⟩, 1711800000, dayEnd skippedHours ⟨19812⟩ 1711800000 1711886400⟩] := by
    refine .day (by decide) (by decide) ?_
    rw [show dayEnd skippedHours ⟨19812⟩ (1711800000 : Int64).toInt (1711886400 : Int64).toInt
      = (1711886400 : Int64).toInt by decide]
    exact .done
  have hlast := h skippedHours 1711800000 1711886400 86400 0 hz (by decide) hspreadable.1
    hspreadable.2.1 hspreadable.2.2 hdates _ _ (hspreadable.splitByDay?_eq hss) rfl
  exact absurd (Zone.date_unique hlast (e := ⟨19813⟩) (by decide)) (by decide)

end Seedkeeper.Traffic
