import Mathlib.Algebra.Order.Ring.Int
import Mathlib.Algebra.Order.Ring.Nat
import Seedkeeper.Proofs.Calendar.DayStart
import Seedkeeper.Traffic.Split

/-!
The stretches of a walk over days.

A walk cuts the time between two moments into stretches, one for each date. `Stretches` says what
the cuts are without saying how traffic is shared among them: each stretch lies on the date shown
where it starts, and ends where that date is over or the walk is. A walk that starts on a date of
the calendar always has such stretches, since the moment a date begins shows that date. From the
stretches come the days (consecutive dates), their number (no more than the time allows, up to the
offsets) and the totals (the shares telescope).
-/

namespace Seedkeeper.Traffic

open Calendar (Date Zone LocalDate readable daySeconds)

/-- A part of a walk that lies on one date. -/
structure Stretch where
  day : Date
  start : Int
  stop : Int

/-- The stretches of the walk from a time to `stop`. -/
inductive Stretches (z : Zone) (stop : Int) : Int → List Stretch → Prop
  | done : Stretches z stop stop []
  | day {start : Int} {d : Date} {ss : List Stretch} (lt : start < stop)
      (on : z.localDate start = .on d) (rest : Stretches z stop (dayEnd z d start stop) ss) :
      Stretches z stop start (⟨d, start, dayEnd z d start stop⟩ :: ss)

/-- The part of `total` that flows during a stretch of the time from `first` to `stop`. -/
def Stretch.share (first stop : Int) (total : Nat) (s : Stretch) : Nat :=
  flowed total (s.stop - first) (stop - first) - flowed total (s.start - first) (stop - first)

/-- The traffic of a stretch. -/
def Stretch.traffic (first stop : Int) (downloaded uploaded : Nat) (s : Stretch) : DayShare :=
  ⟨s.day, s.share first stop downloaded, s.share first stop uploaded⟩

/-! ### Where a day ends -/

theorem dayEnd_le (z : Zone) (d : Date) (start stop : Int) : dayEnd z d start stop ≤ stop := by
  unfold dayEnd
  split
  · split
    · split <;> omega
    · exact Int.le_refl _
  · exact Int.le_refl _

/-- A day that ends before the walk does is followed by the next date. -/
theorem localDate_dayEnd {z : Zone} {d : Date} {start stop : Int}
    (h : dayEnd z d start stop < stop) : z.localDate (dayEnd z d start stop) = .on d.next := by
  unfold dayEnd at h ⊢
  split
  · rename_i hd
    rw [if_pos hd] at h
    split
    · rename_i next hn
      rw [hn] at h
      simp only at h
      split
      · rename_i hlt
        rw [if_pos hlt] at h
        rw [Int.min_eq_left (by omega)]
        exact Zone.localDate_of_dayStart? hd hn
      · rename_i hlt
        rw [if_neg hlt] at h
        omega
    · rename_i hn
      rw [hn] at h
      exact absurd h (Int.lt_irrefl _)
  · rename_i hd
    rw [if_neg hd] at h
    exact absurd h (Int.lt_irrefl _)

/-! ### A walk and its stretches -/

theorem Stretches.eq_nil {z : Zone} {stop start : Int} {ss : List Stretch}
    (h : Stretches z stop start ss) (hle : stop ≤ start) : ss = [] := by
  cases h with
  | done => rfl
  | day lt _ _ => omega

theorem Stretches.ne_nil {z : Zone} {stop start : Int} {ss : List Stretch}
    (h : Stretches z stop start ss) (hlt : start < stop) : ss ≠ [] := by
  rintro rfl
  cases h
  omega

/-- A walk that starts on a date never leaves the calendar. -/
theorem exists_stretches (z : Zone) {stop : Int} : ∀ {start : Int} {d : Date}, start ≤ stop →
    z.localDate start = .on d → ∃ ss, Stretches z stop start ss := by
  intro start d hle hd
  rcases Int.lt_or_eq_of_le hle with hlt | rfl
  · have hend := lt_dayEnd z d hlt
    rcases Int.lt_or_eq_of_le (dayEnd_le z d start stop) with hin | hout
    · obtain ⟨ss, hss⟩ := exists_stretches z (dayEnd_le z d start stop) (localDate_dayEnd hin)
      exact ⟨_, .day hlt hd hss⟩
    · exact ⟨_, .day hlt hd (by rw [hout]; exact .done)⟩
  · exact ⟨[], .done⟩
termination_by start => (stop - start).toNat
decreasing_by omega

/-- A walk lists the traffic of its stretches. -/
theorem walk_eq_days {z : Zone} {first stop start : Int} {downloaded uploaded : Nat}
    {ss : List Stretch} (h : Stretches z stop start ss) :
    walk z first stop downloaded uploaded start
      = .days (ss.map (Stretch.traffic first stop downloaded uploaded)) := by
  induction h with
  | done => rw [walk, dif_neg (Int.lt_irrefl _)]; rfl
  | day lt on _ ih => rw [walk, dif_pos lt, on]; simp only; rw [ih]; rfl

/-! ### The dates -/

/-- The dates of a walk are consecutive, from the one its start lies on. -/
theorem Stretches.days_eq {z : Zone} {stop start : Int} {ss : List Stretch}
    (h : Stretches z stop start ss) : ∀ {d : Date}, z.localDate start = .on d →
    ss.map (·.day.dayNumber) = (List.range ss.length).map (fun i : Nat => d.dayNumber + i) := by
  induction h with
  | done => intro _ _; rfl
  | @day start e ss lt on rest ih =>
    intro d hd
    obtain rfl : e = d := LocalDate.on.inj (on.symm.trans hd)
    rw [List.map_cons, List.length_cons, List.range_succ_eq_map, List.map_cons, List.map_map]
    refine List.cons_eq_cons.2 ⟨by simp, ?_⟩
    rcases Int.lt_or_eq_of_le (dayEnd_le z e start stop) with hin | hout
    · rw [ih (localDate_dayEnd hin)]
      refine List.map_congr_left fun i _ => ?_
      simp only [Date.next, Function.comp_apply, Int.natCast_succ]
      omega
    · rw [rest.eq_nil (Int.le_of_eq hout.symm)]; rfl

/-- No date comes twice. -/
theorem Stretches.days_nodup {z : Zone} {stop start : Int} {ss : List Stretch} {d : Date}
    (h : Stretches z stop start ss) (hd : z.localDate start = .on d) :
    (ss.map (·.day)).Nodup := by
  have hnumbers : (ss.map (·.day.dayNumber)).Nodup := by
    rw [h.days_eq hd, List.Nodup, List.pairwise_map]
    exact List.nodup_range.imp fun hne => by omega
  rw [List.Nodup, List.pairwise_map] at hnumbers ⊢
  exact hnumbers.imp fun hne he => hne (congrArg Date.dayNumber he)

/-- Each stretch starts inside the walk, on its date. -/
theorem Stretches.start_lt {z : Zone} {stop start : Int} {ss : List Stretch}
    (h : Stretches z stop start ss) :
    ∀ s ∈ ss, start ≤ s.start ∧ s.start < stop ∧ z.localDate s.start = .on s.day := by
  induction h with
  | done => intro s hs; cases hs
  | @day start d ss lt on rest ih =>
    intro s hs
    rcases List.mem_cons.1 hs with rfl | hs
    · exact ⟨Int.le_refl _, lt, on⟩
    · obtain ⟨hle, hlt, hon⟩ := ih s hs
      have := lt_dayEnd z d lt
      exact ⟨by omega, hlt, hon⟩

/-- The last date of a walk is as many days after the first one as there are dates before it. -/
theorem Stretches.dayNumber_last {z : Zone} {stop start : Int} {init : List Stretch} {last : Stretch}
    {d : Date} (h : Stretches z stop start (init ++ [last])) (hd : z.localDate start = .on d) :
    last.day.dayNumber = d.dayNumber + init.length := by
  have hdays := congrArg (·[init.length]?) (h.days_eq hd)
  simpa using hdays

/-- With offsets shorter than a day, a walk has at most four dates more than whole days. -/
theorem Stretches.length_le {z : Zone} (hz : z.WithinDay) {stop start : Int} {ss : List Stretch}
    {d : Date} (h : Stretches z stop start ss) (hd : z.localDate start = .on d) :
    (ss.length : Int) ≤ (stop - start) / daySeconds + 4 := by
  rcases List.eq_nil_or_concat ss with rfl | ⟨init, last, rfl⟩
  · cases h
    simp [daySeconds]
  · -- the last date is `init.length` days after the first and starts before the walk ends
    rw [List.concat_eq_append] at h ⊢
    have hlast := h.dayNumber_last hd
    obtain ⟨_, hlt, hon⟩ := h.start_lt last (by simp)
    obtain ⟨_, hlow, _⟩ := Zone.localTime_of_localDate hon
    obtain ⟨_, _, hhigh⟩ := Zone.localTime_of_localDate hd
    have hb := hz.localTime_bounds last.start
    have hb' := hz.localTime_bounds start
    rw [List.length_append, List.length_singleton]
    rw [hlast] at hlow
    simp only [daySeconds] at *
    omega

/-! ### The totals -/

theorem flowed_zero (total : Nat) (elapsed : Int) : flowed total 0 elapsed = 0 := by
  simp [flowed]

theorem flowed_self (total : Nat) {elapsed : Int} (h : 0 < elapsed) :
    flowed total elapsed elapsed = total := by
  rw [flowed, Int.mul_ediv_cancel _ (by omega), Int.toNat_natCast]

theorem flowed_mono (total : Nat) {p q elapsed : Int} (h : 0 < elapsed) (hpq : p ≤ q) :
    flowed total p elapsed ≤ flowed total q elapsed :=
  Int.toNat_le_toNat (Int.ediv_le_ediv h (Int.mul_le_mul_of_nonneg_left hpq (by omega)))

/-- The shares of a walk's stretches add up to what had not flowed before its start. -/
theorem Stretches.sum_share {z : Zone} {first stop start : Int} {ss : List Stretch} (total : Nat)
    (hlt : first < stop) (h : Stretches z stop start ss) :
    (ss.map (Stretch.share first stop total)).sum
      = total - flowed total (start - first) (stop - first) := by
  induction h with
  | done => rw [flowed_self total (by omega)]; simp
  | @day start d ss lt on rest ih =>
    have hstart := lt_dayEnd z d lt
    have hstop := dayEnd_le z d start stop
    have h₁ : flowed total (start - first) (stop - first)
        ≤ flowed total (dayEnd z d start stop - first) (stop - first) :=
      flowed_mono total (by omega) (by omega)
    have h₂ : flowed total (dayEnd z d start stop - first) (stop - first)
        ≤ flowed total (stop - first) (stop - first) :=
      flowed_mono total (by omega) (by omega)
    rw [flowed_self total (by omega)] at h₂
    rw [List.map_cons, List.sum_cons, ih, Stretch.share]
    simp only
    omega

/-- The shares of a whole walk add up to the total. -/
theorem Stretches.sum_share_first {z : Zone} {first stop : Int} {ss : List Stretch} (total : Nat)
    (hlt : first < stop) (h : Stretches z stop first ss) :
    (ss.map (Stretch.share first stop total)).sum = total := by
  rw [h.sum_share total hlt, Int.sub_self, flowed_zero, Nat.sub_zero]

end Seedkeeper.Traffic
