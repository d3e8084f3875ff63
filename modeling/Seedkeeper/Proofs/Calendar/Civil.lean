import Seedkeeper.Calendar.Date

/-!
Year, month and day of a date.

A day number is cut into years, and a year into months, without a gap or an overlap: the days before
the year, those before the month and the day of the month add up to the day number again
(`Date.ofCivil_civil`), and later dates have later years, later months of one year or later days of
one month (`Date.civil_lt`).
-/

namespace Seedkeeper.Calendar

/-! ### Years -/

/-- Days of a year. -/
def yearLength (year : Int) : Nat := 365 + (isLeap year).toNat

theorem toNat_isLeap (year : Int) : (isLeap year).toNat
    = if year % 4 = 0 ∧ (year % 100 ≠ 0 ∨ year % 400 = 0) then 1 else 0 := by
  simp only [isLeap]
  by_cases h4 : year % 4 = 0 <;> by_cases h100 : year % 100 = 0 <;>
    by_cases h400 : year % 400 = 0 <;> simp [h4, h100, h400]

theorem daysBeforeYear_succ (year : Int) :
    daysBeforeYear (year + 1) = daysBeforeYear year + yearLength year := by
  simp only [daysBeforeYear, yearLength, toNat_isLeap]
  split <;> omega

theorem daysBeforeYear_mono {y w : Int} (h : y ≤ w) : daysBeforeYear y ≤ daysBeforeYear w := by
  simp only [daysBeforeYear]
  omega

/-- A year is over before a later one begins. -/
theorem daysBeforeYear_add_yearLength_le {y w : Int} (h : y < w) :
    daysBeforeYear y + yearLength y ≤ daysBeforeYear w := by
  rw [← daysBeforeYear_succ]
  exact daysBeforeYear_mono h

/-- Where a year stands in its cycle: after how many centuries, four-year groups of its century and
    years of its group. -/
structure Place (year cycle century four one : Int) : Prop where
  year_eq : year = 400 * cycle + 100 * century + 4 * four + one + 1
  century : 0 ≤ century ∧ century ≤ 3
  four : 0 ≤ four ∧ four ≤ 24
  one : 0 ≤ one ∧ one ≤ 3

variable {year cycle century four one : Int}

theorem Place.daysBeforeYear_eq (h : Place year cycle century four one) :
    daysBeforeYear year = 146097 * cycle + 36524 * century + 1461 * four + 365 * one := by
  obtain ⟨rfl, hc, hf, ho⟩ := h
  have h4 : (400 * cycle + 100 * century + 4 * four + one) / 4
      = 100 * cycle + 25 * century + four := by omega
  have h100 : (400 * cycle + 100 * century + 4 * four + one) / 100 = 4 * cycle + century := by omega
  have h400 : (400 * cycle + 100 * century + 4 * four + one) / 400 = cycle := by omega
  simp only [daysBeforeYear, Int.add_sub_cancel, h4, h100, h400]
  omega

/-- The last year of a group is a leap year, unless the group is the last one of a century other than
    the last of its cycle. -/
theorem Place.toNat_isLeap_eq (h : Place year cycle century four one) :
    (isLeap year).toNat = if one = 3 ∧ (four ≠ 24 ∨ century = 3) then 1 else 0 := by
  obtain ⟨rfl, hc, hf, ho⟩ := h
  have hiff : ((400 * cycle + 100 * century + 4 * four + one + 1) % 4 = 0 ∧
      ((400 * cycle + 100 * century + 4 * four + one + 1) % 100 ≠ 0 ∨
        (400 * cycle + 100 * century + 4 * four + one + 1) % 400 = 0)) ↔
      one = 3 ∧ (four ≠ 24 ∨ century = 3) := by omega
  simp only [toNat_isLeap, hiff]

/-- A day number is that of a day of its year. -/
theorem yearAndDay_spec (n : Int) :
    n = firstOfYearOne + daysBeforeYear (yearAndDay n).1 + (yearAndDay n).2 ∧
      (yearAndDay n).2 < yearLength (yearAndDay n).1 := by
  simp only [yearAndDay]
  generalize hk : n - firstOfYearOne = k
  generalize hcentury : min (k % 146097 / 36524) 3 = century
  generalize hinCentury : k % 146097 - 36524 * century = inCentury
  generalize hone : min (inCentury % 1461 / 365) 3 = one
  have hplace : Place (400 * (k / 146097) + 100 * century + 4 * (inCentury / 1461) + one + 1)
      (k / 146097) century (inCentury / 1461) one := ⟨rfl, by omega, by omega, by omega⟩
  rw [hplace.daysBeforeYear_eq, yearLength, hplace.toNat_isLeap_eq]
  split <;> omega

/-! ### Months -/

/-- A day of the year lies in its month. -/
theorem monthOf_spec {leap : Bool} {day : Nat} (h : day < 365 + leap.toNat) :
    1 ≤ monthOf leap day ∧ monthOf leap day ≤ 12 ∧
      daysBeforeMonth leap (monthOf leap day) ≤ day ∧
      day < daysBeforeMonth leap (monthOf leap day + 1) := by
  have hall : ∀ leap : Bool, ∀ day < 365 + leap.toNat,
      1 ≤ monthOf leap day ∧ monthOf leap day ≤ 12 ∧
        daysBeforeMonth leap (monthOf leap day) ≤ day ∧
        day < daysBeforeMonth leap (monthOf leap day + 1) := by decide +kernel
  exact hall leap day h

/-- No month is longer than 31 days. -/
theorem daysBeforeMonth_succ_le (leap : Bool) {m : Nat} (h : m < 13) :
    daysBeforeMonth leap (m + 1) ≤ daysBeforeMonth leap m + 31 := by
  have hall : ∀ leap : Bool, ∀ m < 13,
      daysBeforeMonth leap (m + 1) ≤ daysBeforeMonth leap m + 31 := by decide
  exact hall leap m h

theorem daysBeforeMonth_mono (leap : Bool) {m n : Nat} (h : m ≤ n) (hn : n < 14) :
    daysBeforeMonth leap m ≤ daysBeforeMonth leap n := by
  have hall : ∀ leap : Bool, ∀ n < 14, ∀ m ≤ n,
      daysBeforeMonth leap m ≤ daysBeforeMonth leap n := by decide
  exact hall leap n hn m h

/-! ### Dates -/

namespace Date

variable {d e : Date}

/-- The civil reading of a date: a month of the year, a day of the month, and the days before them. -/
theorem civil_spec (d : Date) :
    1 ≤ d.civil.month ∧ d.civil.month ≤ 12 ∧ 1 ≤ d.civil.day ∧ d.civil.day ≤ 31 ∧
      d.dayNumber = firstOfYearOne + daysBeforeYear d.civil.year
        + daysBeforeMonth (isLeap d.civil.year) d.civil.month + d.civil.day - 1 ∧
      daysBeforeMonth (isLeap d.civil.year) d.civil.month + d.civil.day
        ≤ daysBeforeMonth (isLeap d.civil.year) (d.civil.month + 1) ∧
      daysBeforeMonth (isLeap d.civil.year) d.civil.month + d.civil.day
        ≤ yearLength d.civil.year := by
  obtain ⟨hday, hlt⟩ := yearAndDay_spec d.dayNumber
  obtain ⟨hlow, hhigh, hbefore, hafter⟩ := monthOf_spec hlt
  have hlong := daysBeforeMonth_succ_le (isLeap (yearAndDay d.dayNumber).1)
    (m := monthOf (isLeap (yearAndDay d.dayNumber).1) (yearAndDay d.dayNumber).2) (by omega)
  simp only [civil]
  omega

/-- The date of a date's year, month and day is that date. -/
theorem ofCivil_civil (d : Date) : ofCivil d.civil = d := by
  obtain ⟨_, _, _, _, hday, _⟩ := d.civil_spec
  simp only [ofCivil, ← hday]

/-- Later dates have no earlier years. -/
theorem year_mono (h : d.dayNumber ≤ e.dayNumber) : d.civil.year ≤ e.civil.year := by
  obtain ⟨_, _, _, _, hd, _, _⟩ := d.civil_spec
  obtain ⟨_, _, _, _, he, _, hlen⟩ := e.civil_spec
  by_cases hy : d.civil.year ≤ e.civil.year
  · exact hy
  · have := daysBeforeYear_add_yearLength_le (show e.civil.year < d.civil.year by omega)
    omega

/-- Later dates have later years, later months of one year or later days of one month. -/
theorem civil_lt (h : d.dayNumber < e.dayNumber) :
    d.civil.year < e.civil.year ∨ d.civil.year = e.civil.year ∧
      (d.civil.month < e.civil.month ∨ d.civil.month = e.civil.month ∧
        d.civil.day < e.civil.day) := by
  obtain ⟨_, _, _, _, hd, _, _⟩ := d.civil_spec
  obtain ⟨_, _, _, _, he, hmonth, _⟩ := e.civil_spec
  rcases Int.lt_or_eq_of_le (year_mono (Int.le_of_lt h)) with hy | hy
  · exact .inl hy
  · refine .inr ⟨hy, ?_⟩
    rw [← hy] at he hmonth
    rcases Nat.lt_trichotomy d.civil.month e.civil.month with hm | hm | hm
    · exact .inl hm
    · rw [← hm] at he
      exact .inr ⟨hm, by omega⟩
    · have := daysBeforeMonth_mono (isLeap d.civil.year)
        (show e.civil.month + 1 ≤ d.civil.month by omega) (by omega)
      omega

end Date

end Seedkeeper.Calendar
