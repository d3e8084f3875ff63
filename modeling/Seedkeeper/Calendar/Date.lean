/-!
Calendar dates.

A date is its day number: days from 1970-01-01 in the proleptic Gregorian calendar. Year, month and
day are a reading of that number. The four-hundred-year cycle of 146097 days is cut into centuries,
four-year groups and years, each last one being the longer; the last day of a cycle belongs to its
last year, which is what the two `min`s say.

The calendar runs from -262143-01-01 to +262142-12-31. Written dates have a year of four digits in
0…9999; any other year is written with its sign and at least four digits.
-/

namespace Seedkeeper.Calendar

/-- A calendar date, by its distance in days from 1970-01-01. -/
structure Date where
  dayNumber : Int
  deriving DecidableEq

/-- Year, month and day of the month. -/
structure Civil where
  year : Int
  month : Nat
  day : Nat
  deriving DecidableEq

/-- Leap years of the Gregorian calendar. -/
def isLeap (year : Int) : Bool :=
  year % 4 = 0 && (year % 100 ≠ 0 || year % 400 = 0)

/-- Days of the year before the first of a month. -/
def daysBeforeMonth (leap : Bool) : Nat → Nat
  | 0 | 1 => 0
  | 2 => 31
  | m => [59, 90, 120, 151, 181, 212, 243, 273, 304, 334].getD (m - 3) 365 + leap.toNat

/-- Days before the first of January of a year, from that of year 1. -/
def daysBeforeYear (year : Int) : Int :=
  let y := year - 1
  365 * y + y / 4 - y / 100 + y / 400

/-- The day number of 0001-01-01. -/
def firstOfYearOne : Int := -719162

/-- The date of a year, month and day. -/
def Date.ofCivil (c : Civil) : Date :=
  ⟨firstOfYearOne + daysBeforeYear c.year + daysBeforeMonth (isLeap c.year) c.month + c.day - 1⟩

/-- The month of a day of the year, counted from 0. -/
def monthOf (leap : Bool) (dayOfYear : Nat) : Nat :=
  ((List.range 12).filter fun i => daysBeforeMonth leap (i + 1) ≤ dayOfYear).length

/-- Year and day of the year of a day number. -/
def yearAndDay (dayNumber : Int) : Int × Nat :=
  let n := dayNumber - firstOfYearOne
  let cycle := n / 146097
  let inCycle := n % 146097
  let century := min (inCycle / 36524) 3
  let inCentury := inCycle - 36524 * century
  let four := inCentury / 1461
  let inFour := inCentury % 1461
  let one := min (inFour / 365) 3
  (400 * cycle + 100 * century + 4 * four + one + 1, (inFour - 365 * one).toNat)

/-- Year, month and day of a date. -/
def Date.civil (d : Date) : Civil :=
  let (year, dayOfYear) := yearAndDay d.dayNumber
  let leap := isLeap year
  let month := monthOf leap dayOfYear
  ⟨year, month, dayOfYear - daysBeforeMonth leap month + 1⟩

/-- The first date of the calendar, -262143-01-01. -/
def Date.first : Date := ⟨-96465292⟩

/-- The last date of the calendar, +262142-12-31. -/
def Date.last : Date := ⟨95026236⟩

/-- Dates the calendar has. -/
def Date.inCalendar (d : Date) : Bool :=
  Date.first.dayNumber ≤ d.dayNumber && d.dayNumber ≤ Date.last.dayNumber

/-- The day after. -/
def Date.next (d : Date) : Date := ⟨d.dayNumber + 1⟩

/-- So many days back, stopping at the first date. -/
def Date.back (d : Date) (days : Nat) : Date :=
  let b : Date := ⟨d.dayNumber - days⟩
  if b.inCalendar then b else .first

/-- Decimal digits, zeros in front up to a width. -/
def padded (width n : Nat) : List Char :=
  let ds := (toString n).toList
  List.replicate (width - ds.length) '0' ++ ds

/-- The year as dates are written. -/
def yearText (year : Int) : List Char :=
  if 0 ≤ year ∧ year ≤ 9999 then padded 4 year.toNat
  else (if year < 0 then '-' else '+') :: padded 4 year.natAbs

/-- A written date, `YYYY-MM-DD`. -/
def Date.text (d : Date) : String :=
  let c := d.civil
  String.ofList (yearText c.year ++ '-' :: padded 2 c.month ++ '-' :: padded 2 c.day)

example : (Date.ofCivil ⟨1970, 1, 1⟩).dayNumber = 0 := by decide
example : Date.ofCivil ⟨-262143, 1, 1⟩ = .first := by decide
example : Date.ofCivil ⟨262142, 12, 31⟩ = .last := by decide
example : (Date.mk 19782).civil = ⟨2024, 2, 29⟩ := by decide

end Seedkeeper.Calendar
