import Seedkeeper.Calendar.Date

/-!
Time zones.

A zone is an offset from UTC that holds at first and a list of changes, each from one unix time on.
A unix time has exactly one local time. A local time may stand for no unix time (it was skipped),
one, or several (it was repeated); where one is asked for, the earliest counts.

Unix times are readable only when their UTC date lies in the calendar. A readable time whose local
date lies outside has no answer at all: `LocalDate.outside` keeps it apart from a time that cannot
be read.
-/

namespace Seedkeeper.Calendar

/-- Seconds of a day. -/
def daySeconds : Int := 86400

/-- A time zone: the offset in seconds east of UTC before every change, and the changes, each a unix
    time and the offset from then on, in increasing time. -/
structure Zone where
  base : Int
  changes : List (Int × Int)
  deriving DecidableEq

/-- UTC. -/
def Zone.utc : Zone := ⟨0, []⟩

/-- A zone with one offset for all times. -/
def Zone.fixed (offset : Int) : Zone := ⟨offset, []⟩

/-- The offset at a unix time: that of the last change not after it. -/
def Zone.offsetAt (z : Zone) (t : Int) : Int :=
  z.changes.foldl (fun off (since, next) => if since ≤ t then next else off) z.base

/-- The local time of a unix time, in seconds. -/
def Zone.localTime (z : Zone) (t : Int) : Int := t + z.offsetAt t

/-- Unix times whose UTC date lies in the calendar. -/
def readable (t : Int) : Bool := Date.inCalendar ⟨t / daySeconds⟩

/-- The local date of a unix time. -/
inductive LocalDate where
  | on (date : Date)
  /-- The time is outside the calendar. -/
  | unreadable
  /-- The time is inside the calendar and its local date is not. -/
  | outside
  deriving DecidableEq

/-- The date a clock in the zone shows at a unix time. -/
def Zone.localDate (z : Zone) (t : Int) : LocalDate :=
  if readable t then
    let d : Date := ⟨z.localTime t / daySeconds⟩
    if d.inCalendar then .on d else .outside
  else .unreadable

/-- Every unix time with a given local time. -/
def Zone.unixTimes (z : Zone) (localSeconds : Int) : List Int :=
  ((z.base :: z.changes.map (·.2)).map (localSeconds - ·)).filter fun t =>
    z.localTime t = localSeconds

/-- The earliest readable unix time with a given local time. -/
def Zone.earliest? (z : Zone) (localSeconds : Int) : Option Int :=
  ((z.unixTimes localSeconds).filter readable).min?

/-- The unix time at which a date begins: its midnight or, where that is skipped, its 01:00. -/
def Zone.dayStart? (z : Zone) (d : Date) : Option Int :=
  let midnight := d.dayNumber * daySeconds
  (z.earliest? midnight).or (z.earliest? (midnight + 3600))

/-- With one offset a local time stands for exactly one unix time. -/
theorem Zone.unixTimes_fixed (offset l : Int) : (Zone.fixed offset).unixTimes l = [l - offset] := by
  simp [Zone.unixTimes, Zone.fixed, Zone.localTime, Zone.offsetAt]

end Seedkeeper.Calendar
