import Seedkeeper.Calendar.Zone
import Seedkeeper.Traffic.Event

/-!
Spreading a torrent's traffic over the days it was there.

Traffic flows evenly from the time the torrent was added to the event. The bytes up to a time are
the whole total's part rounded down, and a day gets the difference between its end and its start,
so the days always add up to the total. A day ends where the next local date begins; where that
cannot be found or lies behind, the day takes all that is left.
-/

namespace Seedkeeper.Traffic

open Calendar (Date Zone LocalDate)

/-- Traffic of one local date. -/
structure DayShare where
  day : Date
  downloaded : Nat
  uploaded : Nat
  deriving DecidableEq

/-- The longest time a torrent may claim to have been there: a hundred years of 366 days. -/
def maxSpan : Int := 100 * 366 * 86400

/-- The part of `total` that has flowed `passed` seconds into `elapsed`, rounded down. -/
def flowed (total : Nat) (passed elapsed : Int) : Nat := (total * passed / elapsed).toNat

/-- Where the part of a day that starts at `start` ends: at the beginning of the next date, if that
    is found after `start`, and never after `stop`. -/
def dayEnd (z : Zone) (day : Date) (start stop : Int) : Int :=
  if day.next.inCalendar then
    match z.dayStart? day.next with
    | some next => if start < next then min next stop else stop
    | none => stop
  else stop

theorem lt_dayEnd (z : Zone) (day : Date) {start stop : Int} (h : start < stop) :
    start < dayEnd z day start stop := by
  unfold dayEnd
  split
  · split
    · split <;> omega
    · exact h
  · exact h

/-- How a walk over days can end. -/
inductive Walk where
  | days (shares : List DayShare)
  /-- A time outside the calendar was reached. -/
  | unreadable
  /-- A time inside the calendar has no date in the zone. -/
  | outside
  deriving DecidableEq

/-- A day put in front of a walk. -/
def Walk.cons (d : DayShare) : Walk → Walk
  | .days ds => .days (d :: ds)
  | w => w

/-- The days from `start` on, of a torrent that was there from `first` to `stop`. -/
def walk (z : Zone) (first stop : Int) (downloaded uploaded : Nat) (start : Int) : Walk :=
  if h : start < stop then
    match z.localDate start with
    | .unreadable => .unreadable
    | .outside => .outside
    | .on day =>
      let next := dayEnd z day start stop
      have : start < next := lt_dayEnd z day h
      let share (total : Nat) : Nat :=
        flowed total (next - first) (stop - first) - flowed total (start - first) (stop - first)
      .cons ⟨day, share downloaded, share uploaded⟩ (walk z first stop downloaded uploaded next)
  else .days []
termination_by (stop - start).toNat
decreasing_by omega

/-- The days a torrent's traffic falls on; `none` where a date cannot be shown. There are none for a
    span that is not positive, is too long, or leaves the calendar. -/
def splitByDay? (z : Zone) (addedAt time : Int64) (downloaded uploaded : UInt64) :
    Option (List DayShare) :=
  match Event.span? addedAt time with
  | none => some []
  | some elapsed =>
    if 0 < elapsed ∧ elapsed ≤ maxSpan then
      match walk z addedAt.toInt time.toInt downloaded.toNat uploaded.toNat addedAt.toInt with
      | .days ds => some ds
      | .unreadable => some []
      | .outside => none
    else some []

end Seedkeeper.Traffic
