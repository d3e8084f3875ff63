/-!
Clocks that are read now and then.

A clock may stand still or go back between two readings; nothing is said of the time in between.
-/

namespace Seedkeeper.Calendar

/-- A clock: what it shows, in seconds since the epoch, from one reading to the next. -/
structure Clock where
  shows : Nat → Int64

namespace Clock

/-- What the next reading shows. -/
def now (c : Clock) : Int64 := c.shows 0

/-- A clock after some readings. -/
def after (c : Clock) (readings : Nat) : Clock := ⟨fun n => c.shows (n + readings)⟩

/-- A clock that always shows one time. -/
def still (time : Int64) : Clock := ⟨fun _ => time⟩

instance : Coe Int64 Clock := ⟨still⟩

end Clock

end Seedkeeper.Calendar
