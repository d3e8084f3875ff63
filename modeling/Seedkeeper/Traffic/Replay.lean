import Seedkeeper.Traffic.Ledger

/-!
Rebuilding the ledger from the bytes of a stats log.

The log is cut at newlines. Lines that hold no event, a torn last one included, are skipped.
-/

namespace Seedkeeper.Traffic

open Text (Bytes)
open Calendar (Zone)

/-- The events of a log, in order. -/
def eventsOf (log : Bytes) : List Event :=
  (Text.pieces 0x0A log).filterMap Event.ofLine?

/-- The ledger after some events; none once a date cannot be shown. -/
def takeAll? (z : Zone) (l : Ledger) : List Event → Option Ledger
  | [] => some l
  | e :: es =>
    match l.take z e with
    | (.outsideCalendar, _) => none
    | (_, l) => takeAll? z l es

/-- The ledger of a log; none if a date of it cannot be shown in the zone. -/
def replay? (z : Zone) (log : Bytes) : Option Ledger :=
  takeAll? z .empty (eventsOf log)

end Seedkeeper.Traffic
