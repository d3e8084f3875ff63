import Seedkeeper.Traffic.Counter
import Seedkeeper.Traffic.Split

/-!
The ledger: traffic by client, day and site, built from events.

Rows are kept in ascending order of client, written day and site, one row for each bucket that an
event touched. A closing event counts once: the ledger remembers client, info hash and time added
of every event it took in, and passes over a second one with the same three.
-/

namespace Seedkeeper.Traffic

open Calendar (Zone)

/-- What a row is about. Days compare as they are written. -/
structure Bucket where
  client : String
  day : String
  site : String
  deriving DecidableEq

/-- Ascending order by client, then day, then site. -/
def Bucket.before (a b : Bucket) : Bool :=
  a.client < b.client || (a.client == b.client &&
    (a.day < b.day || (a.day == b.day && a.site < b.site)))

/-- One row of the ledger. -/
structure Row where
  bucket : Bucket
  downloaded : Counter
  uploaded : Counter
  deriving DecidableEq

/-- A row with more traffic. -/
def Row.add (r : Row) (downloaded uploaded : Nat) : Row :=
  { r with
    downloaded := r.downloaded.addAmount downloaded
    uploaded := r.uploaded.addAmount uploaded }

/-- Traffic booked into ordered rows: onto its bucket's row, or as a new row in its place. -/
def book (b : Bucket) (downloaded uploaded : Nat) : List Row → List Row
  | [] => [⟨b, .start downloaded, .start uploaded⟩]
  | r :: rs =>
    if r.bucket = b then r.add downloaded uploaded :: rs
    else if b.before r.bucket then ⟨b, .start downloaded, .start uploaded⟩ :: r :: rs
    else r :: book b downloaded uploaded rs

/-- What makes two closing events the same one. -/
structure Closing where
  client : String
  infoHash : String
  addedAt : Int64
  deriving DecidableEq

/-- The ledger. -/
structure Ledger where
  rows : List Row
  /-- The closing events taken in so far, last first. -/
  closings : List Closing

namespace Ledger

/-- The ledger of no events. -/
def empty : Ledger := ⟨[], []⟩

/-- What became of an event. -/
inductive Taken where
  /-- It is not a closing event after a positive time, or was taken in before. -/
  | passedOver
  | counted
  /-- One of its days has no date in the zone. -/
  | outsideCalendar
  deriving DecidableEq

/-- The closing that an event is, if it can count at all. -/
def closing? (e : Event) : Option Closing :=
  match e.elapsed? with
  | some n =>
    if e.isClose ∧ 0 < n then
      some ⟨e.snapshot.client, e.snapshot.infoHash, e.snapshot.addedAt⟩
    else none
  | none => none

/-- Some days of a client's traffic with a site, booked. -/
def bookDays (client site : String) (rows : List Row) (days : List DayShare) : List Row :=
  days.foldl (fun rows d => book ⟨client, d.day.text, site⟩ d.downloaded d.uploaded rows) rows

/-- One event taken in. It is remembered before its days are known, so an event that turns out to
    have none still stands in the way of a later one of the same closing. -/
def take (z : Zone) (l : Ledger) (e : Event) : Taken × Ledger :=
  match closing? e with
  | none => (.passedOver, l)
  | some c =>
    if c ∈ l.closings then (.passedOver, l)
    else
      let l := { l with closings := c :: l.closings }
      let s := e.snapshot
      match splitByDay? z s.addedAt e.time s.downloaded s.uploaded with
      | none => (.outsideCalendar, l)
      | some days => (.counted, { l with rows := bookDays s.client s.site l.rows days })

/-! ### Showing -/

/-- Why the ledger cannot be shown. -/
inductive Error where
  /-- A column holds a rounded number. -/
  | rounded (index : Nat) (column : String)
  /-- A sum left the signed range. -/
  | overflow
  deriving DecidableEq

/-- The wording of an error. -/
def Error.message : Error → String
  | .rounded index column =>
    "Database error: Invalid column type Real at index: " ++ toString index ++ ", name: " ++ column
  | .overflow => "Database error: integer overflow"

/-- A row as it is shown. -/
structure ShownRow where
  bucket : Bucket
  downloaded : UInt64
  uploaded : UInt64
  deriving DecidableEq

/-- A row with its counters readable. -/
def Row.show (r : Row) : Except Error ShownRow :=
  match r.downloaded.shown?, r.uploaded.shown? with
  | none, _ => .error (.rounded 3 "downloaded")
  | some _, none => .error (.rounded 4 "uploaded")
  | some d, some u => .ok ⟨r.bucket, d, u⟩

/-- Every row, in order. -/
def shownRows (l : Ledger) : Except Error (List ShownRow) :=
  l.rows.mapM Row.show

end Ledger

end Seedkeeper.Traffic
