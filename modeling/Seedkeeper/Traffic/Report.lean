import Seedkeeper.Traffic.Ledger

/-!
Traffic reports: sums of the ledger over fixed timespans, by client or by site of one client.

A timespan is a closed window of written days that ends today or yesterday. A group appears in a
timespan only if it has a row there; groups come in ascending order.
-/

namespace Seedkeeper.Traffic

open Calendar (Date)

/-- The reporting windows, in whole local days. -/
inductive Timespan where
  | allTime
  | last30Days
  | last7Days
  | yesterday
  | today
  deriving DecidableEq

namespace Timespan

/-- Every timespan, in the order of reports. -/
def all : List Timespan := [.allTime, .last30Days, .last7Days, .yesterday, .today]

/-- The name in tables. -/
def name : Timespan → String
  | .allTime => "all_time"
  | .last30Days => "last_30_days"
  | .last7Days => "last_7_days"
  | .yesterday => "yesterday"
  | .today => "today"

/-- The name in JSON. -/
def jsonName : Timespan → String
  | .allTime => "all_time"
  | .last30Days => "last30_days"
  | .last7Days => "last7_days"
  | .yesterday => "yesterday"
  | .today => "today"

/-- First and last day of the window; none for all time. -/
def window? (span : Timespan) (today : Date) : Option (Date × Date) :=
  match span with
  | .allTime => none
  | .last30Days => some (today.back 29, today)
  | .last7Days => some (today.back 6, today)
  | .yesterday => some (today.back 1, today.back 1)
  | .today => some (today, today)

/-- Whether a written day lies in the window, comparing texts. -/
def covers (span : Timespan) (today : Date) (day : String) : Bool :=
  match span.window? today with
  | none => true
  | some (first, last) => first.text ≤ day && day ≤ last.text

end Timespan

/-- Traffic of a group over a timespan. -/
structure Report where
  /-- A client or, in the report on one client, a site. -/
  group : String
  span : Timespan
  downloaded : UInt64
  uploaded : UInt64
  deriving DecidableEq

/-- A report as an object. -/
def Report.toJson (r : Report) : Json :=
  .object [
    (Json.key "group", .ofText r.group),
    (Json.key "timespan", .ofText r.span.jsonName),
    (Json.key "downloaded", .ofNat r.downloaded.toNat),
    (Json.key "uploaded", .ofNat r.uploaded.toNat)]

/-- A text put into an ascending list without repetitions. -/
def insertText (s : String) : List String → List String
  | [] => [s]
  | t :: ts => if s = t then t :: ts else if s < t then s :: t :: ts else t :: insertText s ts

/-- The different texts of a list, ascending. -/
def ascendingTexts (ss : List String) : List String :=
  ss.foldl (fun acc s => insertText s acc) []

/-- The report of the rows of one group. -/
def reportOf (group : String) (span : Timespan) (rows : List Row) : Except Ledger.Error Report :=
  match Sum.of (rows.map (·.downloaded)), Sum.of (rows.map (·.uploaded)) with
  | .overflow, _ => .error .overflow
  | _, .overflow => .error .overflow
  | .rounded, _ => .error (.rounded 1 "SUM(downloaded)")
  | .exact _, .rounded => .error (.rounded 2 "SUM(uploaded)")
  | .exact d, .exact u => .ok ⟨group, span, d.toUInt64, u.toUInt64⟩

/-- What a row is grouped by. -/
def groupOf (client : Option String) (r : Row) : String :=
  if client.isSome then r.bucket.site else r.bucket.client

/-- The rows that a report over a timespan looks at. -/
def rowsFor (client : Option String) (span : Timespan) (today : Date) (rows : List Row) :
    List Row :=
  rows.filter fun r =>
    (match client with
      | none => true
      | some c => r.bucket.client == c) && span.covers today r.bucket.day

/-- The reports over one timespan. -/
def reportsOver (client : Option String) (today : Date) (rows : List Row) (span : Timespan) :
    Except Ledger.Error (List Report) :=
  let rows := rowsFor client span today rows
  (ascendingTexts (rows.map (groupOf client))).mapM fun g =>
    reportOf g span (rows.filter (groupOf client · == g))

/-- All reports: by client, or by site of one client. -/
def Ledger.summarize (l : Ledger) (client : Option String) (today : Date) :
    Except Ledger.Error (List Report) :=
  (Timespan.all.mapM (reportsOver client today l.rows)).map List.flatten

end Seedkeeper.Traffic
