import Seedkeeper.Torrent.Basic
import Seedkeeper.Json.Fields

/-!
What happened to a torrent, as one line of the stats log.

An event is a moment, a kind and a snapshot of the torrent's counters. Its line is the shortest JSON
text of it; lines are read under the rules of `Seedkeeper.Json.Fields`, so a line may spell the same
event in other ways, and only the time, the kind and the time the torrent was added must be there.
-/

namespace Seedkeeper.Traffic

open Text (Bytes)

/-- The torrent an event is about, at that moment. -/
structure Snapshot where
  client : String
  /-- Host of the tracker. -/
  site : String
  category : String
  infoHash : String
  name : String
  size : UInt64
  /-- Unix time the torrent was added. -/
  addedAt : Int64
  uploaded : UInt64
  downloaded : UInt64
  message : String
  deriving DecidableEq

/-- One entry of the stats log. -/
structure Event where
  /-- Unix time of the event. -/
  time : Int64
  kind : Int32
  snapshot : Snapshot
  deriving DecidableEq

namespace Event

/-- The kind of an event that says a torrent left the client; other kinds are reserved. -/
def closed : Int32 := 1

/-- The event of a torrent's counters as they stand. -/
def ofTorrent (client site : String) (t : Torrent) (time : Int64) (kind : Int32)
    (message : String) : Event :=
  ⟨time, kind,
    { client, site
      category := t.category
      infoHash := t.infoHash
      name := t.name
      size := t.size
      addedAt := t.addedAt
      uploaded := t.uploaded
      downloaded := t.downloaded
      message }⟩

/-- Whether a torrent left the client. -/
def isClose (e : Event) : Bool := e.kind == closed

/-- Seconds from `start` to `stop`, if 64 bits hold them. -/
def span? (start stop : Int64) : Option Int :=
  let n := stop.toInt - start.toInt
  if Number.fitsInt64 n then some n else none

/-- Seconds the torrent was there before the event, if 64 bits hold them. -/
def elapsed? (e : Event) : Option Int := span? e.snapshot.addedAt e.time

/-! ### Writing -/

/-- A snapshot as an object. -/
def snapshotJson (s : Snapshot) : Json :=
  .object [
    (Json.key "client", .ofText s.client),
    (Json.key "site", .ofText s.site),
    (Json.key "category", .ofText s.category),
    (Json.key "infoHash", .ofText s.infoHash),
    (Json.key "name", .ofText s.name),
    (Json.key "size", .ofNat s.size.toNat),
    (Json.key "atime", .ofInt s.addedAt.toInt),
    (Json.key "uploaded", .ofNat s.uploaded.toNat),
    (Json.key "downloaded", .ofNat s.downloaded.toNat),
    (Json.key "msg", .ofText s.message)]

/-- An event as an object. -/
def toJson (e : Event) : Json :=
  .object [
    (Json.key "ts", .ofInt e.time.toInt),
    (Json.key "event", .ofInt e.kind.toInt),
    (Json.key "data", snapshotJson e.snapshot)]

/-- The text of an event's line, without its newline. -/
def line (e : Event) : Bytes := e.toJson.compact

/-! ### Reading -/

/-- A snapshot from a document; only the time the torrent was added must be there. -/
def snapshot? (v : Json) : Option Snapshot := do
  let fs ← Json.fields? ["client", "site", "category", "infoHash", "name", "size", "atime",
    "uploaded", "downloaded", "msg"] v
  let client ← Record.optional "" Json.asText fs[0]?
  let site ← Record.optional "" Json.asText fs[1]?
  let category ← Record.optional "" Json.asText fs[2]?
  let infoHash ← Record.optional "" Json.asText fs[3]?
  let name ← Record.optional "" Json.asText fs[4]?
  let size ← Record.optional 0 Json.asNat64 fs[5]?
  let addedAt ← Record.required Json.asInt64 fs[6]?
  let uploaded ← Record.optional 0 Json.asNat64 fs[7]?
  let downloaded ← Record.optional 0 Json.asNat64 fs[8]?
  let message ← Record.optional "" Json.asText fs[9]?
  return { client, site, category, infoHash, name
           size := .ofNat size
           addedAt := .ofInt addedAt
           uploaded := .ofNat uploaded
           downloaded := .ofNat downloaded
           message }

/-- An event from a document. -/
def ofJson? (v : Json) : Option Event := do
  let fs ← Json.fields? ["ts", "event", "data"] v
  let time ← Record.required Json.asInt64 fs[0]?
  let kind ← Record.required Json.asInt32 fs[1]?
  let snapshot ← Record.required snapshot? fs[2]?
  return ⟨.ofInt time, .ofInt kind, snapshot⟩

/-- The event that a line holds. -/
def ofLine? (bs : Bytes) : Option Event := (Json.read? bs).bind ofJson?

end Event

end Seedkeeper.Traffic
