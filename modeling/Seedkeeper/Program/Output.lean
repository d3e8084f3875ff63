import Seedkeeper.Batch
import Seedkeeper.CommandLine.Command
import Seedkeeper.Config.Shown
import Seedkeeper.CrossSeed.Verdict
import Seedkeeper.Number.ByteCount
import Seedkeeper.Torrent.Json
import Seedkeeper.Traffic.Report

/-!
What the program prints, as tables for people and as JSON.

Columns are padded by characters. JSON is indented by two spaces; objects made only for output have
their keys in ascending order.
-/

namespace Seedkeeper.Program

open CommandLine (Format)

/-- A line of output. -/
def lineOf (s : String) : String := s ++ "\n"

/-- A document as it is printed. -/
def printed (v : Json) : String := lineOf (Text.ofUtf8Lossy (v.indented 0))

/-! ### Torrents -/

/-- A line of the torrent table. -/
def torrentLine (hash state size uploaded category name : String) : String :=
  lineOf <| Text.joinWith " " [Text.padRight 40 hash, Text.padRight 11 state, Text.padLeft 11 size,
    Text.padLeft 11 uploaded, Text.padRight 12 category, name]

/-- A torrent in the table. -/
def torrentRow (t : Torrent) : String :=
  torrentLine t.infoHash t.state.name (Number.byteCount t.size.toNat)
    (Number.byteCount t.uploaded.toNat) t.category t.name

/-- Torrents. -/
def torrentsText (ts : List Torrent) : Format → String
  | .json => printed (.array (ts.map (·.toJson)))
  | .table =>
    torrentLine "HASH" "STATE" "SIZE" "UPLOADED" "CATEGORY" "NAME" ++
      String.join (ts.map torrentRow)

/-! ### Selections, batches and verdicts -/

/-- A selection: the word for everything, or the info hashes one a line. -/
def selectionText (s : Selection) : Format → String
  | .json => printed (match s with
    | .all => .null
    | .hashes hs => .array (hs.map .ofText))
  | .table => match s with
    | .all => lineOf Selection.allWord
    | .hashes hs => String.join (hs.map lineOf)

/-- What became of a batch. -/
def batchText (action : Client.Action) (r : Batch.Report) : Format → String
  | .json => printed (.object [
      (Json.key "action", .ofText action.name),
      (Json.key "failed", .ofNat r.failed),
      (Json.key "total", .ofNat r.total)])
  | .table => lineOf (action.name ++ ": " ++ r.text)

/-- A verdict in words. -/
def verdictLabel : CrossSeed.Verdict → String
  | .noMatch => "no match"
  | .rootDiffers => "same files, different root folder"
  | .exact => "exact match"
  | .superset => "client has a superset (unverified)"

/-- A verdict. -/
def verdictText (v : CrossSeed.Verdict) : Format → String
  | .json => printed (.object [
      (Json.key "description", .ofText (verdictLabel v)),
      (Json.key "verdict", .ofInt v.code)])
  | .table => lineOf (toString v.code ++ " (" ++ verdictLabel v ++ ")")

/-! ### Traffic and configuration -/

/-- A line of the traffic table. -/
def trafficLine (group span downloaded uploaded : String) : String :=
  lineOf <| Text.joinWith " " [Text.padRight 24 group, Text.padRight 13 span,
    Text.padLeft 12 downloaded, Text.padLeft 12 uploaded]

/-- A report in the traffic table. -/
def trafficRow (r : Traffic.Report) : String :=
  trafficLine r.group r.span.name (Number.byteCount r.downloaded.toNat)
    (Number.byteCount r.uploaded.toNat)

/-- Traffic reports, by client or by site. -/
def trafficText (reports : List Traffic.Report) (bySite : Bool) : Format → String
  | .json => printed (.array (reports.map (·.toJson)))
  | .table =>
    trafficLine (if bySite then "SITE" else "CLIENT") "TIMESPAN" "DOWNLOADED" "UPLOADED" ++
      String.join (reports.map trafficRow)

/-- A configuration. -/
def configText (c : Config) : Format → String
  | .json => printed c.toJson
  | .table => c.tomlText

end Seedkeeper.Program
