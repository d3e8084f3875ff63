import Seedkeeper.Client.Basic
import Seedkeeper.Json.Fields
import Seedkeeper.QBittorrent.Progress

/-!
What a qBittorrent server tells about torrents, files, tags and categories, read into the vocabulary
of clients.

Numbers that should not be negative count as zero when they are. Tags come as one text, separated by
commas; of tags that differ only in ASCII case the first one stays.
-/

namespace Seedkeeper.QBittorrent

open Client (Category ContentFile)

/-- The state that a server's word stands for. -/
def stateOfWord (word : String) : Torrent.State :=
  if word ∈ ["uploading", "forcedUP", "stalledUP", "queuedUP"] then .seeding
  else if word ∈ ["downloading", "forcedDL", "stalledDL", "metaDL", "forcedMetaDL", "queuedDL",
      "allocating"] then .downloading
  else if word ∈ ["pausedUP", "stoppedUP"] then .completed
  else if word ∈ ["pausedDL", "stoppedDL"] then .paused
  else if word ∈ ["checkingUP", "checkingDL", "checkingResumeData", "moving"] then .checking
  else if word ∈ ["error", "missingFiles"] then .error
  else .unknown

/-- A list of tags with one more, unless one of them is the same up to ASCII case. -/
def addTag (tags : List String) (tag : String) : List String :=
  if tags.any (Text.sameIgnoringAsciiCase · tag) then tags else tags ++ [tag]

/-- The tags in a text. -/
def splitTags (text : String) : List String :=
  ((Text.split ',' text).filterMap Text.nonBlank?).foldl addTag []

/-- A number of bytes. -/
def amount (n : Int) : UInt64 := UInt64.ofNat n.toNat

/-- A number of peers. -/
def peers (n : Int) : UInt32 := UInt32.ofNat n.toNat

/-- A torrent from a server's record of it. -/
def torrent? (v : Json) : Option Torrent := do
  let fs ← Json.fields? ["hash", "name", "state", "size", "total_size", "completed", "downloaded",
    "uploaded", "dlspeed", "upspeed", "num_seeds", "num_leechs", "added_on", "completion_on",
    "save_path", "category", "tags", "tracker"] v
  let hash ← Record.required Json.asText fs[0]?
  let name ← Record.required Json.asText fs[1]?
  let state ← Record.required Json.asText fs[2]?
  let size ← Record.optional 0 Json.asInt64 fs[3]?
  let sizeTotal ← Record.optional 0 Json.asInt64 fs[4]?
  let sizeCompleted ← Record.optional 0 Json.asInt64 fs[5]?
  let downloaded ← Record.optional 0 Json.asInt64 fs[6]?
  let uploaded ← Record.optional 0 Json.asInt64 fs[7]?
  let downloadSpeed ← Record.optional 0 Json.asInt64 fs[8]?
  let uploadSpeed ← Record.optional 0 Json.asInt64 fs[9]?
  let seeders ← Record.optional 0 Json.asInt64 fs[10]?
  let leechers ← Record.optional 0 Json.asInt64 fs[11]?
  let addedAt ← Record.optional 0 Json.asInt64 fs[12]?
  let completedAt ← Record.optional 0 Json.asInt64 fs[13]?
  let savePath ← Record.optional "" Json.asText fs[14]?
  let category ← Record.optional "" Json.asText fs[15]?
  let tags ← Record.optional "" Json.asText fs[16]?
  let tracker ← Record.optional "" Json.asText fs[17]?
  return {
    infoHash := Text.lowercase hash
    name
    state := stateOfWord state
    backendState := state
    category
    tags := splitTags tags
    savePath
    tracker
    size := amount size
    sizeTotal := amount sizeTotal
    sizeCompleted := amount sizeCompleted
    downloaded := amount downloaded
    uploaded := amount uploaded
    downloadSpeed := amount downloadSpeed
    uploadSpeed := amount uploadSpeed
    seeders := peers seeders
    leechers := peers leechers
    addedAt := .ofInt addedAt
    completedAt := .ofInt completedAt }

/-- The parts of a path, separated by slashes whichever way they lean. -/
def slashed (path : String) : String :=
  String.ofList (path.toList.map fun c => if c = '\\' then '/' else c)

/-- A file from a server's record of it; where it has no index its place in the list counts. -/
def contentFile? (place : Nat) (v : Json) : Option ContentFile := do
  let fs ← Json.fields? ["index", "name", "size", "progress"] v
  let index ← Record.optional none (Json.asOption Json.asNat64) fs[0]?
  let name ← Record.required Json.asText fs[1]?
  let size ← Record.required Json.asInt64 fs[2]?
  let complete ← Record.optional false complete? fs[3]?
  return ⟨index.getD place, slashed name, amount size, complete⟩

/-- The files in a list of records. -/
def contents? (v : Json) : Option (List ContentFile) := do
  let vs ← Json.asList some v
  vs.zipIdx.mapM fun (v, place) => contentFile? place v

/-- A category from a server's record of it. -/
def category? (v : Json) : Option Category := do
  let fs ← Json.fields? ["name", "savePath"] v
  let name ← Record.required Json.asText fs[0]?
  let savePath ← Record.optional "" Json.asText fs[1]?
  return ⟨name, savePath⟩

/-- A member put at the end, in place of an earlier one with its key. -/
def putLast (members : List (String × Category)) (key : String) (c : Category) :
    List (String × Category) :=
  members.filter (·.1 != key) ++ [(key, c)]

/-- The categories in an object of records, ascending by name; of a repeated key the last counts. -/
def categories? : Json → Option (List Category)
  | .object ms => do
    let cs ← ms.foldlM (fun cs (k, v) => do
      return putLast cs (← Json.text? k) (← category? v)) []
    return (cs.map (·.2)).mergeSort fun a b => a.name ≤ b.name
  | _ => none

/-- The info hash in a magnet link: its first `xt` parameter that is one. -/
def magnetHash? (uri : String) : Option String := do
  let (_, parameters) ← Text.splitOnce '?' uri
  let hash ← (Text.split '&' parameters).findSome? fun p =>
    Text.dropStart? "xt=urn:btih:".toList p.toList
  return Text.lowercase (String.ofList hash)

end Seedkeeper.QBittorrent
