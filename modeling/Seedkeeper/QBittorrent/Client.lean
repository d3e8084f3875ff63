import Seedkeeper.Metainfo.Torrent
import Seedkeeper.QBittorrent.Records
import Seedkeeper.QBittorrent.Session

/-!
A client for qBittorrent servers: the operations of clients as requests to the server's interface.

Torrents are named to the server by info hashes in lower case, several of them joined by `|`. An
operation on no torrents asks nothing.
-/

namespace Seedkeeper.QBittorrent

open Client (Action AddOptions Backend Error Filters Run)
open Http (Part Request)
open Session (fetch post)

/-- An answer read as a document of some kind. -/
def parsed {α : Type} (read : Json → Option α) (text : String) : Run Session α :=
  match (Json.read? (Text.utf8 text)).bind read with
  | some a => return a
  | none => throw (.apiError "Failed to parse response")

/-- The torrents that the server lists at an endpoint. -/
def fetchTorrents (endpoint : String) : Run Session (List Torrent) := do
  parsed (Json.asList torrent?) (← fetch endpoint)

/-- Info hashes as the server takes them. -/
def joinHashes (infoHashes : List String) : String :=
  Text.joinWith "|" (infoHashes.map Text.lowercase)

/-- A form about some torrents. -/
def postHashes (endpoint : String) (infoHashes : List String) (fields : List (String × String)) :
    Run Session Unit :=
  if infoHashes.isEmpty then return ()
  else post endpoint (("hashes", joinHashes infoHashes) :: fields)

/-- The parameters of a listing. -/
def listingQuery (filters : Filters) : String :=
  let parameters :=
    (filters.state.map fun s => "filter=" ++ Url.encodeComponent s).toList ++
    (filters.category.map fun c => "category=" ++ Url.encodeComponent c).toList
  if parameters.isEmpty then "" else "?" ++ Text.joinWith "&" parameters

/-- The parts of an upload that carry its settings. -/
def optionParts (o : AddOptions) : List Part :=
  (o.savePath.map (Part.text "savepath")).toList ++
  (o.category.map (Part.text "category")).toList ++
  (if o.tags.isEmpty then [] else [Part.text "tags" (Text.joinWith "," o.tags)]) ++
  (if o.paused then [Part.text "paused" "true", Part.text "stopped" "true"] else [])

/-- An upload of what is to be added. -/
def upload (source : Part) (options : AddOptions) : Run Session Unit := do
  let _ ← Session.upload ⟨.post, Session.base (← get).account ++ "/api/v2/torrents/add",
    .multipart (source :: optionParts options)⟩

/-- An action as the server knows it: its endpoint and what it needs besides the torrents. -/
def actionForm : Action → String × List (String × String)
  | .pause => ("pause", [])
  | .resume => ("resume", [])
  | .recheck => ("recheck", [])
  | .reannounce => ("reannounce", [])
  | .delete files => ("delete", [("deleteFiles", if files then "true" else "false")])
  | .addTags tags => ("addTags", [("tags", Text.joinWith "," tags)])
  | .removeTags tags => ("removeTags", [("tags", Text.joinWith "," tags)])
  | .setCategory category => ("setCategory", [("category", category)])

/-- A listing of files that failed: where the failure speaks of 404 the torrent is not there. -/
def contentsError (infoHash : String) : Error → Error
  | .apiError text =>
    if Text.contains text "404" then .torrentNotFound infoHash else .apiError text
  | e => e

/-- The client's operations. -/
instance : Backend Session where
  name s := s.account.name
  torrent infoHash := do
    let ts ← fetchTorrents ("/api/v2/torrents/info?hashes=" ++ Text.lowercase infoHash)
    match ts with
    | t :: _ => return t
    | [] => throw (.torrentNotFound infoHash)
  torrents filters := do
    let ts ← fetchTorrents ("/api/v2/torrents/info" ++ listingQuery filters)
    return ts.filter fun t => filters.includeAll || t.sizeTotal > 0
  add request := do
    match request.source with
    | .magnet uri =>
      upload (.text "urls" uri) request.options
      return magnetHash? uri
    | .file data filename =>
      let part : Part :=
        ⟨"torrents", some (filename.getD "torrent.torrent"), some "application/x-bittorrent", data⟩
      upload part request.options
      return (Metainfo.infoHash? data).toOption
  modify infoHash changes := do
    let hash := Text.lowercase infoHash
    if let some name := changes.name then
      post "/api/v2/torrents/rename" [("hash", hash), ("name", name)]
    if let some category := changes.category then
      post "/api/v2/torrents/setCategory" [("hashes", hash), ("category", category)]
  act action infoHashes :=
    let (endpoint, fields) := actionForm action
    postHashes ("/api/v2/torrents/" ++ endpoint) infoHashes fields
  createTags tags := post "/api/v2/torrents/createTags" [("tags", Text.joinWith "," tags)]
  deleteTags tags := post "/api/v2/torrents/deleteTags" [("tags", Text.joinWith "," tags)]
  tags := do parsed (Json.asList Json.asText) (← fetch "/api/v2/torrents/tags")
  categories := do parsed categories? (← fetch "/api/v2/torrents/categories")
  createCategory name savePath :=
    post "/api/v2/torrents/createCategory" [("category", name), ("savePath", savePath)]
  deleteCategories names :=
    post "/api/v2/torrents/removeCategories" [("categories", Text.joinWith "\n" names)]
  contents infoHash := do
    let text ← tryCatch (fetch ("/api/v2/torrents/files?hash=" ++ Text.lowercase infoHash))
      fun e => throw (contentsError infoHash e)
    parsed contents? text

end Seedkeeper.QBittorrent
