import Seedkeeper.Torrent.Basic
import Seedkeeper.Json.Basic

/-!
Torrents as JSON objects, fields in a fixed order.
-/

namespace Seedkeeper.Torrent

/-- A torrent as an object. -/
def toJson (t : Torrent) : Json :=
  .object [
    (Json.key "info_hash", .ofText t.infoHash),
    (Json.key "name", .ofText t.name),
    (Json.key "state", .ofText t.state.name),
    (Json.key "low_level_state", .ofText t.backendState),
    (Json.key "category", .ofText t.category),
    (Json.key "tags", .array (t.tags.map .ofText)),
    (Json.key "save_path", .ofText t.savePath),
    (Json.key "tracker", .ofText t.tracker),
    (Json.key "size", .ofNat t.size.toNat),
    (Json.key "size_total", .ofNat t.sizeTotal.toNat),
    (Json.key "size_completed", .ofNat t.sizeCompleted.toNat),
    (Json.key "downloaded", .ofNat t.downloaded.toNat),
    (Json.key "uploaded", .ofNat t.uploaded.toNat),
    (Json.key "download_speed", .ofNat t.downloadSpeed.toNat),
    (Json.key "upload_speed", .ofNat t.uploadSpeed.toNat),
    (Json.key "seeders", .ofNat t.seeders.toNat),
    (Json.key "leechers", .ofNat t.leechers.toNat),
    (Json.key "atime", .ofInt t.addedAt.toInt),
    (Json.key "ctime", .ofInt t.completedAt.toInt)]

end Seedkeeper.Torrent
