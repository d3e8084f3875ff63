import Seedkeeper.Torrent.State
import Seedkeeper.Text.Ascii
import Seedkeeper.Text.Blank
import Seedkeeper.Text.Lowercase

/-!
A torrent as every consumer sees it, whatever backend it came from.

Sizes and counters are words of 64 bits, times are unix seconds. Tags compare up to ASCII case;
names are searched up to full lower-casing.
-/

namespace Seedkeeper

/-- A torrent on a client. -/
structure Torrent where
  infoHash : String
  name : String
  state : Torrent.State
  /-- The backend's own word for the state. -/
  backendState : String
  category : String
  tags : List String
  savePath : String
  /-- Announce address of the current tracker; may be empty. -/
  tracker : String
  /-- Size selected for download. -/
  size : UInt64
  /-- Size of all files. -/
  sizeTotal : UInt64
  /-- Completed part of the selected size. -/
  sizeCompleted : UInt64
  downloaded : UInt64
  uploaded : UInt64
  /-- Bytes a second. -/
  downloadSpeed : UInt64
  /-- Bytes a second. -/
  uploadSpeed : UInt64
  seeders : UInt32
  leechers : UInt32
  addedAt : Int64
  /-- Not positive while incomplete. -/
  completedAt : Int64
  deriving DecidableEq

namespace Torrent

/-- Every selected file is downloaded. -/
def isComplete (t : Torrent) : Bool := t.sizeCompleted == t.size

/-- Every file is downloaded, selected or not. -/
def isFullyComplete (t : Torrent) : Bool := t.sizeCompleted == t.sizeTotal

/-- Whether the torrent carries a tag, up to ASCII case. -/
def hasTag (t : Torrent) (tag : String) : Bool :=
  t.tags.any (Text.sameIgnoringAsciiCase · tag)

/-- Whether the torrent carries one of some tags. -/
def hasAnyTag (t : Torrent) (tags : List String) : Bool :=
  tags.any t.hasTag

/-- Whether a text occurs in the name, both lower-cased. -/
def matchesName (t : Torrent) (filter : String) : Bool :=
  Text.contains (Text.lowercase t.name) (Text.lowercase filter)

/-- A torrent with ordinary values: a hundred mebibytes, all of it downloaded when the state says
    so and half of it otherwise. -/
def sample (infoHash name : String) (state : State) : Torrent :=
  let size : UInt64 := 104857600
  let done := state == .seeding || state == .completed
  { infoHash, name, state
    backendState := state.name
    category := ""
    tags := []
    savePath := "/mock/downloads"
    tracker := "https://tracker.example.org/announce"
    size
    sizeTotal := size
    sizeCompleted := if done then size else size / 2
    downloaded := if done then size else size / 2
    uploaded := 0
    downloadSpeed := 0
    uploadSpeed := 0
    seeders := 10
    leechers := 2
    addedAt := 1700000000
    completedAt := if done then 1700003600 else 0 }

end Torrent

end Seedkeeper
