import Seedkeeper.Torrent.Basic
import Seedkeeper.Text.Utf8

/-!
What every torrent client can do, and how it can fail.

A client is a state together with operations on it. An operation answers with a value or an error
and leaves a new state in both cases; a backend maps its own vocabulary to `Torrent`, so everything
built on a client sees only normalized torrents.
-/

namespace Seedkeeper.Client

open Text (Bytes)

/-- Why an operation failed. -/
inductive Error where
  | connectionFailed (text : String)
  | authenticationFailed (text : String)
  | torrentNotFound (infoHash : String)
  | invalidTorrent (text : String)
  | apiError (text : String)
  | timeout
  | internal (text : String)
  deriving DecidableEq

/-- The wording of an error. -/
def Error.message : Error → String
  | .connectionFailed text => "Connection failed: " ++ text
  | .authenticationFailed text => "Authentication failed: " ++ text
  | .torrentNotFound infoHash => "Torrent not found: " ++ infoHash
  | .invalidTorrent text => "Invalid torrent data: " ++ text
  | .apiError text => "API error: " ++ text
  | .timeout => "Request timeout"
  | .internal text => "Internal error: " ++ text

/-- Which torrents a listing is asked for. -/
structure Filters where
  /-- The backend's own state filter. -/
  state : Option String
  category : Option String
  /-- Also torrents whose metadata is not known yet. -/
  includeAll : Bool
  deriving DecidableEq

/-- Every torrent. -/
def Filters.all : Filters := ⟨none, none, true⟩

/-- Whether no state and no category is asked for. -/
def Filters.isEmpty (f : Filters) : Bool := f.state.isNone && f.category.isNone

/-- Settings shared by every way to add a torrent. -/
structure AddOptions where
  savePath : Option String
  category : Option String
  tags : List String
  paused : Bool
  deriving DecidableEq

/-- What to add. -/
inductive AddSource where
  | magnet (uri : String)
  | file (data : Bytes) (filename : Option String)
  deriving DecidableEq

/-- A request to add a torrent. -/
structure AddRequest where
  source : AddSource
  options : AddOptions
  deriving DecidableEq

namespace AddRequest

/-- A request with no settings. -/
def of (source : AddSource) : AddRequest := ⟨source, ⟨none, none, [], false⟩⟩

/-- The request with another save path. -/
def withSavePath (r : AddRequest) (path : String) : AddRequest :=
  { r with options := { r.options with savePath := some path } }

/-- The request with another category. -/
def withCategory (r : AddRequest) (category : String) : AddRequest :=
  { r with options := { r.options with category := some category } }

/-- The request with one more tag. -/
def withTag (r : AddRequest) (tag : String) : AddRequest :=
  { r with options := { r.options with tags := r.options.tags ++ [tag] } }

/-- The request, to be started paused or not. -/
def withPaused (r : AddRequest) (paused : Bool) : AddRequest :=
  { r with options := { r.options with paused := paused } }

end AddRequest

/-- Changes to one torrent; what is not given is left alone. -/
structure Modification where
  name : Option String
  category : Option String
  deriving DecidableEq

/-- Whether nothing is changed. -/
def Modification.isEmpty (m : Modification) : Bool := m.name.isNone && m.category.isNone

/-- A mutation of the torrents with some info hashes. -/
inductive Action where
  | pause
  | resume
  | recheck
  | reannounce
  /-- Removes the torrents and, if asked, their downloaded files. -/
  | delete (files : Bool)
  | addTags (tags : List String)
  | removeTags (tags : List String)
  | setCategory (category : String)
  deriving DecidableEq

/-- The name of an action in reports. -/
def Action.name : Action → String
  | .pause => "pause"
  | .resume => "resume"
  | .recheck => "recheck"
  | .reannounce => "reannounce"
  | .delete _ => "delete"
  | .addTags _ => "add tags"
  | .removeTags _ => "remove tags"
  | .setCategory _ => "set category"

/-- Whether an action removes torrents. -/
def Action.isDelete : Action → Bool
  | .delete _ => true
  | _ => false

/-- One file of a torrent on a client. -/
structure ContentFile where
  index : Nat
  /-- Relative to the torrent's root, parts separated by `/`. -/
  path : String
  size : UInt64
  complete : Bool
  deriving DecidableEq

/-- A category of a client. -/
structure Category where
  name : String
  savePath : String
  deriving DecidableEq

/-- An operation on a client with states `σ`. -/
abbrev Run (σ : Type) (α : Type) : Type := ExceptT Error (StateM σ) α

/-- What an operation answers from a state, and the state after it. -/
def Run.from {σ α : Type} (r : Run σ α) (s : σ) : Except Error α × σ := (ExceptT.run r).run s

/-- The operations of a client with states `σ`. -/
class Backend (σ : Type) where
  /-- The name used in logs and as the key of its traffic. -/
  name : σ → String
  torrent : String → Run σ Torrent
  torrents : Filters → Run σ (List Torrent)
  /-- The info hash of what was added, when the client can tell. -/
  add : AddRequest → Run σ (Option String)
  modify : String → Modification → Run σ Unit
  act : Action → List String → Run σ Unit
  createTags : List String → Run σ Unit
  deleteTags : List String → Run σ Unit
  tags : Run σ (List String)
  categories : Run σ (List Category)
  createCategory : (name savePath : String) → Run σ Unit
  deleteCategories : List String → Run σ Unit
  /-- Files of a torrent, in the client's order. -/
  contents : String → Run σ (List ContentFile)

end Seedkeeper.Client
