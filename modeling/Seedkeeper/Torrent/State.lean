/-!
The states a torrent can be in, one vocabulary for every backend, and their names.
-/

namespace Seedkeeper.Torrent

/-- What a torrent is doing. -/
inductive State where
  /-- Fully downloaded and uploading to peers. -/
  | seeding
  /-- Downloading from peers. -/
  | downloading
  /-- Finished and stopped. -/
  | completed
  /-- Stopped before completion. -/
  | paused
  /-- Having its files checked. -/
  | checking
  | error
  /-- The backend's state has no counterpart here. -/
  | unknown
  deriving DecidableEq

/-- Every state, in the order they are listed. -/
def State.all : List State :=
  [.seeding, .downloading, .completed, .paused, .checking, .error, .unknown]

/-- The name used in filters and output. -/
def State.name : State → String
  | .seeding => "seeding"
  | .downloading => "downloading"
  | .completed => "completed"
  | .paused => "paused"
  | .checking => "checking"
  | .error => "error"
  | .unknown => "unknown"

/-- The state of a name, spelled exactly. -/
def State.ofName? (name : String) : Option State :=
  State.all.find? (·.name == name)

/-- The complaint about a word that names no state. -/
def State.unknownMessage (name : String) : String :=
  "unknown torrent state: " ++ name

theorem State.mem_all (s : State) : s ∈ State.all := by
  cases s <;> decide

/-- Every state is read back from its name. -/
theorem State.ofName?_name (s : State) : State.ofName? s.name = some s := by
  cases s <;> decide

/-- A word is read as a state only if it is that state's name. -/
theorem State.name_of_ofName? {name : String} {s : State} (h : State.ofName? name = some s) :
    s.name = name := by
  simpa using List.find?_some h

end Seedkeeper.Torrent
