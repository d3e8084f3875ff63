import Seedkeeper.Torrent.Basic

/-!
Selection words: what one positional argument of a command selects.

A word is trimmed first. `_all` selects everything, any other word that begins with `_` is a state
filter, and the rest are info hashes in lower case.
-/

namespace Seedkeeper.Selection

/-- The word for every torrent. -/
def allWord : String := "_all"

/-- Bytes a second from which on a torrent is active. -/
def activeSpeed : UInt64 := 1024

/-- A condition on what a torrent is doing. -/
inductive StateFilter where
  | any
  /-- Either speed reaches `activeSpeed`. -/
  | active
  /-- Completed or seeding. -/
  | done
  | is (state : Torrent.State)
  /-- A word that names no state; nothing meets it. -/
  | unrecognized (word : String)
  deriving DecidableEq

namespace StateFilter

/-- A word with one leading underscore taken off. -/
def bare (word : String) : String :=
  match word.toList with
  | '_' :: cs => String.ofList cs
  | _ => word

/-- The filter of a word: four fixed words, or a state's name with or without an underscore. -/
def ofWord (word : String) : StateFilter :=
  if word = "" ∨ word = allWord then .any
  else if word = "_active" then .active
  else if word = "_done" then .done
  else match Torrent.State.ofName? (bare word) with
    | some s => .is s
    | none => .unrecognized (bare word)

/-- Whether a torrent meets the condition. -/
def holds (f : StateFilter) (t : Torrent) : Bool :=
  match f with
  | .any => true
  | .active => activeSpeed ≤ t.downloadSpeed || activeSpeed ≤ t.uploadSpeed
  | .done => t.state == .completed || t.state == .seeding
  | .is s => t.state == s
  | .unrecognized _ => false

end StateFilter

/-- Whether a torrent meets the condition that a word stands for. -/
def matchesStateWord (t : Torrent) (word : String) : Bool :=
  (StateFilter.ofWord word).holds t

/-- What a word selects. -/
inductive Token where
  | all
  | hash (infoHash : String)
  | state (filter : StateFilter)
  deriving DecidableEq

/-- The token of a word. -/
def Token.ofWord (word : String) : Token :=
  let w := Text.trim word
  if w = allWord then .all
  else if w.toList.head? = some '_' then .state (.ofWord w)
  else .hash (Text.lowercase w)

end Seedkeeper.Selection
