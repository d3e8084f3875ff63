import Seedkeeper.Text.Blank

/-!
Cross-seeding: whether a torrent's files are the data that a client already holds.

Both file lists are walked together, as far as the candidate goes. Sizes have to agree everywhere.
Paths may differ only in their leading folder, and only while each list, as far as it was walked,
lies in one folder. A candidate whose folder has another name is told apart from one that can be
seeded in place; a client list that goes on after the candidate is a superset of it, without a look
at the rest.
-/

namespace Seedkeeper.CrossSeed

/-- A file by path, parts separated by `/`, and size. -/
structure Entry where
  path : String
  size : UInt64
  deriving DecidableEq

/-- How a candidate compares with what a client holds. -/
inductive Verdict where
  /-- Different content. -/
  | noMatch
  /-- The same files in a folder of another name. -/
  | rootDiffers
  /-- The same files in the same places. -/
  | exact
  /-- The client holds the candidate's files and more. -/
  | superset
  deriving DecidableEq

/-- The number of a verdict. -/
def Verdict.code : Verdict → Int
  | .noMatch => -1
  | .rootDiffers => -2
  | .exact => 0
  | .superset => 1

/-- Whether the candidate can be seeded from the client's data as it lies. -/
def Verdict.isMatch : Verdict → Bool
  | .exact | .superset => true
  | _ => false

/-- The folder that all paths seen so far share. -/
inductive Folder where
  /-- No path was seen. -/
  | unseen
  | shared (name : String)
  /-- A path without folder, or two folders, were seen. -/
  | mixed
  deriving DecidableEq

/-- One more path seen. -/
def Folder.see (f : Folder) (path : String) : Folder :=
  match f with
  | .mixed => .mixed
  | .unseen => match Text.splitOnce '/' path with
    | none => .mixed
    | some (head, _) => .shared head
  | .shared name => match Text.splitOnce '/' path with
    | none => .mixed
    | some (head, _) => if head = name then .shared name else .mixed

/-- Whether a shared folder is known. -/
def Folder.isShared : Folder → Bool
  | .shared _ => true
  | _ => false

/-- A path without its leading folder, if it has one. -/
def inner (path : String) : String :=
  match Text.splitOnce '/' path with
  | none => path
  | some (_, rest) => rest

/-- Both lists walked together as far as the second goes; the folders seen, unless some entry
    differs in more than its leading folder. -/
def walk : Folder → Folder → List Entry → List Entry → Option (Folder × Folder)
  | f, g, a :: as, b :: bs =>
    let f := f.see a.path
    let g := g.see b.path
    if a.size ≠ b.size then none
    else if a.path = b.path ∨ (f.isShared ∧ g.isShared ∧ inner a.path = inner b.path) then
      walk f g as bs
    else none
  | f, g, _, _ => some (f, g)

/-- The verdict on a candidate, both lists in order of path. -/
def compare (held candidate : List Entry) : Verdict :=
  if candidate.isEmpty ∨ held.length < candidate.length then .noMatch
  else match walk .unseen .unseen held candidate with
    | none => .noMatch
    | some (f, g) =>
      let rootDiffers := match f, g with
        | .shared a, .shared b => a != b
        | _, _ => false
      if rootDiffers then .rootDiffers
      else if candidate.length < held.length then .superset
      else .exact

/-- Things in ascending order of their paths; those with equal paths keep their order. -/
def sortByPath {α : Type} (path : α → String) (as : List α) : List α :=
  as.mergeSort fun a b => path a ≤ path b

/-- Sorting keeps the things there are. -/
theorem sortByPath_perm {α : Type} (path : α → String) (as : List α) :
    (sortByPath path as).Perm as :=
  List.mergeSort_perm as _

end Seedkeeper.CrossSeed
