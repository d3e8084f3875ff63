import Seedkeeper.Client.Basic

/-!
The operations of a client as data, so that what holds of every operation, or of operations in any order,
can be said at once.
-/

namespace Seedkeeper.Client

/-- An operation on a client, and what it is given. -/
inductive Operation where
  | torrent (infoHash : String)
  | torrents (filters : Filters)
  | add (request : AddRequest)
  | modify (infoHash : String) (changes : Modification)
  | act (action : Action) (infoHashes : List String)
  | createTags (names : List String)
  | deleteTags (names : List String)
  | tags
  | categories
  | createCategory (name savePath : String)
  | deleteCategories (names : List String)
  | contents (infoHash : String)
  deriving DecidableEq

variable {σ : Type} [Backend σ]

/-- An operation done for what it does and whether it fails; what it finds is left out. -/
def Operation.run : Operation → Run σ Unit
  | .torrent infoHash => do let _ ← (Backend.torrent infoHash : Run σ Torrent); return ()
  | .torrents filters => do let _ ← (Backend.torrents filters : Run σ (List Torrent)); return ()
  | .add request => do let _ ← (Backend.add request : Run σ (Option String)); return ()
  | .modify infoHash changes => Backend.modify infoHash changes
  | .act action infoHashes => Backend.act action infoHashes
  | .createTags names => Backend.createTags names
  | .deleteTags names => Backend.deleteTags names
  | .tags => do let _ ← (Backend.tags : Run σ (List String)); return ()
  | .categories => do let _ ← (Backend.categories : Run σ (List Category)); return ()
  | .createCategory name savePath => Backend.createCategory name savePath
  | .deleteCategories names => Backend.deleteCategories names
  | .contents infoHash => do let _ ← (Backend.contents infoHash : Run σ (List ContentFile)); return ()

/-- The client after some operations, whether they succeed or fail. -/
def afterAll (ops : List Operation) (s : σ) : σ := ops.foldl (fun s op => (op.run.from s).2) s

theorem afterAll_cons (op : Operation) (ops : List Operation) (s : σ) :
    afterAll (op :: ops) s = afterAll ops (op.run.from s).2 := rfl

end Seedkeeper.Client
