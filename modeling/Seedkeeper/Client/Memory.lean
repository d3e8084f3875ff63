import Seedkeeper.Client.Basic
import Seedkeeper.Text.Lowercase
import Seedkeeper.Text.Blank

/-!
A client that lives in memory, for trying out what is built on clients.

It lists torrents in the order they were put, applies mutations to them and keeps a record of every
mutation it accepted. The next operation can be made to fail once, and a mutation of certain info
hashes always. A failing operation changes nothing but the failure that was pending.
-/

namespace Seedkeeper.Client

/-- An accepted mutation. -/
inductive Call where
  | add (infoHash : Option String)
  | modify (infoHash : String)
  | act (action : Action) (infoHashes : List String)
  deriving DecidableEq

/-- The state of a client in memory. -/
structure Memory where
  name : String
  /-- In the order they were put. -/
  torrents : List Torrent
  /-- File lists by info hash, the latest first. -/
  contents : List (String × List ContentFile)
  categories : List Category
  tags : List String
  /-- In the order they were made. -/
  calls : List Call
  /-- How the next operation will fail. -/
  pending : Option Error
  /-- Info hashes whose mutations fail. -/
  failing : List String

namespace Memory

/-- A client without torrents. -/
def named (name : String) : Memory := ⟨name, [], [], [], [], [], none, []⟩

/-! ### Setting up -/

/-- A torrent put at the end, in place of the one with its info hash. -/
def put (m : Memory) (t : Torrent) : Memory :=
  { m with torrents := m.torrents.filter (·.infoHash != t.infoHash) ++ [t] }

/-- The file list of an info hash. -/
def setContents (m : Memory) (infoHash : String) (files : List ContentFile) : Memory :=
  { m with contents := (infoHash, files) :: m.contents }

/-- The next operation fails. -/
def failNext (m : Memory) (e : Error) : Memory := { m with pending := some e }

/-- Mutations of an info hash fail from now on. -/
def failHash (m : Memory) (infoHash : String) : Memory :=
  { m with failing := m.failing ++ [infoHash] }

/-! ### Operations -/

/-- The pending failure, once. -/
def ready : Run Memory Unit := do
  let m ← get
  match m.pending with
  | none => return ()
  | some e =>
    set { m with pending := none }
    throw e

/-- What comes before every mutation: it fails, or is kept in the record. -/
def accept (infoHashes : List String) (call : Call) : Run Memory Unit := do
  ready
  let m ← get
  match infoHashes.find? m.failing.contains with
  | some h => throw (.apiError ("mock failure for " ++ h))
  | none => set { m with calls := m.calls ++ [call] }

/-- The torrents with some info hashes, changed. -/
def update (m : Memory) (infoHashes : List String) (change : Torrent → Torrent) : Memory :=
  { m with torrents := m.torrents.map fun t =>
      if infoHashes.contains t.infoHash then change t else t }

/-- What an action makes of a torrent that stays. -/
def changed (action : Action) (t : Torrent) : Torrent :=
  match action with
  | .pause =>
    { t with
      state := if t.isComplete then .completed else .paused
      downloadSpeed := 0
      uploadSpeed := 0 }
  | .resume => { t with state := if t.isComplete then .seeding else .downloading }
  | .recheck => { t with state := .checking }
  | .reannounce => t
  | .delete _ => t
  | .addTags tags =>
    tags.foldl (fun t tag => if t.hasTag tag then t else { t with tags := t.tags ++ [tag] }) t
  | .removeTags tags =>
    { t with tags := t.tags.filter fun own => !tags.any (Text.sameIgnoringAsciiCase · own) }
  | .setCategory category => { t with category }

/-- The torrents after an action. -/
def acted (action : Action) (infoHashes : List String) (m : Memory) : Memory :=
  match action with
  | .delete _ => { m with torrents := m.torrents.filter fun t => !infoHashes.contains t.infoHash }
  | action => m.update infoHashes (changed action)

/-- The info hash in a magnet link. -/
def magnetHash? (uri : String) : Option String :=
  (Text.after? "xt=urn:btih:".toList uri.toList).map fun rest =>
    Text.lowercase (String.ofList (rest.takeWhile (· ≠ '&')))

/-- The torrent that a magnet link adds. -/
def ofMagnet (infoHash : String) (options : AddOptions) : Torrent :=
  { Torrent.sample infoHash ("Mock Torrent " ++ infoHash)
      (if options.paused then .paused else .downloading) with
    category := options.category.getD ""
    tags := options.tags
    sizeCompleted := 0 }

/-- The torrents that a listing shows. -/
def listed (filters : Filters) (t : Torrent) : Bool :=
  (filters.includeAll || t.sizeTotal > 0) &&
    filters.state.all (t.state.name == ·) && filters.category.all (t.category == ·)

/-- The client's operations. -/
instance : Backend Memory where
  name m := m.name
  torrent infoHash := do
    ready
    match (← get).torrents.find? (·.infoHash == infoHash) with
    | some t => return t
    | none => throw (.torrentNotFound infoHash)
  torrents filters := do
    ready
    return (← get).torrents.filter (listed filters)
  add request := do
    let hash := match request.source with
      | .magnet uri => magnetHash? uri
      | .file _ _ => none
    accept [] (.add hash)
    modify fun m => match hash with
      | some h => m.put (ofMagnet h request.options)
      | none => m
    return hash
  modify infoHash changes := do
    accept [infoHash] (.modify infoHash)
    modify (·.update [infoHash] fun t =>
      { t with
        name := changes.name.getD t.name
        category := changes.category.getD t.category })
  act action infoHashes := do
    accept infoHashes (.act action infoHashes)
    modify (acted action infoHashes)
  createTags tags := do
    ready
    modify fun m => { m with tags := tags.foldl (fun own t =>
      if own.contains t then own else own ++ [t]) m.tags }
  deleteTags tags := do
    ready
    modify fun m => { m with tags := m.tags.filter fun t => !tags.contains t }
  tags := do
    ready
    return (← get).tags
  categories := do
    ready
    return (← get).categories
  createCategory name savePath := do
    ready
    modify fun m => { m with
      categories := m.categories.filter (·.name != name) ++ [⟨name, savePath⟩] }
  deleteCategories names := do
    ready
    modify fun m => { m with categories := m.categories.filter fun c => !names.contains c.name }
  contents infoHash := do
    ready
    match (← get).contents.find? (·.1 == infoHash) with
    | some (_, files) => return files
    | none => throw (.torrentNotFound infoHash)

end Memory

end Seedkeeper.Client
