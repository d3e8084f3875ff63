import Seedkeeper.Selection.Token
import Seedkeeper.Client.Basic

/-!
Queries: predicates on category, tags and name, and a list of tokens.

`resolve` turns a query into info hashes to act on, `fetch` into torrents to show. The predicates
restrict listed torrents and never an info hash that is given; tokens are taken from left to right,
listed torrents in their order within a token, and a hash counts where it first occurs. A query of
no predicate and no token, or with the token `_all`, means every torrent.
-/

namespace Seedkeeper.Selection

open Client (Backend Filters Run)

/-- What to select. -/
structure Query where
  category : Option String
  /-- Any of these, up to ASCII case. -/
  tags : List String
  /-- Part of the name. -/
  filter : Option String
  tokens : List Token
  deriving DecidableEq

namespace Query

/-- The query of command arguments: blank ones are not given, tags are separated by commas. -/
def ofArguments (category tag filter : String) (words : List String) : Query :=
  { category := Text.nonBlank? category
    tags := (Text.split ',' tag).filterMap Text.nonBlank?
    filter := Text.nonBlank? filter
    tokens := words.map Token.ofWord }

/-- Whether a predicate is given. -/
def hasPredicates (q : Query) : Bool :=
  q.category.isSome || !q.tags.isEmpty || q.filter.isSome

/-- Whether every torrent is meant. -/
def selectsAll (q : Query) : Bool :=
  q.tokens.contains .all || (q.tokens.isEmpty && !q.hasPredicates)

/-- Whether a torrent meets every predicate given. -/
def admits (q : Query) (t : Torrent) : Bool :=
  (match q.category with
    | none => true
    | some c => t.category == c) &&
  (q.tags.isEmpty || t.hasAnyTag q.tags) &&
  (match q.filter with
    | none => true
    | some f => t.matchesName f)

/-- Whether the client's listing takes part in the answer. -/
def needsListing (q : Query) : Bool :=
  q.hasPredicates || q.tokens.isEmpty || q.tokens.any fun
    | .state _ => true
    | _ => false

end Query

end Selection

/-- Torrents to act on. -/
inductive Selection where
  /-- Every torrent of the client. -/
  | all
  /-- Exactly these info hashes; none of them means that nothing matched. -/
  | hashes (infoHashes : List String)
  deriving DecidableEq

namespace Selection

open Client (Backend Filters Run)

/-- Whether nothing matched. -/
def isEmpty : Selection → Bool
  | .hashes [] => true
  | _ => false

/-- The explicit info hashes. -/
def infoHashes? : Selection → Option (List String)
  | .all => none
  | .hashes hs => some hs

/-- A list with one more element, unless it is there already. -/
def pick {α : Type} [DecidableEq α] (picked : List α) (a : α) : List α :=
  if a ∈ picked then picked else picked ++ [a]

/-- The different elements of a list, each where it first occurs. -/
def firstOccurrences {α : Type} [DecidableEq α] (as : List α) : List α := as.foldl pick []

/-- The info hashes that a token selects among admitted torrents. -/
def hashesOf (admitted : List Torrent) : Token → List String
  | .all => []
  | .hash h => [h]
  | .state f => (admitted.filter f.holds).map (·.infoHash)

/-- The info hashes that a query without `_all` selects, given the torrents it admits. -/
def choose (q : Query) (admitted : List Torrent) : List String :=
  firstOccurrences <|
    if q.tokens.isEmpty then admitted.map (·.infoHash)
    else q.tokens.flatMap (hashesOf admitted)

variable {σ : Type} [Backend σ]

/-- The torrents that a query admits, listed only if the answer needs them. -/
def admitted (q : Query) : Run σ (List Torrent) := do
  if q.needsListing then
    return (← Backend.torrents Filters.all).filter q.admits
  else return []

/-- The selection of a query. Info hashes that are given are not looked up. -/
def resolve (q : Query) : Run σ Selection := do
  if q.selectsAll then return .all
  else return .hashes (choose q (← admitted q))

/-! ### Torrents to show -/

/-- Torrents picked so far, each under the info hash it was picked by. -/
abbrev Picked := List (String × Torrent)

/-- A torrent picked, unless one was by that info hash. -/
def Picked.add (p : Picked) (infoHash : String) (t : Torrent) : Picked :=
  if p.any (·.1 == infoHash) then p else p ++ [(infoHash, t)]

/-- A token's torrents picked; one that is given by its info hash is asked for. -/
def Picked.addToken (admitted : List Torrent) (p : Picked) : Token → Run σ Picked
  | .all => return p
  | .state f => return (admitted.filter f.holds).foldl (fun p t => p.add t.infoHash t) p
  | .hash h => do
    if p.any (·.1 == h) then return p
    else return p.add h (← Backend.torrent h)

/-- The torrents of a query. Every info hash that is given has to be on the client. -/
def fetch (q : Query) : Run σ (List Torrent) := do
  let listed ← Backend.torrents Filters.all
  if q.selectsAll then return listed
  let admitted := listed.filter q.admits
  if q.tokens.isEmpty then return admitted
  let picked ← q.tokens.foldlM (Picked.addToken admitted) []
  return picked.map (·.2)

end Selection

end Seedkeeper
