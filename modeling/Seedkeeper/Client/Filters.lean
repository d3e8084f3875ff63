import Seedkeeper.Client.Basic
import Seedkeeper.Json.Fields

/-!
Listing filters as JSON: what is not asked for is left out.
-/

namespace Seedkeeper.Client.Filters

/-- Filters as an object. -/
def toJson (f : Filters) : Json :=
  .object <|
    (f.state.map fun s => (Json.key "state", Json.ofText s)).toList ++
    (f.category.map fun c => (Json.key "category", Json.ofText c)).toList ++
    [(Json.key "include_all", .bool f.includeAll)]

/-- Filters from a document; every field may be left out. -/
def ofJson? (v : Json) : Option Filters := do
  let fs ← Json.fields? ["state", "category", "include_all"] v
  let state ← Record.optional none (Json.asOption Json.asText) fs[0]?
  let category ← Record.optional none (Json.asOption Json.asText) fs[1]?
  let includeAll ← Record.optional false Json.asBool fs[2]?
  return ⟨state, category, includeAll⟩

end Seedkeeper.Client.Filters
