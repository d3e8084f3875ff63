import Seedkeeper.Config.Basic
import Seedkeeper.Record
import Seedkeeper.Toml.Document

/-!
Configurations out of TOML values.

A record is a table, whose unknown keys do not count, or an array of its fields in their order. The
kind of a client is its name; in a document read by itself it may also be a table with that name as
its key and nothing in it.
-/

namespace Seedkeeper.Config

open Record (optional required)
open Toml (Members Value)

/-- The values of a record's fields. A date or time is a record without any field known here. -/
def fields? (names : List String) : Value → Option (List (Option Value))
  | .table _ ms => some (names.map (Members.find? ms))
  | .array vs => some (names.zipIdx.map fun (_, i) => vs[i]?)
  | .tables vs => some (names.zipIdx.map fun (_, i) => vs[i]?)
  | .moment _ => some (names.map fun _ => none)
  | _ => none

/-- A text. -/
def asText : Value → Option String
  | .text s => some s
  | _ => none

/-- A truth value. -/
def asBool : Value → Option Bool
  | .boolean b => some b
  | _ => none

/-- An integer of 32 bits, unsigned. -/
def asNat32 : Value → Option Nat
  | .integer n => if 0 ≤ n ∧ n ≤ Number.maxNat32 then some n.toNat else none
  | _ => none

/-- A list. -/
def asList? : Value → Option (List Value)
  | .array vs => some vs
  | .tables vs => some vs
  | _ => none

/-- The kind of a client by name. -/
def kindOfName? (name : String) : Option ClientKind :=
  if name = ClientKind.qbittorrent.name then some .qbittorrent else none

/-- Whether a value holds nothing. -/
def isEmptyValue : Value → Bool
  | .table _ [] | .array [] | .tables [] => true
  | _ => false

/-- The kind of a client; `tagged` says whether a table may name it. -/
def asKind (tagged : Bool) : Value → Option ClientKind
  | .text s => kindOfName? s
  | .table origin ((name, v) :: more) =>
    if tagged ∧ isEmptyValue v ∧ (more.isEmpty ∨ origin ≠ .inline) then kindOfName? name else none
  | _ => none

/-- A client. -/
def clientRecord? (tagged : Bool) (v : Value) : Option ClientEntry := do
  let fs ← fields? ["name", "type", "url", "username", "password", "timeout_secs"] v
  let name ← required asText fs[0]?
  let kind ← required (asKind tagged) fs[1]?
  let url ← required asText fs[2]?
  let username ← optional "" asText fs[3]?
  let password ← optional "" asText fs[4]?
  let timeoutSeconds ← optional defaultTimeout asNat32 fs[5]?
  return { name, kind, url, username, password, timeoutSeconds }

/-- Where traffic is recorded. -/
def statsRecord? (v : Value) : Option StatsEntry := do
  let fs ← fields? ["enabled", "path"] v
  let enabled ← optional StatsEntry.default.enabled asBool fs[0]?
  let path ← optional StatsEntry.default.path asText fs[1]?
  return ⟨enabled, path⟩

/-- A configuration. -/
def ofMembers? (tagged : Bool) (ms : Members) : Option Config := do
  let clients ← optional [] (fun v => (asList? v).bind (·.mapM (clientRecord? tagged)))
    (some (ms.find? "clients"))
  let stats ← optional StatsEntry.default statsRecord? (some (ms.find? "stats"))
  return ⟨clients, stats⟩

/-- The configuration that a document holds by itself. -/
def ofText? (document : String) : Option Config := (Toml.read? document).bind (ofMembers? true)

end Seedkeeper.Config
