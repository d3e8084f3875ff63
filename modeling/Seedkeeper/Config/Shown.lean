import Seedkeeper.Config.Basic
import Seedkeeper.Json.Basic
import Seedkeeper.Toml.Written

/-!
Configurations as they are shown: everything but passwords, of which only their presence is told.
-/

namespace Seedkeeper.Config

/-- Whether a client has a password. -/
def ClientEntry.hasPassword (e : ClientEntry) : Bool := !e.password.isEmpty

/-! ### As JSON -/

/-- A client as an object. -/
def ClientEntry.toJson (e : ClientEntry) : Json :=
  .object [
    (Json.key "name", .ofText e.name),
    (Json.key "type", .ofText e.kind.name),
    (Json.key "url", .ofText e.url),
    (Json.key "username", .ofText e.username),
    (Json.key "password_configured", .bool e.hasPassword),
    (Json.key "timeout_secs", .ofNat e.timeoutSeconds)]

/-- Where traffic is recorded, as an object. -/
def StatsEntry.toJson (s : StatsEntry) : Json :=
  .object [(Json.key "enabled", .bool s.enabled), (Json.key "path", .ofText s.path)]

/-- A configuration as an object. -/
def toJson (c : Config) : Json :=
  .object [
    (Json.key "clients", .array (c.clients.map (·.toJson))),
    (Json.key "stats", c.stats.toJson)]

/-! ### As TOML -/

/-- One line of a table. -/
def memberLine (key value : String) : String := key ++ " = " ++ value ++ "\n"

/-- A truth value as it is written. -/
def boolText (b : Bool) : String := if b then "true" else "false"

/-- A client as a table of a list. -/
def ClientEntry.tomlText (e : ClientEntry) : String :=
  "[[clients]]\n" ++
  memberLine "name" (Toml.writtenText e.name) ++
  memberLine "type" (Toml.writtenText e.kind.name) ++
  memberLine "url" (Toml.writtenText e.url) ++
  memberLine "username" (Toml.writtenText e.username) ++
  memberLine "password_configured" (boolText e.hasPassword) ++
  memberLine "timeout_secs" (toString e.timeoutSeconds)

/-- Where traffic is recorded, as a table. -/
def StatsEntry.tomlText (s : StatsEntry) : String :=
  "[stats]\n" ++ memberLine "enabled" (boolText s.enabled) ++
  memberLine "path" (Toml.writtenText s.path)

/-- A configuration as a document, an empty line between its tables. -/
def tomlText (c : Config) : String :=
  (if c.clients.isEmpty then memberLine "clients" "[]" ++ "\n"
    else String.join (c.clients.map fun e => e.tomlText ++ "\n")) ++
  c.stats.tomlText

end Seedkeeper.Config
