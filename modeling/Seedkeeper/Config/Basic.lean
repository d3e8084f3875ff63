import Seedkeeper.Text.Blank

/-!
The configuration: the clients there are and where traffic is recorded.
-/

namespace Seedkeeper.Config

/-- The software a client is a client of. -/
inductive ClientKind where
  | qbittorrent
  deriving DecidableEq

/-- The name of a kind of client. -/
def ClientKind.name : ClientKind → String
  | .qbittorrent => "qbittorrent"

/-- A client. -/
structure ClientEntry where
  /-- Used on the command line and as the key of its traffic. -/
  name : String
  kind : ClientKind
  url : String
  username : String
  password : String
  /-- How long a request may take. -/
  timeoutSeconds : Nat
  deriving DecidableEq

/-- Where traffic is recorded. -/
structure StatsEntry where
  enabled : Bool
  /-- The file that events are appended to. -/
  path : String
  deriving DecidableEq

/-- How long a request may take if nothing is said. -/
def defaultTimeout : Nat := 30

/-- Where traffic is recorded if nothing is said. -/
def StatsEntry.default : StatsEntry := ⟨true, "seedkeeper_stats.jsonl"⟩

end Config

/-- A configuration. -/
structure Config where
  clients : List Config.ClientEntry
  stats : Config.StatsEntry
  deriving DecidableEq

namespace Config

/-- The first client with a name. -/
def client? (c : Config) (name : String) : Option ClientEntry :=
  c.clients.find? (·.name == name)

/-! ### Choosing a client -/

/-- Why no client was chosen. -/
inductive ChoiceError where
  | notConfigured (name : String)
  | noClients
  | severalClients
  deriving DecidableEq

/-- The wording of an error. -/
def ChoiceError.message : ChoiceError → String
  | .notConfigured name => "No client named '" ++ name ++ "' in configuration"
  | .noClients => "No clients configured"
  | .severalClients => "Several clients configured; choose one with --client"

/-- The client with a name or, where none is given, the only client. -/
def choose (c : Config) (name : Option String) : Except ChoiceError ClientEntry :=
  match name, c.clients with
  | some name, _ =>
    match c.client? name with
    | some e => .ok e
    | none => .error (.notConfigured name)
  | none, [only] => .ok only
  | none, [] => .error .noClients
  | none, _ => .error .severalClients

/-! ### Validity -/

/-- What is wrong with a configuration. -/
inductive Fault where
  | blankName
  | repeatedName (name : String)
  | blankUrl (client : String)
  | noTimeout (client : String)
  | noStatsPath
  deriving DecidableEq

/-- A fault in words. -/
def Fault.text : Fault → String
  | .blankName => "clients.name cannot be empty"
  | .repeatedName name => "duplicate client name: " ++ name
  | .blankUrl client => "client " ++ client ++ ": url cannot be empty"
  | .noTimeout client => "client " ++ client ++ ": timeout_secs cannot be 0"
  | .noStatsPath => "stats.path cannot be empty when stats are enabled"

/-- The complaint about a fault. -/
def Fault.message (f : Fault) : String := "Configuration validation failed: " ++ f.text

/-- Whether nothing but blanks is in a text. -/
def isBlankText (s : String) : Bool := (Text.trim s).isEmpty

/-- The first thing wrong with a client, given the names before it. -/
def ClientEntry.fault? (seen : List String) (e : ClientEntry) : Option Fault :=
  if isBlankText e.name then some .blankName
  else if e.name ∈ seen then some (.repeatedName e.name)
  else if isBlankText e.url then some (.blankUrl e.name)
  else if e.timeoutSeconds = 0 then some (.noTimeout e.name)
  else none

/-- The first thing wrong with some clients, given the names before them. -/
def clientsFault? (seen : List String) : List ClientEntry → Option Fault
  | [] => none
  | e :: es => (e.fault? seen).or (clientsFault? (e.name :: seen) es)

/-- What is wrong with where traffic is recorded. -/
def StatsEntry.fault? (s : StatsEntry) : Option Fault :=
  if s.enabled ∧ s.path.isEmpty then some .noStatsPath else none

/-- The first thing wrong with a configuration, clients first. -/
def fault? (c : Config) : Option Fault := (clientsFault? [] c.clients).or c.stats.fault?

end Config

end Seedkeeper
