import Seedkeeper.CommandLine.Reading
import Seedkeeper.Config.Environment
import Seedkeeper.CrossSeed.Check
import Seedkeeper.Program.Disk
import Seedkeeper.Program.Output
import Seedkeeper.QBittorrent.Client

/-!
Doing what a command says.

A command is carried out against a configuration, the files and servers there are and a stats log. It
prints, and it may fail after it printed.
-/

namespace Seedkeeper.Program

open CommandLine (Command Format Target)
open Client (Action Run)
open QBittorrent (Session)
open Traffic (Log)

/-- Where a command is carried out. -/
structure Scene where
  disk : Disk
  zone : Calendar.Zone
  /-- It tells the times of events that are recorded. -/
  clock : Calendar.Clock
  /-- The date that reports end on. -/
  today : Calendar.Date

/-- What a command leaves behind. -/
structure Outcome where
  output : String
  /-- Why it failed, if it did. -/
  failure : Option String
  log : Log
  network : Http.Network

/-- A failure behind what was being done. -/
def during (context reason : String) : String := context ++ ": " ++ reason

/-- A character of a quoted path: quotes, backslashes, control characters and blanks other than the
    space are escaped. -/
def quotedChar (c : Char) : List Char :=
  if c = '"' ∨ c = '\\' then ['\\', c]
  else if c = '\n' then ['\\', 'n']
  else if c = '\r' then ['\\', 'r']
  else if c = '\t' then ['\\', 't']
  else if c = '\x00' then ['\\', '0']
  else if c.toNat < 0x20 ∨ (0x7F ≤ c.toNat ∧ c.toNat < 0xA0) ∨ (Text.isBlank c ∧ c ≠ ' ') then
    ['\\', 'u', '\x7b'] ++ Nat.toDigits 16 c.toNat ++ ['\x7d']
  else [c]

/-- A path between quotes, for messages. -/
def quotedPath (path : String) : String :=
  "\"" ++ String.ofList (path.toList.flatMap quotedChar) ++ "\""

/-! ### Clients -/

/-- The client of a configured name, before its first request. -/
def connect (c : Config) (name : Option String) (network : Http.Network) :
    Except String Session :=
  match c.choose name with
  | .error e => .error e.message
  | .ok e =>
    match e.kind with
    | .qbittorrent =>
      .ok (.start ⟨e.name, e.url, e.username, e.password, e.timeoutSeconds⟩ network)

/-- An operation on a configured client; what it answers is printed. -/
def query {α : Type} (c : Config) (name : Option String) (log : Log) (network : Http.Network)
    (run : Run Session α) (print : α → String) : Outcome :=
  match connect c name network with
  | .error reason => ⟨"", some reason, log, network⟩
  | .ok session =>
    match run.from session with
    | (.ok a, session) => ⟨print a, none, log, session.network⟩
    | (.error e, session) => ⟨"", some e.message, log, session.network⟩

/-! ### Batches -/

/-- The complaint about a batch with failures. -/
def batchFailure (r : Batch.Report) : Option String :=
  if r.isSuccess then none
  else some (toString r.failed ++ " of " ++ toString r.total ++ " torrents failed")

/-- The log that a batch records deletions in, if it deletes and recording is enabled. -/
def batchLog (c : Config) (action : Action) (log : Log) : Option Log :=
  if action.isDelete ∧ c.stats.enabled then some log else none

/-- An action on the torrents of a target. -/
def batch (c : Config) (scene : Scene) (log : Log) (network : Http.Network) (target : Target)
    (action : Action) (format : Format) : Outcome :=
  match connect c target.client network with
  | .error reason => ⟨"", some reason, log, network⟩
  | .ok session =>
    match (Selection.resolve target.query : Run Session Selection).from session with
    | (.error e, session) => ⟨"", some e.message, log, session.network⟩
    | (.ok selection, session) =>
      match Batch.apply action selection scene.clock session (batchLog c action log) with
      | (.error e, session, after) => ⟨"", some e.message, after.getD log, session.network⟩
      | (.ok r, session, after) =>
        ⟨batchText action r format, batchFailure r, after.getD log, session.network⟩

/-! ### Cross-seed checks -/

/-- What a torrent file is looked up by. -/
def candidate (disk : Disk) (file : String) : Except String (List CrossSeed.Entry) :=
  match disk.read file with
  | .error reason => .error (during ("Failed to read " ++ quotedPath file) reason)
  | .ok bs =>
    match Metainfo.files? bs with
    | .error e => .error (during ("Invalid torrent file " ++ quotedPath file) e.message)
    | .ok entries => .ok entries

/-- A torrent file checked against a torrent's data. -/
def check (c : Config) (scene : Scene) (log : Log) (network : Http.Network)
    (client : Option String) (infoHash file : String) (format : Format) : Outcome :=
  match connect c client network, candidate scene.disk file with
  | .error reason, _ => ⟨"", some reason, log, network⟩
  | .ok _, .error reason => ⟨"", some reason, log, network⟩
  | .ok _, .ok entries =>
    query c client log network (CrossSeed.check (Text.lowercase infoHash) entries)
      (verdictText · format)

/-! ### Reports -/

/-- The traffic of a stats log, reported. -/
def report (c : Config) (scene : Scene) (client : Option String) :
    Except String (List Traffic.Report) :=
  let path := c.stats.path
  match Traffic.replayMedium scene.zone (scene.disk.look path) with
  | .error (.unreadable reason) =>
    .error (during ("Failed to replay stats log " ++ quotedPath path)
      (during (Log.Error.message (.writeFailed reason)) reason))
  | .error .outsideCalendar =>
    .error (during ("Failed to replay stats log " ++ quotedPath path) "a date is out of range")
  | .ok ledger =>
    match ledger.summarize client scene.today with
    | .error e => .error e.message
    | .ok reports => .ok reports

/-! ### Commands -/

/-- A command carried out. -/
def dispatch (c : Config) (scene : Scene) (log : Log) (network : Http.Network) (format : Format) :
    Command → Outcome
  | .list target =>
    query c target.client log network (Selection.fetch target.query) (torrentsText · format)
  | .select target =>
    query c target.client log network (Selection.resolve target.query) (selectionText · format)
  | .act target action => batch c scene log network target action format
  | .check client infoHash file => check c scene log network client infoHash file format
  | .report client =>
    match report c scene client with
    | .error reason => ⟨"", some reason, log, network⟩
    | .ok reports => ⟨trafficText reports client.isSome format, none, log, network⟩
  | .showConfig => ⟨configText c format, none, log, network⟩

/-! ### From start to end -/

/-- The log of a configuration. -/
def logOf (c : Config) (disk : Disk) : Log :=
  if c.stats.enabled then .onMedium (disk.look c.stats.path) else .disabled

/-- The configuration at a path, the environment's settings winning over it. A directory holds no
    settings of its own. -/
def loadConfig (disk : Disk) (environment : List (String × String)) (path : String) :
    Except String Config :=
  let load (document : Option String) : Except String Config :=
    match document.bind (Config.layered? · environment) with
    | some c => .ok c
    | none => .error "Failed to parse configuration"
  match disk.look path with
  | .file (some bs) => load (Text.ofUtf8? bs)
  | .full => load (some "")
  | .file none => .error ("Configuration file not found: " ++ path)
  | .closed reason _ =>
    if reason = Disk.isADirectory then load (some "")
    else .error ("Configuration file not found: " ++ path)

/-- A run of the program: what it prints and the status it ends with, besides what its command leaves
    behind. -/
structure Ended where
  output : String
  /-- Why it failed, if it did. -/
  fatal : Option String
  status : Nat
  disk : Disk
  network : Http.Network

/-- The program's name and version. -/
def versionText : String := "seedkeeper 0.1.0"

/-- The configuration's path as the environment has it. -/
def configVariable? (environment : List (String × String)) : Option String :=
  (environment.find? (·.1 == "SEEDKEEPER_CONFIG")).map (·.2)

/-- The program, run. -/
def run (environment : List (String × String)) (scene : Scene) (network : Http.Network)
    (args : List String) : Ended :=
  match CommandLine.read (configVariable? environment) args with
  | .error .unusable => ⟨"", none, 2, scene.disk, network⟩
  | .error .help => ⟨"", none, 0, scene.disk, network⟩
  | .error .version => ⟨lineOf versionText, none, 0, scene.disk, network⟩
  | .ok invocation =>
    let fail (reason : String) : Ended := ⟨"", some reason, 1, scene.disk, network⟩
    match loadConfig scene.disk environment invocation.configPath with
    | .error reason =>
      fail (during ("Failed to load config from " ++ quotedPath invocation.configPath) reason)
    | .ok c =>
      match c.fault? with
      | some f => fail (during "Configuration validation failed" f.message)
      | none =>
        let o := dispatch c scene (logOf c scene.disk) network invocation.format invocation.command
        let disk := scene.disk.settle c.stats.path o.log.medium
        ⟨o.output, o.failure, if o.failure.isSome then 1 else 0, disk, o.network⟩

end Seedkeeper.Program
