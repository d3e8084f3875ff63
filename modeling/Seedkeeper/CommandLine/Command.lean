import Seedkeeper.Client.Basic
import Seedkeeper.Selection.Query

/-!
Commands: what the program can be asked to do.
-/

namespace Seedkeeper.CommandLine

/-- The words that name commands. -/
inductive Verb where
  | list | select | pause | resume | recheck | reannounce | delete | tag | untag | setcat
  | xseedcheck | stats | config
  deriving DecidableEq

/-- Every verb. -/
def Verb.all : List Verb :=
  [.list, .select, .pause, .resume, .recheck, .reannounce, .delete, .tag, .untag, .setcat,
    .xseedcheck, .stats, .config]

/-- The word for a verb. -/
def Verb.name : Verb → String
  | .list => "list"
  | .select => "select"
  | .pause => "pause"
  | .resume => "resume"
  | .recheck => "recheck"
  | .reannounce => "reannounce"
  | .delete => "delete"
  | .tag => "tag"
  | .untag => "untag"
  | .setcat => "setcat"
  | .xseedcheck => "xseedcheck"
  | .stats => "stats"
  | .config => "config"

/-- The verb of a word. -/
def Verb.ofName? (name : String) : Option Verb := Verb.all.find? (·.name == name)

/-- How answers are written. -/
inductive Format where
  | table
  | json
  deriving DecidableEq

/-- The format of a word. -/
def Format.ofName? (name : String) : Option Format :=
  if name = "table" then some .table else if name = "json" then some .json else none

/-- Which torrents a command is about, as it is written. -/
structure Target where
  /-- The client's name, which may be left out where there is only one. -/
  client : Option String
  category : String
  /-- Tags separated by commas. -/
  tag : String
  filter : String
  /-- Info hashes and state words. -/
  words : List String
  deriving DecidableEq

/-- The query that a target spells. -/
def Target.query (t : Target) : Selection.Query := .ofArguments t.category t.tag t.filter t.words

/-- A command. -/
inductive Command where
  /-- Shows torrents. -/
  | list (target : Target)
  /-- Shows info hashes. -/
  | select (target : Target)
  /-- Acts on torrents. -/
  | act (target : Target) (action : Client.Action)
  /-- Checks a torrent file against a torrent's data. -/
  | check (client : Option String) (infoHash file : String)
  /-- Reports traffic. -/
  | report (client : Option String)
  /-- Shows the configuration. -/
  | showConfig
  deriving DecidableEq

/-- A command together with what every command takes. -/
structure Invocation where
  configPath : String
  format : Format
  command : Command
  deriving DecidableEq

end Seedkeeper.CommandLine
