import Seedkeeper.CommandLine.Command

/-!
Reading command lines.

A command line has two levels: what stands before the verb and what stands after it. On each level
switches come in any order among the words. A long switch takes its value after an equals sign or as
the next argument, a short one also right behind its letter; a value that is an argument of its own
cannot look like a switch. After `--` there are only words. No switch but `--tags` may be given
twice on one level.

The configuration's path and the output format may be given on both levels; the later one counts.
-/

namespace Seedkeeper.CommandLine

/-- The switches there are. -/
inductive Switch where
  | config | output | client | category | tag | filter | tags | newCategory | deleteFiles
  deriving DecidableEq

namespace Switch

/-- The long name of a switch. -/
def name : Switch → String
  | config => "config"
  | output => "output"
  | client => "client"
  | category => "category"
  | tag => "tag"
  | filter => "filter"
  | tags => "tags"
  | newCategory => "to"
  | deleteFiles => "delete-files"

/-- The letter of a switch. -/
def letter? : Switch → Option Char
  | client => some 'c'
  | _ => none

/-- Whether a switch takes a value. -/
def takesValue : Switch → Bool
  | deleteFiles => false
  | _ => true

/-- Whether a switch may be given more than once. -/
def mayRepeat : Switch → Bool
  | tags => true
  | _ => false

/-- Whether a switch can have a value. -/
def accepts (s : Switch) (value : String) : Bool :=
  match s with
  | config => !value.isEmpty
  | output => (Format.ofName? value).isSome
  | _ => true

end Switch

/-- What one level of a command line takes. -/
structure Level where
  switches : List Switch
  /-- How many words, if there is a limit. -/
  maxWords : Option Nat
  /-- Whether a word that names a verb ends the level; the version can be asked for here, too. -/
  isOuter : Bool

/-- The level before the verb. -/
def Level.outer : Level := ⟨[.config, .output], some 0, true⟩

/-- The switches that name torrents. -/
def targetSwitches : List Switch := [.client, .category, .tag, .filter]

/-- The switches of a verb. -/
def Verb.switches (v : Verb) : List Switch :=
  [.config, .output] ++
  match v with
  | .list | .select | .pause | .resume | .recheck | .reannounce => targetSwitches
  | .delete => targetSwitches ++ [.deleteFiles]
  | .tag | .untag => targetSwitches ++ [.tags]
  | .setcat => targetSwitches ++ [.newCategory]
  | .xseedcheck | .stats => [.client]
  | .config => []

/-- How many words a verb takes, if there is a limit. -/
def Verb.maxWords : Verb → Option Nat
  | .xseedcheck => some 2
  | .stats | .config => some 0
  | _ => none

/-- The level after a verb. -/
def Verb.level (v : Verb) : Level := ⟨v.switches, v.maxWords, false⟩

/-- Why there is nothing to do. -/
inductive Stop where
  /-- The command line cannot be used. -/
  | unusable
  | help
  | version
  deriving DecidableEq

/-- What was given on a level, in order. -/
structure Given where
  switches : List (Switch × String)
  words : List String

namespace Given

/-- A switch with its value. -/
def withSwitch (g : Given) (s : Switch) (value : String) : Except Stop Given :=
  if (!s.mayRepeat && g.switches.any (·.1 == s)) || !s.accepts value then .error .unusable
  else .ok { g with switches := g.switches ++ [(s, value)] }

/-- One more word. -/
def withWord (level : Level) (g : Given) (word : String) : Except Stop Given :=
  if level.maxWords.all (g.words.length < ·) then .ok { g with words := g.words ++ [word] }
  else .error .unusable

/-- The value of a switch. -/
def value? (g : Given) (s : Switch) : Option String := (g.switches.find? (·.1 == s)).map (·.2)

/-- The values of a switch. -/
def values (g : Given) (s : Switch) : List String :=
  (g.switches.filter (·.1 == s)).map (·.2)

end Given

/-- What an argument is. -/
inductive Argument where
  | word
  /-- Two dashes alone. -/
  | escape
  | long (name : String) (value : Option String)
  /-- A letter and what stands behind it. -/
  | short (letter : Char) (rest : List Char)

/-- What an argument looks like. -/
def Argument.of (arg : String) : Argument :=
  match arg.toList with
  | ['-', '-'] => .escape
  | '-' :: '-' :: cs =>
    match Text.splitOnceChars '=' cs with
    | some (name, value) => .long (String.ofList name) (some (String.ofList value))
    | none => .long (String.ofList cs) none
  | '-' :: c :: cs => .short c cs
  | _ => .word

/-- Whether an argument is a word. -/
def Argument.isWord : Argument → Bool
  | .word => true
  | _ => false

/-- What an argument does to a level: something is given, or a switch wants its value. -/
abbrev Effect := Except Stop (Given × Option Switch)

/-- A switch whose value stands with it, or not. -/
def Given.meet (g : Given) (s : Switch) (value : Option String) : Effect :=
  match s.takesValue, value with
  | true, some v => return (← g.withSwitch s v, none)
  | true, none => return (g, some s)
  | false, none => return (← g.withSwitch s "", none)
  | false, some _ => .error .unusable

/-- A long switch. -/
def Level.long (level : Level) (g : Given) (name : String) (value : Option String) : Effect :=
  match level.switches.find? (·.name == name) with
  | some s => g.meet s value
  | none =>
    if value.isSome then .error .unusable
    else if name = "help" then .error .help
    else if name = "version" ∧ level.isOuter then .error .version
    else .error .unusable

/-- A short switch. -/
def Level.short (level : Level) (g : Given) (letter : Char) (rest : List Char) : Effect :=
  match level.switches.find? (·.letter? == some letter) with
  | some s =>
    g.meet s (match rest with
      | [] => none
      | '=' :: cs => some (String.ofList cs)
      | cs => some (String.ofList cs))
  | none =>
    if letter = 'h' then .error .help
    else if letter = 'V' ∧ level.isOuter then .error .version
    else .error .unusable

/-- The word that asks for help. -/
def helpWord : String := "help"

/-- Whether a word ends the level before the verb. -/
def endsOuter (word : String) : Bool := word == helpWord || (Verb.ofName? word).isSome

/-- A level read: what is given on it and the arguments from the verb on. -/
def Level.read (level : Level) : Given → Option Switch → List String →
    Except Stop (Given × List String)
  | g, none, [] => .ok (g, [])
  | _, some _, [] => .error .unusable
  | g, some s, arg :: args =>
    if (Argument.of arg).isWord then do level.read (← g.withSwitch s arg) none args
    else .error .unusable
  | g, none, arg :: args =>
    match Argument.of arg with
    | .word =>
      if level.isOuter ∧ endsOuter arg then .ok (g, arg :: args)
      else do level.read (← g.withWord level arg) none args
    | .escape => do return (← args.foldlM (Given.withWord level) g, [])
    | .long name value => do
      let (g, awaiting) ← level.long g name value
      level.read g awaiting args
    | .short letter rest => do
      let (g, awaiting) ← level.short g letter rest
      level.read g awaiting args

/-! ### Commands -/

/-- A value that has to be given. -/
def needed {α : Type} : Option α → Except Stop α
  | some a => .ok a
  | none => .error .unusable

/-- The torrents that are named after a verb. -/
def Given.target (g : Given) : Target :=
  { client := g.value? .client
    category := (g.value? .category).getD ""
    tag := (g.value? .tag).getD ""
    filter := (g.value? .filter).getD ""
    words := g.words }

/-- The tags that are given, at least one. -/
def Given.tags (g : Given) : Except Stop (List String) :=
  match g.values .tags with
  | [] => .error .unusable
  | vs => .ok (vs.flatMap (Text.split ','))

/-- The command of a verb. -/
def Verb.command (v : Verb) (g : Given) : Except Stop Command :=
  match v with
  | .list => return .list g.target
  | .select => return .select g.target
  | .pause => return .act g.target .pause
  | .resume => return .act g.target .resume
  | .recheck => return .act g.target .recheck
  | .reannounce => return .act g.target .reannounce
  | .delete => return .act g.target (.delete (g.value? .deleteFiles).isSome)
  | .tag => return .act g.target (.addTags (← g.tags))
  | .untag => return .act g.target (.removeTags (← g.tags))
  | .setcat => return .act g.target (.setCategory (← needed (g.value? .newCategory)))
  | .xseedcheck =>
    match g.words with
    | [infoHash, file] =>
      if file.isEmpty then .error .unusable else return .check (g.value? .client) infoHash file
    | _ => .error .unusable
  | .stats => return .report (g.value? .client)
  | .config => return .showConfig

/-- The path of the configuration if nothing is said. -/
def defaultConfigPath : String := "config.toml"

/-- The path of the configuration: the verb's level wins over the outer one, that over the
    environment. Where the environment has to be looked at, it cannot be empty. -/
def configPath (outer inner : Given) (environment : Option String) : Except Stop String :=
  match inner.value? .config, outer.value? .config with
  | some path, some _ => .ok path
  | inner, outer =>
    if environment = some "" then .error .unusable
    else .ok ((inner.or outer).or environment |>.getD defaultConfigPath)

/-- The output format: the verb's level wins over the outer one. -/
def format (outer inner : Given) : Format :=
  (((inner.value? .output).or (outer.value? .output)).bind Format.ofName?).getD .table

/-- What asking for help means: at most one command can be named. -/
def helpFor : List String → Stop
  | [] => .help
  | [word] => if endsOuter word then .help else .unusable
  | _ => .unusable

/-- A command line read; `environment` is the configuration's path there. -/
def read (environment : Option String) (args : List String) : Except Stop Invocation := do
  let (outer, rest) ← Level.outer.read ⟨[], []⟩ none args
  match rest with
  | [] => .error .unusable
  | word :: rest =>
    match Verb.ofName? word with
    | none => .error (helpFor rest)
    | some v =>
      let (inner, _) ← v.level.read ⟨[], []⟩ none rest
      let path ← configPath outer inner environment
      let command ← v.command inner
      return ⟨path, format outer inner, command⟩

end Seedkeeper.CommandLine
