import Seedkeeper.Traffic.Replay

/-!
The stats log: a file that events are appended to, one line each.

The file is opened at the first append and only then. Opening ends a torn last line with a newline,
so the next event stands on a line of its own. A log whose file cannot be opened stays unavailable
for good, with the system's reason; a failed write leaves the log as it was.

What the log's path leads to is a `Medium`, a value of its own: others may change it between two
appends.
-/

namespace Seedkeeper.Traffic

open Text (Bytes)
open Calendar (Zone)

/-- What a path leads to, as far as a log is concerned. -/
inductive Medium where
  /-- A regular file with its bytes, or a place where one can be made. -/
  | file (content : Option Bytes)
  /-- Nothing that can be opened, and the reasons given on writing and on reading. -/
  | closed (reason : String) (readable : Except String (Option Bytes))
  /-- A file that opens empty and takes no bytes. -/
  | full
  deriving Inhabited

/-- How far a log has got with its file. -/
inductive LogState where
  | unopened
  | opened
  | unavailable (reason : String)
  deriving DecidableEq

/-- A log between two appends. -/
structure Log where
  state : LogState
  medium : Medium

namespace Log

/-- Why an event was not appended. -/
inductive Error where
  | unavailable (reason : String)
  | writeFailed (reason : String)
  deriving DecidableEq

/-- The wording of an error. -/
def Error.message : Error → String
  | .unavailable reason => "Stats log unavailable: " ++ reason
  | .writeFailed reason => "I/O error: " ++ reason

/-- The reason of a device without room. -/
def noSpace : String := "No space left on device (os error 28)"

/-- A log that is opened on first use. -/
def onMedium (m : Medium) : Log := ⟨.unopened, m⟩

/-- A log that records nothing. -/
def disabled : Log := ⟨.unavailable "stats disabled", .file none⟩

/-- Whether appends can still reach the file; an unopened log counts. -/
def isAvailable (l : Log) : Bool :=
  match l.state with
  | .unavailable _ => false
  | _ => true

/-- A file's bytes with a torn last line ended. -/
def mended (content : Bytes) : Bytes :=
  match content.getLast? with
  | none => []
  | some b => if b = 0x0A then content else content ++ [0x0A]

/-- The log with its file opened, if it was not yet. -/
def opened (l : Log) : Log :=
  match l.state, l.medium with
  | .unopened, .file content => ⟨.opened, .file (some (mended (content.getD [])))⟩
  | .unopened, .full => ⟨.opened, .full⟩
  | .unopened, .closed reason _ => ⟨.unavailable reason, l.medium⟩
  | _, _ => l

/-- An event's line with its newline. -/
def entry (e : Event) : Bytes := e.line ++ [0x0A]

/-- One event appended. -/
def append (l : Log) (e : Event) : Except Error Unit × Log :=
  let l := l.opened
  match l.state, l.medium with
  | .opened, .file content => (.ok (), ⟨.opened, .file (some (content.getD [] ++ entry e))⟩)
  | .opened, .full => (.error (.writeFailed noSpace), l)
  | .opened, .closed reason _ => (.error (.writeFailed reason), l)
  | .unavailable reason, _ => (.error (.unavailable reason), l)
  | .unopened, _ => (.error (.unavailable "log not opened"), l)

/-- One event appended if possible; says whether it was. -/
def record (l : Log) (e : Event) : Bool × Log :=
  match l.append e with
  | (.ok _, l) => (true, l)
  | (.error _, l) => (false, l)

/-- A fresh log on the same file; a log that was never enabled stays disabled. -/
def reopened (l : Log) (enabled : Bool) : Log :=
  if enabled then onMedium l.medium else disabled

end Log

/-- What there is to read: the bytes, nothing where there is no file, or the reason of a failure. -/
def Medium.read : Medium → Except String (Option Bytes)
  | .file content => .ok content
  | .full => .ok (some [])
  | .closed _ r => r

/-- Bytes added at the end behind the log's back. -/
def Medium.extend (m : Medium) (bs : Bytes) : Medium :=
  match m with
  | .file content => .file (some (content.getD [] ++ bs))
  | m => m

/-- Why a log could not be replayed. -/
inductive ReplayError where
  | unreadable (reason : String)
  | outsideCalendar

/-- The ledger of what a path leads to; where there is no file there are no events. -/
def replayMedium (z : Zone) (m : Medium) : Except ReplayError Ledger :=
  match m.read with
  | .error reason => .error (.unreadable reason)
  | .ok none => .ok .empty
  | .ok (some bs) =>
    match replay? z bs with
    | some l => .ok l
    | none => .error .outsideCalendar

end Seedkeeper.Traffic
