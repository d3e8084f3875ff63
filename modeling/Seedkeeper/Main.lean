import Seedkeeper.Program.Dispatch
import Std.Time.DateTime.Timestamp

/-!
The program on a real system.

What a run can look at is gathered first: the configuration, the stats log it names and the torrent
file of the command line. The clock is read once, so the run finds it standing still. The run itself is a
function of those. Afterwards its output is printed and the files that it changed are written. There is no
transport to servers: every request is refused.
-/

namespace Seedkeeper

open Program (Disk)

/-- A file or directory as files on a disk; a directory shows by a file in it. -/
def gatherPath (path : String) : IO Disk := do
  try
    let bytes ← IO.FS.readBinFile path
    return ⟨[(path, bytes.toList)]⟩
  catch _ =>
    try
      let _ ← IO.FS.realPath (path ++ "/.")
      return ⟨[(path ++ "/_", [])]⟩
    catch _ => return ⟨[]⟩

/-- A path and the paths on the way to it. -/
def pathsTo (path : String) : List String :=
  let parts := Text.split '/' path
  (List.range parts.length).map fun n => "/".intercalate (parts.take (n + 1))

/-- What lies at a path and on the way to it. -/
def gather (path : String) : IO Disk := do
  let disks ← ((pathsTo path).filter fun p => !p.isEmpty).mapM gatherPath
  let files := disks.flatMap (·.files)
  return ⟨files.filter fun f => f.1 == path || f.1 == path ++ "/_" || !f.1.endsWith "/_"⟩

/-- The files that a command line leads to. -/
def gatherFor (environment : List (String × String)) (args : List String) : IO Disk := do
  match CommandLine.read (Program.configVariable? environment) args with
  | .error _ => return ⟨[]⟩
  | .ok invocation =>
    let config ← gather invocation.configPath
    let stats ← match Program.loadConfig config environment invocation.configPath with
      | .error _ => pure ⟨[]⟩
      | .ok c => gather c.stats.path
    let torrent ← match invocation.command with
      | .check _ _ file => gather file
      | _ => pure ⟨[]⟩
    return ⟨config.files ++ stats.files ++ torrent.files⟩

/-- The variables of the environment. -/
def gatherEnvironment : IO (List (String × String)) := do
  try
    let bytes ← IO.FS.readBinFile "/proc/self/environ"
    return (Text.pieces 0 bytes.toList).filterMap fun entry =>
      (Text.ofUtf8? entry).bind (Text.splitOnce '=')
  catch _ => return []

/-- The files of a disk that another does not have in this form, written. -/
def writeChanges (before after : Disk) : IO Unit := do
  for (path, bytes) in after.files do
    unless before.files.contains (path, bytes) do
      let parent := (pathsTo path).dropLast.getLastD ""
      unless parent.isEmpty do
        IO.FS.createDirAll parent
      IO.FS.writeBinFile path ⟨bytes.toArray⟩

end Seedkeeper

open Seedkeeper

/-- Runs the program on the arguments; the status is 0, 1 after a failure or 2 for arguments that cannot
    be used. -/
def main (args : List String) : IO UInt32 := do
  let environment ← gatherEnvironment
  let disk ← gatherFor environment args
  let seconds := (← Std.Time.Timestamp.now).toSecondsSinceUnixEpoch.val
  let scene : Program.Scene :=
    ⟨disk, .utc, .still (Int64.ofInt seconds), ⟨seconds / Calendar.daySeconds⟩⟩
  let ended := Program.run environment scene ⟨"", [], .refuse, []⟩ args
  IO.print ended.output
  writeChanges disk ended.disk
  match ended.fatal with
  | none => pure ()
  | some reason => IO.eprintln ("Fatal error: " ++ reason)
  return ended.status.toUInt32
