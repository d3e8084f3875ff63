import Seedkeeper.Traffic.Log

/-!
The files that the program meets, by path.

A path leads to a file it is listed with, to a directory when listed paths lie below it, to nothing
that can be made or read when a listed file stands in its way, and otherwise to a place where a file
can be made.
-/

namespace Seedkeeper.Program

open Text (Bytes)
open Traffic (Medium)

/-- Files with their content. -/
structure Disk where
  files : List (String × Bytes)

namespace Disk

/-- The system's reasons. -/
def noSuchFile : String := "No such file or directory (os error 2)"

/-- The reason given where a directory stands in place of a file. -/
def isADirectory : String := "Is a directory (os error 21)"

/-- The reason given where a file stands in place of a directory on the way. -/
def notADirectory : String := "Not a directory (os error 20)"

/-- The reason given where a directory cannot be made over a file. -/
def fileExists : String := "File exists (os error 17)"

/-- The parts of a path that matter. -/
def parts (path : String) : List String :=
  (if path.toList.head? = some '/' then ["/"] else []) ++
  (Text.split '/' path).filter fun p => !p.isEmpty && p != "."

/-- The content of the file with some parts. -/
def content? (d : Disk) (ps : List String) : Option Bytes :=
  (d.files.find? (parts ·.1 == ps)).map (·.2)

/-- Whether a listed file lies below some parts; the place where the program runs is a directory. -/
def isDirectory (d : Disk) (ps : List String) : Bool :=
  ps.isEmpty || ps == ["/"] || d.files.any fun f => ps.isPrefixOf (parts f.1) && parts f.1 != ps

/-- Whether a listed file stands in the way of some parts. -/
def isBlocked (d : Disk) (ps : List String) : Bool :=
  d.files.any fun f => (parts f.1).isPrefixOf ps && parts f.1 != ps

/-- What a path leads to. -/
def look (d : Disk) (path : String) : Medium :=
  let ps := parts path
  if path.isEmpty then .closed noSuchFile (.ok none)
  else if ps = ["/", "dev", "full"] then .full
  else if (d.content? ps).isSome then .file (d.content? ps)
  else if d.isDirectory ps then .closed isADirectory (.error isADirectory)
  else if d.isBlocked ps then
    .closed (if (d.content? ps.dropLast).isSome then fileExists else notADirectory)
      (.error notADirectory)
  else .file none

/-- The bytes of a file, or the reason why there are none. -/
def read (d : Disk) (path : String) : Except String Bytes :=
  match (d.look path).read with
  | .ok (some bs) => .ok bs
  | .ok none => .error noSuchFile
  | .error reason => .error reason

/-- The files with those of a path as a medium left it. -/
def settle (d : Disk) (path : String) (m : Medium) : Disk :=
  match m with
  | .file (some bs) =>
    if (d.content? (parts path)).isSome then
      ⟨d.files.map fun f => if parts f.1 = parts path then (f.1, bs) else f⟩
    else ⟨d.files ++ [(path, bs)]⟩
  | _ => d

end Disk

end Seedkeeper.Program
