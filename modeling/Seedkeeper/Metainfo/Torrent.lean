import Seedkeeper.Metainfo.Bencode
import Seedkeeper.Metainfo.Sha1
import Seedkeeper.CrossSeed.Verdict

/-!
Torrent files: which files a torrent has and the hash that names it.

A torrent's paths begin with its name, as clients report them. Names that are not UTF-8 are read
with replacement characters. The info hash is the digest of the `info` value exactly as it is
written.
-/

namespace Seedkeeper.Metainfo

open Text (Bytes)
open Bencode (Shape Value)
open CrossSeed (Entry)

/-- Why a torrent file has no file list. -/
inductive Error where
  | malformed
  /-- The file ends where a list has to begin. -/
  | pastEnd
  /-- The torrent has no files. -/
  | empty
  deriving DecidableEq

/-- The wording of an error; what exactly is malformed is not told. -/
def Error.message : Error → String
  | .empty => "Empty torrent (no files)"
  | _ => "Failed to parse torrent"

/-- A member that may be left out. -/
def may (key : String) (shape : Shape) : Bytes × Shape × Bool := (Text.utf8 key, shape, false)

/-- A member that has to be there. -/
def must (key : String) (shape : Shape) : Bytes × Shape × Bool := (Text.utf8 key, shape, true)

/-- Integers from zero on. -/
def Shape.natural : Shape := .int 0 Number.maxInt64

/-- One file of a torrent. -/
def fileShape : Shape := .dict [
  must "length" Shape.natural,
  must "path" (.list .text),
  may "attr" .text,
  may "sha1" .text,
  may "symlink path" (.list .text)]

/-- What a torrent consists of. -/
def infoShape : Shape := .dict [
  may "name" .text,
  must "pieces" .text,
  must "piece length" (.int 0 Number.maxNat32),
  may "length" Shape.natural,
  may "attr" .text,
  may "sha1" .text,
  may "symlink path" (.list .text),
  may "md5sum" .text,
  may "files" (.list fileShape),
  may "private" (.int Number.minInt64 1)]

/-- A torrent file. -/
def shape : Shape := .dict [
  may "announce" .text,
  may "announce-list" (.list (.list .text)),
  must "info" infoShape,
  may "comment" .text,
  may "created by" .text,
  may "encoding" .text,
  may "publisher" .text,
  may "publisher-url" .text,
  may "creation date" Shape.natural]

/-- The `info` value of a torrent file and the bytes it is written with. -/
def info? (bs : Bytes) : Except Error (Bytes × Value) :=
  match Bencode.readValue shape bs with
  | .error .pastEnd => .error .pastEnd
  | .error .malformed => .error .malformed
  | .ok v =>
    match v.member? (Text.utf8 "info") with
    | some info => .ok info
    | none => .error .malformed

/-- A text member. -/
def text? (key : String) (v : Value) : Option String :=
  ((v.member? (Text.utf8 key)).bind (·.2.asText?)).map Text.ofUtf8Lossy

/-- An integer member as a size. -/
def size? (v : Value) : Option UInt64 :=
  ((v.member? (Text.utf8 "length")).bind (·.2.asInt?)).map fun n => UInt64.ofNat n.toNat

/-- The parts of a file's path. -/
def pathParts (v : Value) : List String :=
  (((v.member? (Text.utf8 "path")).bind (·.2.asList?)).getD []).filterMap fun part =>
    part.asText?.map Text.ofUtf8Lossy

/-- One file below the torrent's name. -/
def entryOf (root : String) (v : Value) : Entry :=
  ⟨Text.joinWith "/" (root :: pathParts v), (size? v).getD 0⟩

/-- The files of a torrent file: its list, or else the one file of its length. -/
def files? (bs : Bytes) : Except Error (List Entry) := do
  let (_, info) ← info? bs
  let root := (text? "name" info).getD "unknown"
  match (info.member? (Text.utf8 "files")).bind (·.2.asList?) with
  | some [] => .error .empty
  | some vs => return vs.map (entryOf root)
  | none =>
    match size? info with
    | some n => return [⟨root, n⟩]
    | none => .error .empty

/-- The info hash of a torrent file. -/
def infoHash? (bs : Bytes) : Except Error String := do
  return Sha1.digest (← info? bs).1

end Seedkeeper.Metainfo
