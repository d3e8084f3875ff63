import Seedkeeper.Text.Utf8
import Seedkeeper.Text.Ascii

/-!
SHA-1: the digest of 160 bits that names a torrent.

The message is padded to blocks of 64 bytes; each block is expanded to 80 words, which stir the five
words of the state in four rounds of twenty steps.
-/

namespace Seedkeeper.Sha1

open Text (Bytes)

/-- The five words of the state. -/
structure State where
  a : UInt32
  b : UInt32
  c : UInt32
  d : UInt32
  e : UInt32

/-- The state before the first block. -/
def State.start : State := ⟨0x67452301, 0xEFCDAB89, 0x98BADCFE, 0x10325476, 0xC3D2E1F0⟩

/-- Rotation to the left. -/
def rotate (x : UInt32) (n : UInt32) : UInt32 := (x <<< n) ||| (x >>> (32 - n))

/-- A number as eight bytes, the highest first. -/
def bigEndian64 (n : Nat) : Bytes :=
  [56, 48, 40, 32, 24, 16, 8, 0].map fun s => UInt8.ofNat (n >>> s)

/-- The message with a one bit, zeros and its length in bits. -/
def padded (message : Bytes) : Bytes :=
  message ++ 0x80 :: List.replicate ((119 - message.length % 64) % 64) 0 ++
    bigEndian64 (8 * message.length)

/-- Groups of four bytes as words. -/
def words : Bytes → List UInt32
  | a :: b :: c :: d :: rest =>
    (a.toUInt32 <<< 24 ||| b.toUInt32 <<< 16 ||| c.toUInt32 <<< 8 ||| d.toUInt32) :: words rest
  | _ => []

/-- The words of a block from the last sixteen on, oldest first. -/
def expand (last : List UInt32) : Nat → List UInt32
  | 0 => []
  | n + 1 =>
    let w (i : Nat) : UInt32 := last.getD i 0
    w 0 :: expand (last.drop 1 ++ [rotate (w 13 ^^^ w 8 ^^^ w 2 ^^^ w 0) 1]) n

/-- One step with one word. -/
def step (s : State) (round : Nat) (w : UInt32) : State :=
  let (f, k) : UInt32 × UInt32 :=
    if round < 20 then ((s.b &&& s.c) ||| (~~~s.b &&& s.d), 0x5A827999)
    else if round < 40 then (s.b ^^^ s.c ^^^ s.d, 0x6ED9EBA1)
    else if round < 60 then ((s.b &&& s.c) ||| (s.b &&& s.d) ||| (s.c &&& s.d), 0x8F1BBCDC)
    else (s.b ^^^ s.c ^^^ s.d, 0xCA62C1D6)
  ⟨rotate s.a 5 + f + s.e + k + w, s.a, rotate s.b 30, s.c, s.d⟩

/-- One block of sixteen words. -/
def block (s : State) (ws : List UInt32) : State :=
  let t := (expand ws 80).zipIdx.foldl (fun t (w, i) => step t i w) s
  ⟨s.a + t.a, s.b + t.b, s.c + t.c, s.d + t.d, s.e + t.e⟩

/-- Blocks of sixteen words, one by one. -/
def blocks (s : State) (ws : List UInt32) : Nat → State
  | 0 => s
  | n + 1 => blocks (block s (ws.take 16)) (ws.drop 16) n

/-- A word in eight hexadecimal digits. -/
def hexWord (x : UInt32) : List Char :=
  [28, 24, 20, 16, 12, 8, 4, 0].map fun s => Text.hexDigit ((x.toNat >>> s) % 16)

/-- The digest of a message, in forty hexadecimal digits. -/
def digest (message : Bytes) : String :=
  let ws := words (padded message)
  let s := blocks .start ws (ws.length / 16)
  String.ofList ([s.a, s.b, s.c, s.d, s.e].flatMap hexWord)

end Seedkeeper.Sha1
