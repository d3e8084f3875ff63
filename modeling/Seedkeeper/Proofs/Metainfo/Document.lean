import Seedkeeper.Metainfo.Torrent
import Seedkeeper.Proofs.Metainfo.Written
import Seedkeeper.Proofs.Text.Decoded

/-!
What is read of a torrent file that was written.

The `info` value is found as it is written, whatever members stand beside it and whatever follows the
document (`info?_document`). So the files that are read are those that were written, each path beginning
with the torrent's name, and the info hash is the digest of the bytes of that one value
(`document_read`).
-/

namespace Seedkeeper.Metainfo

open Bencode (Shape Spells SpellsMember Value writeDict writeInt writeList writeText)
open CrossSeed (Entry)
open Text (Bytes utf8)

variable {before after : List (Bytes × Bytes)} {w : Bytes} {v : Value}

/-! ### Beside the information -/

/-- The members that a shape names. -/
def members : Shape → List (Bytes × Shape × Bool)
  | .dict wanted => wanted
  | _ => []

/-- A torrent file with its `info` value, and other members before and after it as they are written. -/
def document (before after : List (Bytes × Bytes)) (info : Bytes) : Bytes :=
  0x64 :: ((before.map (·.2)).flatten ++
    (writeText (utf8 "info") ++ (info ++ ((after.map (·.2)).flatten ++ [0x65]))))

/-- Members that may stand beside `info`: each is as it has to be, and none is there twice. -/
structure Beside (before after : List (Bytes × Bytes)) : Prop where
  written : ∀ x ∈ before ++ after, SpellsMember (members shape) x.1 x.2
  keys : (utf8 "info" :: (before ++ after).map (·.1)).Nodup

theorem spells_document (hothers : Beside before after) (hinfo : Spells (.value infoShape v) w) :
    ∃ ns ns', Spells (.value shape (.dict (ns ++ (utf8 "info", w, v) :: ns'))) (document before after w) ∧
      ∀ n ∈ ns, n.1 ≠ utf8 "info" := by
  obtain ⟨hwritten, hkeys⟩ := hothers
  obtain ⟨hbefore, hafter⟩ := List.forall_mem_append.1 hwritten
  rw [List.map_append, List.nodup_cons, List.mem_append, not_or, List.nodup_append] at hkeys
  obtain ⟨⟨hnotBefore, hnotAfter⟩, hbeforeKeys, hafterKeys, hapart⟩ := hkeys
  have hinfoName : (members shape).find? (·.1 == utf8 "info") = some (utf8 "info", infoShape, true) := by
    simp [members, shape, may, must, Text.utf8_inj]
  have hend : Spells (.members (members shape) []) [0x65] := .lastMember
  obtain ⟨ns', hlast, hfrom'⟩ := hend.members_append hafter hafterKeys nofun
  rw [List.append_nil] at hlast
  have hrest : Spells (.members (members shape) ((utf8 "info", w, v) :: ns')) _ :=
    .named (Bencode.spellsText_write (by decide)) hinfoName hinfo hlast
      fun n hn heq => hnotAfter (heq ▸ hfrom' n hn)
  have hne : ∀ x ∈ before, utf8 "info" ≠ x.1 := fun x hx heq =>
    hnotBefore (heq ▸ List.mem_map_of_mem hx)
  obtain ⟨ns, hall, hfrom⟩ := hrest.members_append hbefore hbeforeKeys fun x hx =>
    List.forall_mem_cons.2 ⟨hne x hx, fun n hn heq =>
      hapart _ (List.mem_map_of_mem hx) _ (hfrom' n hn) heq.symm⟩
  refine ⟨ns, ns', .dict hall ?_, fun n hn heq => hnotBefore (heq ▸ hfrom n hn)⟩
  simp [Bencode.complete, may, must]

theorem info?_document (hothers : Beside before after) (hinfo : Spells (.value infoShape v) w)
    (rest : Bytes) : info? (document before after w ++ rest) = .ok (w, v) := by
  obtain ⟨ns, ns', hspells, hns⟩ := spells_document hothers hinfo
  have hfind : (ns ++ (utf8 "info", w, v) :: ns').find? (·.1 == utf8 "info")
      = some (utf8 "info", w, v) := by
    rw [List.find?_append, List.find?_eq_none.2 fun n hn => by simpa using hns n hn]
    simp
  rw [info?, Bencode.readValue_append hspells]
  simp only [Value.member?, hfind, Option.map_some]

/-! ### What a torrent consists of -/

/-- A file as a torrent lists it. -/
structure Listed where
  path : List String
  length : Nat

/-- Several files below the torrent's name, or the one that it is. -/
inductive Content where
  | files (fs : List Listed)
  | file (length : Nat)

/-- A torrent. -/
structure Described where
  name : String
  content : Content
  pieceLength : Nat
  pieces : Bytes

/-- The path of a file as it is written. -/
def Listed.writePath (f : Listed) : Bytes := writeList (f.path.map fun part => writeText (utf8 part))

/-- A file as it is written. -/
def Listed.write (f : Listed) : Bytes :=
  writeDict [(utf8 "length", writeInt f.length), (utf8 "path", f.writePath)]

/-- The member that says what files there are, as it is written. -/
def Content.write : Content → Bytes × Bytes
  | .files fs => (utf8 "files", writeList (fs.map Listed.write))
  | .file length => (utf8 "length", writeInt length)

/-- The `info` value as it is written, its keys ascending. -/
def Described.write (d : Described) : Bytes :=
  writeDict [d.content.write, (utf8 "name", writeText (utf8 d.name)),
    (utf8 "piece length", writeInt d.pieceLength), (utf8 "pieces", writeText d.pieces)]

/-- The files of a torrent, their paths beginning with its name. -/
def Described.entries (d : Described) : List Entry :=
  match d.content with
  | .files fs => fs.map fun f => ⟨Text.joinWith "/" (d.name :: f.path), UInt64.ofNat f.length⟩
  | .file length => [⟨d.name, UInt64.ofNat length⟩]

/-- The lengths of the files. -/
def Content.lengths : Content → List Nat
  | .files fs => fs.map Listed.length
  | .file length => [length]

/-- A torrent that has files, all numbers being within their bounds. -/
structure Described.Fits (d : Described) : Prop where
  nonempty : d.content.lengths ≠ []
  lengths : ∀ n ∈ d.content.lengths, n < 2 ^ 63
  pieceLength : d.pieceLength < 2 ^ 32
  size : d.write.length < UInt64.size

/-! ### What is read of it -/

/-- A file as it is read. -/
def Listed.value (f : Listed) : Value :=
  .dict [(utf8 "length", writeInt f.length, .int f.length),
    (utf8 "path", f.writePath, .list (f.path.map fun part => .text (utf8 part)))]

/-- What is read of the member that says what files there are. -/
def Content.value : Content → Value
  | .files fs => .list (fs.map Listed.value)
  | .file length => .int length

/-- The `info` value as it is read. -/
def Described.value (d : Described) : Value :=
  .dict [(d.content.write.1, d.content.write.2, d.content.value),
    (utf8 "name", writeText (utf8 d.name), .text (utf8 d.name)),
    (utf8 "piece length", writeInt d.pieceLength, .int d.pieceLength),
    (utf8 "pieces", writeText d.pieces, .text d.pieces)]

theorem isNamed {wanted : List (Bytes × Shape × Bool)} (key : String) (shape : Shape) (needed : Bool)
    (hlength : (utf8 key).length < UInt64.size)
    (hname : wanted.find? (·.1 == utf8 key) = some (utf8 key, shape, needed))
    (hv : Spells (.value shape v) w) : Bencode.IsNamed wanted (utf8 key, w, v) :=
  ⟨hlength, utf8 key, shape, needed, hname, hv⟩

theorem spells_natural {n : Nat} (h : n < 2 ^ 63) :
    Spells (.value Shape.natural (.int n)) (writeInt n) := by
  have hfits : Number.fitsInt64 n = true := Number.fitsInt64_iff.2 (by omega)
  exact .int (Bencode.spellsInt_write hfits) (Int.natCast_nonneg n) (by rw [Number.maxInt64]; omega)

theorem spells_pieceLength {n : Nat} (h : n < 2 ^ 32) :
    Spells (.value (.int 0 Number.maxNat32) (.int n)) (writeInt n) := by
  have hfits : Number.fitsInt64 n = true := Number.fitsInt64_iff.2 (by omega)
  exact .int (Bencode.spellsInt_write hfits) (Int.natCast_nonneg n) (by rw [Number.maxNat32]; omega)

theorem spells_listed {f : Listed} (hlength : f.length < 2 ^ 63) (hsize : f.write.length < UInt64.size) :
    Spells (.value fileShape f.value) f.write := by
  have hpathSize : f.writePath.length < UInt64.size :=
    (Bencode.length_le_writeDict (List.mem_cons_of_mem _ List.mem_cons_self)).trans_lt hsize
  have hpath : ∀ part ∈ f.path, (utf8 part).length < UInt64.size := fun part hpart => by
    have hpartSize : (writeText (utf8 part)).length ≤ f.writePath.length :=
      Bencode.length_le_writeList (List.mem_map_of_mem hpart)
    exact ((Bencode.length_le_writeText _).trans hpartSize).trans_lt hpathSize
  refine Bencode.spells_writeDict (List.forall_mem_cons.2 ⟨?_, List.forall_mem_singleton.2 ?_⟩) ?_ ?_
  · exact isNamed "length" Shape.natural true (by decide) (by simp [must, may])
      (spells_natural hlength)
  · exact isNamed "path" (.list .text) true (by decide) (by simp [must, may, Text.utf8_inj])
      (Bencode.spells_writeList fun part hpart => .text (Bencode.spellsText_write (hpath part hpart)))
  · simp [Text.utf8_inj]
  · simp [Bencode.complete, may, must]

theorem isNamed_content {c : Content} (hlengths : ∀ n ∈ c.lengths, n < 2 ^ 63)
    (hsize : c.write.2.length < UInt64.size) :
    Bencode.IsNamed (members infoShape) (c.write.1, c.write.2, c.value) := by
  cases c with
  | files fs =>
    refine isNamed "files" (.list fileShape) false (by decide)
      (by simp [members, infoShape, must, may, Text.utf8_inj]) ?_
    refine Bencode.spells_writeList fun f hf => spells_listed (hlengths _ (List.mem_map_of_mem hf)) ?_
    exact (Bencode.length_le_writeList (List.mem_map_of_mem hf)).trans_lt hsize
  | file length =>
    exact isNamed "length" Shape.natural false (by decide)
      (by simp [members, infoShape, must, may, Text.utf8_inj])
      (spells_natural (hlengths length List.mem_cons_self))

theorem spells_described {d : Described} (h : d.Fits) : Spells (.value infoShape d.value) d.write := by
  have hsize : ∀ x ∈ [d.content.write, (utf8 "name", writeText (utf8 d.name)),
      (utf8 "piece length", writeInt d.pieceLength), (utf8 "pieces", writeText d.pieces)],
      x.2.length < UInt64.size := fun x hx => (Bencode.length_le_writeDict hx).trans_lt h.size
  rw [List.forall_mem_cons, List.forall_mem_cons, List.forall_mem_cons, List.forall_mem_singleton] at hsize
  obtain ⟨hcontent, hname, -, hpieces⟩ := hsize
  refine Bencode.spells_writeDict (List.forall_mem_cons.2 ⟨?_, List.forall_mem_cons.2 ⟨?_,
    List.forall_mem_cons.2 ⟨?_, List.forall_mem_singleton.2 ?_⟩⟩⟩) ?_ ?_
  · exact isNamed_content h.lengths hcontent
  · refine isNamed "name" .text false (by decide) (by simp [may]) (.text (Bencode.spellsText_write ?_))
    exact (Bencode.length_le_writeText _).trans_lt hname
  · exact isNamed "piece length" _ true (by decide) (by simp [must, may, Text.utf8_inj])
      (spells_pieceLength h.pieceLength)
  · refine isNamed "pieces" .text true (by decide) (by simp [must, may, Text.utf8_inj])
      (.text (Bencode.spellsText_write ?_))
    exact (Bencode.length_le_writeText _).trans_lt hpieces
  · cases d.content <;> simp [Text.utf8_inj, Content.write]
  · cases d.content <;> simp [Bencode.complete, may, must]

/-! ### Reading -/

theorem entryOf_value (root : String) (f : Listed) : entryOf root f.value
    = ⟨Text.joinWith "/" (root :: f.path), UInt64.ofNat f.length⟩ := by
  have hne : utf8 "length" ≠ utf8 "path" := by simp [Text.utf8_inj]
  have hpath : (f.value.member? (utf8 "path")).bind (·.2.asList?)
      = some (f.path.map fun part => .text (utf8 part)) := by
    simp [Listed.value, Value.member?, Value.asList?, hne]
  have hpart : ((fun v : Value => v.asText?.map Text.ofUtf8Lossy) ∘ fun part => Value.text (utf8 part))
      = some := funext fun part => congrArg some (Text.ofUtf8Lossy_utf8 part)
  have hparts : pathParts f.value = f.path := by
    rw [pathParts, hpath, Option.getD_some, List.filterMap_map, hpart, List.filterMap_some]
  have hsize : size? f.value = some (UInt64.ofNat f.length) := by
    simp [size?, Listed.value, Value.member?, Value.asInt?]
  rw [entryOf, hparts, hsize, Option.getD_some]

theorem name_value (d : Described) : text? "name" d.value = some d.name := by
  have hne : ∀ c : Content, c.write.1 ≠ utf8 "name" := fun c => by
    cases c <;> simp [Content.write, Text.utf8_inj]
  simp [text?, Described.value, Value.member?, hne, Value.asText?, Text.ofUtf8Lossy_utf8]

theorem files?_of_info? {d : Described} {bs : Bytes} (h : info? bs = .ok (w, d.value))
    (hnonempty : d.content.lengths ≠ []) : files? bs = .ok d.entries := by
  have hname := name_value d
  have hfind : d.value.member? (utf8 "files") =
      if d.content.write.1 == utf8 "files" then some (d.content.write.2, d.content.value) else none := by
    cases hkey : d.content.write.1 == utf8 "files" <;>
      simp [Described.value, Value.member?, hkey, Text.utf8_inj]
  cases hcontent : d.content with
  | files fs =>
    have hfiles : (d.value.member? (utf8 "files")).bind (·.2.asList?) = some (fs.map Listed.value) := by
      rw [hfind, hcontent]
      simp [Content.write, Content.value, Value.asList?]
    rw [hcontent] at hnonempty
    simp only [files?, bind, Except.bind, h, hfiles, hname, Option.getD_some, Described.entries, hcontent]
    cases fs with
    | nil => exact absurd rfl hnonempty
    | cons f fs =>
      simp only [List.map_cons, entryOf_value, List.map_map, Function.comp_def]
      rfl
  | file length =>
    have hfiles : (d.value.member? (utf8 "files")).bind (·.2.asList?) = none := by
      rw [hfind, hcontent]
      simp [Content.write, Text.utf8_inj]
    have hsize : size? d.value = some (UInt64.ofNat length) := by
      simp [size?, Described.value, hcontent, Content.write, Content.value, Value.member?, Value.asInt?]
    simp only [files?, bind, Except.bind, h, hfiles, hname, hsize, Option.getD_some, Described.entries,
      hcontent]
    rfl

/-! ### The hash -/

theorem length_hexWord (x : UInt32) : (Sha1.hexWord x).length = 8 := rfl

theorem hexDigit_of_mem_hexWord {x : UInt32} {c : Char} (h : c ∈ Sha1.hexWord x) :
    c ∈ "0123456789abcdef".toList := by
  have hall : ∀ n < 16, Text.hexDigit n ∈ "0123456789abcdef".toList := by decide
  obtain ⟨s, -, rfl⟩ := List.mem_map.1 h
  exact hall _ (Nat.mod_lt _ (by decide))

/-- A text of forty hexadecimal digits without capitals. -/
def IsHash (hash : String) : Prop :=
  hash.toList.length = 40 ∧ ∀ c ∈ hash.toList, c ∈ "0123456789abcdef".toList

theorem isHash_digest (message : Bytes) : IsHash (Sha1.digest message) := by
  rw [IsHash, Sha1.digest, String.toList_ofList]
  refine ⟨by simp [length_hexWord], fun c hc => ?_⟩
  obtain ⟨x, -, hx⟩ := List.mem_flatMap.1 hc
  exact hexDigit_of_mem_hexWord hx

example : Sha1.digest (utf8 "abc") = "a9993e364706816aba3e25717850c26c9cd0d89d" := by decide +kernel

/-! ### Reading back -/

/-- What is read of a torrent file, whatever members stand beside its information and whatever follows:
    the files that were written, and the digest of the information as it is written. -/
theorem document_read {d : Described} (hd : d.Fits) (hbeside : Beside before after) (rest : Bytes) :
    files? (document before after d.write ++ rest) = .ok d.entries ∧
      infoHash? (document before after d.write ++ rest) = .ok (Sha1.digest d.write) ∧
      IsHash (Sha1.digest d.write) := by
  have hinfo := info?_document hbeside (spells_described hd) rest
  refine ⟨files?_of_info? hinfo hd.nonempty, ?_, isHash_digest d.write⟩
  rw [infoHash?, hinfo]
  rfl

/-- A torrent of two files. -/
def movie : Described :=
  ⟨"Movie", .files [⟨["1.mkv"], 100⟩, ⟨["sub", "2.mkv"], 200⟩], 16384, utf8 "AAAAAAAAAAAAAAAAAAAA"⟩

/-- Its information between a member that is named and one that is not, and something behind it all. -/
theorem document_read_movie :
    let bs := utf8 ("d8:announce8:http://t4:infod5:filesld6:lengthi100e4:pathl5:1.mkveed6:lengthi200e" ++
      "4:pathl3:sub5:2.mkveee4:name5:Movie12:piece lengthi16384e6:pieces20:AAAAAAAAAAAAAAAAAAAAe" ++
      "2:zzi5eetail")
    files? bs = .ok [⟨"Movie/1.mkv", 100⟩, ⟨"Movie/sub/2.mkv", 200⟩] ∧
      infoHash? bs = .ok "17b17e33a269a04ff4238cc50d5142a4eaeb429d" := by
  intro bs
  let announce : Bytes := writeText (utf8 "http://t")
  let zz : Bytes := writeInt 5
  have hd : movie.Fits := ⟨by decide, by decide, by decide, by decide +kernel⟩
  have hbeside : Beside [(utf8 "announce", writeText (utf8 "announce") ++ announce)]
      [(utf8 "zz", writeText (utf8 "zz") ++ zz)] := by
    have hannounce : Spells (.value .text (.text (utf8 "http://t"))) announce :=
      .text (Bencode.spellsText_write (by decide))
    have hzz : Spells (.value .any (.int 5)) zz := .anyInt (Bencode.spellsInt_write (by decide))
    refine ⟨List.forall_mem_cons.2 ⟨?_, List.forall_mem_singleton.2 ?_⟩, by simp [Text.utf8_inj]⟩
    · refine .write (by decide) ?_ hannounce
      simp [Bencode.memberShape, members, shape, may]
    · refine .write (by decide) ?_ hzz
      simp [Bencode.memberShape, members, shape, may, must, Text.utf8_inj]
  obtain ⟨hfiles, hhash, -⟩ := document_read hd hbeside (utf8 "tail")
  have hbs : document [(utf8 "announce", writeText (utf8 "announce") ++ announce)]
      [(utf8 "zz", writeText (utf8 "zz") ++ zz)] movie.write ++ utf8 "tail" = bs := by decide +kernel
  have hentries : movie.entries = [⟨"Movie/1.mkv", 100⟩, ⟨"Movie/sub/2.mkv", 200⟩] := by decide
  have hdigest : Sha1.digest movie.write = "17b17e33a269a04ff4238cc50d5142a4eaeb429d" := by
    decide +kernel
  rw [hbs, hentries] at hfiles
  rw [hbs, hdigest] at hhash
  exact ⟨hfiles, hhash⟩

end Seedkeeper.Metainfo
