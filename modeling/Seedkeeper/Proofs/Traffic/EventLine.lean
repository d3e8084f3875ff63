import Seedkeeper.Proofs.Json.Document
import Seedkeeper.Proofs.Json.Records
import Seedkeeper.Traffic.Log

/-!
Lines of events: an event is read back from its line, and from no part of it that stops earlier.

The line of an event is a compact object without control characters, and blanks around it do not
matter (`Event.ofLine?_blanks_line`). It ends with its only way to close, a brace. A part that stops
before the brace leaves the outermost object open, wherever it stops: inside a character, an escape, a
number or between two tokens. Lines hold no newline, so the events of a log are those of what stands
before and after any of its newlines.
-/

namespace Seedkeeper.Traffic

open Text (Bytes)
open Json (Proper)

namespace Event

/-! ### What is written -/

theorem proper_ofText (s : String) : Proper (.ofText s) := .string (Json.spelled_escape _)

theorem proper_ofInt (n : Int) : Proper (.ofInt n) := .number (Json.numeral_intBytes n)

theorem proper_ofNat (n : Nat) : Proper (.ofNat n) := .number (Json.numeral_natBytes n)

/-- A record with well-formed values is a well-formed document. -/
theorem proper_members (names : List String) (vs : List Json) (h : ∀ v ∈ vs, Proper v) :
    Proper (.object (Json.members names vs)) := by
  refine .object (fun m hm => ?_) fun m hm => h m.2 (List.of_mem_zip hm).2
  obtain ⟨n, _, hn⟩ := List.mem_map.1 (List.of_mem_zip hm).1
  rw [← hn]
  exact Json.spelled_escape _

/-- The names of a snapshot's fields, in declared order. -/
def snapshotNames : List String :=
  ["client", "site", "category", "infoHash", "name", "size", "atime", "uploaded", "downloaded",
    "msg"]

/-- The values of a snapshot's fields, in declared order. -/
def snapshotValues (s : Snapshot) : List Json :=
  [.ofText s.client, .ofText s.site, .ofText s.category, .ofText s.infoHash, .ofText s.name,
    .ofNat s.size.toNat, .ofInt s.addedAt.toInt, .ofNat s.uploaded.toNat,
    .ofNat s.downloaded.toNat, .ofText s.message]

theorem snapshotJson_eq (s : Snapshot) :
    snapshotJson s = .object (Json.members snapshotNames (snapshotValues s)) := rfl

theorem toJson_eq (e : Event) : e.toJson = .object (Json.members ["ts", "event", "data"]
    [.ofInt e.time.toInt, .ofInt e.kind.toInt, snapshotJson e.snapshot]) := rfl

theorem proper_snapshotJson (s : Snapshot) : Proper (snapshotJson s) := by
  rw [snapshotJson_eq]
  refine proper_members _ _ ?_
  simp [snapshotValues, proper_ofText, proper_ofNat, proper_ofInt]

theorem proper_toJson (e : Event) : Proper e.toJson := by
  rw [toJson_eq]
  refine proper_members _ _ ?_
  simp [proper_ofInt, proper_snapshotJson]

/-! ### What is read back -/

theorem snapshot?_snapshotJson (s : Snapshot) : snapshot? (snapshotJson s) = some s := by
  have hfields : Json.fields? snapshotNames (snapshotJson s) = some ((snapshotValues s).map some) :=
    Json.fields?_object snapshotNames (snapshotValues s) (by decide) rfl
  rw [snapshot?, ← snapshotNames, hfields]
  simp [snapshotValues, Record.optional, Record.required, Json.asText_ofText, Json.asNat64_toNat,
    Json.asInt64_toInt]

theorem ofJson?_toJson (e : Event) : ofJson? e.toJson = some e := by
  rw [ofJson?, toJson_eq, Json.fields?_object _ _ (by decide) rfl]
  simp [Record.required, Json.asInt64_toInt, Json.asInt32_toInt, snapshot?_snapshotJson]

/-- An event is read back from its line. -/
theorem ofLine?_line (e : Event) : ofLine? e.line = some e := by
  rw [ofLine?, line, Json.read?_compact (proper_toJson e), Option.bind_some, ofJson?_toJson]

/-- Whatever an event holds, its line has no control characters, and the same event is read back from
    it with any blanks before and after it. -/
theorem ofLine?_blanks_line (e : Event) :
    (∀ b ∈ e.line, 0x20 ≤ b) ∧ ∀ before after : Bytes, Json.Blanks before → Json.Blanks after →
      ofLine? (before ++ e.line ++ after) = some e := by
  constructor
  · exact (proper_toJson e).le_of_mem
  · intro before after hbefore hafter
    rw [ofLine?, line, Json.read?_blanks_compact (proper_toJson e) hbefore hafter, Option.bind_some,
      ofJson?_toJson]

/-- An event with the limits of its numbers, and with texts that are nothing but escapes, hold
    characters of every length, or look like a line themselves. -/
def atLimits : Event :=
  ⟨-9223372036854775808, -2147483648,
    { client := "\"\\\n\r\t", site := "\x00\x08\x0c\x1f\x7f", category := "é₤😀"
      infoHash := "\x7b\"ts\":1\x7d", name := "", size := 18446744073709551615
      addedAt := 9223372036854775807, uploaded := 18446744073709551615, downloaded := 0
      message := "\\u0041" }⟩

/-- Such an event is read back from its line between blanks. -/
theorem ofLine?_blanks_line_atLimits :
    Json.Blanks [0x20, 0x09] ∧ Json.Blanks [0x0D, 0x0A] ∧ (∀ b ∈ atLimits.line, 0x20 ≤ b) ∧
      ofLine? ([0x20, 0x09] ++ atLimits.line ++ [0x0D, 0x0A]) = some atLimits := by
  have hbefore : Json.Blanks [0x20, 0x09] := Json.blanks_of_all rfl
  have hafter : Json.Blanks [0x0D, 0x0A] := Json.blanks_of_all rfl
  obtain ⟨hline, hread⟩ := ofLine?_blanks_line atLimits
  exact ⟨hbefore, hafter, hline, hread _ _ hbefore hafter⟩

theorem newline_notMem_line (e : Event) : 0x0A ∉ e.line := (proper_toJson e).newline_notMem

/-! ### What is torn -/

theorem getLast?_line (e : Event) : e.line.getLast? = some 0x7D := by
  rw [line, toJson, Json.compact, List.getLast?_concat]

/-- No event is read from a part of a line that stops early. -/
theorem ofLine?_eq_none_of_torn {e : Event} {p : Bytes} (h : p <+: e.line) (hne : p ≠ e.line) :
    ofLine? p = none := by
  obtain ⟨q, hq⟩ := h
  have hbrace : 0x7D ∈ q := by
    cases hlast : q.getLast? with
    | none =>
      rw [List.getLast?_eq_none_iff.1 hlast, List.append_nil] at hq
      exact absurd hq hne
    | some b =>
      have hline := getLast?_line e
      rw [← hq, List.getLast?_append, hlast, Option.some_or] at hline
      rw [← Option.some.inj hline]
      exact List.mem_of_getLast? hlast
  have hread : Json.read? (p ++ q) = some e.toJson := by
    rw [hq]; exact Json.read?_compact (proper_toJson e)
  rw [ofLine?, Json.read?_eq_none_of_append hread hbrace]
  rfl

end Event

/-! ### Events of a log -/

theorem eventsOf_nil : eventsOf [] = [] := rfl

/-- A newline separates the events of a log. -/
theorem eventsOf_append_cons (as bs : Bytes) :
    eventsOf (as ++ 0x0A :: bs) = eventsOf as ++ eventsOf bs := by
  rw [eventsOf, Text.pieces_append_cons, List.filterMap_append]
  rfl

/-- One line holds one event at most. -/
theorem eventsOf_of_newline_notMem {bs : Bytes} (h : 0x0A ∉ bs) :
    eventsOf bs = (Event.ofLine? bs).toList := by
  rw [eventsOf, Text.pieces_eq_singleton h, List.filterMap_cons]
  cases Event.ofLine? bs <;> rfl

theorem eventsOf_line (e : Event) : eventsOf e.line = [e] := by
  rw [eventsOf_of_newline_notMem e.newline_notMem_line, Event.ofLine?_line]
  rfl

/-- The entries of events hold these events. -/
theorem eventsOf_entries : ∀ es : List Event, eventsOf (es.flatMap Log.entry) = es
  | [] => eventsOf_nil
  | e :: es => by
    rw [List.flatMap_cons, Log.entry, List.append_assoc, List.singleton_append,
      eventsOf_append_cons, eventsOf_line, eventsOf_entries es, List.singleton_append]

/-- The closing of a torrent after two days; its name holds a character of two bytes. -/
def closedAfterTwoDays : Event :=
  ⟨1711972800, Event.closed,
    { client := "qb", site := "tracker.example", category := "", infoHash := "aa", name := "Zoé"
      size := 1, addedAt := 1711800000, uploaded := 48, downloaded := 172800, message := "" }⟩

end Seedkeeper.Traffic
