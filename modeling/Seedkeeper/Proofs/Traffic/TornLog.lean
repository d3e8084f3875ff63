import Seedkeeper.Proofs.Traffic.Lines

/-!
Crash safety of the stats log: a write that was cut off costs no other event and invents none.

Whatever a file holds, a log opened on it adds its events after those that the file holds
(`eventsOf_appendAll`): opening ends a torn last line, and only a torn one. What a crash leaves of an
event's line is part of it or all of it, and only all of it is read as an event.
-/

namespace Seedkeeper.Traffic

open Text (Bytes)
open Calendar (Zone)

namespace Log

/-- Events appended one after the other: the answers, and the log after them. -/
def appendAll (l : Log) : List Event → List (Except Error Unit) × Log
  | [] => ([], l)
  | e :: es =>
    let (answer, l) := l.append e
    let (answers, l) := l.appendAll es
    (answer :: answers, l)

theorem appendAll_append (l : Log) (es fs : List Event) :
    (l.appendAll (es ++ fs)).2 = ((l.appendAll es).2.appendAll fs).2 := by
  induction es generalizing l with
  | nil => rfl
  | cons e es ih => exact ih (l.append e).2

/-- To record an event is to append it and to forget how that failed. -/
theorem log_record (l : Log) (e : Event) : (l.record e).2 = (l.append e).2 := by
  rw [record]
  split <;> simp [*]

/-- An opened log adds an entry for each event. -/
theorem appendAll_opened : ∀ (content : Bytes) (es : List Event),
    appendAll ⟨.opened, .file (some content)⟩ es
      = (es.map fun _ => .ok (), ⟨.opened, .file (some (content ++ es.flatMap entry))⟩)
  | content, [] => by rw [List.flatMap_nil, List.append_nil]; rfl
  | content, e :: es => by
    have happend : append ⟨.opened, .file (some content)⟩ e
        = (.ok (), ⟨.opened, .file (some (content ++ entry e))⟩) := rfl
    rw [appendAll, happend]
    simp only [appendAll_opened (content ++ entry e) es]
    rw [List.append_assoc, List.flatMap_cons, List.map_cons]

/-- A fresh log ends a torn last line before its first entry, and does nothing without one. -/
theorem appendAll_onMedium (content : Bytes) : ∀ es : List Event,
    let appended := appendAll (onMedium (.file (some content))) es
    appended.1 = es.map (fun _ => .ok ()) ∧
      appended.2.medium
        = .file (some (if es = [] then content else mended content ++ es.flatMap entry))
  | [] => ⟨rfl, rfl⟩
  | e :: es => by
    have happend : append (onMedium (.file (some content))) e
        = (.ok (), ⟨.opened, .file (some (mended content ++ entry e))⟩) := rfl
    rw [appendAll, happend]
    simp only [appendAll_opened (mended content ++ entry e) es]
    rw [List.append_assoc, ← List.flatMap_cons, if_neg (List.cons_ne_nil e es)]
    exact ⟨rfl, rfl⟩

/-- Ending a torn last line changes no event, and what follows stands on lines of its own. -/
theorem eventsOf_mended_append (content bs : Bytes) :
    eventsOf (mended content ++ bs) = eventsOf content ++ eventsOf bs := by
  rw [eventsOf_eq_filterMap_linesOf, linesOf_mended_append, List.filterMap_append,
    ← eventsOf_eq_filterMap_linesOf, ← eventsOf_eq_filterMap_linesOf]

end Log

/-- Appended events come after those that the file held before, whatever it held. -/
theorem eventsOf_appendAll (content : Bytes) (es : List Event) :
    ∃ after, ((Log.onMedium (.file (some content))).appendAll es).2.medium = .file (some after) ∧
      eventsOf after = eventsOf content ++ es := by
  refine ⟨_, (Log.appendAll_onMedium content es).2, ?_⟩
  split
  · rename_i hes
    rw [hes, List.append_nil]
  · rw [Log.eventsOf_mended_append, eventsOf_entries]

/-! ### Crashes -/

/-- Complete lines, each with its newline. -/
def completeLines (lines : List Bytes) : Bytes := lines.flatMap (· ++ [0x0A])

theorem completeLines_cons (line : Bytes) (lines : List Bytes) :
    completeLines (line :: lines) = line ++ 0x0A :: completeLines lines := by
  rw [completeLines, List.flatMap_cons, List.append_assoc, List.singleton_append]
  rfl

/-- Complete lines are lines of a file, whatever follows them. -/
theorem linesOf_completeLines_append (rest : Bytes) : ∀ {lines : List Bytes},
    (∀ line ∈ lines, 0x0A ∉ line) → linesOf (completeLines lines ++ rest) = lines ++ linesOf rest
  | [], _ => rfl
  | line :: lines, h => by
    rw [completeLines_cons, List.append_assoc, List.cons_append, linesOf_append_cons,
      Text.pieces_eq_singleton (h line List.mem_cons_self),
      linesOf_completeLines_append rest fun l hl => h l (List.mem_cons_of_mem _ hl),
      List.singleton_append, List.cons_append]

theorem linesOf_completeLines {lines : List Bytes} (h : ∀ line ∈ lines, 0x0A ∉ line) :
    linesOf (completeLines lines) = lines := by
  have hlines := linesOf_completeLines_append [] h
  rwa [List.append_nil, linesOf_nil, List.append_nil] at hlines

theorem eventsOf_completeLines_append (bs : Bytes) : ∀ lines : List Bytes,
    eventsOf (completeLines lines ++ bs) = eventsOf (completeLines lines) ++ eventsOf bs
  | [] => rfl
  | line :: lines => by
    rw [completeLines_cons, List.append_assoc, List.cons_append, eventsOf_append_cons,
      eventsOf_append_cons, eventsOf_completeLines_append bs lines, List.append_assoc]

/-- Complete lines hold the events that they held and those of whole lines after them. -/
theorem eventsOf_completeLines_map (lines : List Bytes) (es : List Event) :
    eventsOf (completeLines (lines ++ es.map Event.line)) = eventsOf (completeLines lines) ++ es := by
  have hentries : completeLines (es.map Event.line) = es.flatMap Log.entry := List.flatMap_map ..
  have happend : completeLines (lines ++ es.map Event.line)
      = completeLines lines ++ completeLines (es.map Event.line) := List.flatMap_append ..
  rw [happend, eventsOf_completeLines_append, hentries, eventsOf_entries]

/-- A torn line holds no event; a whole one without its newline holds its event. -/
theorem eventsOf_torn {e : Event} {p : Bytes} (h : p <+: e.line) :
    eventsOf p = if p = e.line then [e] else [] := by
  split
  · rename_i hp
    rw [hp, eventsOf_line]
  · rename_i hp
    have hnewline : 0x0A ∉ p := fun hmem => e.newline_notMem_line (h.subset hmem)
    rw [eventsOf_of_newline_notMem hnewline, Event.ofLine?_eq_none_of_torn h hp]
    rfl

/-- The ledger depends on the events of the file only. -/
theorem replayMedium_congr (z : Zone) {as bs : Bytes} (h : eventsOf as = eventsOf bs) :
    replayMedium z (.file (some as)) = replayMedium z (.file (some bs)) := by
  simp only [replayMedium, Medium.read, replay?, h]

/-- A crash while an event is written leaves complete lines and a part `p` of the event's line. Then
    all events that a fresh log on the file is given are appended, and the file holds the events of
    the complete lines, the interrupted one if all of its line was written, and the appended ones: it
    is replayed as a file that was never torn. -/
theorem replayMedium_of_torn_write (lines : List Bytes) (e : Event) {p : Bytes} (h : p <+: e.line)
    (es : List Event) :
    ∃ after,
      ((Log.onMedium (.file (some (completeLines lines ++ p)))).appendAll es).1
        = es.map (fun _ => .ok ()) ∧
      ((Log.onMedium (.file (some (completeLines lines ++ p)))).appendAll es).2.medium
        = .file (some after) ∧
      (p ≠ e.line → eventsOf after = eventsOf (completeLines lines) ++ es ∧
        ∀ z, replayMedium z (.file (some after))
          = replayMedium z (.file (some (completeLines (lines ++ es.map Event.line))))) ∧
      (p = e.line → eventsOf after = eventsOf (completeLines lines) ++ e :: es ∧
        ∀ z, replayMedium z (.file (some after))
          = replayMedium z (.file (some (completeLines (lines ++ (e :: es).map Event.line))))) := by
  obtain ⟨after, hafter, hevents⟩ := eventsOf_appendAll (completeLines lines ++ p) es
  rw [eventsOf_completeLines_append, eventsOf_torn h] at hevents
  refine ⟨after, (Log.appendAll_onMedium _ es).1, hafter, fun hp => ?_, fun hp => ?_⟩
  · rw [if_neg hp, List.append_nil] at hevents
    exact ⟨hevents, fun z => replayMedium_congr z (hevents.trans (eventsOf_completeLines_map lines es).symm)⟩
  · rw [if_pos hp, List.append_assoc, List.singleton_append] at hevents
    exact ⟨hevents, fun z => replayMedium_congr z (hevents.trans (eventsOf_completeLines_map lines (e :: es)).symm)⟩

/-- A write that was cut off inside a character leaves the events before and after it. -/
theorem replayMedium_of_torn_character :
    closedAfterTwoDays.line.take 115 <+: closedAfterTwoDays.line ∧
      (closedAfterTwoDays.line.take 115).getLast? = some 0xC3 ∧
      ∃ after, ((Log.onMedium (.file (some (completeLines [closedAfterTwoDays.line] ++
          closedAfterTwoDays.line.take 115)))).appendAll [closedAfterTwoDays]).2.medium
            = .file (some after) ∧
        eventsOf after = [closedAfterTwoDays, closedAfterTwoDays] := by
  have hpart : closedAfterTwoDays.line.take 115 <+: closedAfterTwoDays.line :=
    List.take_prefix 115 _
  have hlast : (closedAfterTwoDays.line.take 115).getLast? = some 0xC3 := by decide +kernel
  have hne : closedAfterTwoDays.line.take 115 ≠ closedAfterTwoDays.line := by decide +kernel
  obtain ⟨after, _, hafter, htorn, _⟩ := replayMedium_of_torn_write [closedAfterTwoDays.line]
    closedAfterTwoDays hpart [closedAfterTwoDays]
  have hlines : eventsOf (completeLines [closedAfterTwoDays.line]) = [closedAfterTwoDays] :=
    eventsOf_completeLines_map [] [closedAfterTwoDays]
  refine ⟨hpart, hlast, after, hafter, ?_⟩
  rw [(htorn hne).1, hlines, List.singleton_append]

end Seedkeeper.Traffic
