import Seedkeeper.Proofs.Traffic.Accepted
import Seedkeeper.Proofs.Traffic.TornLog

/-!
Repeated lines change nothing.

A ledger never forgets a closing (`Ledger.closings_take`), so after a run every event of the run is
`Met`: it does not count, or its closing is remembered. An event that is met leaves the ledger as it
is, whatever its other fields say and whatever comes after it. So lines may be repeated anywhere after
they first stood, and a whole log any number of times: the replay is the same, be it a failure.
-/

namespace Seedkeeper.Traffic

open Text (Bytes)
open Calendar (Zone)

variable {z : Zone} {l l' : Ledger} {e : Event} {es : List Event}

/-! ### What a ledger remembers -/

/-- Whether a ledger passes over an event: it does not count, or its closing is remembered. -/
def Ledger.Met (l : Ledger) (e : Event) : Prop := e.Counts → e.closing ∈ l.closings

theorem Ledger.Met.take_eq (h : l.Met e) : l.take z e = (.passedOver, l) := by
  by_cases hc : e.Counts
  · exact take_of_mem (h hc)
  · exact take_of_not_counts hc

/-- A ledger remembers the closings it had, and that of the event it takes in if that one counts. -/
theorem Ledger.closings_take (z : Zone) (l : Ledger) (e : Event) :
    (l.take z e).2.closings
      = if e.Counts ∧ e.closing ∉ l.closings then e.closing :: l.closings else l.closings := by
  by_cases hc : e.Counts
  · by_cases hmem : e.closing ∈ l.closings
    · rw [take_of_mem hmem, if_neg fun h => h.2 hmem]
    · rw [Ledger.take, closing?_eq, if_pos hc, if_pos ⟨hc, hmem⟩]
      simp only [if_neg hmem]
      split <;> rfl
  · rw [take_of_not_counts hc, if_neg fun h => hc h.1]

theorem Ledger.closings_subset_take (z : Zone) (l : Ledger) (e : Event) :
    l.closings ⊆ (l.take z e).2.closings := by
  intro c hc
  rw [closings_take]
  split
  · exact List.mem_cons_of_mem _ hc
  · exact hc

theorem Ledger.met_take (z : Zone) (l : Ledger) (e : Event) : (l.take z e).2.Met e := by
  intro hc
  rw [closings_take]
  by_cases hmem : e.closing ∈ l.closings
  · rw [if_neg fun h => h.2 hmem]
    exact hmem
  · rw [if_pos ⟨hc, hmem⟩]
    exact List.mem_cons_self

/-! ### Runs -/

/-- A run that does not fail goes on from the ledger after its first event. -/
theorem takeAll?_cons (h : takeAll? z l (e :: es) = some l') :
    takeAll? z (l.take z e).2 es = some l' := by
  rw [takeAll?] at h
  split at h
  · cases h
  · rename_i heq
    rw [heq]
    exact h

theorem takeAll?_append (z : Zone) (l : Ledger) (es fs : List Event) :
    takeAll? z l (es ++ fs) = (takeAll? z l es).bind (takeAll? z · fs) := by
  induction es generalizing l with
  | nil => rfl
  | cons e es ih =>
    rw [List.cons_append, takeAll?, takeAll?]
    split
    · rfl
    · exact ih _

theorem closings_subset_of_takeAll? (h : takeAll? z l es = some l') : l.closings ⊆ l'.closings := by
  induction es generalizing l with
  | nil => rw [Option.some.inj h]; exact List.Subset.refl _
  | cons e es ih =>
    exact List.Subset.trans (l.closings_subset_take z e) (ih (takeAll?_cons h))

/-- After a run all its events are met. -/
theorem met_of_takeAll? (h : takeAll? z l es = some l') : ∀ e ∈ es, l'.Met e := by
  induction es generalizing l with
  | nil => intro e he; cases he
  | cons f es ih =>
    intro e he
    rcases List.mem_cons.1 he with rfl | he
    · exact fun hc => closings_subset_of_takeAll? (takeAll?_cons h) (l.met_take z e hc)
    · exact ih (takeAll?_cons h) e he

/-- A run of events that are met leaves the ledger as it is. -/
theorem takeAll?_of_met (h : ∀ e ∈ es, l.Met e) : takeAll? z l es = some l := by
  induction es with
  | nil => rfl
  | cons e es ih =>
    rw [takeAll?, (h e List.mem_cons_self).take_eq]
    exact ih fun f hf => h f (List.mem_cons_of_mem _ hf)

/-- Whether an event says nothing new after some others: it does not count, or one of them counts and
    closes the same torrent. -/
def Event.Repeats (e : Event) (es : List Event) : Prop :=
  e.Counts → ∃ f ∈ es, f.Counts ∧ f.closing = e.closing

theorem Event.repeats_of_mem (h : e ∈ es) : e.Repeats es := fun hc => ⟨e, h, hc, rfl⟩

/-- Events that repeat earlier ones may stand in a run or not. -/
theorem takeAll?_repeated (z : Zone) (l : Ledger) (es fs gs : List Event)
    (h : ∀ f ∈ fs, f.Repeats es) :
    takeAll? z l (es ++ (fs ++ gs)) = takeAll? z l (es ++ gs) := by
  rw [takeAll?_append, takeAll?_append]
  cases hes : takeAll? z l es with
  | none => rfl
  | some l' =>
    have hmet : ∀ f ∈ fs, l'.Met f := by
      intro f hf hc
      obtain ⟨e, he, hec, hclosing⟩ := h f hf hc
      rw [← hclosing]
      exact met_of_takeAll? hes e he hec
    change takeAll? z l' (fs ++ gs) = takeAll? z l' gs
    rw [takeAll?_append, takeAll?_of_met hmet]
    rfl

/-! ### Logs -/

/-- Whether a line tells nothing new after some lines: it is one of them, or it holds an event that
    closes the same torrent as one of theirs that counts. -/
def RepeatsLine (before : List Bytes) (line : Bytes) : Prop :=
  line ∈ before ∨ ∃ earlier ∈ before, ∃ e f, Event.ofLine? line = some e ∧
    Event.ofLine? earlier = some f ∧ f.Counts ∧ f.closing = e.closing

theorem RepeatsLine.repeats {before : List Bytes} {line : Bytes} (h : RepeatsLine before line)
    (he : Event.ofLine? line = some e) : e.Repeats (before.filterMap Event.ofLine?) := by
  rcases h with hmem | ⟨earlier, hearlier, e', f, he', hf, hc, hclosing⟩
  · exact Event.repeats_of_mem (List.mem_filterMap.2 ⟨line, hmem, he⟩)
  · obtain rfl : e = e' := Option.some.inj (he.symm.trans he')
    exact fun _ => ⟨f, List.mem_filterMap.2 ⟨earlier, hearlier, hf⟩, hc, hclosing⟩

/-- Lines that tell nothing new after the lines before them may be taken out of a log. -/
theorem replay?_eq_of_repeatsLine {before inserted rest : List Bytes} {log shorter : Bytes}
    (hlog : linesOf log = before ++ (inserted ++ rest)) (hshorter : linesOf shorter = before ++ rest)
    (h : ∀ line ∈ inserted, RepeatsLine before line) : replay? z log = replay? z shorter := by
  have hrepeats : ∀ e ∈ inserted.filterMap Event.ofLine?,
      e.Repeats (before.filterMap Event.ofLine?) := by
    intro e he
    obtain ⟨line, hline, he⟩ := List.mem_filterMap.1 he
    exact (h line hline).repeats he
  rw [replay?, replay?, eventsOf_eq_filterMap_linesOf, eventsOf_eq_filterMap_linesOf, hlog, hshorter,
    List.filterMap_append, List.filterMap_append, List.filterMap_append]
  exact takeAll?_repeated z .empty _ _ _ hrepeats

/-- A log that ends with a newline has, written several times, its lines as many times. -/
theorem linesOf_flatten_replicate {log : Bytes} (h : ¬ Torn log) (n : Nat) :
    linesOf (List.replicate n log).flatten = (List.replicate n (linesOf log)).flatten := by
  induction n with
  | zero => rfl
  | succ n ih =>
    rw [List.replicate_succ, List.replicate_succ, List.flatten_cons, List.flatten_cons, ← ih,
      ← linesOf_mended_append, Log.mended_of_not_torn h]

/-- Lines that tell nothing new after the lines before them may be put there, at any place of a log and
    whatever follows: the replay is the same, and fails if it failed. So is that of a log with all its
    lines ended, written any number of times. -/
theorem replay?_repeated (z : Zone) :
    (∀ (before inserted rest : List Bytes) (log longer : Bytes), linesOf log = before ++ rest →
      linesOf longer = before ++ (inserted ++ rest) → (∀ line ∈ inserted, RepeatsLine before line) →
      replay? z longer = replay? z log) ∧
    ∀ (log : Bytes) (n : Nat), ¬ Torn log →
      replay? z (List.replicate (n + 1) log).flatten = replay? z log := by
  refine ⟨fun before inserted rest log longer hlog hlonger h =>
    replay?_eq_of_repeatsLine hlonger hlog h, fun log n hlog => ?_⟩
  have hlines := linesOf_flatten_replicate hlog (n + 1)
  rw [List.replicate_succ, List.replicate_succ, List.flatten_cons, List.flatten_cons,
    ← List.append_nil (List.replicate n (linesOf log)).flatten] at hlines
  refine replay?_eq_of_repeatsLine hlines (List.append_nil _).symm fun line hline => .inl ?_
  obtain ⟨ls, hls, hline⟩ := List.mem_flatten.1 hline
  rwa [List.eq_of_mem_replicate hls] at hline

/-- The same closing with another time, site and count. -/
def closedElsewhere : Event :=
  { closedAfterTwoDays with
    time := 1711972801
    snapshot := { closedAfterTwoDays.snapshot with site := "other.example", downloaded := 5 } }

/-- A torn line and another report of a closing are written once more, before a line that is not
    ended; and a log is written three times. -/
theorem replay?_repeated_elsewhere :
    linesOf (completeLines [[0x7B], closedAfterTwoDays.line] ++ [0x7B, 0x22])
      = [[0x7B], closedAfterTwoDays.line] ++ [[0x7B, 0x22]] ∧
    linesOf (completeLines [[0x7B], closedAfterTwoDays.line, [0x7B], closedElsewhere.line]
        ++ [0x7B, 0x22])
      = [[0x7B], closedAfterTwoDays.line] ++ ([[0x7B], closedElsewhere.line] ++ [[0x7B, 0x22]]) ∧
    (∀ line ∈ [[0x7B], closedElsewhere.line],
      RepeatsLine [[0x7B], closedAfterTwoDays.line] line) ∧
    replay? skippedMidnight (completeLines [[0x7B], closedAfterTwoDays.line, [0x7B],
        closedElsewhere.line] ++ [0x7B, 0x22])
      = replay? skippedMidnight (completeLines [[0x7B], closedAfterTwoDays.line] ++ [0x7B, 0x22]) ∧
    ¬ Torn (Log.entry closedAfterTwoDays) ∧
    replay? skippedMidnight (List.replicate 3 (Log.entry closedAfterTwoDays)).flatten
      = replay? skippedMidnight (Log.entry closedAfterTwoDays) := by
  have hbrace : 0x0A ∉ ([0x7B] : Bytes) := by decide
  have hclosed : 0x0A ∉ closedAfterTwoDays.line := closedAfterTwoDays.newline_notMem_line
  have helsewhere : 0x0A ∉ closedElsewhere.line := closedElsewhere.newline_notMem_line
  have hlog := linesOf_completeLines_append [0x7B, 0x22]
    (show ∀ line ∈ [[0x7B], closedAfterTwoDays.line], 0x0A ∉ line by simp [hbrace, hclosed])
  have hlonger := linesOf_completeLines_append [0x7B, 0x22]
    (show ∀ line ∈ [[0x7B], closedAfterTwoDays.line, [0x7B], closedElsewhere.line], 0x0A ∉ line by
      simp [hbrace, hclosed, helsewhere])
  have hinserted : ∀ line ∈ [[0x7B], closedElsewhere.line],
      RepeatsLine [[0x7B], closedAfterTwoDays.line] line := by
    intro line hline
    rcases List.mem_cons.1 hline with rfl | hline
    · exact .inl List.mem_cons_self
    · rw [List.mem_singleton.1 hline]
      refine .inr ⟨closedAfterTwoDays.line, by simp, closedElsewhere, closedAfterTwoDays,
        Event.ofLine?_line _, Event.ofLine?_line _, ?_, rfl⟩
      decide
  have hentry : ¬ Torn (Log.entry closedAfterTwoDays) := not_torn_concat _
  obtain ⟨hinsert, hwhole⟩ := replay?_repeated skippedMidnight
  exact ⟨hlog, hlonger, hinserted, hinsert _ _ _ _ _ hlog hlonger hinserted, hentry,
    hwhole _ 2 hentry⟩

end Seedkeeper.Traffic
