import Mathlib.Logic.Function.Basic
import Seedkeeper.Proofs.Traffic.LogRun
import Seedkeeper.Proofs.Traffic.Outcome
import Seedkeeper.Proofs.Traffic.TornLog

/-!
The order of a log's lines does not matter.

Which event of a closing is accepted depends on the order only if two of them differ: in an
`Unambiguous` log the accepted events are those that count, each once, in any order of its lines. A
tally does not depend on the order of its bookings either, so the rows are the same as long as they
are exact, and with them every report.

Several writers that append to one file, each event in one go, leave logs of this kind: whatever turns
they take, and however many of them share a log, the file ends up with the same lines
(`Writers.linesOf_after_perm`).
-/

namespace Seedkeeper.Traffic

open Text (Bytes)
open Calendar (Zone)

/-! ### Accepted events in any order -/

/-- Events that close one torrent are one event. -/
def Unambiguous (es : List Event) : Prop :=
  ∀ e ∈ es, ∀ f ∈ es, e.Counts → f.Counts → e.closing = f.closing → e = f

instance (es : List Event) : Decidable (Unambiguous es) :=
  inferInstanceAs (Decidable (∀ _ ∈ es, ∀ _ ∈ es, _))

theorem mem_of_mem_accepted {e : Event} : ∀ {es : List Event}, e ∈ accepted es → e ∈ es ∧ e.Counts
  | [], h => by cases h
  | f :: es, h => by
    rw [accepted] at h
    split at h
    · rename_i hf
      rcases List.mem_cons.1 h with rfl | h
      · exact ⟨List.mem_cons_self, hf⟩
      · obtain ⟨hmem, hc⟩ := mem_of_mem_accepted (List.mem_of_mem_filter h)
        exact ⟨List.mem_cons_of_mem _ hmem, hc⟩
    · obtain ⟨hmem, hc⟩ := mem_of_mem_accepted h
      exact ⟨List.mem_cons_of_mem _ hmem, hc⟩

/-- No event is accepted twice. -/
theorem nodup_accepted (es : List Event) : (accepted es).Nodup := by
  induction es with
  | nil => exact .nil
  | cons e es ih =>
    rw [accepted]
    split
    · refine List.nodup_cons.2 ⟨fun hmem => ?_, ih.filter _⟩
      have hne := (List.mem_filter.1 hmem).2
      simp at hne
    · exact ih

/-- In an unambiguous log all events that count are accepted. -/
theorem mem_accepted_iff {es : List Event} (h : Unambiguous es) (e : Event) :
    e ∈ accepted es ↔ e ∈ es ∧ e.Counts := by
  refine ⟨mem_of_mem_accepted, ?_⟩
  rintro ⟨hmem, hc⟩
  induction es with
  | nil => cases hmem
  | cons f es ih =>
    have hrest : Unambiguous es := fun x hx y hy =>
      h x (List.mem_cons_of_mem _ hx) y (List.mem_cons_of_mem _ hy)
    rw [accepted]
    by_cases hf : f.Counts
    · rw [if_pos hf, List.mem_cons]
      by_cases heq : e.closing = f.closing
      · exact .inl (h e hmem f List.mem_cons_self hc hf heq)
      · have hne : e ≠ f := fun he => heq (he ▸ rfl)
        have hin : e ∈ es := (List.mem_cons.1 hmem).resolve_left hne
        exact .inr (List.mem_filter.2 ⟨ih hrest hin, by simpa using heq⟩)
    · have hne : e ≠ f := fun he => hf (he ▸ hc)
      rw [if_neg hf]
      exact ih hrest ((List.mem_cons.1 hmem).resolve_left hne)

theorem Unambiguous.perm {es fs : List Event} (h : Unambiguous es) (hp : es.Perm fs) :
    Unambiguous fs := by
  intro e he f hf
  exact h e (hp.mem_iff.2 he) f (hp.mem_iff.2 hf)

/-- The accepted events of an unambiguous log are the same in any order of its events. -/
theorem accepted_perm {es fs : List Event} (h : Unambiguous es) (hp : es.Perm fs) :
    (accepted es).Perm (accepted fs) := by
  rw [List.perm_ext_iff_of_nodup (nodup_accepted es) (nodup_accepted fs)]
  intro e
  rw [mem_accepted_iff h, mem_accepted_iff (h.perm hp), hp.mem_iff]

/-! ### Tallies in any order -/

theorem total_perm {amount : Booking → Nat} {p : Bucket → Bool} {bs cs : List Booking}
    (h : bs.Perm cs) : total amount p bs = total amount p cs :=
  ((h.filter _).map amount).sum_nat

/-- The tally of some bookings is theirs in any order. -/
theorem IsTally.perm {bs cs xs : List Booking} (h : IsTally bs xs) (hp : bs.Perm cs) :
    IsTally cs xs where
  ascending := h.ascending
  mem_iff k := (h.mem_iff k).trans (hp.map _).mem_iff
  downloaded_eq x hx := by rw [h.downloaded_eq x hx, total_perm hp]
  uploaded_eq x hx := by rw [h.uploaded_eq x hx, total_perm hp]

theorem tally_perm {bs cs : List Booking} (h : bs.Perm cs) : tally bs = tally cs :=
  ((isTally_tally bs).perm h).unique (isTally_tally cs)

/-- While every bucket's sum is exact, bookings leave the same rows in any order. -/
theorem bookAll_perm {bs cs : List Booking} (h : bs.Perm cs) (hfits : ∀ k : Bucket, Fits (· = k) bs) :
    bookAll [] bs = bookAll [] cs := by
  have hfits' : ∀ k : Bucket, Fits (· = k) cs := by
    intro k
    rw [Fits, ← total_perm h, ← total_perm h]
    exact hfits k
  rw [bookAll_eq bs hfits, bookAll_eq cs hfits', tally_perm h]

/-! ### Writers that take turns -/

/-- Several writers on one file: how far each log has got with it, and the file. -/
structure Writers where
  state : Nat → LogState
  medium : Medium

namespace Writers

/-- Writers before the first of them appends. -/
def onMedium (m : Medium) : Writers := ⟨fun _ => .unopened, m⟩

/-- One of the logs, as it stands. -/
def log (w : Writers) (i : Nat) : Log := ⟨w.state i, w.medium⟩

/-- A writer's turn: it appends an event, in one go, through the log that it uses. Writers of one
    process share a log. -/
def turn (uses : Nat → Nat) (w : Writers) (t : Nat × Event) : Writers :=
  let l := ((w.log (uses t.1)).append t.2).2
  ⟨Function.update w.state (uses t.1) l.state, l.medium⟩

/-- The writers after some turns. -/
def after (uses : Nat → Nat) (w : Writers) (turns : List (Nat × Event)) : Writers :=
  turns.foldl (turn uses) w

/-- What one writer appends in some turns, in its own order. -/
def programme (turns : List (Nat × Event)) (writer : Nat) : List Event :=
  (turns.filter (·.1 = writer)).map (·.2)

theorem count_programme (writer : Nat) (e : Event) (turns : List (Nat × Event)) :
    (programme turns writer).count e = turns.count (writer, e) := by
  induction turns with
  | nil => rfl
  | cons t ts ih =>
    obtain ⟨i, f⟩ := t
    rw [List.count_cons, ← ih, programme, programme, List.filter_cons]
    by_cases hi : i = writer
    · simp [hi, List.count_cons]
    · simp [hi]

/-- Turns in which every writer appends the same events are the same turns in some order. -/
theorem perm_of_programme {ts us : List (Nat × Event)}
    (h : ∀ writer, programme ts writer = programme us writer) : ts.Perm us := by
  rw [List.perm_iff_count]
  intro ⟨writer, e⟩
  rw [← count_programme, ← count_programme, h]

/-- Writers whose logs are not unavailable, on a file that is not torn once one of them opened it. -/
structure Sound (w : Writers) : Prop where
  writable : ∀ i, (w.log i).Writable
  whole : ∀ i, w.state i = .opened → ¬ Torn w.medium.bytes

theorem sound_onMedium (content : Option Bytes) : Sound (onMedium (.file content)) :=
  ⟨fun _ => Log.writable_onMedium content, fun _ h => by cases h⟩

/-- A turn ends a torn last line and adds an entry, whoever takes it. -/
theorem Sound.medium_turn {w : Writers} (h : w.Sound) (uses : Nat → Nat) (t : Nat × Event) :
    (w.turn uses t).medium = .file (some (Log.mended w.medium.bytes ++ Log.entry t.2)) := by
  have hlead := Log.bytes_append_lead (h.writable (uses t.1)) (h.whole (uses t.1))
  change ((w.log (uses t.1)).append t.2).2.medium = _
  rw [(h.writable (uses t.1)).append_eq t.2, hlead]
  rfl

theorem not_torn_append_entry (bs : Bytes) (e : Event) : ¬ Torn (bs ++ Log.entry e) := by
  rw [Log.entry, ← List.append_assoc]
  exact not_torn_concat _

theorem Sound.turn {w : Writers} (h : w.Sound) (uses : Nat → Nat) (t : Nat × Event) :
    (w.turn uses t).Sound := by
  have hmedium := h.medium_turn uses t
  refine ⟨fun i => ⟨?_, _, hmedium⟩, fun i _ => ?_⟩
  · change Function.update w.state (uses t.1) _ i = _ ∨ Function.update w.state (uses t.1) _ i = _
    by_cases hi : i = uses t.1
    · rw [hi, Function.update_self, (h.writable (uses t.1)).append_eq t.2]
      exact .inr rfl
    · rw [Function.update_of_ne hi]
      exact (h.writable i).state
  · rw [hmedium]
    exact not_torn_append_entry _ t.2

/-- After some turns the file holds their entries in the order of the turns. -/
theorem Sound.bytes_after {w : Writers} (h : w.Sound) (uses : Nat → Nat)
    (turns : List (Nat × Event)) (hne : turns ≠ []) :
    (w.after uses turns).medium.bytes
      = Log.mended w.medium.bytes ++ (turns.map (·.2)).flatMap Log.entry := by
  induction turns generalizing w with
  | nil => exact absurd rfl hne
  | cons t ts ih =>
    have hbytes : (w.turn uses t).medium.bytes = Log.mended w.medium.bytes ++ Log.entry t.2 := by
      rw [h.medium_turn uses t]; rfl
    by_cases hts : ts = []
    · rw [hts]
      change (w.turn uses t).medium.bytes = _
      simp [hbytes]
    · change ((w.turn uses t).after uses ts).medium.bytes = _
      rw [ih (h.turn uses t) hts, hbytes, Log.mended_of_not_torn (not_torn_append_entry _ t.2),
        List.append_assoc, List.map_cons, List.flatMap_cons]

/-- The lines of a file after some turns are those it had and those of the turns' events. -/
theorem linesOf_after (content : Option Bytes) (uses : Nat → Nat) (turns : List (Nat × Event)) :
    linesOf ((onMedium (.file content)).after uses turns).medium.bytes
      = linesOf (content.getD []) ++ turns.map (·.2.line) := by
  by_cases hne : turns = []
  · rw [hne, List.map_nil, List.append_nil]
    rfl
  · have hentries : (turns.map (·.2)).flatMap Log.entry = completeLines (turns.map (·.2.line)) := by
      rw [completeLines, List.flatMap_map, List.flatMap_map]
      rfl
    have hlines : ∀ line ∈ turns.map (·.2.line), 0x0A ∉ line := by
      intro line hline
      obtain ⟨t, _, rfl⟩ := List.mem_map.1 hline
      exact t.2.newline_notMem_line
    rw [(sound_onMedium content).bytes_after uses turns hne, linesOf_mended_append, hentries,
      linesOf_completeLines hlines]
    rfl

/-- Writers that append the same events leave the same lines, whatever turns they take. -/
theorem linesOf_after_perm (content : Option Bytes) (uses : Nat → Nat) {ts us : List (Nat × Event)}
    (h : ∀ writer, programme ts writer = programme us writer) :
    (linesOf ((onMedium (.file content)).after uses ts).medium.bytes).Perm
      (linesOf ((onMedium (.file content)).after uses us).medium.bytes) := by
  rw [linesOf_after, linesOf_after]
  exact ((perm_of_programme h).map _).append_left _

end Writers

/-! ### Replays -/

/-- Two logs with the same lines, in any order, are replayed to the same rows and reports: if events
    that close one torrent are one event, no bucket's shares leave the signed range, and the zone has
    dates for them, then both replays succeed, the rows are shown, and they are the same, as is every
    report, be it a failure. Whatever turns some writers take to append their events to a file, they
    leave the same lines. -/
theorem replay?_perm (z : Zone) :
    (∀ as bs : Bytes, (linesOf as).Perm (linesOf bs) → Unambiguous (eventsOf as) →
      (∀ k : Bucket, Fits (· = k) (bookingsOf z as)) → replay? z as ≠ none →
      ∃ l l' rows, replay? z as = some l ∧ replay? z bs = some l' ∧
        l.shownRows = .ok rows ∧ l'.shownRows = .ok rows ∧
        ∀ client today, l.summarize client today = l'.summarize client today) ∧
    ∀ (content : Option Bytes) (uses : Nat → Nat) (ts us : List (Nat × Event)),
      (∀ writer, Writers.programme ts writer = Writers.programme us writer) →
      (linesOf ((Writers.onMedium (.file content)).after uses ts).medium.bytes).Perm
        (linesOf ((Writers.onMedium (.file content)).after uses us).medium.bytes) := by
  refine ⟨fun as bs hlines hone hfits hdates => ?_, fun content uses ts us h =>
    Writers.linesOf_after_perm content uses h⟩
  have hevents : (eventsOf as).Perm (eventsOf bs) := by
    rw [eventsOf_eq_filterMap_linesOf, eventsOf_eq_filterMap_linesOf]
    exact hlines.filterMap _
  have haccepted := accepted_perm hone hevents
  have hdates' : replay? z bs ≠ none := by
    intro hnone
    obtain ⟨e, he, hout⟩ := replay?_eq_none_iff.1 hnone
    exact hdates (replay?_eq_none_iff.2 ⟨e, haccepted.mem_iff.2 he, hout⟩)
  obtain ⟨l, hl⟩ := Option.ne_none_iff_exists'.1 hdates
  obtain ⟨l', hl'⟩ := Option.ne_none_iff_exists'.1 hdates'
  obtain ⟨rows, hrows⟩ := exists_shownRows hl hfits
  have hsame : l.rows = l'.rows := by
    rw [eq_of_replay? hl, eq_of_replay? hl']
    exact bookAll_perm (haccepted.flatMap_right _) hfits
  refine ⟨l, l', rows, hl, hl', hrows, ?_, fun client today => ?_⟩
  · rw [Ledger.shownRows, ← hsame]
    exact hrows
  · rw [Ledger.summarize, Ledger.summarize, hsame]

/-- A log with a torn line, a closing that is written twice and another one. -/
def mixedLines : List Bytes :=
  [[0x7B]] ++ [closedAfterTwoDays, quarterWord "s" "h", closedAfterTwoDays].map Event.line

/-- Its lines may stand in reverse; and two writers of a process may take turns either way. -/
theorem replay?_perm_mixedLines :
    (linesOf (completeLines mixedLines)).Perm (linesOf (completeLines mixedLines.reverse)) ∧
    Unambiguous (eventsOf (completeLines mixedLines)) ∧
    (∀ k : Bucket, Fits (· = k) (bookingsOf skippedMidnight (completeLines mixedLines))) ∧
    replay? skippedMidnight (completeLines mixedLines) ≠ none ∧
    (∃ l l' rows, replay? skippedMidnight (completeLines mixedLines) = some l ∧
      replay? skippedMidnight (completeLines mixedLines.reverse) = some l' ∧
      l.shownRows = .ok rows ∧ l'.shownRows = .ok rows ∧
      ∀ client today, l.summarize client today = l'.summarize client today) ∧
    (∀ writer, Writers.programme [(0, closedAfterTwoDays), (1, quarterWord "s" "h")] writer
      = Writers.programme [(1, quarterWord "s" "h"), (0, closedAfterTwoDays)] writer) ∧
    (linesOf ((Writers.onMedium (.file (some [0x7B]))).after (fun _ => 0)
        [(0, closedAfterTwoDays), (1, quarterWord "s" "h")]).medium.bytes).Perm
      (linesOf ((Writers.onMedium (.file (some [0x7B]))).after (fun _ => 0)
        [(1, quarterWord "s" "h"), (0, closedAfterTwoDays)]).medium.bytes) := by
  have hnewline : ∀ line ∈ mixedLines, 0x0A ∉ line := by
    intro line hline
    rcases List.mem_append.1 hline with hline | hline
    · rw [List.mem_singleton.1 hline]
      decide
    · obtain ⟨e, _, rfl⟩ := List.mem_map.1 hline
      exact e.newline_notMem_line
  have hlines : (linesOf (completeLines mixedLines)).Perm
      (linesOf (completeLines mixedLines.reverse)) := by
    rw [linesOf_completeLines hnewline, linesOf_completeLines fun line hline =>
      hnewline line (List.mem_reverse.1 hline)]
    exact (List.reverse_perm mixedLines).symm
  have hevents : eventsOf (completeLines mixedLines)
      = [closedAfterTwoDays, quarterWord "s" "h", closedAfterTwoDays] := by
    have htorn : eventsOf (completeLines [[0x7B]]) = [] := by decide +kernel
    rw [mixedLines, eventsOf_completeLines_map, htorn, List.nil_append]
  have hone : Unambiguous (eventsOf (completeLines mixedLines)) := by
    rw [hevents]
    decide +kernel
  have hdown : ((bookingsOf skippedMidnight (completeLines mixedLines)).map (·.downloaded)).sum
      < 2 ^ 63 := by
    rw [bookingsOf, hevents]
    decide +kernel
  have hup : ((bookingsOf skippedMidnight (completeLines mixedLines)).map (·.uploaded)).sum
      < 2 ^ 63 := by
    rw [bookingsOf, hevents]
    decide +kernel
  have hfits : ∀ k : Bucket,
      Fits (· = k) (bookingsOf skippedMidnight (completeLines mixedLines)) :=
    fun k => ⟨Nat.lt_of_le_of_lt (total_le _) hdown, Nat.lt_of_le_of_lt (total_le _) hup⟩
  have hdates : replay? skippedMidnight (completeLines mixedLines) ≠ none := by
    rw [Ne, replay?_eq_none_iff, hevents]
    decide +kernel
  have hturns : ∀ writer, Writers.programme [(0, closedAfterTwoDays), (1, quarterWord "s" "h")] writer
      = Writers.programme [(1, quarterWord "s" "h"), (0, closedAfterTwoDays)] writer := by
    intro writer
    by_cases h₀ : 0 = writer
    · subst h₀
      rfl
    · by_cases h₁ : 1 = writer
      · subst h₁
        rfl
      · simp [Writers.programme, h₀, h₁]
  obtain ⟨hreplay, hwriters⟩ := replay?_perm skippedMidnight
  exact ⟨hlines, hone, hfits, hdates, hreplay _ _ hlines hone hfits hdates, hturns,
    hwriters (some [0x7B]) (fun _ => 0) _ _ hturns⟩

end Seedkeeper.Traffic
