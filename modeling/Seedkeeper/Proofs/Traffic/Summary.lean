import Seedkeeper.Proofs.Traffic.Accepted
import Seedkeeper.Traffic.Report

/-!
Reports on a ledger whose rows are a tally.

The rows a report concerns are told by their buckets alone: those of its client, in its window and of
its group. So a report's sums are totals of the tally, and with it of the bookings behind it; and as
long as these stay in the signed range, every sum is exact and every report succeeds.
-/

namespace Seedkeeper.Traffic

open Calendar (Date Zone)

/-! ### Sums of counters -/

theorem add_start {m n : Nat} (h : m + n < 2 ^ 63) :
    Sum.add (.exact (Int64.ofNat m)) (.start n) = .exact (Int64.ofNat (m + n)) := by
  obtain ⟨hm, hn, hfits⟩ := words_of_add_lt h
  rw [start_eq_exact, Sum.add]
  simp only [hm, hn, hfits, if_true]
  rfl

theorem foldl_add_start : ∀ (ns : List Nat) {m : Nat}, m + ns.sum < 2 ^ 63 →
    (ns.map Counter.start).foldl Sum.add (.exact (Int64.ofNat m))
      = .exact (Int64.ofNat (m + ns.sum))
  | [], _, _ => rfl
  | n :: ns, m, h => by
    rw [List.sum_cons, ← Nat.add_assoc] at h
    rw [List.map_cons, List.foldl_cons, add_start (by omega), foldl_add_start ns h, List.sum_cons,
      Nat.add_assoc]

/-- Counters that start with some amounts sum up to these amounts' sum, in the signed range. -/
theorem sumOf_start {ns : List Nat} (h : ns.sum < 2 ^ 63) :
    Sum.of (ns.map Counter.start) = .exact (Int64.ofNat ns.sum) := by
  have := foldl_add_start ns (show 0 + ns.sum < 2 ^ 63 by omega)
  rwa [Nat.zero_add] at this

/-! ### Ascending texts -/

theorem mem_insertText (s t : String) : ∀ ts : List String, t ∈ insertText s ts ↔ t = s ∨ t ∈ ts
  | [] => by simp [insertText]
  | u :: ts => by
    rw [insertText]
    split
    · rename_i he
      subst he
      simp
    · split
      · exact List.mem_cons
      · rw [List.mem_cons, mem_insertText s t ts, List.mem_cons]
        tauto

theorem insertText_pairwise (s : String) : ∀ {ts : List String}, ts.Pairwise (· < ·) →
    (insertText s ts).Pairwise (· < ·)
  | [], _ => List.pairwise_singleton _ _
  | u :: ts, h => by
    have h' := List.pairwise_cons.1 h
    rw [insertText]
    split
    · exact h
    · rename_i hne
      split
      · rename_i hlt
        refine List.pairwise_cons.2 ⟨fun t ht => ?_, h⟩
        rcases List.mem_cons.1 ht with rfl | ht
        · exact hlt
        · exact hlt.trans (h'.1 t ht)
      · rename_i hnlt
        refine List.pairwise_cons.2 ⟨fun t ht => ?_, insertText_pairwise s h'.2⟩
        rcases (mem_insertText s t ts).1 ht with rfl | ht
        · exact lt_of_le_of_ne (not_lt.1 hnlt) (Ne.symm hne)
        · exact h'.1 t ht

theorem ascendingTexts_concat (ss : List String) (s : String) :
    ascendingTexts (ss ++ [s]) = insertText s (ascendingTexts ss) := by
  rw [ascendingTexts, List.foldl_append]; rfl

theorem mem_ascendingTexts (t : String) (ss : List String) : t ∈ ascendingTexts ss ↔ t ∈ ss := by
  induction ss using List.reverseRecOn with
  | nil => exact Iff.rfl
  | append_singleton ss s ih =>
    rw [ascendingTexts_concat, mem_insertText, ih, List.mem_append, List.mem_singleton, or_comm]

theorem ascendingTexts_pairwise (ss : List String) : (ascendingTexts ss).Pairwise (· < ·) := by
  induction ss using List.reverseRecOn with
  | nil => exact .nil
  | append_singleton ss s ih => rw [ascendingTexts_concat]; exact insertText_pairwise s ih

/-! ### Reports -/

/-- What a bucket is grouped by. -/
def Bucket.group (client : Option String) (k : Bucket) : String :=
  if client.isSome then k.site else k.client

/-- Whether a report over a timespan looks at a bucket. -/
def Bucket.inReport (client : Option String) (span : Timespan) (today : Date) (k : Bucket) : Bool :=
  (match client with
    | none => true
    | some c => k.client == c) && span.covers today k.day

/-- Whether a bucket belongs to a group's report. -/
def Bucket.concerns (client : Option String) (span : Timespan) (today : Date) (group : String)
    (k : Bucket) : Bool :=
  k.inReport client span today && k.group client == group

/-- The reports over a timespan, from the entries of a tally. -/
def spanReports (client : Option String) (today : Date) (xs : List Booking) (span : Timespan) :
    List Report :=
  (ascendingTexts ((xs.filter (·.bucket.inReport client span today)).map
    (·.bucket.group client))).map fun g =>
      ⟨g, span, .ofNat (total (·.downloaded) (Bucket.concerns client span today g) xs),
        .ofNat (total (·.uploaded) (Bucket.concerns client span today g) xs)⟩

variable {client : Option String} {today : Date} {span : Timespan} {xs bs : List Booking}

theorem reportOf_map_row {g : String} (hd : (xs.map (·.downloaded)).sum < 2 ^ 63)
    (hu : (xs.map (·.uploaded)).sum < 2 ^ 63) :
    reportOf g span (xs.map Booking.row)
      = .ok ⟨g, span, .ofNat (xs.map (·.downloaded)).sum, .ofNat (xs.map (·.uploaded)).sum⟩ := by
  have hd' : Sum.of ((xs.map Booking.row).map (·.downloaded))
      = .exact (Int64.ofNat (xs.map (·.downloaded)).sum) := by
    rw [← sumOf_start hd, List.map_map, List.map_map]; rfl
  have hu' : Sum.of ((xs.map Booking.row).map (·.uploaded))
      = .exact (Int64.ofNat (xs.map (·.uploaded)).sum) := by
    rw [← sumOf_start hu, List.map_map, List.map_map]; rfl
  rw [reportOf, hd', hu']
  rfl

theorem rowsFor_map_row :
    rowsFor client span today (xs.map Booking.row)
      = (xs.filter (·.bucket.inReport client span today)).map Booking.row := by
  rw [rowsFor, List.filter_map]
  rfl

/-- A report over a timespan asks for one report on the entries of each group. -/
theorem reportsOver_map_row_eq :
    reportsOver client today (xs.map Booking.row) span
      = (ascendingTexts ((xs.filter (·.bucket.inReport client span today)).map
          (·.bucket.group client))).mapM fun g =>
        reportOf g span
          ((xs.filter fun x => x.bucket.concerns client span today g).map Booking.row) := by
  rw [reportsOver, rowsFor_map_row, List.map_map]
  have hfilter : ∀ g, (((xs.filter (·.bucket.inReport client span today)).map Booking.row).filter
      (groupOf client · == g)) = (xs.filter (fun x => x.bucket.concerns client span today g)).map
        Booking.row := by
    intro g
    rw [List.filter_map, List.filter_filter]
    refine congrArg _ (List.filter_congr fun x _ => ?_)
    rw [Bucket.concerns, Bool.and_comm]
    rfl
  simp only [hfilter]
  rfl

/-- A report over a timespan succeeds with the tally's totals. -/
theorem reportsOver_map_row
    (h : ∀ g, total (·.downloaded) (Bucket.concerns client span today g) xs < 2 ^ 63 ∧
      total (·.uploaded) (Bucket.concerns client span today g) xs < 2 ^ 63) :
    reportsOver client today (xs.map Booking.row) span = .ok (spanReports client today xs span) := by
  rw [reportsOver_map_row_eq, spanReports]
  exact mapM_eq_ok fun g _ => reportOf_map_row (h g).1 (h g).2

/-- All reports on a tally, in the order of timespans. -/
theorem summarize_map_row (client : Option String) (today : Date) (xs : List Booking)
    (closings : List Closing)
    (h : ∀ span g, total (·.downloaded) (Bucket.concerns client span today g) xs < 2 ^ 63 ∧
      total (·.uploaded) (Bucket.concerns client span today g) xs < 2 ^ 63) :
    (Ledger.mk (xs.map Booking.row) closings).summarize client today
      = .ok (Timespan.all.flatMap (spanReports client today xs)) := by
  rw [Ledger.summarize, mapM_eq_ok fun span _ => reportsOver_map_row (h span)]
  rfl

/-- A group is reported if an entry belongs to its report. -/
theorem mem_groups_iff (g : String) :
    g ∈ ascendingTexts ((xs.filter (·.bucket.inReport client span today)).map
      (·.bucket.group client)) ↔ ∃ x ∈ xs, x.bucket.concerns client span today g := by
  rw [mem_ascendingTexts, List.mem_map]
  simp only [List.mem_filter, Bucket.concerns, Bool.and_eq_true, beq_iff_eq, and_assoc]

/-- Of all reports, those over one timespan. -/
theorem filter_span_flatMap (span : Timespan) :
    (Timespan.all.flatMap (spanReports client today xs)).filter (·.span = span)
      = spanReports client today xs span := by
  have hspan : ∀ s : Timespan, (spanReports client today xs s).filter (·.span = span)
      = if s = span then spanReports client today xs s else [] := by
    intro s
    split
    · rename_i he
      refine List.filter_eq_self.2 fun r hr => ?_
      obtain ⟨g, _, rfl⟩ := List.mem_map.1 hr
      simpa using he
    · rename_i hne
      refine List.filter_eq_nil_iff.2 fun r hr => ?_
      obtain ⟨g, _, rfl⟩ := List.mem_map.1 hr
      simpa using hne
  rw [List.filter_flatMap]
  simp only [Timespan.all, List.flatMap_cons, List.flatMap_nil, hspan]
  cases span <;> simp

end Seedkeeper.Traffic
