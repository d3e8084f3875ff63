import Seedkeeper.Proofs.Traffic.Stretches

/-!
Splitting traffic by day: what comes out, and that words of a machine are wide enough for it.

`splitByDay?` counts with unbounded numbers. `splitInWords` is the same loop with every result held
to the word a machine keeps it in (64 bits for times and counters, 128 for the product of a counter
and a time) and with a limit on its rounds. It finishes within one round for each whole day and four
more, without ever leaving a word, and finds the same days. They are consecutive dates from the one
on which the time begins, and their shares add up to the totals.
-/

namespace Seedkeeper.Traffic

open Calendar (Date Zone LocalDate readable daySeconds)
open Number (minInt64 maxInt64 maxNat64)

/-! ### The loop in words -/

/-- How the loop can go wrong on a machine. -/
inductive WordFault where
  /-- A result lies outside its word. -/
  | outOfWord
  /-- The loop goes on after the rounds it was given. -/
  | outOfRounds
  deriving DecidableEq

/-- A result that has to lie between the bounds of its word. -/
def held (low high n : Int) : Except WordFault Int :=
  if low ≤ n ∧ n ≤ high then .ok n else .error .outOfWord

/-- A result in 64 bits with a sign. -/
def heldInt64 : Int → Except WordFault Int := held minInt64 maxInt64

/-- A result in 128 bits with a sign. -/
def heldInt128 : Int → Except WordFault Int := held (-2 ^ 127) (2 ^ 127 - 1)

/-- A result in 64 bits without a sign. -/
def heldNat64 : Int → Except WordFault Int := held 0 maxNat64

/-- `flowed`, in words; division drops the fraction. -/
def flowedInWords (total : Nat) (first moment elapsed : Int) : Except WordFault Int := do
  let passed ← heldInt64 (moment - first)
  let product ← heldInt128 (total * passed)
  let part ← heldInt128 (product.tdiv elapsed)
  heldNat64 part

/-- The share of the time from `start` to `stop`, in words. -/
def shareInWords (total : Nat) (first elapsed start stop : Int) : Except WordFault Nat := do
  let until_ ← flowedInWords total first stop elapsed
  let before ← flowedInWords total first start elapsed
  return (← heldNat64 (until_ - before)).toNat

/-- `walk`, in words and with a limit on its rounds. -/
def walkInWords (z : Zone) (first stop : Int) (downloaded uploaded : Nat) :
    Nat → Int → Except WordFault Walk
  | 0, start => if start < stop then .error .outOfRounds else .ok (.days [])
  | rounds + 1, start =>
    if start < stop then
      match z.localDate start with
      | .unreadable => .ok .unreadable
      | .outside => .ok .outside
      | .on day => do
        let next ← heldInt64 (dayEnd z day start stop)
        let elapsed ← heldInt64 (stop - first)
        let down ← shareInWords downloaded first elapsed start next
        let up ← shareInWords uploaded first elapsed start next
        let rest ← walkInWords z first stop downloaded uploaded rounds next
        return .cons ⟨day, down, up⟩ rest
    else .ok (.days [])

/-- `splitByDay?`, in words and with a limit on its rounds. -/
def splitInWords (z : Zone) (rounds : Nat) (addedAt time : Int64) (downloaded uploaded : UInt64) :
    Except WordFault (Option (List DayShare)) :=
  match Event.span? addedAt time with
  | none => .ok (some [])
  | some elapsed =>
    if 0 < elapsed ∧ elapsed ≤ maxSpan then do
      match ← walkInWords z addedAt.toInt time.toInt downloaded.toNat uploaded.toNat rounds
          addedAt.toInt with
      | .days ds => return some ds
      | .unreadable => return some []
      | .outside => return none
    else .ok (some [])

theorem held_eq {low high n : Int} (h₁ : low ≤ n) (h₂ : n ≤ high) : held low high n = .ok n :=
  if_pos ⟨h₁, h₂⟩

theorem flowed_cast (total : Nat) {passed elapsed : Int} (h₀ : 0 ≤ passed) (h₁ : 0 < elapsed) :
    (flowed total passed elapsed : Int) = total * passed / elapsed :=
  Int.toNat_of_nonneg (Int.ediv_nonneg (Int.mul_nonneg (by omega) h₀) (by omega))

/-- No step of `flowed` leaves its word, for a counter of 64 bits and a span of 63. -/
theorem flowedInWords_eq {total : Nat} {first moment elapsed : Int} (ht : total < 2 ^ 64)
    (h₀ : first ≤ moment) (h₁ : moment - first ≤ elapsed) (h₂ : 0 < elapsed)
    (h₃ : elapsed < 2 ^ 63) :
    flowedInWords total first moment elapsed = .ok (flowed total (moment - first) elapsed) := by
  have hle : flowed total (moment - first) elapsed ≤ total := by
    have := flowed_mono total h₂ h₁
    rwa [flowed_self total h₂] at this
  have hcast := flowed_cast total (show 0 ≤ moment - first by omega) h₂
  have hnonneg : 0 ≤ (total : Int) * (moment - first) := Int.mul_nonneg (by omega) (by omega)
  have hprod : (total : Int) * (moment - first) ≤ (2 ^ 64 - 1) * (2 ^ 63 - 1) :=
    Int.mul_le_mul (by omega) (by omega) (by omega) (by omega)
  have hpassed : heldInt64 (moment - first) = .ok (moment - first) :=
    held_eq (by simp only [minInt64]; omega) (by simp only [maxInt64]; omega)
  have hproduct : heldInt128 (total * (moment - first)) = .ok (total * (moment - first)) :=
    held_eq (by omega) (by omega)
  have hpart : heldInt128 (flowed total (moment - first) elapsed)
      = .ok (flowed total (moment - first) elapsed) := held_eq (by omega) (by omega)
  have hword : heldNat64 (flowed total (moment - first) elapsed)
      = .ok (flowed total (moment - first) elapsed) :=
    held_eq (by omega) (by simp only [maxNat64]; omega)
  rw [flowedInWords, hpassed]
  simp only [bind, Except.bind]
  rw [hproduct]
  simp only
  rw [Int.tdiv_eq_ediv_of_nonneg hnonneg, ← hcast, hpart]
  exact hword

/-- The share of a stretch stays in its word. -/
theorem shareInWords_eq {total : Nat} {first stop : Int} {s : Stretch} (ht : total < 2 ^ 64)
    (h₀ : first ≤ s.start) (h₁ : s.start ≤ s.stop) (h₂ : s.stop ≤ stop) (h₃ : first < stop)
    (h₄ : stop - first < 2 ^ 63) :
    shareInWords total first (stop - first) s.start s.stop = .ok (s.share first stop total) := by
  have hmono : flowed total (s.start - first) (stop - first)
      ≤ flowed total (s.stop - first) (stop - first) := flowed_mono total (by omega) (by omega)
  have hle : flowed total (s.stop - first) (stop - first) ≤ total := by
    have := flowed_mono total (show 0 < stop - first by omega)
      (show s.stop - first ≤ stop - first by omega)
    rwa [flowed_self total (by omega)] at this
  rw [shareInWords, flowedInWords_eq ht (by omega) (by omega) (by omega) h₄]
  simp only [bind, Except.bind]
  rw [flowedInWords_eq ht h₀ (by omega) (by omega) h₄]
  simp only
  rw [heldNat64, held_eq (by omega) (by simp only [maxNat64]; omega)]
  simp only [pure, Except.pure, Stretch.share]
  congr 1
  omega

/-- A walk over stretches takes one round for each, and stays in its words. -/
theorem walkInWords_eq {z : Zone} {first stop start : Int} {downloaded uploaded : Nat}
    {ss : List Stretch} (hd : downloaded < 2 ^ 64) (hu : uploaded < 2 ^ 64)
    (hfirst : minInt64 ≤ first) (hlt : first < stop) (hstop : stop ≤ maxInt64)
    (hspan : stop - first < 2 ^ 63) (h : Stretches z stop start ss) :
    first ≤ start → ∀ {rounds : Nat}, ss.length ≤ rounds →
    walkInWords z first stop downloaded uploaded rounds start
      = .ok (.days (ss.map (Stretch.traffic first stop downloaded uploaded))) := by
  induction h with
  | done => 
    intro _ rounds _
    cases rounds <;> rw [walkInWords, if_neg (Int.lt_irrefl _)] <;> rfl
  | @day start d ss lt on rest ih =>
    intro hstart rounds hrounds
    obtain ⟨rounds, rfl⟩ := Nat.exists_eq_add_of_le' (Nat.le_trans (Nat.succ_pos _) hrounds)
    have hend := lt_dayEnd z d lt
    have hle := dayEnd_le z d start stop
    have hnext : heldInt64 (dayEnd z d start stop) = .ok (dayEnd z d start stop) :=
      held_eq (by omega) (by omega)
    have helapsed : heldInt64 (stop - first) = .ok (stop - first) :=
      held_eq (by simp only [minInt64]; omega) (by simp only [maxInt64]; omega)
    have hshare : ∀ {total : Nat}, total < 2 ^ 64 →
        shareInWords total first (stop - first) start (dayEnd z d start stop)
          = .ok (Stretch.share first stop total ⟨d, start, dayEnd z d start stop⟩) :=
      fun ht => shareInWords_eq (s := ⟨d, start, dayEnd z d start stop⟩) ht hstart
        (Int.le_of_lt hend) hle hlt hspan
    rw [walkInWords, if_pos lt, on]
    simp only [bind, Except.bind]
    rw [hnext, helapsed]
    simp only
    rw [hshare hd, hshare hu]
    simp only
    rw [ih (by omega) (by simpa using hrounds)]
    rfl

/-! ### What a split is -/

/-- Times between which traffic can be put on days: some time passes, no more than the longest span,
    and the first of them lies in the calendar. -/
def Spreadable (addedAt time : Int64) : Prop :=
  0 < time.toInt - addedAt.toInt ∧ time.toInt - addedAt.toInt ≤ maxSpan ∧ readable addedAt.toInt

instance (addedAt time : Int64) : Decidable (Spreadable addedAt time) :=
  inferInstanceAs (Decidable (_ ∧ _ ∧ _))

/-- A span within the limits is the difference of its times. -/
theorem span?_eq_some {addedAt time : Int64} (h₀ : 0 < time.toInt - addedAt.toInt)
    (h₁ : time.toInt - addedAt.toInt ≤ maxSpan) :
    Event.span? addedAt time = some (time.toInt - addedAt.toInt) :=
  if_pos (Number.fitsInt64_iff.2 ⟨by omega, by rw [maxSpan] at h₁; omega⟩)

theorem eq_of_span?_eq_some {addedAt time : Int64} {elapsed : Int}
    (h : Event.span? addedAt time = some elapsed) : elapsed = time.toInt - addedAt.toInt := by
  rw [Event.span?] at h
  split at h
  · exact (Option.some.inj h).symm
  · cases h

/-- Spreadable times are split along the stretches between them. -/
theorem Spreadable.splitByDay?_eq {z : Zone} {addedAt time : Int64} {downloaded uploaded : UInt64}
    {ss : List Stretch} (h : Spreadable addedAt time)
    (hss : Stretches z time.toInt addedAt.toInt ss) :
    splitByDay? z addedAt time downloaded uploaded = some (ss.map
      (Stretch.traffic addedAt.toInt time.toInt downloaded.toNat uploaded.toNat)) := by
  rw [splitByDay?, span?_eq_some h.1 h.2.1]
  simp only
  rw [if_pos ⟨h.1, h.2.1⟩, walk_eq_days hss]

/-- They are split so on a machine as well. -/
theorem Spreadable.splitInWords_eq {z : Zone} {addedAt time : Int64} {downloaded uploaded : UInt64}
    {ss : List Stretch} {rounds : Nat} (h : Spreadable addedAt time)
    (hss : Stretches z time.toInt addedAt.toInt ss) (hrounds : ss.length ≤ rounds) :
    splitInWords z rounds addedAt time downloaded uploaded = .ok (some (ss.map
      (Stretch.traffic addedAt.toInt time.toInt downloaded.toNat uploaded.toNat))) := by
  have hspan := h.2.1
  rw [maxSpan] at hspan
  have hwalk := walkInWords_eq downloaded.toNat_lt uploaded.toNat_lt addedAt.le_toInt
    (by have := h.1; omega) (Int.le_sub_one_of_lt time.toInt_lt) (by omega) hss
    (Int.le_refl _) hrounds
  rw [splitInWords, span?_eq_some h.1 h.2.1]
  simp only
  rw [if_pos ⟨h.1, h.2.1⟩, hwalk]
  rfl

/-- A time outside the calendar, or a span outside the limits, gives no days. -/
theorem splitByDay?_of_not_spreadable (z : Zone) {addedAt time : Int64}
    (downloaded uploaded : UInt64) (h : ¬ Spreadable addedAt time) :
    splitByDay? z addedAt time downloaded uploaded = some [] ∧
      ∀ rounds : Nat, (time.toInt - addedAt.toInt) / daySeconds + 4 ≤ rounds →
        splitInWords z rounds addedAt time downloaded uploaded = .ok (some []) := by
  rw [splitByDay?]
  simp only [splitInWords]
  cases hspan : Event.span? addedAt time with
  | none => exact ⟨rfl, fun _ _ => rfl⟩
  | some elapsed =>
    obtain rfl := eq_of_span?_eq_some hspan
    simp only
    split
    · rename_i hlimits
      have hout : z.localDate addedAt.toInt = .unreadable :=
        Zone.localDate_eq_unreadable_iff.2
          (Bool.eq_false_iff.2 fun hr => h ⟨hlimits.1, hlimits.2, hr⟩)
      have hlt : addedAt.toInt < time.toInt := by omega
      refine ⟨by rw [walk, dif_pos hlt, hout], fun rounds hrounds => ?_⟩
      obtain ⟨rounds, rfl⟩ := Nat.exists_eq_add_of_le' (show 1 ≤ rounds by
        rw [daySeconds] at hrounds; omega)
      rw [walkInWords, if_pos hlt, hout]
      rfl
    · exact ⟨rfl, fun _ _ => rfl⟩

/-- Spreadable times whose first one has a date in the zone have stretches between them. -/
theorem Spreadable.exists_stretches {z : Zone} {addedAt time : Int64}
    (h : Spreadable addedAt time) (hz : z.localDate addedAt.toInt ≠ .outside) :
    ∃ first ss, z.localDate addedAt.toInt = .on first ∧
      Stretches z time.toInt addedAt.toInt ss ∧ ss ≠ [] := by
  have hlt := h.1
  cases hd : z.localDate addedAt.toInt with
  | outside => exact absurd hd hz
  | unreadable =>
    rw [Zone.localDate_eq_unreadable_iff, h.2.2] at hd
    cases hd
  | on first =>
    obtain ⟨ss, hss⟩ := Traffic.exists_stretches z (show addedAt.toInt ≤ time.toInt by omega) hd
    exact ⟨first, ss, rfl, hss, hss.ne_nil (by omega)⟩

/-- Splitting traffic by day succeeds unless the first time has no date in the zone. The loop ends
    within a round for each whole day and four more and no result of it leaves its word; there are
    days exactly for spreadable times, and then they are consecutive dates from the first one's, one
    for each round at most, and share out exactly what there was. -/
theorem splitByDay?_conserves (z : Zone) (hz : z.WithinDay) (addedAt time : Int64)
    (downloaded uploaded : UInt64) (hdate : z.localDate addedAt.toInt ≠ .outside) :
    ∃ days, splitByDay? z addedAt time downloaded uploaded = some days ∧
      (∀ rounds : Nat, (time.toInt - addedAt.toInt) / daySeconds + 4 ≤ rounds →
        splitInWords z rounds addedAt time downloaded uploaded = .ok (some days)) ∧
      (days ≠ [] ↔ 0 < time.toInt - addedAt.toInt ∧ time.toInt - addedAt.toInt ≤ maxSpan ∧
        readable addedAt.toInt) ∧
      (days ≠ [] →
        (∃ first, z.localDate addedAt.toInt = .on first ∧
          days.map (·.day.dayNumber)
            = (List.range days.length).map (fun i : Nat => first.dayNumber + i)) ∧
        (days.map (·.day)).Nodup ∧
        days.length ≤ (time.toInt - addedAt.toInt) / daySeconds + 4 ∧
        (days.map (·.downloaded)).sum = downloaded.toNat ∧
        (days.map (·.uploaded)).sum = uploaded.toNat) := by
  by_cases h : Spreadable addedAt time
  · obtain ⟨first, ss, hfirst, hss, hne⟩ := h.exists_stretches hdate
    have hlen := hss.length_le hz hfirst
    have hlt : addedAt.toInt < time.toInt := by have := h.1; omega
    have hdays : (ss.map (Stretch.traffic addedAt.toInt time.toInt downloaded.toNat
        uploaded.toNat)).map (·.day.dayNumber)
        = (List.range ss.length).map (fun i : Nat => first.dayNumber + i) := by
      rw [List.map_map]; exact hss.days_eq hfirst
    refine ⟨_, h.splitByDay?_eq hss, ?_, ?_, fun _ => ⟨?_, ?_, ?_, ?_, ?_⟩⟩
    · intro rounds hrounds
      exact h.splitInWords_eq hss (by omega)
    · exact ⟨fun _ => h, fun _ => by simpa using hne⟩
    · exact ⟨first, hfirst, by rw [hdays, List.length_map]⟩
    · rw [List.map_map]; exact hss.days_nodup hfirst
    · rw [List.length_map]; exact hlen
    · rw [List.map_map]; exact hss.sum_share_first _ hlt
    · rw [List.map_map]; exact hss.sum_share_first _ hlt
  · obtain ⟨hsplit, hwords⟩ := splitByDay?_of_not_spreadable z downloaded uploaded h
    exact ⟨[], hsplit, hwords,
      ⟨fun hne => absurd rfl hne, fun hs => absurd hs h⟩, fun hne => absurd rfl hne⟩

/-- A zone whose clock is put forward by an hour at a midnight. -/
def skippedMidnight : Zone := ⟨0, [(1711843200, 3600)]⟩

/-- Two days of traffic around a midnight that the clock skips are split without loss. -/
theorem splitByDay?_skippedMidnight :
    skippedMidnight.WithinDay ∧ skippedMidnight.localDate (1711800000 : Int64).toInt ≠ .outside ∧
      ∃ days, splitByDay? skippedMidnight 1711800000 1711972800 172800 48 = some days ∧
        days ≠ [] ∧ (days.map (·.downloaded)).sum = 172800 ∧ (days.map (·.uploaded)).sum = 48 := by
  have hz : skippedMidnight.WithinDay := by decide
  have hdate : skippedMidnight.localDate (1711800000 : Int64).toInt ≠ .outside := by decide
  obtain ⟨days, hsplit, _, hiff, hsums⟩ :=
    splitByDay?_conserves skippedMidnight hz 1711800000 1711972800 172800 48 hdate
  have hne : days ≠ [] := hiff.2 (by decide)
  obtain ⟨_, _, _, hd, hu⟩ := hsums hne
  exact ⟨hz, hdate, days, hsplit, hne, hd, hu⟩

end Seedkeeper.Traffic
