import Mathlib.Algebra.Order.Field.Rat
import Mathlib.Tactic.FieldSimp
import Mathlib.Tactic.Linarith
import Mathlib.Tactic.Ring
import Seedkeeper.Proofs.Traffic.LastDay

/-!
What each day gets where the clock is never changed.

Traffic flows at one rate, and its parts are rounded down at the start and the end of each day. So a day
gets less than one byte more or less than the rate gives for its seconds (`EvenShare.near`). With one
offset for all times the clock goes through the dates in order, so the days are all dates that it shows
from the first second to the last, each with the seconds at which it is shown, and the ones in between are
whole days (`daySeconds_of_between`).
-/

namespace Seedkeeper.Traffic

open Calendar (Date Zone LocalDate readable readable_of_between daySeconds)

variable {total share : Nat} {elapsed offset start stop : Int} {first last : Date} {s : Stretch}
  {init : List Stretch}

/-! ### Rounding -/

/-- Whether a share is less than one byte away from what flows in some seconds, at the rate at which
    `total` flows in `elapsed`. -/
def NearRate (total : Nat) (elapsed seconds : Int) (share : Nat) : Prop :=
  |(share : ℚ) - (total : ℚ) / elapsed * seconds| < 1

/-- A share of what flows in `elapsed` seconds from `begin` on: that of the seconds from `start` to `stop`,
    with what has flowed by either of them rounded down. -/
structure EvenShare (total : Nat) (begin elapsed start stop : Int) (share : Nat) : Prop where
  eq : (share : Int) = total * (stop - begin) / elapsed - total * (start - begin) / elapsed
  near : NearRate total elapsed (stop - start) share

/-- Two quotients that are rounded down are as far apart as without rounding, up to less than one. -/
theorem abs_ediv_sub_ediv_lt_one (p q : Int) (h : 0 < elapsed) :
    |((p / elapsed - q / elapsed : Int) : ℚ) - ((p - q : Int) : ℚ) / elapsed| < 1 := by
  have hp : (p : ℚ) = elapsed * (p / elapsed : Int) + (p % elapsed : Int) := by
    exact_mod_cast (Int.mul_ediv_add_emod p elapsed).symm
  have hq : (q : ℚ) = elapsed * (q / elapsed : Int) + (q % elapsed : Int) := by
    exact_mod_cast (Int.mul_ediv_add_emod q elapsed).symm
  have helapsed : (0 : ℚ) < elapsed := by exact_mod_cast h
  have hp₀ : (0 : ℚ) ≤ (p % elapsed : Int) := by exact_mod_cast Int.emod_nonneg p h.ne'
  have hq₀ : (0 : ℚ) ≤ (q % elapsed : Int) := by exact_mod_cast Int.emod_nonneg q h.ne'
  have hp₁ : ((p % elapsed : Int) : ℚ) < elapsed := by exact_mod_cast Int.emod_lt_of_pos p h
  have hq₁ : ((q % elapsed : Int) : ℚ) < elapsed := by exact_mod_cast Int.emod_lt_of_pos q h
  -- what is left is the difference of the remainders
  have hdiff : ((p / elapsed - q / elapsed : Int) : ℚ) - ((p - q : Int) : ℚ) / elapsed
      = ((q % elapsed : Int) - (p % elapsed : Int)) / elapsed := by
    rw [Int.cast_sub, Int.cast_sub, hp, hq]
    field_simp
    ring
  rw [hdiff, abs_lt, lt_div_iff₀ helapsed, div_lt_iff₀ helapsed]
  constructor <;> linarith

/-- The share of a stretch of the time from `start` to `stop`. -/
theorem Stretch.evenShare (total : Nat) (h₀ : start ≤ s.start) (h₁ : s.start ≤ s.stop)
    (hlt : start < stop) :
    EvenShare total start (stop - start) s.start s.stop (s.share start stop total) := by
  have hmono : flowed total (s.start - start) (stop - start)
      ≤ flowed total (s.stop - start) (stop - start) := flowed_mono total (by omega) (by omega)
  have heq : (s.share start stop total : Int)
      = total * (s.stop - start) / (stop - start) - total * (s.start - start) / (stop - start) := by
    rw [Stretch.share, Int.natCast_sub hmono, flowed_cast total (by omega) (by omega),
      flowed_cast total (by omega) (by omega)]
  refine ⟨heq, ?_⟩
  have hround := abs_ediv_sub_ediv_lt_one (total * (s.stop - start)) (total * (s.start - start))
    (show 0 < stop - start by omega)
  have hseconds : total * (s.stop - start) - total * (s.start - start)
      = (total : Int) * (s.stop - s.start) := by ring
  rw [← heq, hseconds, Int.cast_mul, Int.cast_natCast, Int.cast_natCast] at hround
  rwa [NearRate, div_mul_eq_mul_div]

/-! ### Whole days -/

/-- With one offset, a date between those of the first second and the last one lasts a whole day. -/
theorem daySeconds_of_between
    (hs : ∀ t, s.start ≤ t ∧ t < s.stop ↔
      start ≤ t ∧ t < stop ∧ (Zone.fixed offset).localDate t = .on s.day)
    (hon : (Zone.fixed offset).localDate s.start = .on s.day) (hlt : s.start < s.stop)
    (hfirst : (Zone.fixed offset).localDate start = .on first)
    (hlast : (Zone.fixed offset).localDate (stop - 1) = .on last)
    (hafter : first.dayNumber < s.day.dayNumber) (hbefore : s.day.dayNumber < last.dayNumber) :
    s.stop - s.start = daySeconds := by
  obtain ⟨hreadable, -, hfirstDay⟩ := Zone.localDate_eq_on_iff.1 hfirst
  obtain ⟨hreadable', -, hlastDay⟩ := Zone.localDate_eq_on_iff.1 hlast
  obtain ⟨-, hcalendar, -⟩ := Zone.localDate_eq_on_iff.1 hon
  rw [Zone.localTime_fixed, daySeconds] at hfirstDay hlastDay
  -- a second belongs to the stretch exactly if its local time is on the date
  have hday : ∀ t, s.start ≤ t ∧ t < s.stop ↔
      start ≤ t ∧ t < stop ∧ (t + offset) / 86400 = s.day.dayNumber := by
    intro t
    rw [hs, Zone.localDate_eq_on_iff, Zone.localTime_fixed, daySeconds]
    constructor
    · rintro ⟨h₀, h₁, -, -, h⟩
      exact ⟨h₀, h₁, h⟩
    · rintro ⟨h₀, h₁, h⟩
      exact ⟨h₀, h₁, readable_of_between hreadable hreadable' h₀ (by omega), hcalendar, h⟩
  have hstart := hday s.start
  have hstop := hday (s.stop - 1)
  have hmidnight := hday (s.day.dayNumber * 86400 - offset)
  have hend := hday (s.day.dayNumber * 86400 - offset + 86399)
  rw [daySeconds]
  omega

/-- The dates of a walk with one offset are all from that of the first second to that of the last. -/
theorem Stretches.days_eq_of_fixed {ss : List Stretch} (hss : Stretches (Zone.fixed offset) stop start ss)
    (hlt : start < stop) (hfirst : (Zone.fixed offset).localDate start = .on first)
    (hlast : (Zone.fixed offset).localDate (stop - 1) = .on last) :
    ss.map (·.day.dayNumber) = (List.range (last.dayNumber - first.dayNumber + 1).toNat).map
      (fun i : Nat => first.dayNumber + i) := by
  obtain ⟨init, s, rfl, -, -, hstop⟩ := hss.exists_last hfirst hlt
  have hday : s.day = last :=
    Zone.date_unique (hss.localDate_last (Zone.inOrder_fixed hlast start) hstop) hlast
  have hnumber := hss.dayNumber_last hfirst
  rw [hday] at hnumber
  rw [hss.days_eq hfirst, List.length_append, List.length_singleton]
  congr 2
  omega

/-! ### The split -/

/-- With one offset for all times, traffic that can be spread over days is put on every date from that of
    the first second to that of the last, in order. Each date gets the share of exactly the seconds at
    which it is shown, rounded down at both ends and so less than one byte away from the rate; and a date
    in between is shown for a whole day, so its share is that close to a day's. -/
theorem splitByDay?_fixed (offset : Int) (addedAt time : Int64) (downloaded uploaded : UInt64)
    (first last : Date) (hlater : 0 < time.toInt - addedAt.toInt)
    (hspan : time.toInt - addedAt.toInt ≤ maxSpan)
    (hfirst : (Zone.fixed offset).localDate addedAt.toInt = .on first)
    (hlast : (Zone.fixed offset).localDate (time.toInt - 1) = .on last) :
    ∃ days, splitByDay? (Zone.fixed offset) addedAt time downloaded uploaded = some days ∧
      days.map (·.day.dayNumber) = (List.range (last.dayNumber - first.dayNumber + 1).toNat).map
        (fun i : Nat => first.dayNumber + i) ∧
      ∀ share ∈ days, ∃ start stop : Int, start < stop ∧
        (∀ t, start ≤ t ∧ t < stop ↔
          addedAt.toInt ≤ t ∧ t < time.toInt ∧ (Zone.fixed offset).localDate t = .on share.day) ∧
        EvenShare downloaded.toNat addedAt.toInt (time.toInt - addedAt.toInt) start stop
          share.downloaded ∧
        EvenShare uploaded.toNat addedAt.toInt (time.toInt - addedAt.toInt) start stop
          share.uploaded ∧
        (first.dayNumber < share.day.dayNumber → share.day.dayNumber < last.dayNumber →
          stop - start = daySeconds ∧
          NearRate downloaded.toNat (time.toInt - addedAt.toInt) daySeconds share.downloaded ∧
          NearRate uploaded.toNat (time.toInt - addedAt.toInt) daySeconds share.uploaded) := by
  have hlt : addedAt.toInt < time.toInt := by omega
  have hspreadable : Spreadable addedAt time :=
    ⟨hlater, hspan, (Zone.localDate_eq_on_iff.1 hfirst).1⟩
  have horder := Zone.inOrder_fixed hlast addedAt.toInt
  obtain ⟨ss, hss⟩ := exists_stretches _ (Int.le_of_lt hlt) hfirst
  refine ⟨_, hspreadable.splitByDay?_eq hss, ?_, fun share hshare => ?_⟩
  · rw [List.map_map]
    exact hss.days_eq_of_fixed hlt hfirst hlast
  · obtain ⟨s, hs, rfl⟩ := List.mem_map.1 hshare
    obtain ⟨hstart, -, hon⟩ := hss.start_lt s hs
    have hmem := hss.mem_iff_of_inOrder horder s hs
    have hstop : s.start < s.stop := ((hmem s.start).2 ⟨hstart, (hss.start_lt s hs).2.1, hon⟩).2
    have heven : ∀ total, EvenShare total addedAt.toInt (time.toInt - addedAt.toInt) s.start s.stop
        (s.share addedAt.toInt time.toInt total) :=
      fun total => s.evenShare total hstart (Int.le_of_lt hstop) hlt
    refine ⟨s.start, s.stop, hstop, hmem, heven _, heven _, fun hafter hbefore => ?_⟩
    have hwhole := daySeconds_of_between hmem hon hstop hfirst hlast hafter hbefore
    refine ⟨hwhole, ?_, ?_⟩ <;> rw [← hwhole]
    · exact (heven downloaded.toNat).near
    · exact (heven uploaded.toNat).near

/-- Three dates eight hours east of UTC, of which the one in between gets its whole day's bytes: at 10 bytes
    a second, 864000. -/
theorem splitByDay?_fixed_threeDates :
    let addedAt : Int64 := 0
    let time : Int64 := 172800
    let zone := Zone.fixed 28800
    (0 < time.toInt - addedAt.toInt ∧ time.toInt - addedAt.toInt ≤ maxSpan ∧
      zone.localDate addedAt.toInt = .on ⟨0⟩ ∧ zone.localDate (time.toInt - 1) = .on ⟨2⟩) ∧
    ∃ days, splitByDay? zone addedAt time 1728000 0 = some days ∧
      days.map (·.day.dayNumber) = [0, 1, 2] ∧
      ∀ share ∈ days, share.day.dayNumber = 1 → share.downloaded = 864000 := by
  intro addedAt time zone
  have hlater : 0 < time.toInt - addedAt.toInt := by decide
  have hspan : time.toInt - addedAt.toInt ≤ maxSpan := by decide
  have hfirst : zone.localDate addedAt.toInt = .on ⟨0⟩ := by decide
  have hlast : zone.localDate (time.toInt - 1) = .on ⟨2⟩ := by decide
  obtain ⟨days, hsplit, hdays, hshares⟩ :=
    splitByDay?_fixed 28800 addedAt time 1728000 0 ⟨0⟩ ⟨2⟩ hlater hspan hfirst hlast
  refine ⟨⟨hlater, hspan, hfirst, hlast⟩, days, hsplit, by rw [hdays]; decide, ?_⟩
  intro share hshare hday
  obtain ⟨start, stop, -, -, -, -, hwhole⟩ := hshares share hshare
  obtain ⟨-, hnear, -⟩ := hwhole (by rw [hday]; decide) (by rw [hday]; decide)
  have hrate : ((1728000 : UInt64).toNat : ℚ) / (time.toInt - addedAt.toInt : Int) * daySeconds
      = 864000 := by
    rw [show (1728000 : UInt64).toNat = 1728000 by decide,
      show time.toInt - addedAt.toInt = 172800 by decide, daySeconds]
    norm_num
  rw [NearRate, hrate, abs_lt] at hnear
  have hlow : (863999 : ℚ) < share.downloaded := by linarith
  have hhigh : (share.downloaded : ℚ) < 864001 := by linarith
  have hlow : 863999 < share.downloaded := by exact_mod_cast hlow
  have hhigh : share.downloaded < 864001 := by exact_mod_cast hhigh
  omega

end Seedkeeper.Traffic
