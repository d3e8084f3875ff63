import Seedkeeper.Proofs.Metainfo.Grammar

/-!
The grammar says exactly what can be read.

Whatever is read of some bytes is written at their front by the rules of the grammar, of values as of the
items, members and pairs in them; this is one step of the reader for each kind of part (`Exact`), and then
an induction on the steps. With what is known of written values, some bytes are read as a value exactly if
they begin with what it is written with (`readValue_eq_ok_iff`).
-/

namespace Seedkeeper.Bencode

open Text (Bytes)

variable {α β : Type} {bs content rest : Bytes} {n : Int} {shape : Shape} {v : Value} {vs : List Value}
  {wanted : List (Bytes × Shape × Bool)} {before all : List (Bytes × Bytes × Value)} {fuel : Nat}

/-! ### Texts and integers -/

theorem bind_eq_ok_iff {x : Except Fault α} {f : α → Except Fault β} {b : β} :
    (x >>= f) = .ok b ↔ ∃ a, x = .ok a ∧ f a = .ok b := by
  cases x with
  | ok a => exact ⟨fun h => ⟨a, rfl, h⟩, fun ⟨_, ha, h⟩ => Except.ok.inj ha ▸ h⟩
  | error e => exact ⟨nofun, nofun⟩

/-- What is read as a value of a kind. -/
theorem eq_ok_of_map {x : Except Fault (α × Bytes)} {f : α → Value}
    (h : (x >>= fun r => pure (r.map f id)) = .ok (v, rest)) : ∃ a, x = .ok (a, rest) ∧ f a = v := by
  obtain ⟨⟨a, after⟩, hx, h⟩ := bind_eq_ok_iff.1 h
  obtain ⟨hv, rfl⟩ := Prod.mk.inj (Except.ok.inj h)
  exact ⟨a, hx, hv⟩

theorem spells_of_readText (h : readText bs = .ok (content, rest)) :
    ∃ w, bs = w ++ rest ∧ SpellsText content w := by
  rw [readText] at h
  split at h
  · cases h
  · rename_i digits after hcolon
    obtain ⟨rfl, -⟩ := Text.splitOnceChars_eq_some_iff.1 hcolon
    split at h
    · cases h
    · rename_i n hdigits
      split at h
      · rename_i hfits
        obtain ⟨hlength, hsize⟩ := hfits
        obtain ⟨rfl, rfl⟩ := Prod.mk.inj (Except.ok.inj h)
        have htake : (after.take n).length = n := List.length_take_of_le hlength
        refine ⟨digits ++ 0x3A :: after.take n, by simp, digits, ?_, by rwa [htake], rfl⟩
        rw [hdigits, htake]
      · cases h

theorem spells_of_readInt (h : readInt bs = .ok (n, rest)) : ∃ w, bs = w ++ rest ∧ SpellsInt n w := by
  rw [readInt.eq_def] at h
  split at h
  · split at h
    · cases h
    · rename_i digits after hend
      obtain ⟨rfl, -⟩ := Text.splitOnceChars_eq_some_iff.1 hend
      split at h
      · rename_i m hdigits
        obtain ⟨rfl, rfl⟩ := Prod.mk.inj (Except.ok.inj h)
        exact ⟨0x69 :: digits ++ [0x65], by simp, digits, hdigits, rfl⟩
      · cases h
  · cases h

/-! ### One more step -/

/-- In so many steps only what is written by the grammar is read. -/
structure Exact (fuel : Nat) : Prop where
  value : ∀ {shape bs v rest}, read fuel shape bs = .ok (v, rest) →
    ∃ w, bs = w ++ rest ∧ Spells (.value shape v) w
  items : ∀ {shape bs vs rest}, readItems fuel shape bs = .ok (vs, rest) →
    ∃ w, bs = w ++ rest ∧ Spells (.items shape vs) w
  members : ∀ {wanted before bs all rest}, readMembers fuel wanted before bs = .ok (all, rest) →
    complete wanted all = true ∧ ∃ ms w, all = before.reverse ++ ms ∧ bs = w ++ rest ∧
      Spells (.members wanted ms) w ∧ ∀ m ∈ ms, ∀ b ∈ before, b.1 ≠ m.1
  pairs : ∀ {bs vs rest}, readPairs fuel bs = .ok (vs, rest) →
    ∃ w, bs = w ++ rest ∧ Spells (.pairs vs) w

theorem exact_zero : Exact 0 where
  value {shape bs v rest} h := by
    cases shape <;> cases bs <;> cases h
  items h := by cases h
  members h := by cases h
  pairs h := by cases h

theorem Exact.items_succ (h : Exact fuel) (hread : readItems (fuel + 1) shape bs = .ok (vs, rest)) :
    ∃ w, bs = w ++ rest ∧ Spells (.items shape vs) w := by
  by_cases hend : ∃ after, bs = 0x65 :: after
  · obtain ⟨after, rfl⟩ := hend
    rw [readItems_end] at hread
    obtain ⟨rfl, rfl⟩ := Prod.mk.inj (Except.ok.inj hread)
    exact ⟨[0x65], rfl, .lastItem⟩
  · rw [readItems_more (not_exists.1 hend)] at hread
    obtain ⟨⟨v, mid⟩, hv, hread⟩ := bind_eq_ok_iff.1 hread
    obtain ⟨⟨vs, after⟩, hvs, hread⟩ := bind_eq_ok_iff.1 hread
    obtain ⟨rfl, rfl⟩ := Prod.mk.inj (Except.ok.inj hread)
    obtain ⟨w, rfl, hw⟩ := h.value hv
    obtain ⟨ws, rfl, hws⟩ := h.items hvs
    exact ⟨w ++ ws, (List.append_assoc w ws after).symm, .item hw hws⟩

theorem Exact.pairs_succ (h : Exact fuel) (hread : readPairs (fuel + 1) bs = .ok (vs, rest)) :
    ∃ w, bs = w ++ rest ∧ Spells (.pairs vs) w := by
  by_cases hend : ∃ after, bs = 0x65 :: after
  · obtain ⟨after, rfl⟩ := hend
    rw [readPairs_end] at hread
    obtain ⟨rfl, rfl⟩ := Prod.mk.inj (Except.ok.inj hread)
    exact ⟨[0x65], rfl, .lastPair⟩
  · rw [readPairs_more (not_exists.1 hend)] at hread
    obtain ⟨⟨k, mid⟩, hk, hread⟩ := bind_eq_ok_iff.1 hread
    obtain ⟨⟨v, mid'⟩, hv, hread⟩ := bind_eq_ok_iff.1 hread
    obtain ⟨⟨vs, after⟩, hvs, hread⟩ := bind_eq_ok_iff.1 hread
    obtain ⟨rfl, rfl⟩ := Prod.mk.inj (Except.ok.inj hread)
    obtain ⟨wk, rfl, hwk⟩ := h.value hk
    obtain ⟨w, rfl, hw⟩ := h.value hv
    obtain ⟨ws, rfl, hws⟩ := h.pairs hvs
    exact ⟨wk ++ (w ++ ws), by simp, .pair hwk hw hws⟩

theorem Exact.members_succ (h : Exact fuel)
    (hread : readMembers (fuel + 1) wanted before bs = .ok (all, rest)) :
    complete wanted all = true ∧ ∃ ms w, all = before.reverse ++ ms ∧ bs = w ++ rest ∧
      Spells (.members wanted ms) w ∧ ∀ m ∈ ms, ∀ b ∈ before, b.1 ≠ m.1 := by
  by_cases hend : ∃ after, bs = 0x65 :: after
  · obtain ⟨after, rfl⟩ := hend
    rw [readMembers_end] at hread
    split at hread
    · rename_i hcomplete
      obtain ⟨rfl, rfl⟩ := Prod.mk.inj (Except.ok.inj hread)
      exact ⟨(complete_reverse wanted before).trans hcomplete, [], [0x65], by simp, rfl, .lastMember, nofun⟩
    · cases hread
  · rw [readMembers_more (not_exists.1 hend)] at hread
    obtain ⟨⟨key, mid⟩, hkey, hrest⟩ := bind_eq_ok_iff.1 hread
    obtain ⟨wkey, rfl, hwkey⟩ := spells_of_readText hkey
    split at hrest
    · rename_i hname
      obtain ⟨⟨v, after⟩, hv, hmore⟩ := bind_eq_ok_iff.1 hrest
      obtain ⟨w, rfl, hw⟩ := h.value hv
      obtain ⟨hcomplete, ms, ws, hall, rfl, hws, hfresh⟩ := h.members hmore
      exact ⟨hcomplete, ms, wkey ++ (w ++ ws), hall, by simp, .unnamed hwkey hname hw hws, hfresh⟩
    · rename_i name shape needed hname
      split at hrest
      · cases hrest
      · rename_i hunread
        obtain ⟨⟨v, after⟩, hv, hmore⟩ := bind_eq_ok_iff.1 hrest
        obtain ⟨w, rfl, hw⟩ := h.value hv
        rw [consumed_append] at hmore
        obtain ⟨hcomplete, ms, ws, hall, rfl, hws, hfresh⟩ := h.members hmore
        refine ⟨hcomplete, (key, w, v) :: ms, wkey ++ (w ++ ws), by simp [hall], by simp,
          .named hwkey hname hw hws fun m hm heq => ?_, List.forall_mem_cons.2 ⟨fun b hb heq => ?_, ?_⟩⟩
        · exact hfresh m hm _ List.mem_cons_self heq.symm
        · exact hunread (List.any_eq_true.2 ⟨b, hb, beq_iff_eq.2 heq⟩)
        · exact fun m hm b hb => hfresh m hm b (List.mem_cons_of_mem _ hb)

theorem Exact.value_succ (h : Exact fuel) (hread : read (fuel + 1) shape bs = .ok (v, rest)) :
    ∃ w, bs = w ++ rest ∧ Spells (.value shape v) w := by
  cases shape with
  | text =>
    rw [read_text] at hread
    obtain ⟨content, htext, rfl⟩ := eq_ok_of_map hread
    obtain ⟨w, rfl, hw⟩ := spells_of_readText htext
    exact ⟨w, rfl, .text hw⟩
  | int low high =>
    rw [read_int] at hread
    obtain ⟨⟨n, after⟩, hint, hbounds⟩ := bind_eq_ok_iff.1 hread
    obtain ⟨w, rfl, hw⟩ := spells_of_readInt hint
    dsimp only at hbounds
    split at hbounds
    · rename_i hwithin
      obtain ⟨rfl, rfl⟩ := Prod.mk.inj (Except.ok.inj hbounds)
      exact ⟨w, rfl, .int hw hwithin.1 hwithin.2⟩
    · cases hbounds
  | list shape =>
    cases bs with
    | nil => cases hread
    | cons b bs =>
      rw [read_list] at hread
      split at hread
      · rename_i hb
        obtain ⟨vs, hvs, rfl⟩ := eq_ok_of_map hread
        obtain ⟨w, rfl, hw⟩ := h.items hvs
        exact ⟨0x6C :: w, by rw [hb, List.cons_append], .list hw⟩
      · cases hread
  | dict wanted =>
    cases bs with
    | nil => cases hread
    | cons b bs =>
      rw [read_dict] at hread
      split at hread
      · rename_i hb
        obtain ⟨all, hms, rfl⟩ := eq_ok_of_map hread
        obtain ⟨hcomplete, ms, w, rfl, rfl, hw, -⟩ := h.members hms
        exact ⟨0x64 :: w, by rw [hb, List.cons_append], .dict hw hcomplete⟩
      · cases hread
  | any =>
    cases bs with
    | nil => cases hread
    | cons b bs =>
      rw [read_any] at hread
      split_ifs at hread with hint hlist hdict
      · obtain ⟨n, hint, rfl⟩ := eq_ok_of_map hread
        obtain ⟨w, hbs, hw⟩ := spells_of_readInt hint
        exact ⟨w, hbs, .anyInt hw⟩
      · obtain ⟨vs, hvs, rfl⟩ := eq_ok_of_map hread
        obtain ⟨w, rfl, hw⟩ := h.items hvs
        exact ⟨0x6C :: w, by rw [hlist, List.cons_append], .anyList hw⟩
      · obtain ⟨vs, hvs, rfl⟩ := eq_ok_of_map hread
        obtain ⟨w, rfl, hw⟩ := h.pairs hvs
        exact ⟨0x64 :: w, by rw [hdict, List.cons_append], .anyDict hw⟩
      · obtain ⟨content, htext, rfl⟩ := eq_ok_of_map hread
        obtain ⟨w, hbs, hw⟩ := spells_of_readText htext
        exact ⟨w, hbs, .anyText hw⟩

/-! ### All steps -/

theorem exact_all (fuel : Nat) : Exact fuel := by
  induction fuel with
  | zero => exact exact_zero
  | succ fuel ih => exact ⟨ih.value_succ, ih.items_succ, ih.members_succ, ih.pairs_succ⟩

/-- Some bytes are read as a value exactly if they begin with what it is written with. -/
theorem readValue_eq_ok_iff : readValue shape bs = .ok v ↔
    ∃ w rest, bs = w ++ rest ∧ Spells (.value shape v) w := by
  constructor
  · intro h
    rw [readValue] at h
    cases hread : read (2 * bs.length + 2) shape bs with
    | error e =>
      rw [hread] at h
      cases h
    | ok r =>
      obtain ⟨v', rest⟩ := r
      rw [hread] at h
      obtain rfl := Except.ok.inj h
      obtain ⟨w, hbs, hw⟩ := (exact_all _).value hread
      exact ⟨w, rest, hbs, hw⟩
  · rintro ⟨w, rest, rfl, hw⟩
    exact readValue_append hw rest

end Seedkeeper.Bencode
