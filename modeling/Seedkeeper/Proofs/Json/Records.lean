import Seedkeeper.Proofs.Json.Leaves

/-!
Records: a record written as an object with all its fields in declared order is read back field by
field (`fields?_object`), and each kind of field is read back as what it was written from.
-/

namespace Seedkeeper.Json

open Text (Bytes)

/-- The members of a record's fields, each under its declared name. -/
def members (names : List String) (vs : List Json) : List (Bytes × Json) :=
  (names.map key).zip vs

theorem idxOf?_append_cons {done rest : List String} {n : String} (h : n ∉ done) :
    (done ++ n :: rest).idxOf? n = some done.length := by
  induction done with
  | nil => simp [List.idxOf?_cons]
  | cons m done ih =>
    have hm : m ≠ n := fun he => h (he ▸ List.mem_cons_self)
    have hdone := ih fun hn => h (List.mem_cons_of_mem _ hn)
    rw [List.cons_append, List.idxOf?_cons, if_neg (by simpa using hm), hdone]
    rfl

/-- Members that come in declared order fill the places one after the other. The places of `done`
    hold `before`, those of `rest` are free. -/
theorem gather_members {vs : List Json} : ∀ (done rest : List String) (before : List Json),
    (done ++ rest).Nodup → before.length = done.length → vs.length = rest.length →
    gather (done ++ rest) (members rest vs) (before.map some ++ rest.map fun _ => none)
      = some ((before ++ vs).map some) := by
  induction vs with
  | nil =>
    intro done rest before _ _ hlen
    obtain rfl := List.length_eq_zero_iff.1 hlen.symm
    simp [members, gather]
  | cons v vs ih =>
    intro done rest before hnodup hbefore hlen
    cases rest with
    | nil => cases hlen
    | cons n rest =>
      have hn : n ∉ done := fun hn =>
        (List.nodup_append.1 hnodup).2.2 n hn n List.mem_cons_self rfl
      have htext : text? (key n) = some n := text?_escape n
      have hplace : (before.map some ++ (n :: rest).map fun _ => (none : Option Json))[done.length]?
          = some none := by
        rw [List.getElem?_append_right (by simp [hbefore])]
        simp [hbefore]
      have hset : (before.map some ++ (n :: rest).map fun _ => (none : Option Json)).set
          done.length (some v) = (before ++ [v]).map some ++ rest.map fun _ => none := by
        rw [List.set_append_right _ _ (by simp [hbefore])]
        simp [hbefore]
      have hnext := ih (done ++ [n]) rest (before ++ [v]) (by simpa using hnodup)
        (by simp [hbefore]) (by simpa using hlen)
      rw [List.append_assoc, List.singleton_append] at hnext
      rw [members, List.map_cons, List.zip_cons_cons, gather]
      simp only [htext, idxOf?_append_cons hn, hplace, hset]
      rw [← members, hnext, List.append_assoc, List.singleton_append]

/-- All fields of a record written in declared order are read back. -/
theorem fields?_object (names : List String) (vs : List Json) (hnodup : names.Nodup)
    (hlen : vs.length = names.length) : fields? names (.object (members names vs))
      = some (vs.map some) :=
  gather_members [] names [] hnodup rfl hlen

/-- What has been gathered for a field stays. -/
theorem getElem?_gather_of_filled {names : List String} {i : Nat} {v : Json} :
    ∀ {ms : List (Bytes × Json)} {fs gs : Fields}, gather names ms fs = some gs →
      fs[i]? = some (some v) → gs[i]? = some (some v)
  | [], fs, gs, h, hfilled => by
    rw [gather, Option.some_inj] at h
    rwa [← h]
  | (k, w) :: ms, fs, gs, h, hfilled => by
    rw [gather] at h
    split at h
    · cases h
    · split at h
      · exact getElem?_gather_of_filled h hfilled
      · rename_i j _
        split at h
        · rename_i hfree
          have hother : j ≠ i := by
            rintro rfl
            rw [hfilled] at hfree
            cases hfree
          refine getElem?_gather_of_filled h ?_
          rwa [List.getElem?_set_ne hother]
        · cases h

/-- A member with the name of a field is what is gathered for it. -/
theorem getElem?_gather_of_mem {names : List String} {i : Nat} {k : Bytes} {n : String} {v : Json}
    (hk : text? k = some n) (hn : names.idxOf? n = some i) :
    ∀ {ms : List (Bytes × Json)} {fs gs : Fields}, gather names ms fs = some gs → (k, v) ∈ ms →
      gs[i]? = some (some v)
  | (l, w) :: ms, fs, gs, h, hmem => by
    rw [gather] at h
    rcases List.mem_cons.1 hmem with heq | hmem
    · obtain ⟨rfl, rfl⟩ := Prod.mk.inj heq
      simp only [hk, hn] at h
      split at h
      · rename_i hfree
        have hplace : i < fs.length := (List.getElem?_eq_some_iff.1 hfree).1
        exact getElem?_gather_of_filled h (by simp [hplace])
      · cases h
    · split at h
      · cases h
      · split at h
        · exact getElem?_gather_of_mem hk hn h hmem
        · split at h
          · exact getElem?_gather_of_mem hk hn h hmem
          · cases h

/-! ### Fields -/

theorem asText_ofText (s : String) : asText (ofText s) = some s := text?_escape s

theorem asInt_ofInt {low high n : Int} (h : low ≤ n ∧ n ≤ high) :
    asInt low high (ofInt n) = some n := by
  rw [ofInt, asInt, int?_intBytes, Option.bind_some, if_pos h]

theorem asInt64_toInt (n : Int64) : asInt64 (ofInt n.toInt) = some n.toInt :=
  asInt_ofInt (Number.fitsInt64_iff.1 (Number.fitsInt64_toInt n))

theorem asInt32_toInt (n : Int32) : asInt32 (ofInt n.toInt) = some n.toInt := by
  have hlow := n.le_toInt
  have hhigh := n.toInt_lt
  exact asInt_ofInt ⟨by rw [Number.minInt32]; omega, by rw [Number.maxInt32]; omega⟩

theorem asNat64_toNat (n : UInt64) : asNat64 (ofNat n.toNat) = some n.toNat := by
  have hlt := n.toNat_lt
  rw [asNat64, ofNat, asInt, int?_natBytes, Option.bind_some,
    if_pos ⟨by omega, by rw [Number.maxNat64]; omega⟩]
  rfl

end Seedkeeper.Json
