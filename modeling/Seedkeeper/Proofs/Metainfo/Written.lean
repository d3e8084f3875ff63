import Seedkeeper.Proofs.Metainfo.Grammar

/-!
What is written by the book: texts, integers, lists and dictionaries as a writer puts them.

What is written so is in the grammar, the texts being no longer than 64 bits can say. Members that other
writers put beside those of a dictionary, in whatever way, leave it in the grammar too, and add to its named
members at most their own keys (`Spells.members_append`).
-/

namespace Seedkeeper.Bencode

open Json (natBytes)
open Number (digits?)
open Text (Bytes utf8)

variable {bs key w ws : Bytes} {n : Int} {shape : Shape} {v : Value}
  {wanted : List (Bytes × Shape × Bool)} {ms : List (Bytes × Bytes × Value)}

/-! ### Texts and integers -/

theorem spellsText_write (h : bs.length < UInt64.size) : SpellsText bs (writeText bs) :=
  ⟨natBytes bs.length, Json.digits?_natBytes bs.length, h, rfl⟩

theorem integer?_natBytes {n : Nat} (h : Number.fitsInt64 n = true) :
    integer? (natBytes n) = some (n : Int) := by
  have hdigits : digits? (natBytes n) = some n := Json.digits?_natBytes n
  have hall := Json.isDigit_of_mem_natBytes n
  unfold integer?
  split
  · rename_i ds hds
    exact absurd (hall 0x2B (hds ▸ List.mem_cons_self)) (by decide)
  · rename_i ds hds
    exact absurd (hall 0x2D (hds ▸ List.mem_cons_self)) (by decide)
  · rw [hdigits]
    exact Option.filter_eq_some_iff.2 ⟨rfl, h⟩

theorem integer?_natBytes_neg {n : Nat} (h : Number.fitsInt64 (-n) = true) :
    integer? (0x2D :: natBytes n) = some (-n : Int) := by
  have hdigits : digits? (natBytes n) = some n := Json.digits?_natBytes n
  simp only [integer?, hdigits]
  exact Option.filter_eq_some_iff.2 ⟨rfl, h⟩

theorem spellsInt_write (h : Number.fitsInt64 n = true) : SpellsInt n (writeInt n) := by
  cases n with
  | ofNat n => exact ⟨natBytes n, integer?_natBytes h, rfl⟩
  | negSucc n =>
    have htext : utf8 (toString (Int.negSucc n)) = 0x2D :: natBytes (n + 1) := by
      change utf8 ("-" ++ toString (n + 1)) = _
      rw [Text.utf8_append]
      rfl
    have hint : integer? (0x2D :: natBytes (n + 1)) = some (Int.negSucc n) := by
      have hneg : Int.negSucc n = -((n + 1 : Nat) : Int) := rfl
      rw [hneg] at h ⊢
      exact integer?_natBytes_neg h
    have hwrite : writeInt (Int.negSucc n) = 0x69 :: (0x2D :: natBytes (n + 1)) ++ [0x65] := by
      rw [writeInt, htext]
    exact ⟨0x2D :: natBytes (n + 1), hint, hwrite⟩

theorem length_le_writeText (bs : Bytes) : bs.length ≤ (writeText bs).length := by
  rw [writeText, List.length_append, List.length_cons]
  omega

/-! ### Lists -/

theorem length_le_writeList {items : List Bytes} (h : w ∈ items) : w.length ≤ (writeList items).length := by
  have hsub : w.Sublist (0x6C :: items.flatten ++ [0x65]) :=
    ((List.sublist_flatten_of_mem h).cons 0x6C).trans (List.sublist_append_left _ _)
  exact hsub.length_le

theorem spells_items_map {α : Type} {value : α → Value} {write : α → Bytes} {xs : List α}
    (h : ∀ x ∈ xs, Spells (.value shape (value x)) (write x)) :
    Spells (.items shape (xs.map value)) ((xs.map write).flatten ++ [0x65]) := by
  induction xs with
  | nil => exact .lastItem
  | cons x xs ih =>
    obtain ⟨hx, hxs⟩ := List.forall_mem_cons.1 h
    rw [List.map_cons, List.map_cons, List.flatten_cons, List.append_assoc]
    exact .item hx (ih hxs)

theorem spells_writeList {α : Type} {value : α → Value} {write : α → Bytes} {xs : List α}
    (h : ∀ x ∈ xs, Spells (.value shape (value x)) (write x)) :
    Spells (.value (.list shape) (.list (xs.map value))) (writeList (xs.map write)) :=
  .list (spells_items_map h)

/-! ### Dictionaries -/

theorem length_le_writeDict {members : List (Bytes × Bytes)} (h : (key, w) ∈ members) :
    w.length ≤ (writeDict members).length := by
  rw [writeDict, List.flatMap_def, List.length_append, List.length_cons]
  refine Nat.le_add_right_of_le (Nat.le_add_right_of_le (List.Sublist.length_le ?_))
  refine (List.sublist_append_right (writeText key) w).trans (List.sublist_flatten_of_mem ?_)
  exact List.mem_map.2 ⟨(key, w), h, rfl⟩

/-- A member is named, and written as its name asks. -/
def IsNamed (wanted : List (Bytes × Shape × Bool)) (m : Bytes × Bytes × Value) : Prop :=
  m.1.length < UInt64.size ∧ ∃ name shape needed,
    wanted.find? (·.1 == m.1) = some (name, shape, needed) ∧ Spells (.value shape m.2.2) m.2.1

theorem spells_named_members (hms : ∀ m ∈ ms, IsNamed wanted m) (hkeys : (ms.map (·.1)).Nodup) :
    Spells (.members wanted ms) (ms.flatMap (fun m => writeText m.1 ++ m.2.1) ++ [0x65]) := by
  induction ms with
  | nil => exact .lastMember
  | cons m ms ih =>
    obtain ⟨⟨hlength, name, shape, needed, hname, hv⟩, hms⟩ := List.forall_mem_cons.1 hms
    rw [List.map_cons, List.nodup_cons] at hkeys
    rw [List.flatMap_cons, List.append_assoc, List.append_assoc]
    refine .named (spellsText_write hlength) hname hv (ih hms hkeys.2) fun m' hm' heq => ?_
    exact hkeys.1 (heq ▸ List.mem_map_of_mem hm')

theorem spells_writeDict (hms : ∀ m ∈ ms, IsNamed wanted m) (hkeys : (ms.map (·.1)).Nodup)
    (hcomplete : complete wanted ms = true) :
    Spells (.value (.dict wanted) (.dict ms)) (writeDict (ms.map fun m => (m.1, m.2.1))) := by
  have hwritten := Spells.dict (spells_named_members hms hkeys) hcomplete
  rwa [writeDict, List.flatMap_map]

/-- What the value of a member has to be: as its name asks, if it is named. -/
def memberShape (wanted : List (Bytes × Shape × Bool)) (key : Bytes) : Shape :=
  ((wanted.find? (·.1 == key)).map (·.2.1)).getD .any

/-- Bytes that a member is written with, key and value. -/
def SpellsMember (wanted : List (Bytes × Shape × Bool)) (key w : Bytes) : Prop :=
  ∃ wkey wv v, SpellsText key wkey ∧ Spells (.value (memberShape wanted key) v) wv ∧ w = wkey ++ wv

theorem SpellsMember.write (hkey : key.length < UInt64.size) (hshape : memberShape wanted key = shape)
    (hv : Spells (.value shape v) w) : SpellsMember wanted key (writeText key ++ w) :=
  ⟨writeText key, w, v, spellsText_write hkey, hshape ▸ hv, rfl⟩

/-- Members with other keys in front. -/
theorem Spells.members_append {xs : List (Bytes × Bytes)} (h : Spells (.members wanted ms) ws)
    (hxs : ∀ x ∈ xs, SpellsMember wanted x.1 x.2) (hkeys : (xs.map (·.1)).Nodup)
    (hapart : ∀ x ∈ xs, ∀ m ∈ ms, m.1 ≠ x.1) :
    ∃ ns, Spells (.members wanted (ns ++ ms)) ((xs.map (·.2)).flatten ++ ws) ∧
      ∀ n ∈ ns, n.1 ∈ xs.map (·.1) := by
  induction xs with
  | nil => exact ⟨[], h, nofun⟩
  | cons x xs ih =>
    obtain ⟨key, w⟩ := x
    obtain ⟨⟨wkey, wv, v, hkey, hv, hw⟩, hrest⟩ := List.forall_mem_cons.1 hxs
    obtain rfl : w = wkey ++ wv := hw
    obtain ⟨hfresh, hothers⟩ := List.forall_mem_cons.1 hapart
    rw [List.map_cons, List.nodup_cons] at hkeys
    obtain ⟨ns, hns, hfrom⟩ := ih hrest hkeys.2 hothers
    rw [List.map_cons, List.map_cons, List.flatten_cons, List.append_assoc, List.append_assoc]
    cases hname : wanted.find? (·.1 == key) with
    | none =>
      rw [memberShape, hname] at hv
      exact ⟨ns, .unnamed hkey hname hv hns, fun n hn => List.mem_cons_of_mem _ (hfrom n hn)⟩
    | some named =>
      obtain ⟨name, shape, needed⟩ := named
      rw [memberShape, hname] at hv
      refine ⟨(key, wv, v) :: ns, .named hkey hname hv hns fun m hm => ?_, ?_⟩
      · rcases List.mem_append.1 hm with hm | hm
        · exact fun heq => hkeys.1 (heq ▸ hfrom m hm)
        · exact hfresh m hm
      · exact List.forall_mem_cons.2 ⟨List.mem_cons_self, fun n hn => List.mem_cons_of_mem _ (hfrom n hn)⟩

end Seedkeeper.Bencode
