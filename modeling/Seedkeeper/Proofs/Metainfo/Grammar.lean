import Seedkeeper.Metainfo.Bencode
import Seedkeeper.Proofs.Json.Leaves

/-!
Documents as they are written.

`Spells` is the grammar of documents: one rule for each way to write a value of a shape, the items of a
list or the members of a dictionary. What it allows beyond what a writer would do is what readers put up
with: signs and leading zeros, members in any order, members that are not named.

A value that is written so is read as it is, whatever follows it (`Spells.reads`). Each rule is one lemma
on the reader; the steps are as many as there are bytes, since every part has at least one of its own.
-/

namespace Seedkeeper.Bencode

open Number (addDigit digits? isDigit)
open Text (Bytes)

/-! ### What is written -/

/-- Bytes that a text is written with; its length may have leading zeros. -/
def SpellsText (content w : Bytes) : Prop :=
  ∃ digits, digits? digits = some content.length ∧ content.length < UInt64.size ∧
    w = digits ++ 0x3A :: content

/-- Bytes that an integer is written with; it may have a sign and leading zeros. -/
def SpellsInt (n : Int) (w : Bytes) : Prop :=
  ∃ digits, integer? digits = some n ∧ w = 0x69 :: digits ++ [0x65]

/-- What a stretch of a document is. -/
inductive Part where
  | value (shape : Shape) (v : Value)
  /-- The items of a list, up to its end. -/
  | items (shape : Shape) (vs : List Value)
  /-- The members of a dictionary, up to its end; of these the ones that are named. -/
  | members (wanted : List (Bytes × Shape × Bool)) (ms : List (Bytes × Bytes × Value))
  /-- Keys and values of a dictionary that may hold anything, up to its end. -/
  | pairs (vs : List Value)

/-- Bytes that a part of a document is written with. -/
inductive Spells : Part → Bytes → Prop where
  | text {content w : Bytes} (h : SpellsText content w) : Spells (.value .text (.text content)) w
  | int {n low high : Int} {w : Bytes} (h : SpellsInt n w) (hlow : low ≤ n) (hhigh : n ≤ high) :
      Spells (.value (.int low high) (.int n)) w
  | list {item : Shape} {vs : List Value} {w : Bytes} (h : Spells (.items item vs) w) :
      Spells (.value (.list item) (.list vs)) (0x6C :: w)
  | dict {wanted : List (Bytes × Shape × Bool)} {ms : List (Bytes × Bytes × Value)} {w : Bytes}
      (h : Spells (.members wanted ms) w) (hcomplete : complete wanted ms = true) :
      Spells (.value (.dict wanted) (.dict ms)) (0x64 :: w)
  | anyText {content w : Bytes} (h : SpellsText content w) : Spells (.value .any (.text content)) w
  | anyInt {n : Int} {w : Bytes} (h : SpellsInt n w) : Spells (.value .any (.int n)) w
  | anyList {vs : List Value} {w : Bytes} (h : Spells (.items .any vs) w) :
      Spells (.value .any (.list vs)) (0x6C :: w)
  | anyDict {vs : List Value} {w : Bytes} (h : Spells (.pairs vs) w) :
      Spells (.value .any (.list vs)) (0x64 :: w)
  | lastItem {shape : Shape} : Spells (.items shape []) [0x65]
  | item {shape : Shape} {v : Value} {vs : List Value} {w ws : Bytes} (hv : Spells (.value shape v) w)
      (hvs : Spells (.items shape vs) ws) : Spells (.items shape (v :: vs)) (w ++ ws)
  | lastMember {wanted : List (Bytes × Shape × Bool)} : Spells (.members wanted []) [0x65]
  /-- A member that is named, and is not there again. -/
  | named {wanted : List (Bytes × Shape × Bool)} {ms : List (Bytes × Bytes × Value)}
      {key name wkey w ws : Bytes} {shape : Shape} {needed : Bool} {v : Value}
      (hkey : SpellsText key wkey) (hname : wanted.find? (·.1 == key) = some (name, shape, needed))
      (hv : Spells (.value shape v) w) (hms : Spells (.members wanted ms) ws)
      (hnew : ∀ m ∈ ms, m.1 ≠ key) :
      Spells (.members wanted ((key, w, v) :: ms)) (wkey ++ (w ++ ws))
  | unnamed {wanted : List (Bytes × Shape × Bool)} {ms : List (Bytes × Bytes × Value)}
      {key wkey w ws : Bytes} {v : Value} (hkey : SpellsText key wkey)
      (hname : wanted.find? (·.1 == key) = none) (hv : Spells (.value .any v) w)
      (hms : Spells (.members wanted ms) ws) : Spells (.members wanted ms) (wkey ++ (w ++ ws))
  | lastPair : Spells (.pairs []) [0x65]
  | pair {k v : Value} {vs : List Value} {wkey w ws : Bytes} (hk : Spells (.value .any k) wkey)
      (hv : Spells (.value .any v) w) (hvs : Spells (.pairs vs) ws) :
      Spells (.pairs (k :: v :: vs)) (wkey ++ (w ++ ws))

variable {bs content digits key rest w wkey ws : Bytes} {b : UInt8} {n low high : Int} {shape : Shape}
  {v k : Value} {vs : List Value} {wanted : List (Bytes × Shape × Bool)}
  {ms before : List (Bytes × Bytes × Value)} {fuel : Nat}

/-! ### Texts and integers -/

theorem isDigit_of_foldlM {m n : Nat} (h : bs.foldlM addDigit m = some n) :
    ∀ b ∈ bs, isDigit b = true := by
  induction bs generalizing m with
  | nil => nofun
  | cons b bs ih =>
    rw [List.foldlM_cons, addDigit] at h
    split at h
    · rename_i hb
      have hdigit : isDigit b = true := by simpa [isDigit] using hb
      exact List.forall_mem_cons.2 ⟨hdigit, ih h⟩
    · cases h

theorem isDigit_of_digits {n : Nat} (h : digits? bs = some n) :
    bs ≠ [] ∧ ∀ b ∈ bs, isDigit b = true := by
  cases bs with
  | nil => cases h
  | cons b bs => exact ⟨List.cons_ne_nil b bs, isDigit_of_foldlM h⟩

theorem not_mem_of_digits {n : Nat} {b : UInt8} (h : digits? bs = some n) (hb : isDigit b = false) :
    b ∉ bs := fun hmem => by
  rw [(isDigit_of_digits h).2 b hmem] at hb
  cases hb

theorem not_mem_of_integer (h : integer? digits = some n) : 0x65 ∉ digits := by
  unfold integer? at h
  obtain ⟨hn, -⟩ := Option.filter_eq_some_iff.1 h
  split at hn
  · obtain ⟨m, hm, -⟩ := Option.map_eq_some_iff.1 hn
    simpa using not_mem_of_digits hm (b := 0x65) rfl
  · obtain ⟨m, hm, -⟩ := Option.map_eq_some_iff.1 hn
    obtain ⟨m, hm, -⟩ := Option.bind_eq_some_iff.1 hm
    simpa using not_mem_of_digits hm (b := 0x65) rfl
  · obtain ⟨m, hm, -⟩ := Option.map_eq_some_iff.1 hn
    exact not_mem_of_digits hm rfl

theorem readText_append (h : SpellsText content w) (rest : Bytes) :
    readText (w ++ rest) = .ok (content, rest) := by
  obtain ⟨digits, hdigits, hsize, rfl⟩ := h
  have hcolon : Text.splitOnceChars 0x3A (digits ++ 0x3A :: content ++ rest)
      = some (digits, content ++ rest) :=
    Text.splitOnceChars_eq_some_iff.2 ⟨by simp, not_mem_of_digits hdigits rfl⟩
  rw [readText, hcolon]
  simp only [hdigits]
  rw [if_pos ⟨by simp, hsize⟩, List.take_left, List.drop_left]

theorem readInt_append (h : SpellsInt n w) (rest : Bytes) : readInt (w ++ rest) = .ok (n, rest) := by
  obtain ⟨digits, hdigits, rfl⟩ := h
  have hend : Text.splitOnceChars 0x65 (digits ++ 0x65 :: rest) = some (digits, rest) :=
    Text.splitOnceChars_eq_some_iff.2 ⟨rfl, not_mem_of_integer hdigits⟩
  rw [List.append_assoc, List.cons_append]
  simp only [readInt, List.cons_append, List.nil_append, hend, hdigits]

theorem SpellsInt.exists_cons (h : SpellsInt n w) : ∃ bs, w = 0x69 :: bs := by
  obtain ⟨digits, -, rfl⟩ := h
  exact ⟨digits ++ [0x65], rfl⟩

theorem SpellsText.exists_digit (h : SpellsText content w) :
    ∃ b bs, w = b :: bs ∧ isDigit b = true := by
  obtain ⟨digits, hdigits, -, rfl⟩ := h
  obtain ⟨hne, hall⟩ := isDigit_of_digits hdigits
  obtain ⟨b, bs, rfl⟩ := List.exists_cons_of_ne_nil hne
  exact ⟨b, bs ++ 0x3A :: content, rfl, hall b List.mem_cons_self⟩

theorem ne_end_of_isDigit (h : isDigit b = true) : b ≠ 0x65 := by
  rintro rfl
  cases h

/-- A value does not begin like an end. -/
theorem Spells.exists_first (h : Spells (.value shape v) w) : ∃ b bs, w = b :: bs ∧ b ≠ 0x65 := by
  have htext : ∀ {content : Bytes}, SpellsText content w → ∃ b bs, w = b :: bs ∧ b ≠ 0x65 :=
    fun htext => by
      obtain ⟨b, bs, hw, hb⟩ := htext.exists_digit
      exact ⟨b, bs, hw, ne_end_of_isDigit hb⟩
  cases h with
  | text h => exact htext h
  | anyText h => exact htext h
  | int h =>
    obtain ⟨bs, hw⟩ := h.exists_cons
    exact ⟨0x69, bs, hw, by decide⟩
  | anyInt h =>
    obtain ⟨bs, hw⟩ := h.exists_cons
    exact ⟨0x69, bs, hw, by decide⟩
  | list => exact ⟨_, _, rfl, by decide⟩
  | dict => exact ⟨_, _, rfl, by decide⟩
  | anyList => exact ⟨_, _, rfl, by decide⟩
  | anyDict => exact ⟨_, _, rfl, by decide⟩

/-! ### One step of reading -/

theorem read_text : read (fuel + 1) .text bs = readText bs >>= fun r => pure (r.map Value.text id) := rfl

theorem read_int : read (fuel + 1) (.int low high) bs = readInt bs >>= fun r =>
    if low ≤ r.1 ∧ r.1 ≤ high then pure (.int r.1, r.2) else .error .malformed := rfl

theorem read_list : read (fuel + 1) (.list shape) (b :: bs) =
    if b = 0x6C then readItems fuel shape bs >>= fun r => pure (r.map Value.list id)
    else .error .malformed := rfl

theorem read_dict : read (fuel + 1) (.dict wanted) (b :: bs) =
    if b = 0x64 then readMembers fuel wanted [] bs >>= fun r => pure (r.map Value.dict id)
    else .error .malformed := rfl

theorem read_any : read (fuel + 1) .any (b :: bs) =
    if b = 0x69 then readInt (b :: bs) >>= fun r => pure (r.map Value.int id)
    else if b = 0x6C then readItems fuel .any bs >>= fun r => pure (r.map Value.list id)
    else if b = 0x64 then readPairs fuel bs >>= fun r => pure (r.map Value.list id)
    else readText (b :: bs) >>= fun r => pure (r.map Value.text id) := rfl

theorem readItems_end : readItems (fuel + 1) shape (0x65 :: bs) = .ok ([], bs) := rfl

theorem readItems_more (h : ∀ rest, bs ≠ 0x65 :: rest) : readItems (fuel + 1) shape bs =
    read fuel shape bs >>= fun r => readItems fuel shape r.2 >>= fun rs => pure (r.1 :: rs.1, rs.2) := by
  rw [readItems]
  exact h

theorem readPairs_end : readPairs (fuel + 1) (0x65 :: bs) = .ok ([], bs) := rfl

theorem readPairs_more (h : ∀ rest, bs ≠ 0x65 :: rest) : readPairs (fuel + 1) bs =
    read fuel .any bs >>= fun r => read fuel .any r.2 >>= fun r' => readPairs fuel r'.2 >>= fun rs =>
      pure (r.1 :: r'.1 :: rs.1, rs.2) := by
  rw [readPairs]
  exact h

theorem readMembers_end : readMembers (fuel + 1) wanted before (0x65 :: bs) =
    if complete wanted before = true then .ok (before.reverse, bs) else .error .malformed := rfl

theorem readMembers_more (h : ∀ rest, bs ≠ 0x65 :: rest) : readMembers (fuel + 1) wanted before bs =
    readText bs >>= fun r =>
      match wanted.find? (·.1 == r.1) with
      | none => read fuel .any r.2 >>= fun r' => readMembers fuel wanted before r'.2
      | some (_, shape, _) =>
        if before.any (·.1 == r.1) = true then .error .malformed
        else read fuel shape r.2 >>= fun r' =>
          readMembers fuel wanted ((r.1, consumed r.2 r'.2, r'.1) :: before) r'.2 := by
  rewrite [readMembers]
  · rfl
  · exact h

theorem cons_ne_end (hb : b ≠ 0x65) (bs rest : Bytes) : b :: bs ≠ 0x65 :: rest :=
  fun heq => hb (List.cons.inj heq).1

/-! ### Reading -/

theorem consumed_append (w rest : Bytes) : consumed (w ++ rest) rest = w := by
  rw [consumed, List.length_append, Nat.add_sub_cancel, List.take_left]

theorem complete_reverse (wanted : List (Bytes × Shape × Bool)) (ms : List (Bytes × Bytes × Value)) :
    complete wanted ms.reverse = complete wanted ms := by
  simp only [complete, List.any_reverse]

/-- What is read of some bytes in so many steps is a part, a rest being left. -/
def Part.IsRead (fuel : Nat) (bs rest : Bytes) : Part → Prop
  | .value shape v => read fuel shape bs = .ok (v, rest)
  | .items shape vs => readItems fuel shape bs = .ok (vs, rest)
  | .members wanted ms => ∀ before : List (Bytes × Bytes × Value),
      (∀ m ∈ ms, ∀ b ∈ before, b.1 ≠ m.1) → complete wanted (before.reverse ++ ms) = true →
      readMembers fuel wanted before bs = .ok (before.reverse ++ ms, rest)
  | .pairs vs => readPairs fuel bs = .ok (vs, rest)

/-- Whatever follows some bytes, and in as many steps as there are bytes, what is read is a part. -/
def Part.Reads (p : Part) (w : Bytes) : Prop :=
  ∀ fuel rest, w.length ≤ fuel → p.IsRead fuel (w ++ rest) rest

theorem Part.Reads.of_step {p : Part} (hne : w ≠ [])
    (h : ∀ fuel rest, w.length ≤ fuel + 1 → p.IsRead (fuel + 1) (w ++ rest) rest) : p.Reads w := by
  rintro (_ | fuel) rest hfuel
  · exact absurd (List.length_eq_zero_iff.1 (Nat.le_zero.1 hfuel)) hne
  · exact h fuel rest hfuel

theorem reads_text (h : SpellsText content w) : (Part.value .text (.text content)).Reads w := by
  obtain ⟨b, bs, hw, -⟩ := h.exists_digit
  refine .of_step (hw ▸ List.cons_ne_nil b bs) fun fuel rest _ => ?_
  rw [Part.IsRead, read_text, readText_append h]
  rfl

theorem reads_int (h : SpellsInt n w) (hlow : low ≤ n) (hhigh : n ≤ high) :
    (Part.value (.int low high) (.int n)).Reads w := by
  obtain ⟨bs, hw⟩ := h.exists_cons
  refine .of_step (hw ▸ List.cons_ne_nil _ bs) fun fuel rest _ => ?_
  rw [Part.IsRead, read_int, readInt_append h]
  exact if_pos ⟨hlow, hhigh⟩

theorem reads_anyText (h : SpellsText content w) : (Part.value .any (.text content)).Reads w := by
  obtain ⟨b, bs, hw, hb⟩ := h.exists_digit
  refine .of_step (hw ▸ List.cons_ne_nil b bs) fun fuel rest _ => ?_
  have hne : b ≠ 0x69 ∧ b ≠ 0x6C ∧ b ≠ 0x64 := by
    refine ⟨?_, ?_, ?_⟩ <;> rintro rfl <;> cases hb
  have hread := readText_append h rest
  rw [hw, List.cons_append] at hread ⊢
  rw [Part.IsRead, read_any, if_neg hne.1, if_neg hne.2.1, if_neg hne.2.2, hread]
  rfl

theorem reads_anyInt (h : SpellsInt n w) : (Part.value .any (.int n)).Reads w := by
  obtain ⟨bs, hw⟩ := h.exists_cons
  refine .of_step (hw ▸ List.cons_ne_nil _ bs) fun fuel rest _ => ?_
  have hread := readInt_append h rest
  rw [hw, List.cons_append] at hread ⊢
  rw [Part.IsRead, read_any, if_pos rfl, hread]
  rfl

theorem Part.Reads.list (h : (Part.items shape vs).Reads w) :
    (Part.value (.list shape) (.list vs)).Reads (0x6C :: w) := by
  refine .of_step (List.cons_ne_nil _ w) fun fuel rest hfuel => ?_
  have hitems : readItems fuel shape (w ++ rest) = .ok (vs, rest) :=
    h fuel rest (Nat.le_of_succ_le_succ hfuel)
  rw [Part.IsRead, List.cons_append, read_list, if_pos rfl, hitems]
  rfl

theorem Part.Reads.dict (h : (Part.members wanted ms).Reads w) (hcomplete : complete wanted ms = true) :
    (Part.value (.dict wanted) (.dict ms)).Reads (0x64 :: w) := by
  refine .of_step (List.cons_ne_nil _ w) fun fuel rest hfuel => ?_
  have hmembers : readMembers fuel wanted [] (w ++ rest) = .ok (ms, rest) :=
    h fuel rest (Nat.le_of_succ_le_succ hfuel) [] nofun hcomplete
  rw [Part.IsRead, List.cons_append, read_dict, if_pos rfl, hmembers]
  rfl

theorem Part.Reads.anyList (h : (Part.items .any vs).Reads w) :
    (Part.value .any (.list vs)).Reads (0x6C :: w) := by
  refine .of_step (List.cons_ne_nil _ w) fun fuel rest hfuel => ?_
  have hitems : readItems fuel .any (w ++ rest) = .ok (vs, rest) :=
    h fuel rest (Nat.le_of_succ_le_succ hfuel)
  rw [Part.IsRead, List.cons_append, read_any, if_neg (by decide), if_pos rfl, hitems]
  rfl

theorem Part.Reads.anyDict (h : (Part.pairs vs).Reads w) :
    (Part.value .any (.list vs)).Reads (0x64 :: w) := by
  refine .of_step (List.cons_ne_nil _ w) fun fuel rest hfuel => ?_
  have hpairs : readPairs fuel (w ++ rest) = .ok (vs, rest) :=
    h fuel rest (Nat.le_of_succ_le_succ hfuel)
  rw [Part.IsRead, List.cons_append, read_any, if_neg (by decide), if_neg (by decide), if_pos rfl,
    hpairs]
  rfl

theorem reads_lastItem (shape : Shape) : (Part.items shape []).Reads [0x65] :=
  .of_step (List.cons_ne_nil _ _) fun _ _ _ => readItems_end

theorem reads_lastPair : (Part.pairs []).Reads [0x65] :=
  .of_step (List.cons_ne_nil _ _) fun _ _ _ => readPairs_end

theorem reads_lastMember (wanted : List (Bytes × Shape × Bool)) :
    (Part.members wanted []).Reads [0x65] := by
  refine .of_step (List.cons_ne_nil _ _) fun fuel rest _ before _ hcomplete => ?_
  rw [List.append_nil, complete_reverse] at hcomplete
  rw [List.append_nil]
  exact if_pos hcomplete

theorem Part.Reads.item (hfirst : ∃ b bs, w = b :: bs ∧ b ≠ 0x65) (hv : (Part.value shape v).Reads w)
    (hne : ws ≠ []) (hvs : (Part.items shape vs).Reads ws) : (Part.items shape (v :: vs)).Reads (w ++ ws) := by
  obtain ⟨b, bs, rfl, hb⟩ := hfirst
  have hlength := List.length_pos_iff.2 hne
  refine .of_step (List.cons_ne_nil _ _) fun fuel rest hfuel => ?_
  rw [List.length_append] at hfuel
  have hread : read fuel shape (b :: (bs ++ (ws ++ rest))) = .ok (v, ws ++ rest) :=
    hv fuel (ws ++ rest) (by omega)
  have hmore : readItems fuel shape (ws ++ rest) = .ok (vs, rest) :=
    hvs fuel rest (by rw [List.length_cons] at hfuel; omega)
  rw [Part.IsRead, List.append_assoc, List.cons_append, readItems_more (cons_ne_end hb _)]
  simp only [bind, Except.bind, hread, hmore]
  rfl

theorem Part.Reads.pair {wk : Bytes} (hfirst : ∃ b bs, wk = b :: bs ∧ b ≠ 0x65)
    (hk : (Part.value .any k).Reads wk) (hnev : w ≠ []) (hv : (Part.value .any v).Reads w) (hne : ws ≠ [])
    (hvs : (Part.pairs vs).Reads ws) : (Part.pairs (k :: v :: vs)).Reads (wk ++ (w ++ ws)) := by
  obtain ⟨b, bs, rfl, hb⟩ := hfirst
  have hlengthv := List.length_pos_iff.2 hnev
  have hlength := List.length_pos_iff.2 hne
  refine .of_step (List.cons_ne_nil _ _) fun fuel rest hfuel => ?_
  rw [List.length_append, List.length_append] at hfuel
  have hkey : read fuel .any (b :: (bs ++ (w ++ (ws ++ rest)))) = .ok (k, w ++ (ws ++ rest)) :=
    hk fuel (w ++ (ws ++ rest)) (by omega)
  rw [List.length_cons] at hfuel
  have hread : read fuel .any (w ++ (ws ++ rest)) = .ok (v, ws ++ rest) :=
    hv fuel (ws ++ rest) (by omega)
  have hmore : readPairs fuel (ws ++ rest) = .ok (vs, rest) := hvs fuel rest (by omega)
  rw [Part.IsRead, List.append_assoc, List.append_assoc, List.cons_append, readPairs_more (cons_ne_end hb _)]
  simp only [bind, Except.bind, hkey, hread, hmore]
  rfl

theorem Part.Reads.named {name : Bytes} {needed : Bool} (hkey : SpellsText key wkey)
    (hname : wanted.find? (·.1 == key) = some (name, shape, needed)) (hv : (Part.value shape v).Reads w)
    (hne : ws ≠ []) (hms : (Part.members wanted ms).Reads ws) (hnew : ∀ m ∈ ms, m.1 ≠ key) :
    (Part.members wanted ((key, w, v) :: ms)).Reads (wkey ++ (w ++ ws)) := by
  obtain ⟨b, bs, rfl, hb⟩ := hkey.exists_digit
  have hlength := List.length_pos_iff.2 hne
  refine .of_step (List.cons_ne_nil _ _) fun fuel rest hfuel before hfresh hcomplete => ?_
  rw [List.length_append, List.length_append, List.length_cons] at hfuel
  obtain ⟨hkeyfresh, hfresh⟩ := List.forall_mem_cons.1 hfresh
  have hunread : before.any (·.1 == key) = false := by
    rw [List.any_eq_false]
    exact fun m hm => by simpa using hkeyfresh m hm
  have htext : readText (b :: (bs ++ (w ++ (ws ++ rest)))) = .ok (key, w ++ (ws ++ rest)) :=
    readText_append hkey _
  have hread : read fuel shape (w ++ (ws ++ rest)) = .ok (v, ws ++ rest) :=
    hv fuel (ws ++ rest) (by omega)
  have hreverse : ((key, w, v) :: before).reverse ++ ms = before.reverse ++ (key, w, v) :: ms := by simp
  have hmore : readMembers fuel wanted ((key, w, v) :: before) (ws ++ rest)
      = .ok (before.reverse ++ (key, w, v) :: ms, rest) := by
    rw [← hreverse] at hcomplete ⊢
    refine hms fuel rest (by omega) _ (fun m hm => List.forall_mem_cons.2 ⟨?_, hfresh m hm⟩) hcomplete
    exact (hnew m hm).symm
  rw [List.append_assoc, List.append_assoc, List.cons_append,
    readMembers_more (cons_ne_end (ne_end_of_isDigit hb) _), htext]
  simp only [bind, Except.bind, hname, hunread, hread, consumed_append, hmore]
  rfl

theorem Part.Reads.unnamed (hkey : SpellsText key wkey) (hname : wanted.find? (·.1 == key) = none)
    (hv : (Part.value .any v).Reads w) (hne : ws ≠ []) (hms : (Part.members wanted ms).Reads ws) :
    (Part.members wanted ms).Reads (wkey ++ (w ++ ws)) := by
  obtain ⟨b, bs, rfl, hb⟩ := hkey.exists_digit
  have hlength := List.length_pos_iff.2 hne
  refine .of_step (List.cons_ne_nil _ _) fun fuel rest hfuel before hfresh hcomplete => ?_
  rw [List.length_append, List.length_append, List.length_cons] at hfuel
  have htext : readText (b :: (bs ++ (w ++ (ws ++ rest)))) = .ok (key, w ++ (ws ++ rest)) :=
    readText_append hkey _
  have hread : read fuel .any (w ++ (ws ++ rest)) = .ok (v, ws ++ rest) :=
    hv fuel (ws ++ rest) (by omega)
  have hmore : readMembers fuel wanted before (ws ++ rest) = .ok (before.reverse ++ ms, rest) :=
    hms fuel rest (by omega) before hfresh hcomplete
  rw [List.append_assoc, List.append_assoc, List.cons_append,
    readMembers_more (cons_ne_end (ne_end_of_isDigit hb) _), htext]
  simp only [bind, Except.bind, hname, hread, hmore]

theorem Spells.ne_nil {p : Part} (h : Spells p w) : w ≠ [] := by
  have hvalue : ∀ {shape v} {w ws : Bytes}, Spells (.value shape v) w → w ++ ws ≠ [] := fun h hnil => by
    obtain ⟨b, bs, rfl, -⟩ := h.exists_first
    cases hnil
  have hkey : ∀ {key w ws : Bytes}, SpellsText key w → w ++ ws ≠ [] := fun h hnil => by
    obtain ⟨b, bs, rfl, -⟩ := h.exists_digit
    cases hnil
  cases h with
  | text h =>
    obtain ⟨b, bs, rfl, -⟩ := h.exists_digit
    exact List.cons_ne_nil b bs
  | anyText h =>
    obtain ⟨b, bs, rfl, -⟩ := h.exists_digit
    exact List.cons_ne_nil b bs
  | int h =>
    obtain ⟨bs, rfl⟩ := h.exists_cons
    exact List.cons_ne_nil _ bs
  | anyInt h =>
    obtain ⟨bs, rfl⟩ := h.exists_cons
    exact List.cons_ne_nil _ bs
  | item hv => exact hvalue hv
  | named h => exact hkey h
  | unnamed h => exact hkey h
  | pair hk => exact hvalue hk
  | _ => exact List.cons_ne_nil _ _

/-- What is written is read, whatever follows, in as many steps as it has bytes. -/
theorem Spells.reads {p : Part} (h : Spells p w) : p.Reads w := by
  induction h with
  | text h => exact reads_text h
  | int h hlow hhigh => exact reads_int h hlow hhigh
  | list _ ih => exact ih.list
  | dict _ hcomplete ih => exact ih.dict hcomplete
  | anyText h => exact reads_anyText h
  | anyInt h => exact reads_anyInt h
  | anyList _ ih => exact ih.anyList
  | anyDict _ ih => exact ih.anyDict
  | lastItem => exact reads_lastItem _
  | item hv hvs ihv ihvs => exact .item hv.exists_first ihv hvs.ne_nil ihvs
  | lastMember => exact reads_lastMember _
  | named hkey hname hv hms hnew ihv ihms => exact .named hkey hname ihv hms.ne_nil ihms hnew
  | unnamed hkey hname hv hms ihv ihms => exact .unnamed hkey hname ihv hms.ne_nil ihms
  | lastPair => exact reads_lastPair
  | pair hk hv hvs ihk ihv ihvs => exact .pair hk.exists_first ihk hv.ne_nil ihv hvs.ne_nil ihvs

/-- A written value is read, and what follows it does not count. -/
theorem readValue_append (h : Spells (.value shape v) w) (rest : Bytes) :
    readValue shape (w ++ rest) = .ok v := by
  have hread : read (2 * (w ++ rest).length + 2) shape (w ++ rest) = .ok (v, rest) :=
    h.reads _ rest (by rw [List.length_append]; omega)
  rw [readValue, hread]
  rfl

end Seedkeeper.Bencode
