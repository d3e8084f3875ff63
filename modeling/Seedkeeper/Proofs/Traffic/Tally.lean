import Mathlib.Algebra.Order.Ring.Int
import Mathlib.Algebra.Order.Ring.Nat
import Mathlib.Data.List.Induction
import Mathlib.Data.List.Sort
import Mathlib.Data.Prod.Lex
import Mathlib.Data.String.Basic
import Seedkeeper.Traffic.Ledger

/-!
Tallies: bookings summed by bucket.

A booking is an amount of traffic for one bucket, in unbounded numbers. A tally of some bookings has
one entry for each bucket they touch, in ascending order, with the sum of that bucket's bookings;
`IsTally` says so and leaves no choice (`IsTally.unique`). `tally` computes it one booking at a time,
as the ledger books its rows. As long as no bucket's sum reaches half of what a word of 64 bits
holds, the ledger's counters are the tally's sums (`bookAll_eq`).
-/

namespace Seedkeeper.Traffic

/-! ### The order of buckets -/

/-- A bucket as a triple in lexicographic order. -/
def Bucket.key (b : Bucket) : String ×ₗ String ×ₗ String := toLex (b.client, toLex (b.day, b.site))

theorem Bucket.key_inj {a b : Bucket} (h : a.key = b.key) : a = b := by
  cases a; cases b
  simp only [Bucket.key, toLex_inj, Prod.mk.injEq] at h
  obtain ⟨rfl, rfl, rfl⟩ := h
  rfl

theorem Bucket.before_iff {a b : Bucket} : a.before b ↔ a.key < b.key := by
  simp [Bucket.before, Bucket.key, Prod.Lex.toLex_lt_toLex]

theorem Bucket.before_of_not_before {a b : Bucket} (hne : a ≠ b) (h : ¬ a.before b) :
    b.before a := by
  rw [Bucket.before_iff] at h ⊢
  exact lt_of_le_of_ne (not_lt.1 h) fun he => hne (Bucket.key_inj he.symm)

instance : Std.Irrefl (fun a b : Bucket => (a.before b : Prop)) :=
  ⟨fun _ h => lt_irrefl _ (Bucket.before_iff.1 h)⟩

instance : Std.Antisymm (fun a b : Bucket => (a.before b : Prop)) :=
  ⟨fun _ _ h k => absurd (Bucket.before_iff.1 h) (Bucket.before_iff.1 k).asymm⟩

theorem Bucket.before_trans {a b c : Bucket} (h : a.before b) (k : b.before c) : a.before c :=
  Bucket.before_iff.2 ((Bucket.before_iff.1 h).trans (Bucket.before_iff.1 k))

/-! ### Bookings and their totals -/

/-- An amount of traffic for a bucket. -/
structure Booking where
  bucket : Bucket
  downloaded : Nat
  uploaded : Nat
  deriving DecidableEq

/-- What some bookings amount to for the buckets of a kind. -/
def total (amount : Booking → Nat) (p : Bucket → Bool) (bs : List Booking) : Nat :=
  ((bs.filter (p ·.bucket)).map amount).sum

variable {amount : Booking → Nat} {p : Bucket → Bool} {b : Booking} {bs xs ys : List Booking}

@[simp] theorem total_nil : total amount p [] = 0 := rfl

@[simp] theorem total_cons :
    total amount p (b :: bs) = (if p b.bucket then amount b else 0) + total amount p bs := by
  rw [total, List.filter_cons]
  split <;> simp [total]

@[simp] theorem total_append : total amount p (bs ++ xs) = total amount p bs + total amount p xs := by
  simp [total]

theorem total_eq_zero (h : ∀ b ∈ bs, p b.bucket = false) : total amount p bs = 0 := by
  rw [total, List.filter_eq_nil_iff.2 fun b hb => by simp [h b hb]]
  rfl

theorem total_le : ∀ bs : List Booking, total amount p bs ≤ (bs.map amount).sum
  | [] => Nat.le_refl _
  | b :: bs => by
    rw [total_cons, List.map_cons, List.sum_cons]
    have := total_le bs
    split <;> omega

/-- Bookings of buckets that are all of the kind, or all not. -/
theorem total_eq_ite {q : Bool} (h : ∀ b ∈ bs, p b.bucket = q) :
    total amount p bs = if q then (bs.map amount).sum else 0 := by
  cases q with
  | false => exact total_eq_zero h
  | true => rw [total, List.filter_eq_self.2 h]; rfl

/-! ### Computing a tally -/

/-- A booking with another one of its bucket added. -/
def Booking.add (x b : Booking) : Booking :=
  ⟨x.bucket, x.downloaded + b.downloaded, x.uploaded + b.uploaded⟩

/-- A tally with one more booking: added to its bucket's entry, or as a new entry in its place. -/
def post (b : Booking) : List Booking → List Booking
  | [] => [b]
  | x :: xs =>
    if x.bucket = b.bucket then x.add b :: xs
    else if b.bucket.before x.bucket then b :: x :: xs
    else x :: post b xs

/-- The tally of some bookings. -/
def tally (bs : List Booking) : List Booking := bs.foldl (fun xs b => post b xs) []

theorem tally_concat : tally (bs ++ [b]) = post b (tally bs) := by
  rw [tally, List.foldl_append]; rfl

theorem mem_buckets_post (b : Booking) (k : Bucket) : ∀ xs : List Booking,
    k ∈ (post b xs).map (·.bucket) ↔ k = b.bucket ∨ k ∈ xs.map (·.bucket)
  | [] => by simp [post]
  | x :: xs => by
    rw [post]
    split
    · rename_i he
      simp only [List.map_cons, List.mem_cons, Booking.add, he]
      tauto
    · split
      · simp
      · simp only [List.map_cons, List.mem_cons, mem_buckets_post b k xs]
        tauto

/-- A booking adds its amount to every total it belongs to. -/
theorem total_post (hadd : ∀ x b, amount (x.add b) = amount x + amount b) (b : Booking) :
    ∀ xs : List Booking,
    total amount p (post b xs) = total amount p xs + if p b.bucket then amount b else 0
  | [] => by simp [post]
  | x :: xs => by
    rw [post]
    split
    · rename_i he
      rw [total_cons, total_cons, hadd, Booking.add, he]
      by_cases hp : p b.bucket
      · rw [if_pos hp, if_pos hp, if_pos hp]; omega
      · rw [if_neg hp, if_neg hp, if_neg hp]; rfl
    · split
      · rw [total_cons, total_cons, Nat.add_comm]
      · rw [total_cons, total_post hadd b xs, total_cons, Nat.add_assoc]

/-- A tally keeps every total. -/
theorem total_tally (hadd : ∀ x b, amount (x.add b) = amount x + amount b) (bs : List Booking) :
    total amount p (tally bs) = total amount p bs := by
  induction bs using List.reverseRecOn with
  | nil => rfl
  | append_singleton bs b ih => rw [tally_concat, total_post hadd, ih]; simp

/-! ### What a tally is -/

/-- One entry for each bucket of the bookings, in ascending order, with the bucket's sums. -/
structure IsTally (bs xs : List Booking) : Prop where
  ascending : (xs.map (·.bucket)).Pairwise (fun a b => a.before b)
  mem_iff : ∀ k, k ∈ xs.map (·.bucket) ↔ k ∈ bs.map (·.bucket)
  downloaded_eq : ∀ x ∈ xs, x.downloaded = total (·.downloaded) (· = x.bucket) bs
  uploaded_eq : ∀ x ∈ xs, x.uploaded = total (·.uploaded) (· = x.bucket) bs

theorem ascending_post (b : Booking) : ∀ {xs : List Booking},
    (xs.map (·.bucket)).Pairwise (fun a b => a.before b) →
    ((post b xs).map (·.bucket)).Pairwise (fun a b => a.before b)
  | [], _ => by simp [post]
  | x :: xs, h => by
    rw [List.map_cons, List.pairwise_cons] at h
    rw [post]
    split
    · exact List.pairwise_cons.2 h
    · rename_i hne
      split
      · rename_i hb
        refine List.pairwise_cons.2 ⟨fun k hk => ?_, List.pairwise_cons.2 h⟩
        rcases List.mem_cons.1 hk with rfl | hk
        · exact hb
        · exact Bucket.before_trans hb (h.1 k hk)
      · rename_i hb
        refine List.pairwise_cons.2 ⟨fun k hk => ?_, ascending_post b h.2⟩
        rcases (mem_buckets_post b k xs).1 hk with rfl | hk
        · exact Bucket.before_of_not_before (fun he => hne he.symm) hb
        · exact h.1 k hk

/-- In a list of entries without repeated buckets, a bucket's total is its entry. -/
theorem total_eq_of_mem : ∀ {xs : List Booking} {x : Booking}, (xs.map (·.bucket)).Nodup → x ∈ xs →
    total amount (· = x.bucket) xs = amount x
  | y :: ys, x, hnodup, hx => by
    rw [List.map_cons, List.nodup_cons] at hnodup
    rw [total_cons]
    rcases List.mem_cons.1 hx with rfl | hx
    · rw [if_pos (by simp), total_eq_zero, Nat.add_zero]
      intro z hz
      exact decide_eq_false fun he => hnodup.1 (he ▸ List.mem_map_of_mem hz)
    · have hne : y.bucket ≠ x.bucket := fun he => hnodup.1 (he ▸ List.mem_map_of_mem hx)
      rw [if_neg (by simpa using hne), Nat.zero_add, total_eq_of_mem hnodup.2 hx]

theorem mem_buckets_tally (k : Bucket) (bs : List Booking) :
    k ∈ (tally bs).map (·.bucket) ↔ k ∈ bs.map (·.bucket) := by
  induction bs using List.reverseRecOn with
  | nil => rfl
  | append_singleton bs b ih =>
    rw [tally_concat, mem_buckets_post, ih, List.map_append, List.mem_append, or_comm]
    simp

theorem exists_mem_tally (q : Bucket → Prop) (bs : List Booking) :
    (∃ x ∈ tally bs, q x.bucket) ↔ ∃ b ∈ bs, q b.bucket := by
  have h : ∀ ys : List Booking, (∃ y ∈ ys, q y.bucket) ↔ ∃ k ∈ ys.map (·.bucket), q k := by simp
  rw [h, h]
  simp only [mem_buckets_tally]

theorem ascending_tally (bs : List Booking) :
    ((tally bs).map (·.bucket)).Pairwise (fun a b => a.before b) := by
  induction bs using List.reverseRecOn with
  | nil => exact .nil
  | append_singleton bs b ih => rw [tally_concat]; exact ascending_post b ih

theorem entry_eq_total (amount : Booking → Nat)
    (hadd : ∀ x b, amount (x.add b) = amount x + amount b) {x : Booking} (hx : x ∈ tally bs) :
    amount x = total amount (· = x.bucket) bs := by
  rw [← total_tally hadd, total_eq_of_mem (ascending_tally bs).nodup hx]

theorem isTally_tally (bs : List Booking) : IsTally bs (tally bs) where
  ascending := ascending_tally bs
  mem_iff k := mem_buckets_tally k bs
  downloaded_eq _ hx := entry_eq_total _ (fun _ _ => rfl) hx
  uploaded_eq _ hx := entry_eq_total _ (fun _ _ => rfl) hx

/-- The entries of a tally are read off its buckets. -/
theorem IsTally.eq_map (h : IsTally bs xs) : xs = (xs.map (·.bucket)).map fun k =>
    ⟨k, total (·.downloaded) (· = k) bs, total (·.uploaded) (· = k) bs⟩ := by
  rw [List.map_map]
  conv_lhs => rw [← List.map_id xs]
  refine List.map_congr_left fun x hx => ?_
  simp only [Function.comp_apply, ← h.downloaded_eq x hx, ← h.uploaded_eq x hx, id]

/-- Some bookings have one tally. -/
theorem IsTally.unique (h : IsTally bs xs) (k : IsTally bs ys) : xs = ys := by
  have hb : xs.map (·.bucket) = ys.map (·.bucket) :=
    h.ascending.eq_of_mem_iff k.ascending fun b => (h.mem_iff b).trans (k.mem_iff b).symm
  rw [h.eq_map, k.eq_map, hb]

/-! ### The ledger's rows -/

/-- The row that stands for an entry. -/
def Booking.row (b : Booking) : Row := ⟨b.bucket, .start b.downloaded, .start b.uploaded⟩

/-- Rows with some bookings booked into them, one after the other. -/
def bookAll (rows : List Row) (bs : List Booking) : List Row :=
  bs.foldl (fun rows b => book b.bucket b.downloaded b.uploaded rows) rows

theorem bookAll_append (rows : List Row) (bs xs : List Booking) :
    bookAll rows (bs ++ xs) = bookAll (bookAll rows bs) xs := List.foldl_append

theorem start_eq_exact (n : Nat) : Counter.start n = .exact (Int64.ofNat n) := rfl

/-- Two amounts whose sum stays in the signed range fit in words, and so does their sum. -/
theorem words_of_add_lt {m n : Nat} (h : m + n < 2 ^ 63) :
    (Int64.ofNat m).toInt = m ∧ (Int64.ofNat n).toInt = n ∧ Number.fitsInt64 ((m : Int) + n) :=
  ⟨Int64.toInt_ofNat_of_lt (by omega), Int64.toInt_ofNat_of_lt (by omega),
    Number.fitsInt64_iff.2 ⟨by omega, by omega⟩⟩

/-- A counter adds up as long as the sum stays in the signed range. -/
theorem addAmount_start {m n : Nat} (h : m + n < 2 ^ 63) :
    (Counter.start m).addAmount n = .start (m + n) := by
  obtain ⟨hm, hn, hfits⟩ := words_of_add_lt h
  rw [start_eq_exact, start_eq_exact, Counter.addAmount]
  change Counter.add (.exact (Int64.ofNat m)) (Int64.ofNat n) = _
  rw [Counter.add]
  simp only [hm, hn, hfits, if_true]
  rfl

/-- Booking into rows is posting into the entries they stand for. -/
theorem book_map_row (b : Booking) : ∀ {xs : List Booking},
    (∀ x ∈ xs, x.bucket = b.bucket →
      x.downloaded + b.downloaded < 2 ^ 63 ∧ x.uploaded + b.uploaded < 2 ^ 63) →
    book b.bucket b.downloaded b.uploaded (xs.map Booking.row) = (post b xs).map Booking.row
  | [], _ => rfl
  | x :: xs, h => by
    rw [List.map_cons, book, post]
    change (if x.bucket = b.bucket then _ else if b.bucket.before x.bucket then _ else _) = _
    split
    · rename_i he
      obtain ⟨hd, hu⟩ := h x List.mem_cons_self he
      simp only [Row.add, Booking.row, Booking.add, List.map_cons]
      rw [addAmount_start hd, addAmount_start hu]
    · split
      · rfl
      · rw [book_map_row b fun y hy => h y (List.mem_cons_of_mem _ hy), List.map_cons]

/-- The ledger's rows are the tally, while every sum stays in the signed range. -/
theorem bookAll_eq (bs : List Booking)
    (h : ∀ k, total (·.downloaded) (· = k) bs < 2 ^ 63 ∧ total (·.uploaded) (· = k) bs < 2 ^ 63) :
    bookAll [] bs = (tally bs).map Booking.row := by
  induction bs using List.reverseRecOn with
  | nil => rfl
  | append_singleton bs b ih =>
    simp only [total_append, total_cons, total_nil, Nat.add_zero] at h
    rw [bookAll_append, ih fun k => ⟨by have := h k; omega, by have := h k; omega⟩, tally_concat]
    refine book_map_row b fun x hx he => ?_
    have hk := h b.bucket
    simp only [decide_true, if_true] at hk
    rw [entry_eq_total (·.downloaded) (fun _ _ => rfl) hx,
      entry_eq_total (·.uploaded) (fun _ _ => rfl) hx, he]
    exact hk

end Seedkeeper.Traffic
