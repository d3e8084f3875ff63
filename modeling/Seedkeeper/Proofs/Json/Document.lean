import Seedkeeper.Proofs.Json.Leaves

/-!
Documents: what is written compactly is read back, and a torn one is not read at all.

`Proper` documents are those whose leaves are well formed. A reader that expects a value and is given
a proper document's compact form ends up where that document is complete, whatever containers are
open around it (`Proper.readable`); only a number still waits for the byte after it. On the
outermost level nothing but blanks may follow a complete document, so no part of an object that stops
before its closing brace is a document (`read?_eq_none_of_append`).
-/

namespace Seedkeeper.Json

open Number (isDigit)
open Text (Bytes)

/-- A document whose leaves are spelled as the reader wants them. -/
inductive Proper : Json → Prop
  | null : Proper .null
  | bool (b : Bool) : Proper (.bool b)
  | number {w : Bytes} (h : Numeral w) : Proper (.number w)
  | string {w : Bytes} (h : Spelled w) : Proper (.string w)
  | array {items : List Json} (h : ∀ v ∈ items, Proper v) : Proper (.array items)
  | object {members : List (Bytes × Json)} (keys : ∀ m ∈ members, Spelled m.1)
      (values : ∀ m ∈ members, Proper m.2) : Proper (.object members)

/-! ### Complete values -/

/-- The reader stands right after a value: the value is complete, or it is a number that may end. -/
inductive After (stack : List Frame) (v : Json) : State → Prop
  | complete {s : State} (h : complete v stack = some s) : After stack v s
  | number {w : Bytes} {d : Digits} (hv : v = .number w) (h : d.mayEnd) :
      After stack v ⟨.inNumber w.reverse d, stack, none⟩

/-- Bytes that continue no number that may end. -/
def Delimits (b : UInt8) : Prop := ∀ d : Digits, d.mayEnd → d.next? b = none

theorem expects_of_complete {v : Json} {stack : List Frame} {s : State}
    (h : complete v stack = some s) : s.expects = .next := by
  cases stack with
  | nil => rw [← Option.some.inj h]
  | cons f fs => cases f <;> first | rw [← Option.some.inj h] | cases h

/-- After a value, a delimiter is read as one after the complete value. -/
theorem After.step {v : Json} {stack : List Frame} {s : State} {b : UInt8} (h : After stack v s)
    (hb : Delimits b) :
    step s b = (Json.complete v stack).bind fun t => afterValue t.stack t.result b := by
  cases h with
  | complete h => rw [h, Json.step, expects_of_complete h]; rfl
  | number hv hd =>
    subst hv
    rw [Json.step]
    simp only [hb _ hd, hd, if_true, List.reverse_reverse]

theorem After.finish {v : Json} {s : State} (h : After [] v s) : s.finish = some v := by
  cases h with
  | complete h => rw [← Option.some.inj h]; rfl
  | number hv hd =>
    subst hv
    simp [State.finish, hd]

/-- Whether a value may stand next: there is no container, or one that wants a value. -/
def Wants : List Frame → Prop
  | .object _ :: _ => False
  | _ => True

theorem Wants.complete {stack : List Frame} (h : Wants stack) (v : Json) :
    ∃ s, complete v stack = some s := by
  cases stack with
  | nil => exact ⟨_, rfl⟩
  | cons f fs =>
    cases f with
    | array items => exact ⟨_, rfl⟩
    | object members => exact h.elim
    | member members k => exact ⟨_, rfl⟩

/-- A value is readable if its compact form leads every reader that wants a value right after it. -/
def Readable (v : Json) : Prop :=
  ∀ stack, Wants stack → ∃ s, run ⟨.value, stack, none⟩ v.compact = some s ∧ After stack v s

theorem run_cons {s t : State} {b : UInt8} (bs : Bytes) (h : step s b = some t) :
    run s (b :: bs) = run t bs := by
  rw [run, List.foldlM_cons, h]; rfl

theorem run_singleton (s : State) (b : UInt8) : run s [b] = step s b := by
  rw [run, List.foldlM_cons]
  cases step s b <;> rfl

/-- A reader that completes a value at the end of its compact form makes the value readable. -/
theorem readable_of_run {v : Json}
    (h : ∀ stack, run ⟨.value, stack, none⟩ v.compact = Json.complete v stack) : Readable v := by
  intro stack hw
  obtain ⟨s, hs⟩ := hw.complete v
  exact ⟨s, (h stack).trans hs, .complete hs⟩

/-! ### Leaves -/

theorem run_inWord (v : Json) (stack : List Frame) : ∀ (b : UInt8) (w : Bytes),
    run ⟨.inWord (b :: w) v, stack, none⟩ (b :: w) = Json.complete v stack
  | b, [] => by rw [run_singleton, step]; exact if_pos rfl
  | b, c :: w => by
    have hstep : step ⟨.inWord (b :: c :: w) v, stack, none⟩ b
        = some ⟨.inWord (c :: w) v, stack, none⟩ := if_pos rfl
    rw [run_cons _ hstep]
    exact run_inWord v stack c w

/-- The fixed words are readable. -/
theorem readable_word {v : Json} {a b : UInt8} {w : Bytes} (hv : v.compact = a :: b :: w)
    (hstep : ∀ stack, step ⟨.value, stack, none⟩ a = some ⟨.inWord (b :: w) v, stack, none⟩) :
    Readable v :=
  readable_of_run fun stack => by
    rw [hv, run_cons _ (hstep stack)]
    exact run_inWord v stack b w

theorem readable_null : Readable .null := by
  have hrest : ascii "ull" = [0x75, 0x6C, 0x6C] := by decide
  have hword : compact .null = [0x6E, 0x75, 0x6C, 0x6C] := by rw [compact]; decide
  exact readable_word hword fun stack => by rw [← hrest]; rfl

theorem readable_bool : ∀ b : Bool, Readable (.bool b)
  | true => by
    have hrest : ascii "rue" = [0x72, 0x75, 0x65] := by decide
    have hword : compact (.bool true) = [0x74, 0x72, 0x75, 0x65] := by rw [compact]; decide
    exact readable_word hword fun stack => by rw [← hrest]; rfl
  | false => by
    have hrest : ascii "alse" = [0x61, 0x6C, 0x73, 0x65] := by decide
    have hword : compact (.bool false) = [0x66, 0x61, 0x6C, 0x73, 0x65] := by
      rw [compact]; decide
    exact readable_word hword fun stack => by rw [← hrest]; rfl

theorem run_inNumber {d e : Digits} : ∀ {w : Bytes} (read : Bytes) (stack : List Frame),
    w.foldlM Digits.next? d = some e →
    run ⟨.inNumber read d, stack, none⟩ w = some ⟨.inNumber (w.reverse ++ read) e, stack, none⟩
  | [], read, stack, h => by rw [Option.some.inj h]; rfl
  | b :: w, read, stack, h => by
    rw [List.foldlM_cons] at h
    obtain ⟨c, hc, hw⟩ := Option.bind_eq_some_iff.1 h
    have hstep : step ⟨.inNumber read d, stack, none⟩ b
        = some ⟨.inNumber (b :: read) c, stack, none⟩ := by
      rw [step]; simp only [hc]
    rw [run_cons w hstep, run_inNumber (b :: read) stack hw]
    simp

theorem step_of_first? {b : UInt8} {d : Digits} (h : Digits.first? b = some d)
    (stack : List Frame) :
    step ⟨.value, stack, none⟩ b = some ⟨.inNumber [b] d, stack, none⟩ := by
  rw [Digits.first?] at h
  split_ifs at h with hminus hzero hd
  · subst hminus; rw [← Option.some.inj h]; rfl
  · subst hzero; rw [← Option.some.inj h]; rfl
  · have hne : ∀ c, isDigit c = false → b ≠ c := by
      rintro c hc rfl
      rw [hd] at hc
      cases hc
    have hspace : isSpace b = false := by
      simp [isSpace, hne 0x20 rfl, hne 0x09 rfl, hne 0x0A rfl, hne 0x0D rfl]
    rw [step]
    simp only [hspace, Bool.false_eq_true, if_false]
    rw [beginValue, if_neg (hne _ rfl), if_neg (hne _ rfl), if_neg (hne _ rfl), if_neg hminus,
      if_neg hzero, if_pos hd, ← Option.some.inj h]

theorem readable_number {w : Bytes} (h : Numeral w) : Readable (.number w) := by
  obtain ⟨b, bs, d, e, rfl, hfirst, hrest, hend⟩ := h
  intro stack _
  refine ⟨_, ?_, .number rfl hend⟩
  rw [compact, run_cons bs (step_of_first? hfirst stack), run_inNumber [b] stack hrest,
    List.reverse_cons]

theorem readable_string {w : Bytes} (h : Spelled w) : Readable (.string w) :=
  readable_of_run fun stack => by
    have hopen : step ⟨.value, stack, none⟩ 0x22 = some ⟨.inString [] .plain, stack, none⟩ := rfl
    rw [compact, List.cons_append, run_cons _ hopen, run_append, run_inString h]
    change run _ [_] = _
    rw [run_singleton, step]
    simp only [and_self, if_true, List.reverse_reverse]

/-! ### Containers -/

theorem delimits_comma : Delimits 0x2C := by rintro (_ | _) _ <;> rfl

theorem delimits_bracket : Delimits 0x5D := by rintro (_ | _) _ <;> rfl

theorem delimits_brace : Delimits 0x7D := by rintro (_ | _) _ <;> rfl

theorem After.expects_ne_value {v : Json} {stack : List Frame} {s : State}
    (h : After stack v s) : s.expects ≠ .value := by
  cases h with
  | complete h => rw [expects_of_complete h]; exact nofun
  | number => exact nofun

/-- The first item of an array is read as any value is. -/
theorem run_firstItem {stack : List Frame} {s : State} (hs : s.expects ≠ .value) : ∀ {w : Bytes},
    run ⟨.value, stack, none⟩ w = some s → run ⟨.firstItem, stack, none⟩ w = some s
  | [], h => absurd (congrArg State.expects (Option.some.inj h)).symm hs
  | b :: w, h => by
    rw [run, List.foldlM_cons] at h
    obtain ⟨t, ht, hw⟩ := Option.bind_eq_some_iff.1 h
    rw [Json.step] at ht
    by_cases hspace : isSpace b = true
    · -- a blank moves neither reader
      simp only [hspace, if_true] at ht
      rw [← Option.some.inj ht] at hw
      have hstep : Json.step ⟨.firstItem, stack, none⟩ b = some ⟨.firstItem, stack, none⟩ := by
        rw [Json.step]; simp only [hspace, if_true]
      rw [run_cons w hstep]
      exact run_firstItem hs hw
    · simp only [hspace, Bool.false_eq_true, if_false] at ht
      -- a reader of values rejects the bracket, the one byte that would tell the two apart
      have hb : b ≠ 0x5D := by rintro rfl; cases ht
      have hstep : Json.step ⟨.firstItem, stack, none⟩ b = some t := by
        rw [Json.step]; simp only [hspace, Bool.false_eq_true, if_false, if_neg hb, ht]
      rw [run_cons w hstep]
      exact hw

theorem compactItems_cons_cons (v w : Json) (vs : List Json) :
    compactItems (v :: w :: vs) = compact v ++ 0x2C :: compactItems (w :: vs) := by
  rw [compactItems]; exact nofun

theorem compactMembers_cons_cons (k : Bytes) (v : Json) (m : Bytes × Json)
    (ms : List (Bytes × Json)) : compactMembers ((k, v) :: m :: ms)
      = 0x22 :: k ++ 0x22 :: 0x3A :: compact v ++ 0x2C :: compactMembers (m :: ms) := by
  rw [compactMembers]; exact nofun

/-- Items and the closing bracket are read as the array they belong to; `e` is what the reader
    expects at the first of them. -/
theorem run_compactItems (fs : List Frame) (e : Expects)
    (he : ∀ {stack : List Frame} {w : Bytes} {s : State}, s.expects ≠ .value →
      run ⟨.value, stack, none⟩ w = some s → run ⟨e, stack, none⟩ w = some s) :
    ∀ (v : Json) (vs done : List Json), (∀ u ∈ v :: vs, Readable u) →
    run ⟨e, .array done :: fs, none⟩ (compactItems (v :: vs) ++ [0x5D])
      = Json.complete (.array (done.reverse ++ v :: vs)) fs
  | v, [], done, h => by
    obtain ⟨s, hs, hafter⟩ := h v List.mem_cons_self (.array done :: fs) trivial
    rw [compactItems, run_append, he hafter.expects_ne_value hs, Option.bind_some, run_singleton,
      hafter.step delimits_bracket]
    change Json.complete (.array (v :: done).reverse) fs = _
    rw [List.reverse_cons]
  | v, w :: vs, done, h => by
    obtain ⟨s, hs, hafter⟩ := h v List.mem_cons_self (.array done :: fs) trivial
    have hcomma : Json.step s 0x2C = some ⟨.value, .array (v :: done) :: fs, none⟩ := by
      rw [hafter.step delimits_comma]; rfl
    rw [compactItems_cons_cons, List.append_assoc, run_append, he hafter.expects_ne_value hs,
      Option.bind_some, List.cons_append, run_cons _ hcomma,
      run_compactItems fs .value (fun _ hw => hw) w vs (v :: done)
        (fun u hu => h u (List.mem_cons_of_mem _ hu)),
      List.reverse_cons, List.append_assoc, List.singleton_append]

theorem readable_array {items : List Json} (h : ∀ v ∈ items, Readable v) :
    Readable (.array items) :=
  readable_of_run fun stack => by
    have hopen : Json.step ⟨.value, stack, none⟩ 0x5B
        = some ⟨.firstItem, .array [] :: stack, none⟩ := rfl
    rw [compact, List.cons_append, run_cons _ hopen]
    cases items with
    | nil => rw [compactItems, List.nil_append, run_singleton]; rfl
    | cons v vs =>
      exact run_compactItems stack .firstItem (fun hs hw => run_firstItem hs hw) v vs [] h

/-- A member is read from where a key may begin up to right after its value. -/
theorem run_member {e : Expects}
    (he : ∀ stack, Json.step ⟨e, stack, none⟩ 0x22 = some ⟨.inKey [] .plain, stack, none⟩)
    {k : Bytes} (hk : Spelled k) {v : Json} (hv : Readable v) (done : List (Bytes × Json))
    (fs : List Frame) :
    ∃ s, run ⟨e, .object done :: fs, none⟩ (0x22 :: k ++ 0x22 :: 0x3A :: compact v) = some s ∧
      After (.member done k :: fs) v s := by
  obtain ⟨s, hs, hafter⟩ := hv (.member done k :: fs) trivial
  refine ⟨s, ?_, hafter⟩
  have hclose : Json.step ⟨.inKey k.reverse .plain, .object done :: fs, none⟩ 0x22
      = some ⟨.colon k, .object done :: fs, none⟩ := by
    rw [Json.step]; simp only [and_self, if_true, List.reverse_reverse]
  have hcolon : Json.step ⟨.colon k, .object done :: fs, none⟩ 0x3A
      = some ⟨.value, .member done k :: fs, none⟩ := rfl
  rw [List.cons_append, run_cons _ (he _), run_append, run_inKey hk, Option.bind_some,
    run_cons _ hclose, run_cons _ hcolon, hs]

/-- Members and the closing brace are read as the object they belong to; `e` is what the reader
    expects at the first of them. -/
theorem run_compactMembers (fs : List Frame) (e : Expects)
    (he : ∀ stack, Json.step ⟨e, stack, none⟩ 0x22 = some ⟨.inKey [] .plain, stack, none⟩) :
    ∀ (m : Bytes × Json) (ms done : List (Bytes × Json)),
    (∀ n ∈ m :: ms, Spelled n.1) → (∀ n ∈ m :: ms, Readable n.2) →
    run ⟨e, .object done :: fs, none⟩ (compactMembers (m :: ms) ++ [0x7D])
      = Json.complete (.object (done.reverse ++ m :: ms)) fs
  | (k, v), [], done, hk, hv => by
    obtain ⟨s, hs, hafter⟩ :=
      run_member he (hk _ List.mem_cons_self) (hv _ List.mem_cons_self) done fs
    rw [compactMembers, run_append, hs, Option.bind_some, run_singleton,
      hafter.step delimits_brace]
    change Json.complete (.object ((k, v) :: done).reverse) fs = _
    rw [List.reverse_cons]
  | (k, v), m :: ms, done, hk, hv => by
    obtain ⟨s, hs, hafter⟩ :=
      run_member he (hk _ List.mem_cons_self) (hv _ List.mem_cons_self) done fs
    have hcomma : Json.step s 0x2C = some ⟨.key, .object ((k, v) :: done) :: fs, none⟩ := by
      rw [hafter.step delimits_comma]; rfl
    rw [compactMembers_cons_cons, List.append_assoc, run_append, hs, Option.bind_some,
      List.cons_append, run_cons _ hcomma, run_compactMembers fs .key (fun _ => rfl) m ms ((k, v) :: done)
        (fun n hn => hk n (List.mem_cons_of_mem _ hn))
        (fun n hn => hv n (List.mem_cons_of_mem _ hn)),
      List.reverse_cons, List.append_assoc, List.singleton_append]

theorem readable_object {members : List (Bytes × Json)} (hk : ∀ m ∈ members, Spelled m.1)
    (hv : ∀ m ∈ members, Readable m.2) : Readable (.object members) :=
  readable_of_run fun stack => by
    have hopen : Json.step ⟨.value, stack, none⟩ 0x7B
        = some ⟨.firstKey, .object [] :: stack, none⟩ := rfl
    rw [compact, List.cons_append, run_cons _ hopen]
    cases members with
    | nil => rw [compactMembers, List.nil_append, run_singleton]; rfl
    | cons m ms => exact run_compactMembers stack .firstKey (fun _ => rfl) m ms [] hk hv

/-! ### Documents -/

theorem Proper.readable {v : Json} (h : Proper v) : Readable v := by
  induction h with
  | null => exact readable_null
  | bool b => exact readable_bool b
  | number h => exact readable_number h
  | string h => exact readable_string h
  | array _ ih => exact readable_array ih
  | object keys _ ih => exact readable_object keys ih

/-! ### Lines -/

theorem mem_compactItems {b : UInt8} : ∀ {vs : List Json}, b ∈ compactItems vs →
    b = 0x2C ∨ ∃ v ∈ vs, b ∈ v.compact
  | [], h => by rw [compactItems] at h; cases h
  | [v], h => .inr ⟨v, List.mem_cons_self, by rwa [compactItems] at h⟩
  | v :: w :: vs, h => by
    rw [compactItems_cons_cons] at h
    rcases List.mem_append.1 h with h | h
    · exact .inr ⟨v, List.mem_cons_self, h⟩
    · rcases List.mem_cons.1 h with h | h
      · exact .inl h
      · exact (mem_compactItems h).imp id fun ⟨u, hu, hb⟩ => ⟨u, List.mem_cons_of_mem _ hu, hb⟩

theorem mem_compactMembers {b : UInt8} : ∀ {ms : List (Bytes × Json)}, b ∈ compactMembers ms →
    b ∈ [0x22, 0x3A, 0x2C] ∨ ∃ m ∈ ms, b ∈ m.1 ∨ b ∈ m.2.compact
  | [], h => by rw [compactMembers] at h; cases h
  | [(k, v)], h => by
    rw [compactMembers] at h
    simp only [List.cons_append, List.mem_cons, List.mem_append] at h
    rcases h with rfl | h | rfl | rfl | h
    · exact .inl (by decide)
    · exact .inr ⟨(k, v), List.mem_cons_self, .inl h⟩
    · exact .inl (by decide)
    · exact .inl (by decide)
    · exact .inr ⟨(k, v), List.mem_cons_self, .inr h⟩
  | (k, v) :: m :: ms, h => by
    rw [compactMembers_cons_cons] at h
    simp only [List.cons_append, List.mem_cons, List.mem_append] at h
    rcases h with rfl | (h | rfl | rfl | h) | rfl | h
    · exact .inl (by decide)
    · exact .inr ⟨(k, v), List.mem_cons_self, .inl h⟩
    · exact .inl (by decide)
    · exact .inl (by decide)
    · exact .inr ⟨(k, v), List.mem_cons_self, .inr h⟩
    · exact .inl (by decide)
    · exact (mem_compactMembers h).imp id fun ⟨n, hn, hb⟩ => ⟨n, List.mem_cons_of_mem _ hn, hb⟩

/-- A compact document has no control characters. -/
theorem Proper.le_of_mem {v : Json} (h : Proper v) : ∀ b ∈ v.compact, 0x20 ≤ b := by
  induction h with
  | null =>
    rw [compact]
    decide +kernel
  | bool b =>
    cases b <;> rw [compact] <;> decide +kernel
  | number h =>
    rw [compact]
    exact h.le_of_mem
  | string h =>
    rw [compact]
    intro b hb
    simp only [List.cons_append, List.mem_cons, List.mem_append, List.not_mem_nil, or_false] at hb
    rcases hb with rfl | hb | rfl
    · decide
    · exact h.le_of_mem b hb
    · decide
  | array _ ih =>
    rw [compact]
    intro b hb
    simp only [List.cons_append, List.mem_cons, List.mem_append, List.not_mem_nil, or_false] at hb
    rcases hb with rfl | hb | rfl
    · decide
    · rcases mem_compactItems hb with rfl | ⟨v, hv, hb⟩
      · decide
      · exact ih v hv b hb
    · decide
  | object keys _ ih =>
    rw [compact]
    intro b hb
    simp only [List.cons_append, List.mem_cons, List.mem_append, List.not_mem_nil, or_false] at hb
    rcases hb with rfl | hb | rfl
    · decide
    · rcases mem_compactMembers hb with hb | ⟨m, hm, hb | hb⟩
      · simp only [List.mem_cons, List.not_mem_nil, or_false] at hb
        rcases hb with rfl | rfl | rfl <;> decide
      · exact (keys m hm).le_of_mem b hb
      · exact ih m hm b hb
    · decide

/-- A compact document is one line. -/
theorem Proper.newline_notMem {v : Json} (h : Proper v) : 0x0A ∉ v.compact :=
  fun hmem => absurd (h.le_of_mem _ hmem) (by decide)

/-! ### Blanks around a document -/

/-- Bytes that are all blanks. -/
def Blanks (bs : Bytes) : Prop := ∀ b ∈ bs, isSpace b = true

theorem blanks_of_all {bs : Bytes} (h : bs.all isSpace = true) : Blanks bs := List.all_eq_true.1 h

theorem Blanks.of_cons {b : UInt8} {bs : Bytes} (h : Blanks (b :: bs)) :
    isSpace b = true ∧ Blanks bs :=
  ⟨h b List.mem_cons_self, fun c hc => h c (List.mem_cons_of_mem _ hc)⟩

theorem delimits_of_isSpace {b : UInt8} (h : isSpace b = true) : Delimits b := by
  intro d _
  simp only [isSpace, Bool.or_eq_true, decide_eq_true_eq] at h
  rcases h with ((rfl | rfl) | rfl) | rfl <;> cases d <;> rfl

/-- Before a value blanks are passed over. -/
theorem run_blanks_value (stack : List Frame) : ∀ {bs : Bytes}, Blanks bs →
    run ⟨.value, stack, none⟩ bs = some ⟨.value, stack, none⟩
  | [], _ => rfl
  | b :: bs, h => by
    obtain ⟨hb, hbs⟩ := h.of_cons
    have hstep : Json.step ⟨.value, stack, none⟩ b = some ⟨.value, stack, none⟩ := by
      rw [Json.step]
      simp only [hb, if_true]
    rw [run_cons bs hstep]
    exact run_blanks_value stack hbs

/-- Right after the outermost value a blank completes it, and more blanks change nothing. -/
theorem After.run_blanks {v : Json} : ∀ {bs : Bytes} {s : State}, After [] v s → Blanks bs →
    ∃ t, run s bs = some t ∧ After [] v t
  | [], s, h, _ => ⟨s, rfl, h⟩
  | b :: bs, s, h, hbs => by
    obtain ⟨hb, hbs⟩ := hbs.of_cons
    have hstep : Json.step s b = some ⟨.next, [], some v⟩ := by
      rw [h.step (delimits_of_isSpace hb)]
      change afterValue [] (some v) b = _
      simp only [afterValue, hb, if_true]
    obtain ⟨t, ht, hafter⟩ := After.run_blanks (.complete rfl) hbs
    rw [run_cons bs hstep]
    exact ⟨t, ht, hafter⟩

/-- What is written compactly is read back with blanks around it. -/
theorem read?_blanks_compact {v : Json} (h : Proper v) {before after : Bytes}
    (hbefore : Blanks before) (hafter : Blanks after) :
    read? (before ++ v.compact ++ after) = some v := by
  obtain ⟨s, hs, hv⟩ := h.readable [] trivial
  obtain ⟨t, ht, hend⟩ := hv.run_blanks hafter
  rw [read?, State.start, List.append_assoc, run_append, run_blanks_value [] hbefore,
    Option.bind_some, run_append, hs, Option.bind_some, ht]
  exact hend.finish

/-- What is written compactly is read back. -/
theorem read?_compact {v : Json} (h : Proper v) : read? v.compact = some v := by
  have hnone : Blanks [] := blanks_of_all rfl
  have hread := read?_blanks_compact h hnone hnone
  rwa [List.nil_append, List.append_nil] at hread

/-! ### Torn documents -/

/-- The reader may have read all: no container is open, and the value is complete or a number. -/
def Ended (s : State) : Prop :=
  s.stack = [] ∧ (s.expects = .next ∨ ∃ w d, s.expects = .inNumber w d)

theorem ended_of_finish {s : State} {v : Json} (h : s.finish = some v) : Ended s := by
  obtain ⟨expects, stack, result⟩ := s
  rw [State.finish] at h
  cases expects with
  | next =>
    simp only [List.isEmpty_iff] at h
    split at h
    · rename_i hstack
      exact ⟨hstack, .inl rfl⟩
    · cases h
  | inNumber w d =>
    simp only [List.isEmpty_iff] at h
    split at h
    · rename_i hend
      exact ⟨hend.2, .inr ⟨w, d, rfl⟩⟩
    · cases h
  | _ => cases h

theorem ended_of_afterValue {result : Option Json} {b : UInt8} {t : State}
    (h : afterValue [] result b = some t) : b ≠ 0x7D ∧ Ended t := by
  simp only [afterValue] at h
  split at h
  · rename_i hspace
    refine ⟨?_, ?_⟩
    · rintro rfl; cases hspace
    · rw [← Option.some.inj h]; exact ⟨rfl, .inl rfl⟩
  · cases h

/-- After all is read only blanks and more digits may come, and they change nothing about that. -/
theorem Ended.step {s t : State} {b : UInt8} (h : Ended s) (hstep : step s b = some t) :
    b ≠ 0x7D ∧ Ended t := by
  obtain ⟨expects, stack, result⟩ := s
  obtain ⟨rfl, rfl | ⟨w, d, rfl⟩⟩ := h
  · exact ended_of_afterValue hstep
  · rw [Json.step] at hstep
    cases hd : d.next? b with
    | some c =>
      simp only [hd] at hstep
      refine ⟨?_, ?_⟩
      · rintro rfl; cases d <;> cases hd
      · rw [← Option.some.inj hstep]; exact ⟨rfl, .inr ⟨_, _, rfl⟩⟩
    | none =>
      simp only [hd] at hstep
      split at hstep
      · exact ended_of_afterValue hstep
      · cases hstep

/-- No brace is read after all is read. -/
theorem Ended.run : ∀ {s t : State} {bs : Bytes}, Ended s → run s bs = some t → 0x7D ∉ bs
  | _, _, [], _, _ => List.not_mem_nil
  | s, t, b :: bs, h, hrun => by
    rw [Json.run, List.foldlM_cons] at hrun
    obtain ⟨u, hu, hbs⟩ := Option.bind_eq_some_iff.1 hrun
    obtain ⟨hb, hended⟩ := h.step hu
    intro hmem
    rcases List.mem_cons.1 hmem with rfl | hmem
    · exact hb rfl
    · exact Ended.run hended hbs hmem

/-- What stops before a closing brace of a document is not a document. -/
theorem read?_eq_none_of_append {p q : Bytes} {v : Json} (h : read? (p ++ q) = some v)
    (hbrace : 0x7D ∈ q) : read? p = none := by
  obtain ⟨t, ht, _⟩ := Option.bind_eq_some_iff.1 h
  rw [run_append] at ht
  obtain ⟨s, hs, hq⟩ := Option.bind_eq_some_iff.1 ht
  rw [read?, hs, Option.bind_some]
  cases hfinish : s.finish with
  | none => rfl
  | some u => exact absurd hbrace ((ended_of_finish hfinish).run hq)

end Seedkeeper.Json
