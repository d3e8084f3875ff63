import Seedkeeper.CrossSeed.Verdict

/-!
What a verdict says about two lists of files.

As long as each list stays in one folder, the two may differ in the folder's name; as soon as one of
them leaves its folder, they have to be the same. So two lists that are walked together to the end are
alike in one of two ways (`walk_cases`): all files are in two folders of different names (`Renamed`), or
the first files are, whatever the names, and the others, at least one, are the same (`Meets`). The verdict
is read off both ways (`compare_of_renamed`, `compare_of_meets`), and there is no third one
(`compare_cases`).
-/

namespace Seedkeeper.CrossSeed

/-! ### Files in folders -/

/-- Whether a text can be the name of a folder. -/
def IsFolderName (name : String) : Prop := '/' ∉ name.toList

instance (name : String) : Decidable (IsFolderName name) := inferInstanceAs (Decidable (_ ∉ _))

/-- A file put into a folder. -/
def Entry.inside (folder : String) (e : Entry) : Entry := ⟨folder ++ "/" ++ e.path, e.size⟩

/-- A file without its leading folder, if it has one. -/
def Entry.bare (e : Entry) : Entry := ⟨inner e.path, e.size⟩

variable {a b path : String} {e x y : Entry} {f g f' g' : Folder} {files rest more as bs : List Entry}
  {held candidate : List Entry}

theorem splitOnce_eq_some {head tail : String} :
    Text.splitOnce '/' path = some (head, tail) ↔ path = head ++ "/" ++ tail ∧ IsFolderName head := by
  rw [Text.splitOnce_eq_some_iff, ← String.toList_inj]
  simp [IsFolderName]

theorem splitOnce_inside (ha : IsFolderName a) (e : Entry) :
    Text.splitOnce '/' (e.inside a).path = some (a, e.path) :=
  splitOnce_eq_some.2 ⟨rfl, ha⟩

theorem inner_inside (ha : IsFolderName a) (e : Entry) : inner (e.inside a).path = e.path := by
  rw [inner, splitOnce_inside ha]

/-- A file in two folders is in one. -/
theorem folder_unique (ha : IsFolderName a) (hb : IsFolderName b) (h : x.inside a = y.inside b) :
    a = b := by
  have hsplit := splitOnce_inside ha x
  rw [h, splitOnce_inside hb] at hsplit
  exact (Prod.mk.inj (Option.some.inj hsplit)).1.symm

/-! ### Folders seen -/

theorem see_unseen_inside (ha : IsFolderName a) (e : Entry) :
    Folder.unseen.see (e.inside a).path = .shared a := by
  rw [Folder.see, splitOnce_inside ha]

theorem see_shared_inside (ha : IsFolderName a) (e : Entry) :
    (Folder.shared a).see (e.inside a).path = .shared a := by
  simp [Folder.see, splitOnce_inside ha]

theorem see_mixed (path : String) : Folder.mixed.see path = .mixed := rfl

/-- A folder is shared after a path if the path is in it and no other one was seen before. -/
theorem of_see_eq_shared (h : f.see e.path = .shared a) :
    IsFolderName a ∧ e = e.bare.inside a ∧ (f = .unseen ∨ f = .shared a) := by
  cases hsplit : Text.splitOnce '/' e.path with
  | none => cases f <;> simp [Folder.see, hsplit] at h
  | some parts =>
    obtain ⟨head, tail⟩ := parts
    have hhead : head = a ∧ (f = .unseen ∨ f = .shared a) := by
      cases f with
      | unseen => simpa [Folder.see, hsplit] using h
      | mixed => simp [Folder.see] at h
      | shared name =>
        simp only [Folder.see, hsplit] at h
        split at h
        · rename_i hname
          exact ⟨hname.trans (Folder.shared.inj h), .inr h⟩
        · cases h
    obtain ⟨rfl, hbefore⟩ := hhead
    obtain ⟨hpath, hname⟩ := splitOnce_eq_some.1 hsplit
    refine ⟨hname, ?_, hbefore⟩
    rw [Entry.inside, Entry.bare, inner, hsplit, ← hpath]

/-- After a path there is a shared folder, or never one again. -/
theorem see_cases (f : Folder) (path : String) :
    f.see path = .mixed ∨ ∃ a, f.see path = .shared a := by
  cases hsplit : Text.splitOnce '/' path with
  | none => cases f <;> simp [Folder.see, hsplit]
  | some parts =>
    cases f with
    | unseen => simp [Folder.see, hsplit]
    | mixed => exact .inl rfl
    | shared name =>
      simp only [Folder.see, hsplit]
      split <;> simp

/-- The folder seen in a list. -/
def Folder.seeAll (f : Folder) (es : List Entry) : Folder := es.foldl (fun f e => f.see e.path) f

theorem seeAll_cons (f : Folder) (e : Entry) (es : List Entry) :
    f.seeAll (e :: es) = (f.see e.path).seeAll es := rfl

theorem seeAll_mixed (es : List Entry) : Folder.mixed.seeAll es = .mixed := by
  induction es with
  | nil => rfl
  | cons e es ih => rw [seeAll_cons, see_mixed, ih]

/-- What is shared in the end was shared at first. -/
theorem of_seeAll_eq_shared (h : (Folder.shared a).seeAll files = .shared b) :
    a = b ∧ ∀ e ∈ files, e = e.bare.inside a := by
  induction files with
  | nil => exact ⟨Folder.shared.inj h, nofun⟩
  | cons e es ih =>
    rw [seeAll_cons] at h
    rcases see_cases (.shared a) e.path with hsee | ⟨c, hsee⟩
    · rw [hsee, seeAll_mixed] at h
      cases h
    · obtain ⟨-, he, hunseen | hshared⟩ := of_see_eq_shared hsee
      · cases hunseen
      · obtain rfl := Folder.shared.inj hshared
        rw [hsee] at h
        obtain ⟨hab, hes⟩ := ih h
        exact ⟨hab, List.forall_mem_cons.2 ⟨he, hes⟩⟩

/-! ### Walking two lists -/

/-- Whether two files are taken for the same after the folders that were seen. -/
def Alike (f g : Folder) (x y : Entry) : Prop :=
  x.size = y.size ∧ (x.path = y.path ∨ (f.isShared ∧ g.isShared ∧ inner x.path = inner y.path))

theorem walk_cons_eq_some_iff :
    walk f g (x :: as) (y :: bs) = some (f', g') ↔
      Alike (f.see x.path) (g.see y.path) x y ∧
        walk (f.see x.path) (g.see y.path) as bs = some (f', g') := by
  rw [walk, Alike]
  by_cases hsize : x.size = y.size
  · simp only [hsize, ne_eq, not_true_eq_false, if_false, true_and]
    split <;> simp_all
  · simp [hsize]

/-- Files that are taken for the same are the same, or lie in two folders of different names. -/
theorem alike_cases (h : Alike (f.see x.path) (g.see y.path) x y) :
    x = y ∨ ∃ a b, f.see x.path = .shared a ∧ g.see y.path = .shared b ∧ a ≠ b ∧ x.bare = y.bare := by
  obtain ⟨hsize, hpath | ⟨hf, hg, hinner⟩⟩ := h
  · exact .inl (by cases x; cases y; simp_all)
  · have hbare : x.bare = y.bare := by rw [Entry.bare, Entry.bare, hsize, hinner]
    rcases see_cases f x.path with hmixed | ⟨a, ha⟩
    · rw [hmixed] at hf
      cases hf
    rcases see_cases g y.path with hmixed | ⟨b, hb⟩
    · rw [hmixed] at hg
      cases hg
    by_cases hab : a = b
    · subst hab
      obtain ⟨-, hx, -⟩ := of_see_eq_shared ha
      obtain ⟨-, hy, -⟩ := of_see_eq_shared hb
      exact .inl (by rw [hx, hy, hbare])
    · exact .inr ⟨a, b, ha, hb, hab, hbare⟩

/-- A list is walked with itself to the end. -/
theorem walk_same (f g : Folder) (rest more : List Entry) :
    walk f g (rest ++ more) rest = some (f.seeAll rest, g.seeAll rest) := by
  induction rest generalizing f g with
  | nil => cases more <;> rfl
  | cons e es ih => exact walk_cons_eq_some_iff.2 ⟨⟨rfl, .inl rfl⟩, ih _ _⟩

/-- Files in two folders are walked together. -/
theorem walk_inside (ha : IsFolderName a) (hb : IsFolderName b) (files as bs : List Entry) :
    walk (.shared a) (.shared b) (files.map (.inside a) ++ as) (files.map (.inside b) ++ bs)
      = walk (.shared a) (.shared b) as bs := by
  induction files with
  | nil => rfl
  | cons e es ih =>
    have halike : inner (e.inside a).path = inner (e.inside b).path := by
      rw [inner_inside ha, inner_inside hb]
    rw [List.map_cons, List.map_cons, List.cons_append, List.cons_append, walk]
    simp only [see_shared_inside ha, see_shared_inside hb, halike]
    simp [Entry.inside, Folder.isShared, ih]

theorem walk_inside_cons (ha : IsFolderName a) (hb : IsFolderName b) (e : Entry) (as bs : List Entry) :
    walk .unseen .unseen (e.inside a :: as) (e.inside b :: bs) = walk (.shared a) (.shared b) as bs := by
  have halike : inner (e.inside a).path = inner (e.inside b).path := by
    rw [inner_inside ha, inner_inside hb]
  rw [walk]
  simp only [see_unseen_inside ha, see_unseen_inside hb, halike]
  simp [Entry.inside, Folder.isShared]

/-- Once a list has left its folder, only the same files are taken for the same. -/
theorem prefix_of_walk_mixed (hmixed : f = .mixed ∨ g = .mixed)
    (h : walk f g as bs = some (f', g')) (hlength : bs.length ≤ as.length) : bs <+: as := by
  induction bs generalizing f g as with
  | nil => exact List.nil_prefix
  | cons y bs ih =>
    cases as with
    | nil => cases hlength
    | cons x as =>
      obtain ⟨halike, hwalk⟩ := walk_cons_eq_some_iff.1 h
      have hstill : f.see x.path = .mixed ∨ g.see y.path = .mixed := by
        rcases hmixed with rfl | rfl
        · exact .inl rfl
        · exact .inr rfl
      rcases alike_cases halike with rfl | ⟨a, b, ha, hb, -, -⟩
      · exact List.prefix_cons_inj x |>.2 (ih hstill hwalk (Nat.le_of_succ_le_succ hlength))
      · rw [ha, hb] at hstill
        rcases hstill with hstill | hstill <;> cases hstill

/-- In one folder, only the same files are taken for the same. -/
theorem prefix_of_walk_shared (h : walk (.shared a) (.shared a) as bs = some (f', g'))
    (hlength : bs.length ≤ as.length) : bs <+: as := by
  induction bs generalizing as with
  | nil => exact List.nil_prefix
  | cons y bs ih =>
    cases as with
    | nil => cases hlength
    | cons x as =>
      obtain ⟨halike, hwalk⟩ := walk_cons_eq_some_iff.1 h
      have hshorter := Nat.le_of_succ_le_succ hlength
      rcases alike_cases halike with rfl | ⟨b, c, hb, hc, hbc, -⟩
      · refine List.prefix_cons_inj x |>.2 ?_
        rcases see_cases (.shared a) x.path with hsee | ⟨b, hsee⟩
        · rw [hsee] at hwalk
          exact prefix_of_walk_mixed (.inl rfl) hwalk hshorter
        · obtain ⟨-, -, hunseen | hshared⟩ := of_see_eq_shared hsee
          · cases hunseen
          · rw [hsee, ← hshared] at hwalk
            exact ih hwalk hshorter
      · obtain ⟨-, -, hunseen | hb'⟩ := of_see_eq_shared hb
        · cases hunseen
        obtain ⟨-, -, hunseen | hc'⟩ := of_see_eq_shared hc
        · cases hunseen
        exact absurd (Folder.shared.inj (hb'.symm.trans hc')) hbc

/-- From two folders of different names on, files are in these two up to some point, and the same
    from there on. -/
theorem walk_shared_cases (hab : a ≠ b) (h : walk (.shared a) (.shared b) as bs = some (f', g'))
    (hlength : bs.length ≤ as.length) :
    ∃ files rest more : List Entry, as = files.map (.inside a) ++ rest ++ more ∧
      bs = files.map (.inside b) ++ rest := by
  induction bs generalizing as with
  | nil => exact ⟨[], [], as, rfl, rfl⟩
  | cons y bs ih =>
    cases as with
    | nil => cases hlength
    | cons x as =>
      obtain ⟨halike, hwalk⟩ := walk_cons_eq_some_iff.1 h
      have hshorter := Nat.le_of_succ_le_succ hlength
      rcases alike_cases halike with rfl | ⟨c, d, hc, hd, -, hbare⟩
      · -- a file that both lists hold is not in two folders, so one of the lists leaves its own
        have hmixed : (Folder.shared a).see x.path = .mixed ∨ (Folder.shared b).see x.path = .mixed := by
          rcases see_cases (.shared a) x.path with hsee | ⟨c, hc⟩
          · exact .inl hsee
          rcases see_cases (.shared b) x.path with hsee | ⟨d, hd⟩
          · exact .inr hsee
          obtain ⟨ha, hxa, hunseen | hac⟩ := of_see_eq_shared hc
          · cases hunseen
          obtain ⟨hb, hxb, hunseen | hbd⟩ := of_see_eq_shared hd
          · cases hunseen
          obtain rfl := Folder.shared.inj hac
          obtain rfl := Folder.shared.inj hbd
          exact absurd (folder_unique ha hb (hxa.symm.trans hxb)) hab
        obtain ⟨more, rfl⟩ := prefix_of_walk_mixed hmixed hwalk hshorter
        exact ⟨[], x :: bs, more, rfl, rfl⟩
      · obtain ⟨-, hx, hunseen | hac⟩ := of_see_eq_shared hc
        · cases hunseen
        obtain ⟨-, hy, hunseen | hbd⟩ := of_see_eq_shared hd
        · cases hunseen
        obtain rfl := Folder.shared.inj hac
        obtain rfl := Folder.shared.inj hbd
        rw [hc, hd] at hwalk
        obtain ⟨files, rest, more, rfl, rfl⟩ := ih hwalk hshorter
        refine ⟨x.bare :: files, rest, more, ?_, ?_⟩
        · rw [List.map_cons, ← hx]
          rfl
        · rw [List.map_cons, hbare, ← hy]
          rfl

/-- Two lists of the same files in two folders of different names; then more may follow in the first. -/
def Renamed (held candidate more : List Entry) : Prop :=
  ∃ (a b : String) (files : List Entry), IsFolderName a ∧ IsFolderName b ∧ a ≠ b ∧ files ≠ [] ∧
    held = files.map (.inside a) ++ more ∧ candidate = files.map (.inside b)

/-- Two lists that start with the same files in two folders, whatever their names, and then go on with
    the same files, at least one; then more may follow in the first. -/
def Meets (held candidate more : List Entry) : Prop :=
  ∃ (a b : String) (files rest : List Entry), IsFolderName a ∧ IsFolderName b ∧ rest ≠ [] ∧
    held = files.map (.inside a) ++ rest ++ more ∧ candidate = files.map (.inside b) ++ rest

/-- All that two lists walked together to the end of the second one can be. -/
theorem walk_cases (h : walk .unseen .unseen held candidate = some (f', g'))
    (hlength : candidate.length ≤ held.length) (hne : candidate ≠ []) :
    (∃ more, Meets held candidate more) ∨ ∃ more, Renamed held candidate more := by
  obtain ⟨y, bs, rfl⟩ := List.exists_cons_of_ne_nil hne
  cases held with
  | nil => cases hlength
  | cons x as =>
    obtain ⟨halike, hwalk⟩ := walk_cons_eq_some_iff.1 h
    have hshorter := Nat.le_of_succ_le_succ hlength
    rcases alike_cases halike with rfl | ⟨a, b, ha, hb, hab, hbare⟩
    · have hprefix : bs <+: as := by
        rcases see_cases .unseen x.path with hsee | ⟨a, hsee⟩
        · rw [hsee] at hwalk
          exact prefix_of_walk_mixed (.inl rfl) hwalk hshorter
        · rw [hsee] at hwalk
          exact prefix_of_walk_shared hwalk hshorter
      obtain ⟨more, rfl⟩ := hprefix
      exact .inl ⟨more, "", "", [], x :: bs, by decide, by decide, List.cons_ne_nil x bs, rfl, rfl⟩
    · obtain ⟨hnameA, hx, -⟩ := of_see_eq_shared ha
      obtain ⟨hnameB, hy, -⟩ := of_see_eq_shared hb
      rw [ha, hb] at hwalk
      obtain ⟨files, rest, more, rfl, rfl⟩ := walk_shared_cases hab hwalk hshorter
      have hheld : x :: (files.map (.inside a) ++ rest ++ more)
          = (x.bare :: files).map (.inside a) ++ rest ++ more := by
        rw [List.map_cons, ← hx]
        rfl
      have hcandidate : y :: (files.map (.inside b) ++ rest)
          = (x.bare :: files).map (.inside b) ++ rest := by
        rw [List.map_cons, hbare, ← hy]
        rfl
      by_cases hrest : rest = []
      · subst hrest
        simp only [List.append_nil] at hheld hcandidate ⊢
        exact .inr ⟨more, a, b, _, hnameA, hnameB, hab, List.cons_ne_nil _ _, hheld, hcandidate⟩
      · exact .inl ⟨more, a, b, _, rest, hnameA, hnameB, hrest, hheld, hcandidate⟩

/-! ### Verdicts -/

/-- Whether two lists lie in folders of different names. -/
def Folder.differs : Folder → Folder → Bool
  | .shared a, .shared b => a != b
  | _, _ => false

theorem compare_of_walk (hne : candidate ≠ []) (hlength : candidate.length ≤ held.length)
    (h : walk .unseen .unseen held candidate = some (f, g)) :
    compare held candidate = if f.differs g then .rootDiffers
      else if candidate.length < held.length then .superset else .exact := by
  have hguard : ¬ (candidate.isEmpty = true ∨ held.length < candidate.length) := by
    simp [hne, hlength]
  rw [compare, if_neg hguard, h]
  cases f <;> cases g <;> rfl

/-- The same files in two folders of different names are told apart. -/
theorem compare_of_renamed {more : List Entry} (h : Renamed held candidate more) :
    compare held candidate = .rootDiffers := by
  obtain ⟨a, b, files, ha, hb, hab, hfiles, rfl, rfl⟩ := h
  have hwalk : walk .unseen .unseen (files.map (.inside a) ++ more) (files.map (.inside b))
      = some (.shared a, .shared b) := by
    obtain ⟨e, es, rfl⟩ := List.exists_cons_of_ne_nil hfiles
    have hrest := walk_inside ha hb es more []
    rw [List.append_nil] at hrest
    rw [List.map_cons, List.map_cons, List.cons_append, walk_inside_cons ha hb, hrest]
    cases more <;> rfl
  rw [compare_of_walk (by simpa using hfiles) (by simp) hwalk]
  simp [Folder.differs, hab]

/-- Where two lists meet, the folders seen do not differ in the end. -/
theorem exists_walk_of_meets {more : List Entry} (h : Meets held candidate more) :
    ∃ f g, walk .unseen .unseen held candidate = some (f, g) ∧ f.differs g = false := by
  obtain ⟨a, b, files, rest, ha, hb, hrest, rfl, rfl⟩ := h
  cases files with
  | nil =>
    refine ⟨_, _, walk_same .unseen .unseen rest more, ?_⟩
    cases Folder.unseen.seeAll rest <;> simp [Folder.differs]
  | cons e es =>
    refine ⟨(Folder.shared a).seeAll rest, (Folder.shared b).seeAll rest, ?_, ?_⟩
    · rw [List.map_cons, List.map_cons, List.cons_append, List.cons_append, List.cons_append,
        walk_inside_cons ha hb, List.append_assoc, walk_inside ha hb, walk_same]
    · -- if each list stays in its folder, a file of the rest is in both
      obtain ⟨r, rs, rfl⟩ := List.exists_cons_of_ne_nil hrest
      cases hf : (Folder.shared a).seeAll (r :: rs) with
      | unseen | mixed => rfl
      | shared c =>
        cases hg : (Folder.shared b).seeAll (r :: rs) with
        | unseen | mixed => rfl
        | shared d =>
          obtain ⟨rfl, hina⟩ := of_seeAll_eq_shared hf
          obtain ⟨rfl, hinb⟩ := of_seeAll_eq_shared hg
          have hra := hina r List.mem_cons_self
          have hrb := hinb r List.mem_cons_self
          obtain rfl := folder_unique ha hb (hra.symm.trans hrb)
          simp [Folder.differs]

/-- Lists that meet are not told apart. -/
theorem compare_of_meets {more : List Entry} (h : Meets held candidate more) :
    compare held candidate = if more = [] then .exact else .superset := by
  obtain ⟨f, g, hwalk, hsame⟩ := exists_walk_of_meets h
  obtain ⟨a, b, files, rest, -, -, hrest, rfl, rfl⟩ := h
  rw [compare_of_walk (by simp [hrest]) (by simp) hwalk, hsame]
  cases more <;> simp

/-- All that two lists can be. -/
theorem compare_cases (held candidate : List Entry) :
    compare held candidate = .noMatch ∨ (∃ more, Meets held candidate more) ∨
      ∃ more, Renamed held candidate more := by
  by_cases hguard : candidate.isEmpty = true ∨ held.length < candidate.length
  · rw [compare, if_pos hguard]
    exact .inl rfl
  · cases hwalk : walk .unseen .unseen held candidate with
    | none =>
      rw [compare, if_neg hguard, hwalk]
      exact .inl rfl
    | some folders =>
      rw [not_or, List.isEmpty_iff, Nat.not_lt] at hguard
      exact .inr (walk_cases hwalk hguard.2 hguard.1)

/-! ### Matches -/

/-- Whether a file lies in a folder. -/
def Entry.LiesIn (folder : String) (e : Entry) : Prop := ∃ x : Entry, e = x.inside folder

/-- Lists that meet are the same as far as the second one goes, if each of them stays in one folder. -/
theorem prefix_of_meets {more : List Entry} (ha : IsFolderName a) (hb : IsFolderName b)
    (h : Meets held candidate more) (hheld : ∀ e ∈ held.take candidate.length, e.LiesIn a)
    (hcandidate : ∀ e ∈ candidate, e.LiesIn b) : candidate <+: held := by
  obtain ⟨c, d, files, rest, hc, hd, hrest, rfl, rfl⟩ := h
  have htake : (files.map (Entry.inside c) ++ rest ++ more).take
      (files.map (Entry.inside d) ++ rest).length = files.map (.inside c) ++ rest :=
    List.take_left' (by simp)
  rw [htake] at hheld
  cases files with
  | nil => exact ⟨more, rfl⟩
  | cons e es =>
    -- the first file shows the names of the folders, and one of the rest that they are the same
    obtain ⟨r, hr⟩ := List.exists_mem_of_ne_nil rest hrest
    obtain ⟨x, hx⟩ := hheld (e.inside c) (by simp)
    obtain ⟨y, hy⟩ := hcandidate (e.inside d) (by simp)
    obtain ⟨x', hx'⟩ := hheld r (List.mem_append_right _ hr)
    obtain ⟨y', hy'⟩ := hcandidate r (List.mem_append_right _ hr)
    obtain rfl := folder_unique hc ha hx
    obtain rfl := folder_unique hd hb hy
    obtain rfl := folder_unique hc hd (hx'.symm.trans hy')
    exact ⟨more, rfl⟩

/-- What a match says, of lists in any order. There is a match exactly if the two lists meet: from some
    file of the candidate on the client has the same files, path and size, and the files before it lie
    on either side in one folder and are the same inside it, whatever the folders are called. So a
    client that has the same files throughout is a match; and a match means that it has, if each of the
    lists, as far as the candidate goes, stays in one folder. -/
theorem compare_isMatch_iff (held candidate : List Entry) :
    ((compare held candidate).isMatch = true ↔
      ∃ (a b : String) (files rest more : List Entry), IsFolderName a ∧ IsFolderName b ∧ rest ≠ [] ∧
        held = files.map (.inside a) ++ rest ++ more ∧ candidate = files.map (.inside b) ++ rest) ∧
    (candidate ≠ [] → candidate <+: held → (compare held candidate).isMatch = true) ∧
    ∀ a b, IsFolderName a → IsFolderName b → (∀ e ∈ held.take candidate.length, e.LiesIn a) →
      (∀ e ∈ candidate, e.LiesIn b) → (compare held candidate).isMatch = true →
      candidate <+: held := by
  have hmatch : ∀ more, Meets held candidate more → (compare held candidate).isMatch = true := by
    intro more h
    rw [compare_of_meets h]
    split <;> rfl
  have hmeets : (compare held candidate).isMatch = true → ∃ more, Meets held candidate more := by
    intro h
    rcases compare_cases held candidate with hno | hmeets | ⟨more, hrenamed⟩
    · rw [hno] at h
      cases h
    · exact hmeets
    · rw [compare_of_renamed hrenamed] at h
      cases h
  refine ⟨⟨?_, ?_⟩, ?_, ?_⟩
  · intro h
    obtain ⟨more, a, b, files, rest, h⟩ := hmeets h
    exact ⟨a, b, files, rest, more, h⟩
  · rintro ⟨a, b, files, rest, more, h⟩
    exact hmatch more ⟨a, b, files, rest, h⟩
  · rintro hne ⟨more, rfl⟩
    exact hmatch more ⟨"", "", [], candidate, by decide, by decide, hne, rfl, rfl⟩
  · intro a b ha hb hheld hcandidate h
    obtain ⟨more, hmeets⟩ := hmeets h
    exact prefix_of_meets ha hb hmeets hheld hcandidate

/-- A client that has the candidate's only file, and another one, in the same folder. -/
theorem compare_isMatch_one :
    let held : List Entry := [⟨"A/1", 1⟩, ⟨"A/2", 2⟩]
    let candidate : List Entry := [⟨"A/1", 1⟩]
    (candidate ≠ [] ∧ candidate <+: held ∧ IsFolderName "A" ∧
      (∀ e ∈ held.take candidate.length, e.LiesIn "A") ∧ (∀ e ∈ candidate, e.LiesIn "A")) ∧
    (compare held candidate).isMatch = true ∧ candidate <+: held := by
  intro held candidate
  have hone : (⟨"A/1", 1⟩ : Entry).LiesIn "A" := ⟨⟨"1", 1⟩, by decide⟩
  have hfirst : ∀ e ∈ held.take candidate.length, e.LiesIn "A" := List.forall_mem_singleton.2 hone
  have hall : ∀ e ∈ candidate, e.LiesIn "A" := List.forall_mem_singleton.2 hone
  have hprefix : candidate <+: held := ⟨[⟨"A/2", 2⟩], rfl⟩
  obtain ⟨-, hsame, hfolder⟩ := compare_isMatch_iff held candidate
  have hmatch := hsame (List.cons_ne_nil _ _) hprefix
  exact ⟨⟨List.cons_ne_nil _ _, hprefix, by decide, hfirst, hall⟩, hmatch,
    hfolder "A" "A" (by decide) (by decide) hfirst hall hmatch⟩

/-- A match does not mean that the client has the candidate's files where the candidate has them, even
    for lists in order of path: the lists meet in `C/2`, and `A/1` was taken for `B/1` before. -/
theorem not_same_of_isMatch :
    ¬ ∀ held candidate : List Entry, (held.map (·.path)).Pairwise (· ≤ ·) →
      (candidate.map (·.path)).Pairwise (· ≤ ·) → (compare held candidate).isMatch = true →
      ∀ i < candidate.length, held[i]? = candidate[i]? := by
  intro h
  have hfirst := h [⟨"A/1", 1⟩, ⟨"C/2", 2⟩] [⟨"B/1", 1⟩, ⟨"C/2", 2⟩] (by decide) (by decide)
    (by decide +kernel) 0 (by decide)
  exact absurd hfirst (by decide)

end Seedkeeper.CrossSeed
