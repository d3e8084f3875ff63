import Seedkeeper.Proofs.CrossSeed.Folders

/-!
Verdicts read off two lists, file by file.

Two lists are the same files in folders of different names exactly if all paths of each list start with
one folder, the two folders are not the same, and files at the same index agree in all else
(`exists_renamed_iff`). And any verdict but one means that the sizes agree throughout
(`sizes_prefix_of_ne_noMatch`). Neither needs an account of the walk, nor an order of the lists.
-/

namespace Seedkeeper.CrossSeed

variable {α : Type} {a b : String} {e : Entry} {files more held candidate : List Entry} {f : Entry → α}

/-! ### Leading folders -/

/-- The folder that a path starts with. -/
def leadingFolder? (path : String) : Option String := (Text.splitOnce '/' path).map (·.1)

theorem leadingFolder?_inside (ha : IsFolderName a) (e : Entry) :
    leadingFolder? (e.inside a).path = some a := by
  rw [leadingFolder?, splitOnce_inside ha, Option.map_some]

theorem bare_inside (ha : IsFolderName a) (e : Entry) : (e.inside a).bare = e := by
  rw [Entry.bare, inner_inside ha, Entry.inside]

theorem map_bare_map_inside (ha : IsFolderName a) (files : List Entry) :
    (files.map (.inside a)).map Entry.bare = files := by
  rw [List.map_map]
  calc files.map (Entry.bare ∘ Entry.inside a)
      = files.map id := List.map_congr_left fun e _ => bare_inside ha e
    _ = files := List.map_id files

/-- A file whose path starts with a folder is put back by putting it into that folder. -/
theorem of_leadingFolder?_eq_some (h : leadingFolder? e.path = some a) :
    IsFolderName a ∧ e.bare.inside a = e := by
  obtain ⟨⟨head, tail⟩, hsplit, rfl⟩ := Option.map_eq_some_iff.1 h
  obtain ⟨hpath, hname⟩ := splitOnce_eq_some.1 hsplit
  exact ⟨hname, by rw [Entry.inside, Entry.bare, inner, hsplit, ← hpath]⟩

theorem map_inside_map_bare (h : ∀ e ∈ files, leadingFolder? e.path = some a) :
    (files.map Entry.bare).map (.inside a) = files := by
  rw [List.map_map]
  calc files.map (Entry.inside a ∘ Entry.bare)
      = files.map id := List.map_congr_left fun e he => (of_leadingFolder?_eq_some (h e he)).2
    _ = files := List.map_id files

/-! ### Lists that agree -/

/-- Whether two lists agree in something at every index that both of them have. -/
def AgreeIn (f : Entry → α) (held candidate : List Entry) : Prop :=
  ∀ (i : Nat) (x y : Entry), held[i]? = some x → candidate[i]? = some y → f x = f y

theorem agreeIn_iff_map (hlength : candidate.length ≤ held.length) :
    AgreeIn f held candidate ↔ candidate.map f <+: held.map f := by
  rw [List.prefix_iff_getElem]
  constructor
  · intro h
    refine ⟨by simpa using hlength, fun i hi => ?_⟩
    rw [List.length_map] at hi
    simpa using (h i _ _ (List.getElem?_eq_getElem (by omega)) (List.getElem?_eq_getElem hi)).symm
  · rintro ⟨_, h⟩ i x y hx hy
    obtain ⟨hi, rfl⟩ := List.getElem?_eq_some_iff.1 hx
    obtain ⟨hj, rfl⟩ := List.getElem?_eq_some_iff.1 hy
    have hsame := h i (by rwa [List.length_map])
    rw [List.getElem_map, List.getElem_map] at hsame
    exact hsame.symm

/-- Files agree in what they are without their leading folders if they agree in size and inner path. -/
theorem agreeIn_bare_iff : AgreeIn Entry.bare held candidate ↔
    AgreeIn Entry.size held candidate ∧ AgreeIn (fun e => inner e.path) held candidate := by
  simp only [AgreeIn, Entry.bare, Entry.mk.injEq]
  exact ⟨fun h => ⟨fun i x y hx hy => (h i x y hx hy).2, fun i x y hx hy => (h i x y hx hy).1⟩,
    fun h i x y hx hy => ⟨h.2 i x y hx hy, h.1 i x y hx hy⟩⟩

/-! ### Verdicts -/

/-- Two lists lie in two folders of different names, and are the same inside them as far as the second
    one goes, exactly if their files say so one by one. -/
theorem exists_renamed_iff : (∃ more, Renamed held candidate more) ↔
    candidate ≠ [] ∧ candidate.length ≤ held.length ∧ AgreeIn Entry.bare held candidate ∧
      ∃ a b, a ≠ b ∧ (∀ e ∈ held.take candidate.length, leadingFolder? e.path = some a) ∧
        ∀ e ∈ candidate, leadingFolder? e.path = some b := by
  constructor
  · rintro ⟨more, a, b, files, ha, hb, hab, hfiles, rfl, rfl⟩
    have htake : (files.map (Entry.inside a) ++ more).take (files.map (Entry.inside b)).length
        = files.map (.inside a) := List.take_left' (by simp)
    have hin : ∀ {c : String}, IsFolderName c →
        ∀ e ∈ files.map (Entry.inside c), leadingFolder? e.path = some c := by
      intro c hc e he
      obtain ⟨x, -, rfl⟩ := List.mem_map.1 he
      exact leadingFolder?_inside hc x
    have hlength : (files.map (Entry.inside b)).length ≤ (files.map (Entry.inside a) ++ more).length := by
      simp
    refine ⟨by simpa using hfiles, hlength, ?_, a, b, hab, by rw [htake]; exact hin ha, hin hb⟩
    rw [agreeIn_iff_map hlength, List.map_append, map_bare_map_inside ha,
      map_bare_map_inside hb]
    exact List.prefix_append files _
  · rintro ⟨hne, hlength, hagree, a, b, hab, hheld, hcandidate⟩
    obtain ⟨y, hy⟩ := List.exists_mem_of_ne_nil candidate hne
    have hfirst : held.take candidate.length ≠ [] := by
      simp [hne, List.ne_nil_of_length_pos (Nat.lt_of_lt_of_le (List.length_pos_iff.2 hne) hlength)]
    obtain ⟨x, hx⟩ := List.exists_mem_of_ne_nil _ hfirst
    -- as far as the second list goes, the first one has the same files in its own folder
    have hsame : (held.take candidate.length).map Entry.bare = candidate.map Entry.bare := by
      have hstart := List.prefix_iff_eq_take.1 ((agreeIn_iff_map hlength).1 hagree)
      rw [hstart, List.length_map, List.map_take]
    refine ⟨held.drop candidate.length, a, b, candidate.map Entry.bare,
      (of_leadingFolder?_eq_some (hheld x hx)).1, (of_leadingFolder?_eq_some (hcandidate y hy)).1, hab,
      by simpa using hne, ?_, (map_inside_map_bare hcandidate).symm⟩
    rw [← hsame, map_inside_map_bare hheld, List.take_append_drop]

/-- A verdict other than that there is no match means that the sizes agree as far as the candidate goes,
    and that it goes somewhere. -/
theorem sizes_prefix_of_ne_noMatch (h : compare held candidate ≠ .noMatch) :
    candidate ≠ [] ∧ candidate.map (·.size) <+: held.map (·.size) := by
  rcases compare_cases held candidate with hno | ⟨more, a, b, files, rest, -, -, hrest, rfl, rfl⟩ |
    ⟨more, a, b, files, -, -, -, hfiles, rfl, rfl⟩
  · exact absurd hno h
  · exact ⟨by simp [hrest], more.map (·.size), by simp [Entry.inside, Function.comp_def]⟩
  · exact ⟨by simpa using hfiles, more.map (·.size), by simp [Entry.inside, Function.comp_def]⟩

/-- Verdicts on any two lists, sorted or not. The folders differ exactly if there is a candidate that is
    not the longer list, sizes agree at every index of it, the paths of each list, as far as it goes,
    start with one folder, not the same for both, and agree at every index behind it. A client that has
    the candidate's files throughout has exactly these, or more if its list is longer. And a size that
    does not agree, no candidate, or a longer one is no match, whatever the paths. -/
theorem compare_rootDiffers_iff (held candidate : List Entry) :
    (compare held candidate = .rootDiffers ↔
      candidate ≠ [] ∧ candidate.length ≤ held.length ∧ AgreeIn Entry.size held candidate ∧
      ∃ a b, (∀ e ∈ held.take candidate.length, leadingFolder? e.path = some a) ∧
        (∀ e ∈ candidate, leadingFolder? e.path = some b) ∧ a ≠ b ∧
        AgreeIn (fun e => inner e.path) held candidate) ∧
    (candidate ≠ [] → candidate <+: held →
      compare held candidate = if candidate.length = held.length then .exact else .superset) ∧
    (¬ AgreeIn Entry.size held candidate ∨ candidate = [] ∨ held.length < candidate.length →
      compare held candidate = .noMatch) := by
  refine ⟨⟨?_, ?_⟩, ?_, ?_⟩
  · intro h
    have hrenamed : ∃ more, Renamed held candidate more := by
      rcases compare_cases held candidate with hno | ⟨more, hmeets⟩ | hrenamed
      · rw [hno] at h
        cases h
      · rw [compare_of_meets hmeets] at h
        split at h <;> cases h
      · exact hrenamed
    obtain ⟨hne, hlength, hagree, a, b, hab, hheld, hcandidate⟩ := exists_renamed_iff.1 hrenamed
    obtain ⟨hsizes, hinner⟩ := agreeIn_bare_iff.1 hagree
    exact ⟨hne, hlength, hsizes, a, b, hheld, hcandidate, hab, hinner⟩
  · rintro ⟨hne, hlength, hsizes, a, b, hheld, hcandidate, hab, hinner⟩
    obtain ⟨more, hrenamed⟩ := exists_renamed_iff.2
      ⟨hne, hlength, agreeIn_bare_iff.2 ⟨hsizes, hinner⟩, a, b, hab, hheld, hcandidate⟩
    exact compare_of_renamed hrenamed
  · rintro hne ⟨more, rfl⟩
    have hmeets : Meets (candidate ++ more) candidate more :=
      ⟨"", "", [], candidate, by decide, by decide, hne, rfl, rfl⟩
    rw [compare_of_meets hmeets]
    cases more <;> simp
  · intro h
    refine Decidable.byContradiction fun hverdict => ?_
    obtain ⟨hne, hstart⟩ := sizes_prefix_of_ne_noMatch hverdict
    have hlength : candidate.length ≤ held.length := by simpa using hstart.length_le
    rcases h with hsizes | hnil | hlonger
    · exact hsizes ((agreeIn_iff_map hlength).2 hstart)
    · exact hne hnil
    · omega

/-- Two shows that are not in order of path, of which the client has an episode more. -/
theorem compare_rootDiffers_iff_shows :
    let held : List Entry := [⟨"Show/e2", 2⟩, ⟨"Show/e1", 1⟩, ⟨"Show/e3", 3⟩]
    let candidate : List Entry := [⟨"Show.S01/e2", 2⟩, ⟨"Show.S01/e1", 1⟩]
    let other : List Entry := [⟨"Show.S01/e2", 2⟩, ⟨"Show.S01/e1", 4⟩]
    (held.take 2 ≠ [] ∧ held.take 2 <+: held ∧ ¬ AgreeIn Entry.size held other) ∧
      compare held candidate = .rootDiffers ∧ compare held (held.take 2) = .superset ∧
      compare held other = .noMatch := by
  intro held candidate other
  have hsizes : AgreeIn Entry.size held candidate := (agreeIn_iff_map (by decide)).2 (by decide)
  have hinner : AgreeIn (fun e => inner e.path) held candidate :=
    (agreeIn_iff_map (by decide)).2 (by decide)
  have hother : ¬ AgreeIn Entry.size held other := fun h =>
    absurd (h 1 ⟨"Show/e1", 1⟩ ⟨"Show.S01/e1", 4⟩ rfl rfl) (by decide)
  have hstart : held.take 2 <+: held := List.take_prefix 2 held
  refine ⟨⟨List.cons_ne_nil _ _, hstart, hother⟩, ?_, ?_, ?_⟩
  · exact (compare_rootDiffers_iff held candidate).1.2 ⟨List.cons_ne_nil _ _, by decide, hsizes, "Show",
      "Show.S01", by decide, by decide, by decide, hinner⟩
  · exact (compare_rootDiffers_iff held (held.take 2)).2.1 (List.cons_ne_nil _ _) hstart
  · exact (compare_rootDiffers_iff held other).2.2 (.inl hother)

end Seedkeeper.CrossSeed
