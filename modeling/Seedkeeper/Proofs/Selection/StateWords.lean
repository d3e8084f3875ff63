import Seedkeeper.Selection.Token

/-!
What words for states mean, with and without an underscore in front.

Two conditions are met by the same torrents only if they are one condition or nothing meets either
(`holds_eq_iff`). So an underscore in front of a word changes nothing about what it selects exactly if
the word is not `Reserved` (`matchesStateWord_underscore_iff`).
-/

namespace Seedkeeper.Selection

namespace StateFilter

/-! ### Conditions told apart -/

/-- Whether nothing meets the condition. -/
def isVoid : StateFilter → Bool
  | .unrecognized _ => true
  | _ => false

/-- Whether two conditions are one, or nothing meets either. -/
def Agrees (f g : StateFilter) : Prop := f = g ∨ f.isVoid = true ∧ g.isVoid = true

instance (f g : StateFilter) : Decidable (f.Agrees g) := inferInstanceAs (Decidable (_ ∨ _))

/-- Every condition that something meets. -/
def named : List StateFilter := [.any, .active, .done] ++ Torrent.State.all.map .is

theorem mem_named {f : StateFilter} (h : f.isVoid = false) : f ∈ named := by
  cases f with
  | any => decide
  | active => decide
  | done => decide
  | is s => exact List.mem_append_right _ (List.mem_map.2 ⟨s, s.mem_all, rfl⟩)
  | unrecognized word => cases h

/-- A torrent that is as fast as an active one has to be. -/
def busy : Torrent := { Torrent.sample "h" "n" .error with uploadSpeed := activeSpeed }

/-- Torrents that tell conditions apart: one of each state at rest, and one that is not. -/
def probes : List Torrent := busy :: Torrent.State.all.map (Torrent.sample "h" "n")

/-- Each condition is met by some probe, and no two by the same ones. -/
theorem probes_tell : ∀ f ∈ named, (∃ t ∈ probes, f.holds t = true) ∧
    ∀ g ∈ named, (∀ t ∈ probes, f.holds t = g.holds t) → f = g := by
  decide +kernel

theorem holds_of_isVoid {f : StateFilter} (h : f.isVoid = true) (t : Torrent) : f.holds t = false := by
  cases f with
  | unrecognized word => rfl
  | _ => cases h

theorem exists_holds {f : StateFilter} (h : f.isVoid = false) : ∃ t, f.holds t = true := by
  obtain ⟨t, -, ht⟩ := (probes_tell f (mem_named h)).1
  exact ⟨t, ht⟩

theorem isVoid_iff (f : StateFilter) : f.isVoid = true ↔ ∀ t, f.holds t = false := by
  refine ⟨holds_of_isVoid, fun hnone => ?_⟩
  cases hvoid : f.isVoid with
  | true => rfl
  | false =>
    obtain ⟨t, ht⟩ := exists_holds hvoid
    rw [hnone t] at ht
    cases ht

/-- Conditions that are met by the same torrents agree. -/
theorem holds_eq_iff (f g : StateFilter) : (∀ t, f.holds t = g.holds t) ↔ f.Agrees g := by
  constructor
  · intro hsame
    have hvoid : f.isVoid = g.isVoid := by
      rw [Bool.eq_iff_iff, isVoid_iff, isVoid_iff]
      simp only [hsame]
    cases hf : f.isVoid with
    | true => exact .inr ⟨hf, hvoid ▸ hf⟩
    | false =>
      have hg := hvoid ▸ hf
      exact .inl ((probes_tell f (mem_named hf)).2 g (mem_named hg) fun t _ => hsame t)
  · rintro (rfl | ⟨hf, hg⟩) t
    · rfl
    · rw [holds_of_isVoid hf, holds_of_isVoid hg]

/-! ### Words -/

/-- The words that have a meaning of their own. -/
def fixedWords : List String := ["", allWord, "_active", "_done"]

theorem bare_underscore (word : String) : bare ("_" ++ word) = word := by
  simp [bare]

/-- A word is bare, or it is an underscore and the bare word. -/
theorem eq_bare_or (word : String) : word = bare word ∨ word = "_" ++ bare word := by
  rw [bare]
  split
  · rename_i cs hcs
    exact .inr (String.toList_injective (by simp [hcs]))
  · exact .inl rfl

/-- Any other word is a state's name with or without an underscore, or means nothing. -/
theorem ofWord_of_notMem {word : String} (h : word ∉ fixedWords) :
    ofWord word = match Torrent.State.ofName? (bare word) with
      | some s => .is s
      | none => .unrecognized (bare word) := by
  simp only [fixedWords, List.mem_cons, List.not_mem_nil, or_false, not_or] at h
  obtain ⟨hempty, hall, hactive, hdone⟩ := h
  exact (if_neg (not_or.2 ⟨hempty, hall⟩)).trans ((if_neg hactive).trans (if_neg hdone))

/-- A word that no state is called, bare, means nothing unless it is fixed. -/
theorem isVoid_ofWord {word : String} (h : word ∉ fixedWords)
    (hname : Torrent.State.ofName? (bare word) = none) : (ofWord word).isVoid = true := by
  rw [ofWord_of_notMem h, hname]
  rfl

/-- A state's name is the state, with an underscore and without. -/
theorem ofWord_name (s : Torrent.State) :
    ofWord s.name = .is s ∧ ofWord ("_" ++ s.name) = .is s := by
  cases s <;> decide

end StateFilter

open StateFilter

/-- The fixed words, and what they are without their underscores. -/
def reservedWords : List String := ["", "active", "done", "all", "_active", "_done", "_all"]

/-- The reserved words, and the names of the states with an underscore in front. -/
def Reserved (word : String) : Prop :=
  word ∈ reservedWords ∨ ∃ s : Torrent.State, word = "_" ++ s.name

/-- An underscore makes a fixed word of a reserved one only, and so does taking it off. -/
theorem mem_reservedWords {word : String} (h : word ∈ fixedWords ∨ "_" ++ word ∈ fixedWords) :
    word ∈ reservedWords := by
  have hfixed : fixedWords ⊆ reservedWords := by decide
  have hbare : fixedWords.map bare ⊆ reservedWords := by decide
  rcases h with h | h
  · exact hfixed h
  · exact hbare (List.mem_map.2 ⟨_, h, bare_underscore word⟩)

theorem not_agrees_of_reserved {word : String} (h : Reserved word) :
    ¬ (ofWord word).Agrees (ofWord ("_" ++ word)) := by
  rcases h with hmem | ⟨s, rfl⟩
  · revert word
    decide
  · cases s <;> decide

/-- Any other word and the word with an underscore are the same state, or mean nothing. -/
theorem agrees_of_not_reserved {word : String} (h : ¬ Reserved word) :
    (ofWord word).Agrees (ofWord ("_" ++ word)) := by
  obtain ⟨hwords, hstates⟩ := not_or.1 h
  cases hname : Torrent.State.ofName? word with
  | some s =>
    obtain rfl := Torrent.State.name_of_ofName? hname
    rw [(ofWord_name s).1, (ofWord_name s).2]
    exact .inl rfl
  | none =>
    have hbare : Torrent.State.ofName? (bare word) = none := by
      rcases eq_bare_or word with hplain | hunderscore
      · rwa [← hplain]
      · refine Option.eq_none_iff_forall_ne_some.2 fun s hs => hstates ⟨s, ?_⟩
        rwa [Torrent.State.name_of_ofName? hs]
    have hfixed : word ∉ fixedWords := fun hmem => hwords (mem_reservedWords (.inl hmem))
    have hlonger : "_" ++ word ∉ fixedWords := fun hmem => hwords (mem_reservedWords (.inr hmem))
    refine .inr ⟨isVoid_ofWord hfixed hbare, isVoid_ofWord hlonger ?_⟩
    rwa [bare_underscore]

/-- When an underscore in front of a word makes no difference.

    It makes none to any torrent exactly if the word is not empty, not a composite condition with its
    underscore or without it, and not an underscore in front of a state's name: a state is then meant by
    both words, or nothing meets either. -/
theorem matchesStateWord_underscore_iff (word : String) :
    (∀ t, matchesStateWord t word = matchesStateWord t ("_" ++ word)) ↔ ¬ Reserved word := by
  refine (holds_eq_iff (ofWord word) (ofWord ("_" ++ word))).trans ⟨fun hagree hreserved => ?_,
    agrees_of_not_reserved⟩
  exact not_agrees_of_reserved hreserved hagree

end Seedkeeper.Selection
