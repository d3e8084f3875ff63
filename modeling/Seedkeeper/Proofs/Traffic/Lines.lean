import Seedkeeper.Proofs.Traffic.EventLine

/-!
Lines of a file.

A newline ends a line. `wholeLines` are the lines of a file that a newline ends; `linesOf` counts what
stands after the last newline as a line of its own, unless nothing does. Both are found piece by piece
around any newline of the file, and what is added at the end of a file changes no whole line of it.
-/

namespace Seedkeeper.Traffic

open Text (Bytes pieces)

/-- The lines of a file that a newline ends. -/
def wholeLines (bs : Bytes) : List Bytes := (pieces 0x0A bs).dropLast

/-- Every line of a file, with the one that no newline ends if there is anything on it. -/
def linesOf (bs : Bytes) : List Bytes :=
  if (pieces 0x0A bs).getLast? = some [] then (pieces 0x0A bs).dropLast else pieces 0x0A bs

/-- Whether the last line of a file is not ended. -/
def Torn (bs : Bytes) : Prop := bs ≠ [] ∧ bs.getLast? ≠ some 0x0A

instance (bs : Bytes) : Decidable (Torn bs) := inferInstanceAs (Decidable (_ ∧ _))

/-! ### Files that end with a newline -/

theorem exists_concat_of_not_torn {bs : Bytes} (h : ¬ Torn bs) (hne : bs ≠ []) :
    ∃ before, bs = before ++ [0x0A] := by
  have hlast : bs.getLast? = some 0x0A :=
    Decidable.byContradiction fun hlast => h ⟨hne, hlast⟩
  exact List.getLast?_eq_some_iff.1 hlast

theorem not_torn_concat (bs : Bytes) : ¬ Torn (bs ++ [0x0A]) := by
  rintro ⟨_, hlast⟩
  exact hlast List.getLast?_concat

/-- Ending the last line adds a newline to a torn file and nothing to another one. -/
theorem Log.mended_eq (bs : Bytes) : Log.mended bs = bs ++ if Torn bs then [0x0A] else [] := by
  rw [Log.mended]
  cases hlast : bs.getLast? with
  | none =>
    rw [List.getLast?_eq_none_iff] at hlast
    subst hlast
    rfl
  | some b =>
    have hne : bs ≠ [] := by
      rintro rfl
      cases hlast
    by_cases hb : b = 0x0A
    · subst hb
      simp [Torn, hlast]
    · simp [Torn, hlast, hne, hb]

theorem Log.not_torn_mended (bs : Bytes) : ¬ Torn (Log.mended bs) := by
  rw [Log.mended_eq]
  by_cases h : Torn bs
  · rw [if_pos h]
    exact not_torn_concat bs
  · rwa [if_neg h, List.append_nil]

theorem Log.mended_of_not_torn {bs : Bytes} (h : ¬ Torn bs) : Log.mended bs = bs := by
  rw [Log.mended_eq, if_neg h, List.append_nil]

/-! ### Whole lines -/

theorem wholeLines_nil : wholeLines [] = [] := rfl

theorem wholeLines_of_newline_notMem {bs : Bytes} (h : 0x0A ∉ bs) : wholeLines bs = [] := by
  rw [wholeLines, Text.pieces_eq_singleton h]
  rfl

/-- Around a newline, the pieces before it are whole lines. -/
theorem wholeLines_append_cons (as bs : Bytes) :
    wholeLines (as ++ 0x0A :: bs) = pieces 0x0A as ++ wholeLines bs := by
  rw [wholeLines, Text.pieces_append_cons, List.dropLast_append_of_ne_nil (Text.pieces_ne_nil _ _)]
  rfl

/-- What is added at the end of a file leaves its whole lines as they are. -/
theorem wholeLines_prefix_append (as bs : Bytes) : wholeLines as <+: wholeLines (as ++ bs) := by
  by_cases h : 0x0A ∈ as
  · obtain ⟨before, after, has⟩ := List.append_of_mem h
    have hlength : after.length < as.length := by
      rw [has, List.length_append, List.length_cons]
      omega
    rw [has, List.append_assoc, List.cons_append, wholeLines_append_cons, wholeLines_append_cons,
      List.prefix_append_right_inj]
    exact wholeLines_prefix_append after bs
  · rw [wholeLines_of_newline_notMem h]
    exact List.nil_prefix
termination_by as.length

/-- A line written with its newline at the end of a file that is not torn is one more whole line. -/
theorem wholeLines_append_line {bs line : Bytes} (h : ¬ Torn bs) (hline : 0x0A ∉ line) :
    wholeLines (bs ++ (line ++ [0x0A])) = wholeLines bs ++ [line] := by
  have hwhole : wholeLines (line ++ [0x0A]) = [line] := by
    rw [wholeLines_append_cons, Text.pieces_eq_singleton hline, wholeLines_nil, List.append_nil]
  by_cases hne : bs = []
  · rw [hne, List.nil_append, hwhole, wholeLines_nil, List.nil_append]
  · obtain ⟨before, rfl⟩ := exists_concat_of_not_torn h hne
    rw [List.append_assoc, List.singleton_append, wholeLines_append_cons, hwhole,
      wholeLines_append_cons, wholeLines_nil, List.append_nil]

/-! ### All lines -/

theorem linesOf_nil : linesOf [] = [] := rfl

theorem linesOf_append_cons (as bs : Bytes) :
    linesOf (as ++ 0x0A :: bs) = pieces 0x0A as ++ linesOf bs := by
  have hlast : (pieces 0x0A as ++ pieces 0x0A bs).getLast? = (pieces 0x0A bs).getLast? := by
    rw [List.getLast?_append, List.getLast?_eq_some_getLast (Text.pieces_ne_nil _ _), Option.some_or]
  rw [linesOf, linesOf, Text.pieces_append_cons, hlast]
  split
  · exact List.dropLast_append_of_ne_nil (Text.pieces_ne_nil _ _)
  · rfl

/-- The lines of a torn file are its pieces. -/
theorem linesOf_of_torn {bs : Bytes} (h : Torn bs) : linesOf bs = pieces 0x0A bs := by
  by_cases hmem : 0x0A ∈ bs
  · obtain ⟨before, after, hbs⟩ := List.append_of_mem hmem
    have hlength : after.length < bs.length := by
      rw [hbs, List.length_append, List.length_cons]
      omega
    have hafter : Torn after := by
      obtain ⟨_, hlast⟩ := h
      rw [hbs, List.getLast?_append, List.getLast?_cons, Option.some_or] at hlast
      cases hafter : after.getLast? with
      | none => rw [hafter] at hlast; exact absurd rfl hlast
      | some b =>
        rw [hafter] at hlast
        refine ⟨?_, by rw [hafter]; exact hlast⟩
        rintro rfl
        cases hafter
    rw [hbs, linesOf_append_cons, Text.pieces_append_cons, linesOf_of_torn hafter]
  · rw [linesOf, Text.pieces_eq_singleton hmem, if_neg]
    intro hlast
    exact h.1 (Option.some.inj hlast)
termination_by bs.length

/-- Lines that are written after the last line of a file was ended follow its lines. -/
theorem linesOf_mended_append (bs rest : Bytes) :
    linesOf (Log.mended bs ++ rest) = linesOf bs ++ linesOf rest := by
  by_cases h : Torn bs
  · rw [Log.mended_eq, if_pos h, List.append_assoc, List.singleton_append, linesOf_append_cons,
      linesOf_of_torn h]
  · rw [Log.mended_of_not_torn h]
    by_cases hne : bs = []
    · rw [hne, linesOf_nil, List.nil_append, List.nil_append]
    · obtain ⟨before, rfl⟩ := exists_concat_of_not_torn h hne
      rw [List.append_assoc, List.singleton_append, linesOf_append_cons, linesOf_append_cons,
        linesOf_nil, List.append_nil]

/-- The events of a log are those of its lines. -/
theorem eventsOf_eq_filterMap_linesOf (log : Bytes) :
    eventsOf log = (linesOf log).filterMap Event.ofLine? := by
  rw [eventsOf, linesOf]
  split
  · rename_i hlast
    obtain ⟨lines, hlines⟩ := List.getLast?_eq_some_iff.1 hlast
    rw [hlines, List.dropLast_concat, List.filterMap_append]
    exact List.append_nil _
  · rfl

end Seedkeeper.Traffic
