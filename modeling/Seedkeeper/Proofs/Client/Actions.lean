import Mathlib.Data.List.Forall2
import Seedkeeper.Client.Memory

/-!
What actions make of the torrents of a client in memory.

An action changes only the part of a torrent that it is about (`Makes`), and to do it again changes
nothing more (`changed_changed`). So acting on some torrents one after the other, some of them repeatedly,
is acting on each of them once (`acted_cons`).
-/

namespace Seedkeeper.Client

open Text (sameIgnoringAsciiCase)

/-! ### What an action says -/

/-- What an action says that a torrent becomes, if it stays on the client. Tags that are added stand behind
    those that were there, without one that is there already up to case. -/
def Action.Makes (action : Action) (t u : Torrent) : Prop :=
  match action with
  | .pause => u = { t with
      state := if t.sizeCompleted = t.size then .completed else .paused
      downloadSpeed := 0
      uploadSpeed := 0 }
  | .resume => u = { t with state := if t.sizeCompleted = t.size then .seeding else .downloading }
  | .recheck => u = { t with state := .checking }
  | .reannounce => u = t
  | .delete _ => False
  | .addTags tags => ∃ added, u = { t with tags := t.tags ++ added } ∧ added.Sublist tags ∧
      (∀ tag ∈ added, t.hasTag tag = false) ∧
      (added.Pairwise fun x y => sameIgnoringAsciiCase x y = false) ∧
      ∀ tag ∈ tags, u.hasTag tag = true
  | .removeTags tags => u = { t with
      tags := t.tags.filter fun own => ∀ tag ∈ tags, sameIgnoringAsciiCase tag own = false }
  | .setCategory category => u = { t with category }

namespace Memory

/-! ### Tags -/

theorem hasTag_eq_true {t : Torrent} {tag : String} :
    t.hasTag tag = true ↔ ∃ own ∈ t.tags, sameIgnoringAsciiCase own tag = true :=
  List.any_eq_true

theorem hasTag_eq_false {t : Torrent} {tag : String} :
    t.hasTag tag = false ↔ ∀ own ∈ t.tags, sameIgnoringAsciiCase own tag = false := by
  simp [Torrent.hasTag]

/-- A torrent with one more tag, unless it carries that one. -/
def addTag (t : Torrent) (tag : String) : Torrent :=
  if t.hasTag tag then t else { t with tags := t.tags ++ [tag] }

theorem makes_addTags (tags : List String) (t : Torrent) :
    (Action.addTags tags).Makes t (tags.foldl addTag t) := by
  induction tags generalizing t with
  | nil => exact ⟨[], by simp, .slnil, by simp, .nil, by simp⟩
  | cons tag tags ih =>
    obtain ⟨added, hadded, hsub, hnew, hdiffer, hall⟩ := ih (addTag t tag)
    rw [List.foldl_cons]
    -- what was carried before the other tags is carried after them
    have hkept : ∀ x, (addTag t tag).hasTag x = true → (tags.foldl addTag (addTag t tag)).hasTag x := by
      intro x hx
      obtain ⟨own, hown, hsame⟩ := hasTag_eq_true.1 hx
      rw [hadded]
      exact hasTag_eq_true.2 ⟨own, List.mem_append_left _ hown, hsame⟩
    by_cases hhas : t.hasTag tag = true
    · have hsame : addTag t tag = t := by rw [addTag, if_pos hhas]
      rw [hsame] at hadded hnew hall hkept ⊢
      refine ⟨added, hadded, hsub.cons tag, hnew, hdiffer, fun x hx => ?_⟩
      rcases List.mem_cons.1 hx with rfl | hx
      · exact hkept x hhas
      · exact hall x hx
    · have hone : addTag t tag = { t with tags := t.tags ++ [tag] } := by rw [addTag, if_neg hhas]
      have hcarries : (addTag t tag).hasTag tag = true := by
        rw [hone]
        exact hasTag_eq_true.2 ⟨tag, by simp, Text.sameIgnoringAsciiCase_refl tag⟩
      have hapart : ∀ x ∈ added, ∀ own ∈ t.tags ++ [tag], sameIgnoringAsciiCase own x = false := by
        intro x hx
        have hx := hnew x hx
        rw [hone] at hx
        exact hasTag_eq_false.1 hx
      refine ⟨tag :: added, ?_, hsub.cons_cons tag, ?_, ?_, ?_⟩
      · rw [hadded, hone, List.append_assoc]
        rfl
      · intro x hx
        rcases List.mem_cons.1 hx with rfl | hx
        · exact Bool.eq_false_iff.2 hhas
        · exact hasTag_eq_false.2 fun own hown => hapart x hx own (List.mem_append_left _ hown)
      · exact hdiffer.cons fun x hx => hapart x hx tag (by simp)
      · intro x hx
        rcases List.mem_cons.1 hx with rfl | hx
        · exact hkept x hcarries
        · exact hall x hx

/-- Tags that are all carried change nothing. -/
theorem foldl_addTag_eq_self {tags : List String} {t : Torrent}
    (h : ∀ tag ∈ tags, t.hasTag tag = true) : tags.foldl addTag t = t := by
  induction tags with
  | nil => rfl
  | cons tag tags ih =>
    rw [List.foldl_cons, addTag, if_pos (h tag List.mem_cons_self)]
    exact ih fun x hx => h x (List.mem_cons_of_mem tag hx)

/-! ### Changes -/

theorem changed_addTags (tags : List String) (t : Torrent) :
    changed (.addTags tags) t = tags.foldl addTag t := rfl

/-- A torrent that stays becomes what the action says. -/
theorem makes_changed {action : Action} (hstays : action.isDelete = false) (t : Torrent) :
    action.Makes t (changed action t) := by
  cases action with
  | addTags tags => exact makes_addTags tags t
  | removeTags tags =>
    rw [Action.Makes, changed]
    refine congrArg (fun kept => { t with tags := kept }) (List.filter_congr fun own _ => ?_)
    rw [Bool.eq_iff_iff]
    simp
  | delete files => cases hstays
  | pause => simp [Action.Makes, changed, Torrent.isComplete]
  | resume => simp [Action.Makes, changed, Torrent.isComplete]
  | recheck => rfl
  | reannounce => rfl
  | setCategory category => rfl

/-- What was done is not done again. -/
theorem changed_changed (action : Action) (t : Torrent) :
    changed action (changed action t) = changed action t := by
  cases action with
  | addTags tags =>
    obtain ⟨_, _, _, _, _, hall⟩ := makes_addTags tags t
    exact foldl_addTag_eq_self hall
  | removeTags tags => simp [changed]
  | _ => rfl

theorem infoHash_changed (action : Action) (t : Torrent) :
    (changed action t).infoHash = t.infoHash := by
  cases action with
  | addTags tags =>
    obtain ⟨added, hadded, _⟩ := makes_addTags tags t
    rw [changed_addTags, hadded]
  | _ => rfl

/-! ### Clients -/

variable {action : Action} {m : Memory}

theorem torrents_acted_of_delete (hdelete : action.isDelete = true) (hs : List String) (m : Memory) :
    (acted action hs m).torrents = m.torrents.filter fun t => !hs.contains t.infoHash := by
  cases action with
  | delete files => rfl
  | _ => cases hdelete

theorem torrents_acted_of_stays (hstays : action.isDelete = false) (hs : List String) (m : Memory) :
    (acted action hs m).torrents
      = m.torrents.map fun t => if hs.contains t.infoHash then changed action t else t := by
  cases action with
  | delete files => cases hstays
  | _ => rfl

/-- An action is about torrents and nothing else. -/
theorem acted_eq (action : Action) (hs : List String) (m : Memory) :
    acted action hs m = { m with torrents := (acted action hs m).torrents } := by
  cases action <;> rfl

theorem torrents_acted_congr (action : Action) (hs : List String) {m n : Memory}
    (h : m.torrents = n.torrents) : (acted action hs m).torrents = (acted action hs n).torrents := by
  cases hdelete : action.isDelete with
  | true => rw [torrents_acted_of_delete hdelete, torrents_acted_of_delete hdelete, h]
  | false => rw [torrents_acted_of_stays hdelete, torrents_acted_of_stays hdelete, h]

theorem torrents_acted_nil (action : Action) (m : Memory) :
    (acted action [] m).torrents = m.torrents := by
  cases hdelete : action.isDelete with
  | true => simp [torrents_acted_of_delete hdelete]
  | false => simp [torrents_acted_of_stays hdelete]

/-- To act on one torrent and then on others is to act on all of them. -/
theorem torrents_acted_cons (action : Action) (h : String) (hs : List String) (m : Memory) :
    (acted action (h :: hs) m).torrents = (acted action hs (acted action [h] m)).torrents := by
  cases hdelete : action.isDelete with
  | true =>
    rw [torrents_acted_of_delete hdelete, torrents_acted_of_delete hdelete,
      torrents_acted_of_delete hdelete, List.filter_filter]
    refine List.filter_congr fun t _ => ?_
    simp [Bool.and_comm]
  | false =>
    rw [torrents_acted_of_stays hdelete, torrents_acted_of_stays hdelete,
      torrents_acted_of_stays hdelete, List.map_map]
    refine List.map_congr_left fun t _ => ?_
    by_cases hfirst : t.infoHash = h <;> by_cases hlater : t.infoHash ∈ hs <;>
      simp [hfirst, hlater, infoHash_changed, changed_changed]

/-- Torrents become what the action says, and those that it is not about stay as they are. -/
theorem makes_acted (hstays : action.isDelete = false) (hs : List String) (m : Memory) :
    List.Forall₂ (fun t u => if t.infoHash ∈ hs then action.Makes t u else u = t) m.torrents
      (acted action hs m).torrents := by
  rw [torrents_acted_of_stays hstays, List.forall₂_map_right_iff]
  refine List.forall₂_same.2 fun t _ => ?_
  by_cases hmem : t.infoHash ∈ hs
  · rw [if_pos hmem, if_pos (by simpa using hmem)]
    exact makes_changed hstays t
  · rw [if_neg hmem, if_neg (by simpa using hmem)]

end Memory

end Seedkeeper.Client
