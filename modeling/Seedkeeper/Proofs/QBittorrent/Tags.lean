import Seedkeeper.Proofs.Json.Records
import Seedkeeper.Proofs.Selection.Words
import Seedkeeper.Proofs.Text.Trim
import Seedkeeper.QBittorrent.Records

/-!
Tags in a text.

What a text spells between its commas are tags, some of them perhaps the same up to ASCII case. Of those
that are the same the first spelling is kept, and they stand in the order of their first spellings
(`IsTagList`). Tags that are kept are read back from any text that joins them (`splitTags_joinWith`).
-/

namespace Seedkeeper.QBittorrent

open Selection (firstOccurrences pick)
open Text (asciiLowerText sameIgnoringAsciiCase sameIgnoringAsciiCase_congr
  sameIgnoringAsciiCase_iff)

/-! ### Tags that are the same up to case -/

theorem map_asciiLowerText_addTag (tags : List String) (tag : String) :
    (addTag tags tag).map asciiLowerText = pick (tags.map asciiLowerText) (asciiLowerText tag) := by
  have hmem : tags.any (sameIgnoringAsciiCase · tag) = true ↔
      asciiLowerText tag ∈ tags.map asciiLowerText := by
    simp only [List.any_eq_true, sameIgnoringAsciiCase_iff, List.mem_map]
  rw [addTag, pick]
  by_cases hold : tags.any (sameIgnoringAsciiCase · tag) = true
  · rw [if_pos hold, if_pos (hmem.1 hold)]
  · rw [if_neg hold, if_neg (hmem.not.1 hold), List.map_append, List.map_singleton]

/-- Up to case, tags that are kept are the first occurrences. -/
theorem map_asciiLowerText_foldl_addTag (ws tags : List String) :
    (ws.foldl addTag tags).map asciiLowerText
      = (ws.map asciiLowerText).foldl pick (tags.map asciiLowerText) := by
  induction ws generalizing tags with
  | nil => rfl
  | cons w ws ih => rw [List.foldl_cons, ih, map_asciiLowerText_addTag, List.map_cons, List.foldl_cons]

theorem mem_addTag {tags : List String} {w t : String} (h : t ∈ addTag tags w) :
    t ∈ tags ∨ t = w ∧ ∀ s ∈ tags, sameIgnoringAsciiCase s w = false := by
  rw [addTag] at h
  split at h
  · exact .inl h
  · rename_i hnew
    rcases List.mem_append.1 h with hold | hlast
    · exact .inl hold
    · exact .inr ⟨List.mem_singleton.1 hlast, by simpa using hnew⟩

theorem subset_addTag (tags : List String) (w : String) : tags ⊆ addTag tags w := by
  rw [addTag]
  split
  · exact List.Subset.refl tags
  · exact List.subset_append_left tags [w]

theorem exists_mem_addTag (tags : List String) (w : String) :
    ∃ s ∈ addTag tags w, sameIgnoringAsciiCase s w = true := by
  rw [addTag]
  split
  · rename_i hold
    exact List.any_eq_true.1 hold
  · exact ⟨w, by simp, Text.sameIgnoringAsciiCase_refl w⟩

/-- Of the spellings of a tag the first is kept. -/
theorem of_mem_foldl_addTag (ws tags : List String) {t : String} (h : t ∈ ws.foldl addTag tags) :
    t ∈ tags ∨ (∀ s ∈ tags, sameIgnoringAsciiCase s t = false) ∧
      ws.find? (sameIgnoringAsciiCase · t) = some t := by
  induction ws generalizing tags with
  | nil => exact .inl h
  | cons w ws ih =>
    rcases ih (addTag tags w) h with hold | ⟨hnew, hfind⟩
    · rcases mem_addTag hold with hold | ⟨rfl, hnew⟩
      · exact .inl hold
      · exact .inr ⟨hnew, List.find?_cons_of_pos (Text.sameIgnoringAsciiCase_refl t)⟩
    · -- a spelling that is kept later is not one of a tag that is there now, so not one of `w`
      have hother : sameIgnoringAsciiCase w t = false := by
        obtain ⟨s, hs, hsame⟩ := exists_mem_addTag tags w
        refine Bool.eq_false_iff.2 fun hwt => Bool.eq_false_iff.1 (hnew s hs) ?_
        exact Text.sameIgnoringAsciiCase_trans hsame hwt
      refine .inr ⟨fun s hs => hnew s (subset_addTag tags w hs), ?_⟩
      rwa [List.find?_cons, hother]

/-- Tags of which no two are the same are all kept. -/
theorem foldl_addTag_of_distinct (ws : List String) {tags : List String}
    (h : (tags ++ ws).Pairwise fun s t => sameIgnoringAsciiCase s t = false) :
    ws.foldl addTag tags = tags ++ ws := by
  induction ws generalizing tags with
  | nil => rw [List.foldl_nil, List.append_nil]
  | cons w ws ih =>
    have hnew : ¬ tags.any (sameIgnoringAsciiCase · w) = true := by
      simpa using fun s hs => (List.pairwise_append.1 h).2.2 s hs w List.mem_cons_self
    rw [List.foldl_cons, addTag, if_neg hnew, ih (by simpa using h), List.append_assoc,
      List.singleton_append]

/-! ### Tags that are spelled -/

/-- What a text spells between its commas: the pieces, trimmed, those left out of which nothing is left. -/
def spelled (text : String) : List String := (Text.split ',' text).filterMap Text.nonBlank?

/-- Whether a text can be one tag of several. -/
structure IsTag (tag : String) : Prop where
  trimmed : Text.trim tag = tag
  ne_empty : tag ≠ ""
  comma_notMem : ',' ∉ tag.toList

theorem isTag_of_mem_spelled {text tag : String} (h : tag ∈ spelled text) : IsTag tag := by
  obtain ⟨piece, hpiece, htag⟩ := List.mem_filterMap.1 h
  obtain ⟨rfl, hne⟩ := Text.nonBlank?_eq_some_iff.1 htag
  obtain ⟨cs, hcs, rfl⟩ := List.mem_map.1 hpiece
  refine ⟨Text.trim_trim _, hne, fun hcomma => ?_⟩
  have hmem := (Text.infix_trim _).subset hcomma
  rw [String.toList_ofList] at hmem
  exact Text.not_mem_of_mem_pieces hcs hmem

/-- A text that joins parts by commas, with a gap behind each, is cut at the commas. -/
theorem split_joinWith {gap part : String} {parts : List String} (hgap : ',' ∉ gap.toList)
    (h : ∀ p ∈ part :: parts, ',' ∉ p.toList) :
    Text.split ',' (Text.joinWith ("," ++ gap) (part :: parts)) = part :: parts.map (gap ++ ·) := by
  have htext : (Text.joinWith ("," ++ gap) (part :: parts)).toList
      = (',' :: gap.toList).intercalate (part.toList :: parts.map String.toList) := by
    rw [Text.joinWith, String.toList_intercalate, String.toList_append, List.map_cons]
    rfl
  have hcommas : ∀ p ∈ part.toList :: parts.map String.toList, ',' ∉ p := by
    rw [← List.map_cons, List.forall_mem_map]
    exact h
  rw [Text.split, htext, Text.pieces_intercalate hgap hcommas, List.map_cons, String.ofList_toList,
    List.map_map, List.map_map]
  refine congrArg (part :: ·) (List.map_congr_left fun p _ => ?_)
  simp [String.ofList_append]

/-- Blanks in front of a tag are taken off. -/
theorem IsTag.nonBlank?_append {tag gap : String} (h : IsTag tag) (hgap : Text.Blank gap) :
    Text.nonBlank? (gap ++ tag) = some tag := by
  refine Text.nonBlank?_eq_some_iff.2 ⟨?_, h.ne_empty⟩
  rw [Text.trim_of_toList_eq_append hgap String.toList_append, h.trimmed]

/-- Tags are read back from a text that joins them by commas, with blanks behind these or without. -/
theorem spelled_joinWith {tags : List String} {gap : String} (hgap : Text.Blank gap)
    (h : ∀ tag ∈ tags, IsTag tag) : spelled (Text.joinWith ("," ++ gap) tags) = tags := by
  cases tags with
  | nil => rfl
  | cons tag tags =>
    have hcomma : ¬ Text.isBlank ',' = true := by decide
    have hplain : ',' ∉ gap.toList := fun hmem => hcomma (hgap ',' hmem)
    have hfirst : Text.nonBlank? tag = some tag :=
      Text.nonBlank?_eq_some_iff.2 ⟨(h tag List.mem_cons_self).trimmed, (h tag List.mem_cons_self).ne_empty⟩
    have hrest : ∀ t ∈ tags, (Text.nonBlank? ∘ (gap ++ ·)) t = some t := by
      intro t ht
      rw [Function.comp_apply]
      exact (h t (List.mem_cons_of_mem tag ht)).nonBlank?_append hgap
    rw [spelled, split_joinWith hplain fun t ht => (h t ht).comma_notMem,
      List.filterMap_cons_some hfirst, List.filterMap_map, List.filterMap_congr hrest,
      List.filterMap_some]

/-! ### Lists of tags -/

/-- The tags that a text spells: tags of which no two are the same up to case, each as it is spelled
    first, in the order in which they are spelled first, and none of them lost. -/
structure IsTagList (text : String) (tags : List String) : Prop where
  isTag : ∀ tag ∈ tags, IsTag tag
  distinct : tags.Pairwise fun s t => sameIgnoringAsciiCase s t = false
  first : ∀ tag ∈ tags, (spelled text).find? (sameIgnoringAsciiCase · tag) = some tag
  ordered : tags.Pairwise fun s t => (spelled text).findIdx (sameIgnoringAsciiCase · s)
    < (spelled text).findIdx (sameIgnoringAsciiCase · t)
  complete : ∀ s ∈ spelled text, ∃ tag ∈ tags, sameIgnoringAsciiCase tag s = true

theorem isTagList_splitTags (text : String) : IsTagList text (splitTags text) := by
  have hfolded : (splitTags text).map asciiLowerText
      = firstOccurrences ((spelled text).map asciiLowerText) :=
    map_asciiLowerText_foldl_addTag (spelled text) []
  have hfirst : ∀ tag ∈ splitTags text, (spelled text).find? (sameIgnoringAsciiCase · tag) = some tag :=
    fun tag htag => ((of_mem_foldl_addTag (spelled text) [] htag).resolve_left List.not_mem_nil).2
  have hplace : ∀ s, ((spelled text).map asciiLowerText).idxOf (asciiLowerText s)
      = (spelled text).findIdx (sameIgnoringAsciiCase · s) := by
    intro s
    rw [List.idxOf, List.findIdx_map]
    refine congrArg (List.findIdx · (spelled text)) (funext fun t => ?_)
    rw [Bool.eq_iff_iff, sameIgnoringAsciiCase_iff]
    exact beq_iff_eq
  refine ⟨fun tag htag => ?_, ?_, hfirst, ?_, fun s hs => ?_⟩
  · exact isTag_of_mem_spelled (List.mem_of_find?_eq_some (hfirst tag htag))
  · have hnodup := Selection.nodup_firstOccurrences ((spelled text).map asciiLowerText)
    rw [← hfolded, List.Nodup, List.pairwise_map] at hnodup
    refine hnodup.imp fun hne => Bool.eq_false_iff.2 fun hsame => ?_
    exact hne (sameIgnoringAsciiCase_iff.1 hsame)
  · have hordered := Selection.ordered_firstOccurrences ((spelled text).map asciiLowerText)
    rw [← hfolded, List.pairwise_map] at hordered
    simpa only [hplace] using hordered
  · have hmem := (Selection.mem_firstOccurrences ((spelled text).map asciiLowerText) _).2
      (List.mem_map_of_mem hs)
    rw [← hfolded] at hmem
    obtain ⟨tag, htag, hsame⟩ := List.mem_map.1 hmem
    exact ⟨tag, htag, sameIgnoringAsciiCase_iff.2 hsame⟩

theorem IsTagList.subset {text : String} {tags others : List String} (h : IsTagList text tags)
    (g : IsTagList text others) : tags ⊆ others := by
  intro tag htag
  have hfirst := h.first tag htag
  obtain ⟨other, hother, hsame⟩ := g.complete tag (List.mem_of_find?_eq_some hfirst)
  have hfound := g.first other hother
  rw [sameIgnoringAsciiCase_congr hsame, hfirst, Option.some_inj] at hfound
  rwa [hfound]

/-- There is one such list. -/
theorem IsTagList.unique {text : String} {tags others : List String} (h : IsTagList text tags)
    (g : IsTagList text others) : others = tags :=
  Selection.eq_of_ordered (fun _ => ⟨fun htag => g.subset h htag, fun htag => h.subset g htag⟩)
    g.ordered h.ordered

/-- Tags of which no two are the same are read back from a text that joins them. -/
theorem splitTags_joinWith {tags : List String} (gap : String) (hgap : Text.Blank gap)
    (htags : ∀ tag ∈ tags, IsTag tag)
    (hdistinct : tags.Pairwise fun s t => sameIgnoringAsciiCase s t = false) :
    splitTags (Text.joinWith ("," ++ gap) tags) = tags := by
  have hspelled := spelled_joinWith hgap htags
  rw [spelled] at hspelled
  rw [splitTags, hspelled]
  exact foldl_addTag_of_distinct tags hdistinct

/-! ### Torrents that carry them -/

/-- Whether a record says that a torrent has the tags in a text. -/
def Reports (v : Json) (text : String) : Prop :=
  ∃ members k w, v = .object members ∧ (k, Json.string w) ∈ members ∧
    Json.text? k = some "tags" ∧ Json.text? w = some text

/-- A torrent that is read from a record has the tags that the record says it has. -/
theorem tags_of_torrent? {v : Json} {t : Torrent} {text : String} (h : Reports v text)
    (ht : torrent? v = some t) : t.tags = splitTags text := by
  obtain ⟨members, k, w, rfl, hmem, hk, hw⟩ := h
  obtain ⟨fs, hfs, ht⟩ := Option.bind_eq_some_iff.1 ht
  -- sixteen fields stand before the tags
  iterate 16 obtain ⟨_, _, ht⟩ := Option.bind_eq_some_iff.1 ht
  obtain ⟨written, hwritten, ht⟩ := Option.bind_eq_some_iff.1 ht
  obtain ⟨_, _, ht⟩ := Option.bind_eq_some_iff.1 ht
  cases ht
  have hplace : fs[16]? = some (some (Json.string w)) := by
    rw [Json.fields?] at hfs
    exact Json.getElem?_gather_of_mem hk rfl hfs hmem
  rw [hplace] at hwritten
  change Json.text? w = some written at hwritten
  rw [hw, Option.some_inj] at hwritten
  rw [hwritten]

/-- A torrent with the tags of a text carries what the text spells, and nothing that is not the same. -/
theorem hasTag_iff {t : Torrent} {text : String} (h : t.tags = splitTags text) (tag : String) :
    t.hasTag tag = true ↔ ∃ s ∈ spelled text, sameIgnoringAsciiCase s tag = true := by
  have hlist := isTagList_splitTags text
  rw [Torrent.hasTag, h, List.any_eq_true]
  constructor
  · rintro ⟨own, hown, hsame⟩
    exact ⟨own, List.mem_of_find?_eq_some (hlist.first own hown), hsame⟩
  · rintro ⟨s, hs, hsame⟩
    obtain ⟨own, hown, hspelling⟩ := hlist.complete s hs
    exact ⟨own, hown, Text.sameIgnoringAsciiCase_trans hspelling hsame⟩

/-- What becomes of the tags in a text.

    They are the one list of tags that the text spells, and a torrent of which a record tells them has
    these tags. It then carries everything that is spelled, and whatever it carries is spelled up to case.
    The tags are read back from a text that joins them, by commas alone or with a blank behind each. -/
theorem splitTags_normalForm (text : String) :
    (∀ tags, IsTagList text tags ↔ tags = splitTags text) ∧
    (∀ v t, Reports v text → torrent? v = some t → t.tags = splitTags text) ∧
    (∀ t : Torrent, t.tags = splitTags text → (∀ s ∈ spelled text, t.hasTag s = true) ∧
      ∀ tag, t.hasTag tag = true → ∃ s ∈ spelled text, sameIgnoringAsciiCase s tag = true) ∧
    splitTags (Text.joinWith ", " (splitTags text)) = splitTags text ∧
    splitTags (Text.joinWith "," (splitTags text)) = splitTags text := by
  have hlist := isTagList_splitTags text
  refine ⟨fun tags => ⟨fun h => hlist.unique h, fun h => h ▸ hlist⟩, fun v t => tags_of_torrent?,
    fun t ht => ⟨fun s hs => ?_, fun tag => (hasTag_iff ht tag).1⟩, ?_, ?_⟩
  · exact (hasTag_iff ht s).2 ⟨s, hs, Text.sameIgnoringAsciiCase_refl s⟩
  · exact splitTags_joinWith " " (by decide) hlist.isTag hlist.distinct
  · exact splitTags_joinWith "" (by decide) hlist.isTag hlist.distinct

/-- A server's record of a torrent, which spells one of its tags twice. -/
def taggedRecord : Json :=
  .object [(Json.key "hash", Json.ofText "AB"), (Json.key "name", Json.ofText "n"),
    (Json.key "state", Json.ofText "uploading"), (Json.key "tags", Json.ofText "a, B,,b")]

theorem splitTags_normalForm_taggedRecord : Reports taggedRecord "a, B,,b" ∧
    ∃ t, torrent? taggedRecord = some t ∧ t.tags = ["a", "B"] := by
  have hreports : Reports taggedRecord "a, B,,b" :=
    ⟨_, Json.key "tags", Json.escape (Text.utf8 "a, B,,b"), rfl, by simp [Json.ofText],
      by decide +kernel, by decide +kernel⟩
  have hread : (torrent? taggedRecord).isSome = true := by decide +kernel
  obtain ⟨t, ht⟩ := Option.isSome_iff_exists.1 hread
  refine ⟨hreports, t, ht, ?_⟩
  rw [(splitTags_normalForm "a, B,,b").2.1 taggedRecord t hreports ht]
  decide +kernel

end Seedkeeper.QBittorrent
