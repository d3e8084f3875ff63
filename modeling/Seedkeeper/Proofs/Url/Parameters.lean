import Mathlib.Data.List.Flatten
import Seedkeeper.Proofs.Url.Percent
import Seedkeeper.Proofs.Url.Target

/-!
The parameters that a server finds in a query.

A query is cut at each `&`, its pieces at their first `=`, and names and values are decoded, where `+`
stands for a blank or for itself. Values that are encoded as components are found as they were, whatever
they are (`parametersOf_arriving_components`). A value that is put into an address as it is, is found so
exactly if nothing in it means anything in a query (`parametersOf_arriving_verbatim_iff`): all that can
happen to it on the way takes bytes away, or makes a blank of a `+`.
-/

namespace Seedkeeper.Url

open Text (Bytes utf8 utf8_ofList)

variable {plusIsBlank : Bool} {c : Char} {cs v w name : List Char}

/-! ### Reading a query -/

/-- A name or a value as it is meant. -/
def decoded (plusIsBlank : Bool) (cs : List Char) : Bytes :=
  percentDecode ((utf8 (String.ofList cs)).map (unplus plusIsBlank))

/-- Name and value of a piece of a query. -/
def parameter (plusIsBlank : Bool) (piece : List Char) : Bytes × Bytes :=
  match Text.splitOnceChars '=' piece with
  | some (name, value) => (decoded plusIsBlank name, decoded plusIsBlank value)
  | none => (decoded plusIsBlank piece, [])

/-- The parameters of a query; empty pieces are none. -/
def parametersOf (plusIsBlank : Bool) (query : List Char) : List (Bytes × Bytes) :=
  ((Text.pieces '&' query).filter (!·.isEmpty)).map (parameter plusIsBlank)

/-- The parameters of what a server is asked for. -/
def parameters (plusIsBlank : Bool) (target : String) : List (Bytes × Bytes) :=
  parametersOf plusIsBlank ((rawQuery? target.toList).getD [])

/-- What arrives of a query that is put into an address. -/
def arriving (query : List Char) : List Char :=
  percentEncode inSpecialQuerySet ((tidied query).takeWhile (· ≠ '#'))

theorem parameters_target_of_query {url : Url} {front q : String} (hfront : Unmarked front.toList)
    (h : ofText? (front ++ "?" ++ q) = some url)
    (hweb : url.scheme = "http" ∨ url.scheme = "https") :
    parameters plusIsBlank url.target = parametersOf plusIsBlank (arriving q.toList) := by
  rw [parameters, rawQuery?_target_of_query hfront h hweb]
  rfl

theorem parameters_target_of_unmarked {url : Url} {front : String} (hfront : Unmarked front.toList)
    (h : ofText? front = some url) (hweb : url.scheme = "http" ∨ url.scheme = "https") :
    parameters plusIsBlank url.target = [] := by
  rw [parameters, rawQuery?_target_of_unmarked hfront h hweb]
  rfl

/-! ### Decoding -/

theorem map_unplus_of_notMem (h : '+' ∉ cs) :
    (utf8 (String.ofList cs)).map (unplus plusIsBlank) = utf8 (String.ofList cs) := by
  have hkept : ∀ b ∈ utf8 (String.ofList cs), unplus plusIsBlank b = b := by
    intro b hb
    refine unplus_of_ne ?_
    rintro rfl
    exact h ((asciiByte_mem_utf8_iff (d := '+') (by decide)).1 hb)
  rw [List.map_congr_left hkept, List.map_id']

theorem keepsEscapes_inSpecialQuerySet : KeepsEscapes inSpecialQuerySet := by
  intro c hc
  rcases hc with rfl | rfl | hc
  · decide
  · decide
  · exact Text.forall_ascii (P := fun c => isHexDigit c = true → inSpecialQuerySet c = false)
      (by decide) (lt_of_isHexDigit hc) hc

/-- Encoding on the way makes no difference to what a text is decoded to. -/
theorem decoded_percentEncode (cs : List Char) :
    decoded plusIsBlank (percentEncode inSpecialQuerySet cs) = decoded plusIsBlank cs := by
  rw [decoded, utf8_percentEncode,
    percentDecode_encoded_of_keepsEscapes keepsEscapes_inSpecialQuerySet, decoded]

theorem length_decoded_le (cs : List Char) :
    (decoded plusIsBlank cs).length ≤ (utf8 (String.ofList cs)).length := by
  have h := length_percentDecode_le ((utf8 (String.ofList cs)).map (unplus plusIsBlank))
  rwa [List.length_map] at h

/-- A text is decoded to itself exactly if it has no escapes and no `+` that stands for a blank. -/
theorem decoded_eq_utf8_iff (cs : List Char) : decoded plusIsBlank cs = utf8 (String.ofList cs) ↔
    ¬ HasEscape cs ∧ (plusIsBlank = true → '+' ∉ cs) := by
  rw [← percentDecode_utf8_eq_self_iff]
  constructor
  · intro h
    have hlength : (decoded plusIsBlank cs).length
        = ((utf8 (String.ofList cs)).map (unplus plusIsBlank)).length := by
      rw [h, List.length_map]
    have hself := percentDecode_eq_self_of_length hlength
    have hmap : (utf8 (String.ofList cs)).map (unplus plusIsBlank) = utf8 (String.ofList cs) :=
      hself.symm.trans h
    refine ⟨by rwa [decoded, hmap] at h, fun hplus hmem => ?_⟩
    have hbyte := List.map_eq_map_iff.1 (hmap.trans (List.map_id _).symm) _
      ((asciiByte_mem_utf8_iff (by decide)).2 hmem)
    rw [hplus] at hbyte
    exact absurd hbyte (by decide)
  · rintro ⟨hself, hplus⟩
    cases plusIsBlank with
    | true => rw [decoded, map_unplus_of_notMem (hplus rfl), hself]
    | false =>
      have hmap : (utf8 (String.ofList cs)).map (unplus false) = utf8 (String.ofList cs) :=
        List.map_id'' (fun b => if_neg fun h => nomatch h.1) _
      rw [decoded, hmap, hself]

/-- If what a part of a text is decoded to is that text, then it is all of it. -/
theorem eq_of_decoded (hsub : v.Sublist w) (h : decoded plusIsBlank v = utf8 (String.ofList w)) :
    v = w := by
  have hbytes : (utf8 (String.ofList v)).Sublist (utf8 (String.ofList w)) := by
    rw [utf8_ofList, utf8_ofList]
    exact hsub.flatMap _
  refine utf8_ofList_inj (hbytes.eq_of_length_le ?_)
  rw [← h]
  exact length_decoded_le v

/-! ### Cutting -/

/-- Text before a query is part of its first piece. -/
theorem exists_pieces_append {mark : Char} (h : mark ∉ v) (cs : List Char) :
    ∃ more, Text.pieces mark (v ++ cs) = (v ++ cs.takeWhile (· ≠ mark)) :: more ∧
      (mark ∉ cs → more = []) := by
  by_cases hmem : mark ∈ cs
  · obtain ⟨as, bs, rfl, has⟩ := List.eq_append_cons_of_mem hmem
    refine ⟨Text.pieces mark bs, ?_, fun hnot => absurd hmem hnot⟩
    have hfirst : (as ++ mark :: bs).takeWhile (· ≠ mark) = as :=
      takeWhile_append_of_boundary (all_ne_of_notMem has) (by simp)
    rw [hfirst, ← List.append_assoc, Text.pieces_append_cons, Text.pieces_eq_singleton]
    · rfl
    · simp [h, has]
  · refine ⟨[], ?_, fun _ => rfl⟩
    rw [takeWhile_ne_of_notMem hmem, Text.pieces_eq_singleton]
    simp [h, hmem]

/-- A mark that is kept cuts a text at the same place after it is encoded. -/
theorem takeWhile_percentEncode {inSet : Char → Bool} {mark : Char} (hascii : mark.toNat < 0x80)
    (hset : inSet mark = false) (hescape : isEscapeChar mark = false) (cs : List Char) :
    (percentEncode inSet cs).takeWhile (· ≠ mark) = percentEncode inSet (cs.takeWhile (· ≠ mark)) := by
  induction cs with
  | nil => rfl
  | cons c cs ih =>
    have hsplit := fun ds => percentEncode_append inSet [c] ds
    simp only [List.singleton_append] at hsplit
    by_cases hc : c = mark
    · have hkept : percentEncode inSet [c] = [mark] := by
        rw [percentEncode, List.flatMap_singleton, hc, if_pos ⟨hascii, by rw [hset]; rfl⟩]
      rw [hsplit, hkept, List.takeWhile_cons_of_neg (by simpa using hc), List.singleton_append,
        List.takeWhile_cons_of_neg (by simp)]
      rfl
    · have hnot : mark ∉ percentEncode inSet [c] := by
        intro hmem
        rcases mem_percentEncode hmem with ⟨hmem, -⟩ | hchar
        · exact hc (List.mem_singleton.1 hmem).symm
        · rw [hescape] at hchar
          cases hchar
      rw [hsplit cs, List.takeWhile_append_of_pos (all_ne_of_notMem hnot), ih,
        List.takeWhile_cons_of_pos (by simpa using hc), hsplit (cs.takeWhile _)]

/-! ### Plain characters -/

/-- What encoded parameters are written with. -/
def isQueryChar (c : Char) : Bool := isUnreserved c || ['%', '=', '&'].contains c

theorem lt_of_isQueryChar (h : isQueryChar c) : c.toNat < 0x80 := by
  have hle : c ≤ 'z' ∨ c ≤ 'Z' ∨ c ≤ '9' ∨ c ∈ ['-', '.', '_', '~', '%', '=', '&'] := by
    simp only [isQueryChar, isUnreserved, Text.isLetter, Text.isDigit, Bool.or_eq_true,
      Bool.and_eq_true, decide_eq_true_iff, List.contains_iff_mem, List.mem_cons] at h ⊢
    tauto
  have hbound : ∀ d : Char, d.toNat < 0x80 → c ≤ d → c.toNat < 0x80 := fun d hd hcd =>
    Nat.lt_of_le_of_lt (UInt32.le_iff_toNat_le.1 hcd) hd
  have hmark : ∀ d ∈ ['-', '.', '_', '~', '%', '=', '&'], d.toNat < 0x80 := by simp
  rcases hle with hle | hle | hle | hmem
  · exact hbound _ (by decide) hle
  · exact hbound _ (by decide) hle
  · exact hbound _ (by decide) hle
  · exact hmark c hmem

/-- Nothing happens to such characters on the way. -/
theorem of_isQueryChar (h : isQueryChar c) :
    isAround c = false ∧ c ≠ '#' ∧ inSpecialQuerySet c = false :=
  Text.forall_ascii (P := fun c => isQueryChar c = true →
    isAround c = false ∧ c ≠ '#' ∧ inSpecialQuerySet c = false) (by decide) (lt_of_isQueryChar h) h

theorem percentEncode_eq_self {inSet : Char → Bool} (h : ∀ c ∈ cs, c.toNat < 0x80 ∧ inSet c = false) :
    percentEncode inSet cs = cs := by
  have hkept : ∀ c ∈ cs, (if c.toNat < 0x80 ∧ !inSet c then [c]
      else (utf8 (String.singleton c)).flatMap percentByte) = [c] := fun c hc =>
    if_pos ⟨(h c hc).1, by rw [(h c hc).2]; rfl⟩
  rw [percentEncode, List.flatMap_congr hkept, List.flatMap_singleton']

theorem arriving_of_isQueryChar (h : ∀ c ∈ cs, isQueryChar c = true) : arriving cs = cs := by
  have hfragment : '#' ∉ cs := fun hmem => (of_isQueryChar (h '#' hmem)).2.1 rfl
  have htidied : tidied cs = cs := (tidied_eq_self_iff cs).2
    ⟨fun c hc => isBreak_eq_false (of_isQueryChar (h c hc)).1,
      fun c hc => (of_isQueryChar (h c (List.mem_of_getLast? hc))).1⟩
  rw [arriving, htidied, takeWhile_ne_of_notMem hfragment, percentEncode_eq_self]
  exact fun c hc => ⟨lt_of_isQueryChar (h c hc), (of_isQueryChar (h c hc)).2.2⟩

/-- Texts of unreserved characters. -/
def IsPlain (cs : List Char) : Prop := ∀ c ∈ cs, isUnreserved c = true

instance (cs : List Char) : Decidable (IsPlain cs) := List.decidableBAll _ cs

theorem IsPlain.isQueryChar (h : IsPlain cs) : ∀ c ∈ cs, isQueryChar c = true := fun c hc => by
  rw [Url.isQueryChar, h c hc]
  rfl

theorem IsPlain.notMem (h : IsPlain cs) (hc : isUnreserved c = false) : c ∉ cs := fun hmem => by
  rw [h c hmem] at hc
  cases hc

theorem decoded_of_isPlain (h : IsPlain cs) : decoded plusIsBlank cs = utf8 (String.ofList cs) := by
  rw [decoded_eq_utf8_iff]
  exact ⟨fun ⟨_, _, _, _, hinside⟩ => h.notMem rfl (hinside.subset List.mem_cons_self),
    fun _ => h.notMem rfl⟩

theorem parameter_append (hname : IsPlain name) (value : List Char) :
    parameter plusIsBlank (name ++ '=' :: value)
      = (utf8 (String.ofList name), decoded plusIsBlank value) := by
  have hsplit : Text.splitOnceChars '=' (name ++ '=' :: value) = some (name, value) :=
    Text.splitOnceChars_eq_some_iff.2 ⟨rfl, hname.notMem rfl⟩
  rw [parameter, hsplit]
  simp only [decoded_of_isPlain hname]

/-! ### Values encoded as components -/

/-- A parameter as it is written, its value encoded as a component. -/
def component (p : String × String) : String := p.1 ++ "=" ++ encodeComponent p.2

/-- A parameter as it is found. -/
def found (p : String × String) : Bytes × Bytes := (utf8 p.1, utf8 p.2)

theorem of_mem_encodeComponent {s : String} (h : c ∈ (encodeComponent s).toList) :
    isUnreserved c = true ∨ c = '%' := by
  have hall : "%0123456789ABCDEF".toList.all fun d => isUnreserved d || d == '%' := by decide
  rw [encodeComponent, String.toList_ofList] at h
  rcases mem_percentEncode h with ⟨-, hset⟩ | hescape
  · exact .inl (by simpa using hset)
  · simpa using List.all_eq_true.1 hall c (List.contains_iff_mem.1 hescape)

theorem decoded_encodeComponent (s : String) :
    decoded plusIsBlank (encodeComponent s).toList = utf8 s := by
  have hplus : '+' ∉ (encodeComponent s).toList := fun hmem => by
    rcases of_mem_encodeComponent hmem with h | h <;> cases h
  rw [decoded, map_unplus_of_notMem hplus, String.ofList_toList, encodeComponent, utf8_percentEncode,
    percentDecode_encoded (by decide), String.ofList_toList]

theorem toList_component (p : String × String) :
    (component p).toList = p.1.toList ++ '=' :: (encodeComponent p.2).toList := by
  simp [component]

theorem isQueryChar_of_mem_component {p : String × String} (hname : IsPlain p.1.toList)
    (h : c ∈ (component p).toList) : isQueryChar c = true ∧ c ≠ '&' := by
  have hunreserved : isUnreserved c = true → isQueryChar c = true ∧ c ≠ '&' := by
    intro hc
    refine ⟨by rw [isQueryChar, hc]; rfl, ?_⟩
    rintro rfl
    cases hc
  rw [toList_component] at h
  rcases List.mem_append.1 h with h | h
  · exact hunreserved (hname c h)
  · rcases List.mem_cons.1 h with rfl | h
    · decide
    · rcases of_mem_encodeComponent h with h | rfl
      · exact hunreserved h
      · decide

theorem parameter_component {p : String × String} (hname : IsPlain p.1.toList) :
    parameter plusIsBlank (component p).toList = found p := by
  rw [toList_component, parameter_append hname, decoded_encodeComponent, String.ofList_toList, found]

theorem pieces_intercalate {mark : Char} {parts : List (List Char)} (hne : parts ≠ [])
    (h : ∀ part ∈ parts, mark ∉ part) : Text.pieces mark ([mark].intercalate parts) = parts := by
  cases parts with
  | nil => exact absurd rfl hne
  | cons part parts =>
    rw [Text.pieces_intercalate List.not_mem_nil h]
    simp

/-- Components are found as they were, whatever they are. -/
theorem parametersOf_arriving_components {ps : List (String × String)}
    (hnames : ∀ p ∈ ps, IsPlain p.1.toList) :
    parametersOf plusIsBlank (arriving (Text.joinWith "&" (ps.map component)).toList)
      = ps.map found := by
  have htext : (Text.joinWith "&" (ps.map component)).toList
      = ['&'].intercalate (ps.map fun p => (component p).toList) := by
    rw [Text.joinWith, String.toList_intercalate, List.map_map]
    rfl
  have hchars : ∀ c ∈ ['&'].intercalate (ps.map fun p => (component p).toList),
      isQueryChar c = true := by
    intro c hc
    rcases mem_intercalate hc with hc | ⟨part, hpart, hc⟩
    · rw [List.mem_singleton.1 hc]
      decide
    · obtain ⟨p, hp, rfl⟩ := List.mem_map.1 hpart
      exact (isQueryChar_of_mem_component (hnames p hp) hc).1
  rw [htext, arriving_of_isQueryChar hchars, parametersOf]
  cases hps : ps with
  | nil => rfl
  | cons p qs =>
    rw [← hps, pieces_intercalate]
    · rw [List.filter_eq_self.2, List.map_map]
      · exact List.map_congr_left fun p hp => parameter_component (hnames p hp)
      · intro part hpart
        obtain ⟨p, -, rfl⟩ := List.mem_map.1 hpart
        simp [toList_component]
    · simp [hps]
    · intro part hpart hmem
      obtain ⟨p, hp, rfl⟩ := List.mem_map.1 hpart
      exact (isQueryChar_of_mem_component (hnames p hp) hmem).2 rfl

/-! ### Values as they are -/

/-- Values in which nothing means anything in a query. -/
structure Verbatim (plusIsBlank : Bool) (w : List Char) : Prop where
  /-- No other parameter begins. -/
  ampersand : '&' ∉ w
  /-- The query does not end. -/
  fragment : '#' ∉ w
  /-- There are no characters that do not count in an address. -/
  breaks : ∀ c ∈ w, isBreak c = false
  /-- Nor any at its end that do not count around one. -/
  ending : ∀ c ∈ w.getLast?, isAround c = false
  /-- No `%` is followed by two hexadecimal digits. -/
  escape : ¬ HasEscape w
  plus : plusIsBlank = true → '+' ∉ w

/-- What is left of a value at the end of a query, as part of its first parameter. -/
def remainder (w : List Char) : List Char :=
  ((tidied w).takeWhile (· ≠ '#')).takeWhile (· ≠ '&')

theorem remainder_sublist (w : List Char) : (remainder w).Sublist w :=
  ((List.takeWhile_sublist _).trans (List.takeWhile_sublist _)).trans (tidied_sublist w)

theorem remainder_eq_self_iff (w : List Char) :
    remainder w = w ↔ '&' ∉ w ∧ '#' ∉ w ∧ tidied w = w := by
  constructor
  · intro h
    have hsub : w.Sublist ((tidied w).takeWhile (· ≠ '#')) := by
      have hcut := List.takeWhile_sublist (fun c => decide (c ≠ '&'))
        (l := (tidied w).takeWhile (· ≠ '#'))
      rwa [show ((tidied w).takeWhile (· ≠ '#')).takeWhile (· ≠ '&') = w from h] at hcut
    have htidied : tidied w = w :=
      (tidied_sublist w).antisymm (hsub.trans (List.takeWhile_sublist _))
    rw [htidied] at hsub
    have hfragment : w.takeWhile (· ≠ '#') = w := (List.takeWhile_sublist _).antisymm hsub
    rw [remainder, htidied, hfragment] at h
    refine ⟨fun hmem => ?_, fun hmem => ?_, htidied⟩
    · simpa using List.takeWhile_eq_self_iff.1 h _ hmem
    · simpa using List.takeWhile_eq_self_iff.1 hfragment _ hmem
  · rintro ⟨hampersand, hfragment, htidied⟩
    rw [remainder, htidied, takeWhile_ne_of_notMem hfragment, takeWhile_ne_of_notMem hampersand]

theorem verbatim_iff (w : List Char) : Verbatim plusIsBlank w ↔
    remainder w = w ∧ decoded plusIsBlank w = utf8 (String.ofList w) := by
  rw [remainder_eq_self_iff, tidied_eq_self_iff, decoded_eq_utf8_iff]
  constructor
  · intro h
    exact ⟨⟨h.ampersand, h.fragment, h.breaks, h.ending⟩, h.escape, h.plus⟩
  · rintro ⟨⟨hampersand, hfragment, hbreaks, hending⟩, hescape, hplus⟩
    exact ⟨hampersand, hfragment, hbreaks, hending, hescape, hplus⟩

/-- Unreserved characters mean nothing. -/
theorem verbatim_of_isPlain (h : IsPlain w) : Verbatim plusIsBlank w := by
  have haround : ∀ c ∈ w, isAround c = false := fun c hc => (of_isQueryChar (h.isQueryChar c hc)).1
  obtain ⟨hescape, hplus⟩ := (decoded_eq_utf8_iff w).1 (decoded_of_isPlain h)
  exact ⟨h.notMem rfl, h.notMem rfl, fun c hc => isBreak_eq_false (haround c hc),
    fun c hc => haround c (List.mem_of_getLast? hc), hescape, hplus⟩

theorem arriving_append (hname : IsPlain name) (w : List Char) :
    arriving (name ++ '=' :: w) = name ++ '=' :: arriving w := by
  have hchars := hname.isQueryChar
  have hkept : name.filter (!isBreak ·) = name :=
    filter_isBreak_of_around fun c hc => (of_isQueryChar (hchars c hc)).1
  have hencoded : percentEncode inSpecialQuerySet name = name := percentEncode_eq_self
    fun c hc => ⟨lt_of_isQueryChar (hchars c hc), (of_isQueryChar (hchars c hc)).2.2⟩
  rw [arriving, tidied_append_cons (by decide), hkept,
    List.takeWhile_append_of_pos (all_ne_of_notMem (hname.notMem rfl)),
    List.takeWhile_cons_of_pos (by decide), percentEncode_append, hencoded]
  rfl

/-- The first parameter of a query that ends in a value as it is. -/
theorem exists_parametersOf_arriving (plusIsBlank : Bool) (hname : IsPlain name) (w : List Char) :
    ∃ more, parametersOf plusIsBlank (arriving (name ++ '=' :: w))
      = (utf8 (String.ofList name), decoded plusIsBlank (remainder w)) :: more ∧
      ('&' ∉ w → more = []) := by
  have hampersand : '&' ∉ name ++ ['='] := by
    simp only [List.mem_append, List.mem_singleton, not_or]
    exact ⟨hname.notMem rfl, by decide⟩
  obtain ⟨more, hpieces, hmore⟩ := exists_pieces_append hampersand (arriving w)
  have hfirst : (arriving w).takeWhile (· ≠ '&') = percentEncode inSpecialQuerySet (remainder w) :=
    takeWhile_percentEncode (by decide) (by decide) (by decide) _
  rw [List.append_assoc, List.append_assoc, List.singleton_append, List.singleton_append,
    hfirst] at hpieces
  refine ⟨(more.filter (!·.isEmpty)).map (parameter plusIsBlank), ?_, fun hnot => ?_⟩
  · rw [parametersOf, arriving_append hname, hpieces, List.filter_cons_of_pos (by simp),
      List.map_cons, parameter_append hname, decoded_percentEncode]
  · have hnone : '&' ∉ arriving w := by
      intro hmem
      rcases mem_percentEncode hmem with ⟨hmem, -⟩ | hescape
      · exact hnot ((tidied_sublist w).mem ((List.takeWhile_sublist _).mem hmem))
      · cases hescape
    rw [hmore hnone]
    rfl

/-- A value as it is, is found so exactly if nothing in it means anything. -/
theorem parametersOf_arriving_verbatim_iff (plusIsBlank : Bool) (hname : IsPlain name)
    (w : List Char) :
    parametersOf plusIsBlank (arriving (name ++ '=' :: w))
      = [(utf8 (String.ofList name), utf8 (String.ofList w))] ↔ Verbatim plusIsBlank w := by
  obtain ⟨more, hparameters, hmore⟩ := exists_parametersOf_arriving plusIsBlank hname w
  rw [hparameters]
  constructor
  · intro h
    have hdecoded := congrArg Prod.snd (List.cons.inj h).1
    have hwhole : remainder w = w := eq_of_decoded (remainder_sublist w) hdecoded
    exact (verbatim_iff w).2 ⟨hwhole, by rwa [hwhole] at hdecoded⟩
  · intro h
    obtain ⟨hwhole, hdecoded⟩ := (verbatim_iff w).1 h
    rw [hmore h.ampersand, hwhole, hdecoded]

end Seedkeeper.Url
