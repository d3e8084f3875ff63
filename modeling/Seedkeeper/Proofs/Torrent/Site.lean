import Seedkeeper.Proofs.Text.Decoded
import Seedkeeper.Proofs.Text.Lowercase
import Seedkeeper.Proofs.Url.Parameters
import Seedkeeper.Torrent.Tracker

/-!
The site of a torrent, read off the address of its tracker.

The host of an address stands between `//` and its port or path. A name of ASCII characters that may
stand in a domain name is shown as it is written, but for letter case, if it does not have to be read as a
number and none of its labels stands for another one (`specialHost?_of_isName`, `opaqueHost?_of_isName`).
So such a name is the site, in lower case, for every scheme but `file` and whatever follows it
(`trackerHost?_of_isName`).
-/

namespace Seedkeeper.Url

variable {k : Kind} {c d : Char} {cs front scheme name port path : List Char}

/-! ### Names -/

/-- ASCII characters that a domain name may hold. -/
def isNameChar (c : Char) : Bool := c.toNat < 0x80 && !isForbiddenInDomain c

/-- Names that stand for themselves: texts of such characters that are no numbers and have no label in
    Punycode. -/
structure IsName (name : List Char) : Prop where
  ne_nil : name ≠ []
  chars : ∀ c ∈ name, isNameChar c = true
  uncoded : ∀ label ∈ Text.pieces '.' (name.map Text.asciiLower), ¬ DomainName.mark <+: label
  unnumbered : endsInNumber (name.map Text.asciiLower) = false

theorem lt_of_isNameChar (h : isNameChar c = true) : c.toNat < 0x80 := by
  simp only [isNameChar, Bool.and_eq_true, decide_eq_true_iff] at h
  exact h.1

theorem isForbiddenInDomain_eq_false (h : isNameChar c = true) : isForbiddenInDomain c = false := by
  simp only [isNameChar, Bool.and_eq_true, Bool.not_eq_true'] at h
  exact h.2

theorem of_isNameChar (h : isNameChar c = true) :
    isAround c = false ∧ isNameChar (Text.asciiLower c) = true :=
  Text.forall_ascii (P := fun c => isNameChar c = true →
    isAround c = false ∧ isNameChar (Text.asciiLower c) = true) (by decide) (lt_of_isNameChar h) h

theorem ne_of_isNameChar (h : isNameChar c = true) (hd : isNameChar d = false) : c ≠ d := by
  rintro rfl
  cases h.symm.trans hd

theorem IsName.notMem (h : IsName name) (hc : isNameChar c = false) : c ∉ name := fun hmem =>
  ne_of_isNameChar (h.chars c hmem) hc rfl

theorem IsName.lowered (h : IsName name) : ∀ c ∈ name.map Text.asciiLower, isNameChar c = true := by
  intro c hc
  obtain ⟨d, hd, rfl⟩ := List.mem_map.1 hc
  exact (of_isNameChar (h.chars d hd)).2

theorem IsName.head?_ne (h : IsName name) : name.head? ≠ some '[' := fun hhead =>
  h.notMem (by decide) (List.mem_of_mem_head? hhead)

/-! ### What a name is shown as -/

theorem mapM_eq_self {α : Type} {f : α → Option α} {xs : List α} (h : ∀ x ∈ xs, f x = some x) :
    xs.mapM f = some xs := by
  induction xs with
  | nil => rfl
  | cons x xs ih =>
    rw [List.mapM_cons, h x List.mem_cons_self, ih fun y hy => h y (List.mem_cons_of_mem x hy)]
    rfl

theorem isAscii_of_isNameChar (h : ∀ c ∈ cs, isNameChar c = true) : DomainName.isAscii cs = true :=
  List.all_eq_true.2 fun c hc => decide_eq_true (lt_of_isNameChar (h c hc))

theorem isLeftwards_of_isNameChar (h : isNameChar c = true) : DomainName.isLeftwards c = false := by
  simp [DomainName.isLeftwards, Nat.not_le.2 (lt_of_isNameChar h)]

theorem plain?_of_isAscii (h : DomainName.isAscii cs = true) (hmark : ¬ DomainName.mark <+: cs) :
    DomainName.plain? cs = some cs := by
  have huncoded : Text.dropStart? DomainName.mark cs = none := by
    rwa [← Option.not_isSome_iff_eq_none, Text.isSome_dropStart?_iff]
  rw [DomainName.plain?, huncoded]
  exact if_pos (.inl h)

theorem IsName.of_mem_pieces (h : IsName name)
    (hpiece : cs ∈ Text.pieces '.' (name.map Text.asciiLower)) : ∀ c ∈ cs, isNameChar c = true := by
  intro c hc
  refine h.lowered c ?_
  rw [← Text.intercalate_pieces '.' (name.map Text.asciiLower)]
  exact mem_intercalate_of_mem hc hpiece

theorem toAscii?_of_isName (h : IsName name) :
    DomainName.toAscii? name = some (name.map Text.asciiLower) := by
  have hmapped : DomainName.map? name = some (name.map Text.asciiLower) :=
    if_pos (isAscii_of_isNameChar h.chars)
  have hplain : ∀ label ∈ Text.pieces '.' (name.map Text.asciiLower),
      DomainName.plain? label = some label := fun label hlabel =>
    plain?_of_isAscii (isAscii_of_isNameChar (h.of_mem_pieces hlabel)) (h.uncoded label hlabel)
  have hdirection : (Text.pieces '.' (name.map Text.asciiLower)).any (·.any DomainName.isLeftwards)
      = false := by
    simp only [List.any_eq_false, Bool.not_eq_true]
    exact fun label hlabel c hc => isLeftwards_of_isNameChar (h.of_mem_pieces hlabel c hc)
  have hshown : ∀ label ∈ Text.pieces '.' (name.map Text.asciiLower), DomainName.ascii label = label :=
    fun label hlabel => if_pos (isAscii_of_isNameChar (h.of_mem_pieces hlabel))
  have hdot : ".".toList = ['.'] := rfl
  simp only [DomainName.toAscii?, hmapped, Option.bind_eq_bind, Option.bind_some, mapM_eq_self hplain,
    hdirection, Bool.false_eq_true, false_and, if_false, List.map_congr_left hshown, List.map_id', hdot,
    Text.intercalate_pieces]

/-- The host of a special scheme is the name in small letters. -/
theorem specialHost?_of_isName (h : IsName name) :
    specialHost? name = some (name.map Text.asciiLower) := by
  have hdecoded : Text.decodeLossy .none (percentDecode (Text.utf8 (String.ofList name))) = name := by
    have hescape : ¬ HasEscape name := fun ⟨_, _, _, _, hinside⟩ =>
      h.notMem (by decide) (hinside.subset List.mem_cons_self)
    rw [(percentDecode_utf8_eq_self_iff name).2 hescape, Text.utf8_ofList, Text.decodeLossy_flatMap]
  have hallowed : ¬ ((name.map Text.asciiLower).isEmpty ∨
      (name.map Text.asciiLower).any isForbiddenInDomain) := by
    rw [List.isEmpty_map, List.isEmpty_iff, not_or, Bool.not_eq_true, List.any_eq_false]
    exact ⟨h.ne_nil, fun c hc => Bool.eq_false_iff.1 (isForbiddenInDomain_eq_false (h.lowered c hc))⟩
  simp only [specialHost?, if_neg h.head?_ne, hdecoded, toAscii?_of_isName h, Option.bind_eq_bind,
    Option.bind_some, if_neg hallowed, h.unnumbered, Bool.false_eq_true, if_false]

/-- The host of any other scheme is the name itself. -/
theorem opaqueHost?_of_isName (h : IsName name) : opaqueHost? name = some name := by
  have hallowed : ∀ c ∈ name, isForbiddenInHost c = false ∧ inControlSet c = false := by
    intro c hc
    have hdomain := isForbiddenInDomain_eq_false (h.chars c hc)
    simp only [isForbiddenInDomain, Bool.or_eq_false_iff] at hdomain
    exact ⟨hdomain.1.1, hdomain.2⟩
  have hnone : ¬ name.any isForbiddenInHost := by
    rw [Bool.not_eq_true, List.any_eq_false]
    exact fun c hc => Bool.eq_false_iff.1 (hallowed c hc).1
  rw [opaqueHost?, if_neg h.head?_ne, if_neg hnone,
    percentEncode_eq_self fun c hc => ⟨lt_of_isNameChar (h.chars c hc), (hallowed c hc).2⟩]

/-! ### The pieces of an address -/

/-- Texts that can stand before the colon of an address. -/
def IsScheme (scheme : List Char) : Prop :=
  scheme.head?.any Text.isLetter ∧ ∀ c ∈ scheme, isSchemeChar c = true

/-- What may stand for a port: nothing, or a colon and the digits of a number that a port may have. -/
def IsPort (port : List Char) : Prop :=
  port = [] ∨ ∃ digits n, port = ':' :: digits ∧ (∀ d ∈ digits, Text.isDigit d = true) ∧
    Text.decimalValue? digits = some n ∧ n ≤ 65535

theorem isNameChar_of_isSchemeChar (h : isSchemeChar c = true) : isNameChar c = true := by
  have hlt : c.toNat < 0x80 := by
    by_cases hplus : c = '+'
    · rw [hplus]
      decide
    · refine lt_of_isQueryChar ?_
      simp only [isSchemeChar, Bool.or_eq_true, beq_iff_eq, hplus, or_false] at h
      simp only [isQueryChar, isUnreserved, Bool.or_eq_true, List.contains_iff_mem, List.mem_cons]
      tauto
  exact Text.forall_ascii (P := fun c => isSchemeChar c = true → isNameChar c = true) (by decide) hlt h

theorem isNameChar_of_isDigit (h : Text.isDigit c = true) : isNameChar c = true :=
  isNameChar_of_isSchemeChar (by simp [isSchemeChar, h])

theorem IsPort.mem (h : IsPort port) (hc : c ∈ port) : c = ':' ∨ isNameChar c = true := by
  rcases h with rfl | ⟨digits, n, rfl, hdigits, -⟩
  · cases hc
  · exact (List.mem_cons.1 hc).imp_right fun hc => isNameChar_of_isDigit (hdigits c hc)

theorem isSome_port? (h : IsPort port) (scheme : List Char) : ∃ p, port? scheme port = some p := by
  rcases h with rfl | ⟨digits, n, rfl, hdigits, hvalue, hn⟩
  · exact ⟨none, rfl⟩
  · have htake : digits.takeWhile (· ≠ '\\') = digits :=
      takeWhile_ne_of_notMem fun hmem => absurd (hdigits _ hmem) (by decide)
    simp only [port?, htake, hvalue, if_neg (Nat.not_lt.2 hn)]
    split <;> exact ⟨_, rfl⟩

theorem cutScheme_append (h : IsScheme scheme) (rest : List Char) :
    cutScheme (scheme ++ ':' :: rest) = some (scheme.map Text.asciiLower, rest) := by
  obtain ⟨hhead, hchars⟩ := h
  cases scheme with
  | nil => cases hhead
  | cons c scheme =>
    have hletter : Text.isLetter c = true := hhead
    have hboundary : ∀ d ∈ (':' :: rest).head?, isSchemeChar d = false := by
      rintro d ⟨⟩
      decide
    have htake := takeWhile_append_of_boundary hchars hboundary
    have hdrop := dropWhile_append_of_boundary hchars hboundary
    rw [List.cons_append] at htake hdrop ⊢
    simp only [cutScheme, if_pos hletter, hdrop, htake]

theorem cutHost_append (hname : IsName name) (hport : IsPort port) :
    cutHost false (name ++ port) = (name, port) := by
  have hmarks : ∀ c ∈ name, c ≠ ':' ∧ c ≠ '[' := fun c hc =>
    ⟨ne_of_isNameChar (hname.chars c hc) (by decide), ne_of_isNameChar (hname.chars c hc) (by decide)⟩
  clear hname
  induction name with
  | nil =>
    rcases hport with rfl | ⟨digits, n, rfl, -⟩
    · rfl
    · rfl
  | cons c name ih =>
    obtain ⟨hcolon, hbracket⟩ := hmarks c List.mem_cons_self
    rw [List.cons_append, cutHost, if_neg fun h => hcolon h.1, if_neg hbracket, ite_self]
    dsimp only
    rw [ih fun d hd => hmarks d (List.mem_cons_of_mem c hd)]

theorem cleaned_append (hne : front ≠ []) (hfront : ∀ c ∈ front, isAround c = false) (cs : List Char) :
    cleaned (front ++ cs) = front ++ tidied cs := by
  have hdrop : (front ++ cs).dropWhile isAround = front ++ cs := by
    cases front with
    | nil => exact absurd rfl hne
    | cons c front =>
      exact List.dropWhile_cons_of_neg (by rw [hfront c List.mem_cons_self]; exact Bool.false_ne_true)
  rcases List.eq_nil_or_concat' front with rfl | ⟨before, c, rfl⟩
  · exact absurd rfl hne
  · have hkept : before.filter (!isBreak ·) = before :=
      filter_isBreak_of_around fun d hd => hfront d (List.mem_append_left _ hd)
    rw [cleaned_eq_tidied, hdrop, List.append_assoc, List.singleton_append,
      tidied_append_cons (hfront c (by simp)), hkept, List.append_assoc, List.singleton_append]

theorem endsAuthority_of_isNameChar (h : isNameChar c = true) : endsAuthority k c = false := by
  simp [endsAuthority, isSlash, ne_of_isNameChar h (d := '/') (by decide),
    ne_of_isNameChar h (d := '\\') (by decide), ne_of_isNameChar h (d := '?') (by decide),
    ne_of_isNameChar h (d := '#') (by decide)]

theorem dropWhile_isSlash (hname : IsName name) (cs : List Char) :
    (name ++ cs).dropWhile (isSlash k) = name ++ cs := by
  cases name with
  | nil => exact absurd rfl hname.ne_nil
  | cons c name =>
    have hends := endsAuthority_of_isNameChar (k := k) (hname.chars c List.mem_cons_self)
    simp only [endsAuthority, Bool.or_eq_false_iff] at hends
    exact List.dropWhile_cons_of_neg (by rw [hends.1.1]; exact Bool.false_ne_true)

/-- An authority of a name and a port shows the name. -/
theorem host_withAuthority? (k : Kind) (scheme : List Char) (hname : IsName name) (hport : IsPort port)
    (hpath : ∀ c ∈ path.head?, endsAuthority k c = true) :
    ∃ url, withAuthority? k scheme (name ++ port ++ path) = some url ∧
      url.host = some (String.ofList (if k = .other then name else name.map Text.asciiLower)) := by
  have hkept : ∀ c ∈ name ++ port, (!endsAuthority k c) = true := by
    intro c hc
    rcases List.mem_append.1 hc with hc | hc
    · rw [endsAuthority_of_isNameChar (hname.chars c hc), Bool.not_false]
    · rcases hport.mem hc with rfl | hc
      · cases k <;> rfl
      · rw [endsAuthority_of_isNameChar hc, Bool.not_false]
  have hends : ∀ c ∈ path.head?, (!endsAuthority k c) = false := fun c hc => by
    rw [hpath c hc, Bool.not_true]
  have htake := takeWhile_append_of_boundary hkept hends
  have hdrop := dropWhile_append_of_boundary hkept hends
  have huser : cutUser (name ++ port) = (none, name ++ port) := by
    refine if_neg fun hat => ?_
    rcases List.mem_append.1 (List.contains_iff_mem.1 hat) with hmem | hmem
    · exact hname.notMem (by decide) hmem
    · rcases hport.mem hmem with hc | hc <;> exact absurd hc (by decide)
  have hsome : name.isEmpty = false := List.isEmpty_eq_false_iff.2 hname.ne_nil
  obtain ⟨p, hp⟩ := isSome_port? hport scheme
  refine ⟨build k scheme (some (if k = .other then name else name.map Text.asciiLower)) p path, ?_, ?_⟩
  · simp only [withAuthority?, htake, hdrop, huser, cutHost_append hname hport, hsome, Bool.false_eq_true,
      false_and, if_false, opaqueHost?_of_isName hname, specialHost?_of_isName hname, hp,
      Option.bind_eq_bind, Option.bind_some, Option.pure_def]
    split <;> rfl
  · have hnonempty : (if k = .other then name else name.map Text.asciiLower) ≠ [] := by
      split
      · exact hname.ne_nil
      · exact fun h => hname.ne_nil (List.map_eq_nil_iff.1 h)
    simp only [build, Option.filter_some, List.isEmpty_eq_false_iff.2 hnonempty, Bool.not_false, if_true,
      Option.map_some]

theorem kindOf_ne_file (h : String.ofList scheme ≠ "file") : kindOf scheme ≠ .file := by
  simp only [kindOf, if_neg h]
  split <;> decide

/-- What ends an authority still does so without what does not count after it. -/
theorem endsAuthority_tidied (h : ∀ c ∈ path.head?, c = '/' ∨ c = '?' ∨ c = '#') :
    ∀ c ∈ (tidied path).head?, endsAuthority k c = true := by
  cases path with
  | nil => exact nofun
  | cons c path =>
    have haround : isAround c = false := by rcases h c rfl with rfl | rfl | rfl <;> decide
    have htidied : tidied (c :: path) = c :: tidied path := tidied_append_cons haround [] path
    rw [htidied]
    intro d hd
    obtain rfl : c = d := Option.some.inj hd
    rcases h c rfl with rfl | rfl | rfl <;> cases k <;> decide

/-- An address with a name for its host shows the name. -/
theorem host_ofText? (hscheme : IsScheme scheme)
    (hfile : String.ofList (scheme.map Text.asciiLower) ≠ "file") (hname : IsName name)
    (hport : IsPort port) (hpath : ∀ c ∈ path.head?, c = '/' ∨ c = '?' ∨ c = '#') :
    ∃ url host, ofText? (String.ofList (scheme ++ "://".toList ++ name ++ port ++ path)) = some url ∧
      url.host = some (String.ofList host) ∧ (host = name ∨ host = name.map Text.asciiLower) := by
  have hfront : ∀ c ∈ scheme ++ "://".toList ++ name ++ port, isAround c = false := by
    intro c hc
    simp only [List.mem_append] at hc
    rcases hc with ((hc | hc) | hc) | hc
    · exact (of_isNameChar (isNameChar_of_isSchemeChar (hscheme.2 c hc))).1
    · have hmarks : "://".toList.all (!isAround ·) = true := by decide
      simpa using List.all_eq_true.1 hmarks c hc
    · exact (of_isNameChar (hname.chars c hc)).1
    · rcases hport.mem hc with rfl | hc
      · decide
      · exact (of_isNameChar hc).1
  have hcleaned : cleaned (scheme ++ "://".toList ++ name ++ port ++ path)
      = scheme ++ ':' :: '/' :: '/' :: (name ++ port ++ tidied path) := by
    rw [cleaned_append (by simp) hfront]
    simp
  rw [ofText?, String.toList_ofList, hcleaned, cutScheme_append hscheme, Option.bind_eq_bind,
    Option.bind_some]
  cases hkind : kindOf (scheme.map Text.asciiLower) with
  | file => exact absurd hkind (kindOf_ne_file hfile)
  | web =>
    have hslashes : ('/' :: '/' :: (name ++ port ++ tidied path)).dropWhile (isSlash .web)
        = name ++ port ++ tidied path := by
      rw [List.dropWhile_cons_of_pos (by decide), List.dropWhile_cons_of_pos (by decide),
        List.append_assoc, dropWhile_isSlash hname]
    obtain ⟨url, hurl, hhost⟩ := host_withAuthority? .web (scheme.map Text.asciiLower) hname hport
      (endsAuthority_tidied hpath)
    exact ⟨url, _, by simp only [hkind, hslashes, hurl], hhost, .inr (if_neg (by decide))⟩
  | other =>
    obtain ⟨url, hurl, hhost⟩ := host_withAuthority? .other (scheme.map Text.asciiLower) hname hport
      (endsAuthority_tidied hpath)
    exact ⟨url, _, by simp only [hkind, hurl], hhost, .inl (if_pos rfl)⟩

end Seedkeeper.Url

namespace Seedkeeper.Torrent

/-- The site of a torrent is the host of its tracker in small letters, for a host that is a name, whatever
    port and path stand behind it. -/
theorem trackerHost?_of_isName {t : Torrent} {scheme name port path : String}
    (ht : t.tracker = scheme ++ "://" ++ name ++ port ++ path) (hscheme : Url.IsScheme scheme.toList)
    (hfile : Text.asciiLowerText scheme ≠ "file") (hname : Url.IsName name.toList)
    (hport : Url.IsPort port.toList) (hpath : ∀ c ∈ path.toList.head?, c = '/' ∨ c = '?' ∨ c = '#') :
    t.trackerHost? = some (Text.asciiLowerText name) := by
  obtain ⟨url, host, hurl, hhost, hshown⟩ := Url.host_ofText? hscheme hfile hname hport hpath
  have htext : t.tracker = String.ofList
      (scheme.toList ++ "://".toList ++ name.toList ++ port.toList ++ path.toList) := by
    rw [ht]
    simp only [String.ofList_append, String.ofList_toList]
  have hlower : Text.lowercase (String.ofList host) = Text.asciiLowerText name := by
    rcases hshown with rfl | rfl
    · exact Text.lowercase_of_ascii fun c hc => Url.lt_of_isNameChar (hname.chars c hc)
    · have hstays : Text.asciiLower ∘ Text.asciiLower = Text.asciiLower :=
        funext Text.asciiLower_asciiLower
      rw [Text.lowercase_of_ascii fun c hc => Url.lt_of_isNameChar (hname.lowered c hc), List.map_map,
        hstays, Text.asciiLowerText]
  rw [trackerHost?, htext, hurl, Option.bind_some, hhost, Option.map_some, hlower]

example : (Torrent.sample "a" "A" .seeding).trackerHost? = some "tracker.example.org" := by
  decide +kernel

end Seedkeeper.Torrent
