import Seedkeeper.Proofs.QBittorrent.Answers
import Seedkeeper.Proofs.QBittorrent.Lookups

/-!
Why a torrent's files cannot be listed.

That the torrent is not there is what the status 404 of the last answer means. The client goes by the
wording of a failure, and the wording for a status has 404 in it if that is the status, since a status has
three digits. But the wording for a request without an answer has the request's address in it. So a torrent
is also not there if a request for its files, or the login before it, is not answered and has 404 in its
address (`contents_answer`). Of the failures that are not taken for this one each is told as it is.
-/

namespace Seedkeeper.QBittorrent

open Client (Backend ContentFile Error Run)
open Http (Exchange Network Reply Request)
open Session (Answer aboutUrl ask loginRequest)
open Text (utf8)

variable {login q r : Request} {e : Error} {s t u : Session} {xs : List Exchange} {a : Answer}
  {infoHash : String}

/-! ### Wordings -/

/-- Whether the wording of a failure has 404 in it. -/
def Has404 (e : Error) : Prop := ∃ text, e = .apiError text ∧ Text.contains text "404" = true

theorem has404_apiError_iff {text : String} :
    Has404 (.apiError text) ↔ Text.contains text "404" = true :=
  ⟨fun ⟨_, htext, h⟩ => (Error.apiError.inj htext) ▸ h, fun h => ⟨text, rfl, h⟩⟩

theorem contentsError_of_has404 (h : Has404 e) (infoHash : String) :
    contentsError infoHash e = .torrentNotFound infoHash := by
  obtain ⟨text, rfl, htext⟩ := h
  rw [contentsError, if_pos htext]

theorem contentsError_of_not_has404 (h : ¬ Has404 e) (infoHash : String) :
    contentsError infoHash e = e := by
  cases e with
  | apiError text => rw [contentsError, if_neg fun htext => h ⟨text, rfl, htext⟩]
  | _ => rfl

theorem contentsError_eq_torrentNotFound_iff (he : e ≠ .torrentNotFound infoHash) :
    contentsError infoHash e = .torrentNotFound infoHash ↔ Has404 e := by
  by_cases h : Has404 e
  · exact iff_of_true (contentsError_of_has404 h infoHash) h
  · rw [contentsError_of_not_has404 h]
    exact iff_of_false he h

theorem contains_404_eq_false {text : String} (h : '4' ∉ text.toList) :
    Text.contains text "404" = false :=
  Text.contains_eq_false (by decide : '4' ∈ "404".toList) h

theorem contains_404_reason (n : Nat) :
    Text.contains ((Http.reason? n).getD "<unknown status code>") "404" = false := by
  apply contains_404_eq_false
  unfold Http.reason?
  split <;> decide +kernel

theorem contains_404_toString_iff {n : Nat} (hn : n < 1000) :
    Text.contains (toString n) "404" = true ↔ n = 404 := by
  have hall : ∀ n < 1000, (Text.after? ['4', '0', '4'] (Nat.toDigits 10 n)).isSome = Nat.beq n 404 := by
    decide +kernel
  have hdigits : (toString n).toList = Nat.toDigits 10 n := by simp [Nat.repr]
  rw [Text.contains, hdigits]
  rw [← Nat.beq_eq, ← hall n hn]
  rfl

/-- Of the statuses with three digits, 404 is the one with 404 in its words. -/
theorem contains_404_status_iff {n : Nat} (hn : n < 1000) :
    Text.contains ("HTTP " ++ Http.statusText n) "404" = true ↔ n = 404 := by
  have htext : "HTTP " ++ Http.statusText n
      = "HTTP" ++ String.singleton ' ' ++ (toString n ++ String.singleton ' ' ++
        (Http.reason? n).getD "<unknown status code>") := rfl
  have hfront : Text.contains "HTTP" "404" = false := contains_404_eq_false (by decide)
  rw [htext, Text.contains_around (by decide), Text.contains_around (by decide), hfront,
    contains_404_reason, Bool.false_or, Bool.or_false, contains_404_toString_iff hn]

/-- What is said of an address has 404 in it if what is said does, or if the address does. -/
theorem contains_404_aboutUrl (what : String) (url : Url) :
    Text.contains (aboutUrl what url) "404"
      = (Text.contains (what ++ " for url ") "404" || Text.contains url.text "404") := by
  have htext : aboutUrl what url
      = what ++ " for url " ++ String.singleton '(' ++ (url.text ++ String.singleton ')' ++ "") :=
    String.toList_inj.1 (by simp [aboutUrl])
  have hnone : Text.contains "" "404" = false := contains_404_eq_false (by decide)
  rw [htext, Text.contains_around (by decide), Text.contains_around (by decide), hnone, Bool.or_false]

/-! ### What is taken for a missing torrent -/

/-- Where 404 may be read in what is said of a request: it is not answered, and its address has it. -/
def Misread (login r : Request) (e : Error) : Prop :=
  ∃ q url what, (q = login ∨ q = r) ∧ Url.ofText? q.address = some url ∧
    e = .apiError (aboutUrl what url) ∧ Text.contains url.text "404" = true

theorem Misread.has404 (h : Misread login r e) : Has404 e := by
  obtain ⟨q, url, what, -, -, rfl, hurl⟩ := h
  rw [has404_apiError_iff, contains_404_aboutUrl, hurl, Bool.or_true]

theorem Misread.of_aboutUrl {what : String} (hq : q = login ∨ q = r) (hurl : Url.ofText? q.address = some url)
    (hwhat : '4' ∉ (what ++ " for url ").toList)
    (h : Has404 (.apiError (aboutUrl what url))) : Misread login r (.apiError (aboutUrl what url)) := by
  rw [has404_apiError_iff, contains_404_aboutUrl, contains_404_eq_false hwhat, Bool.false_or] at h
  exact ⟨q, url, what, hq, hurl, rfl, h⟩

/-- Where a request is not answered, 404 comes from its address. -/
theorem Unanswered.misread (h : Unanswered q e) (hq : q = login ∨ q = r) (h404 : Has404 e) :
    Misread login r e := by
  cases h with
  | noAddress =>
    have hnone : Text.contains "builder error" "404" = false := contains_404_eq_false (by decide)
    rw [has404_apiError_iff, hnone] at h404
    cases h404
  | unreachable hurl => exact .of_aboutUrl hq hurl (by decide) h404
  | late =>
    obtain ⟨text, htext, -⟩ := h404
    cases htext
  | refused =>
    obtain ⟨text, htext, -⟩ := h404
    cases htext
  | hungUp hurl => exact .of_aboutUrl hq hurl (by decide) h404

theorem exists_of_verdict (h : Session.verdict? a = some e) : ∃ text, e = .authenticationFailed text := by
  rw [Session.verdict?] at h
  split at h
  · cases h
  · split at h <;> exact ⟨_, (Option.some.inj h).symm⟩

/-- An answer with a status of three digits says 404 if that is its status. -/
theorem Says.has404_iff (h : Says a (.error e)) (hstatus : a.status < 1000) :
    Has404 e ↔ a.status = 404 := by
  cases h with
  | unreadable hdone =>
    have hnone : Text.contains "error decoding response body" "404" = false :=
      contains_404_eq_false (by decide)
    rw [has404_apiError_iff, hnone]
    refine ⟨nofun, fun h404 => ?_⟩
    rw [h404] at hdone
    cases hdone
  | failed => rw [has404_apiError_iff, contains_404_status_iff hstatus]

/-- Whether what arrives has a status of at most three digits, as HTTP has it. -/
def hasStatus (reply : Reply) : Bool := (arrived? reply).all (·.status < 1000)

/-- A failure speaks of 404 if that is the status of the last answer, or if it is taken for that. -/
theorem Answered.has404_iff (h : Answered login r xs (.error e)) (hxs : ∀ x ∈ xs, hasStatus x.reply = true) :
    Has404 e ↔ (∃ a, lastAnswer? r xs = some a ∧ a.status = 404) ∨ Misread login r e := by
  have hexpired : OnlyExpired r xs → ¬ ∃ a, lastAnswer? r xs = some a ∧ a.status = 404 := by
    rintro hlast ⟨a, ha, hstatus⟩
    rw [hlast a ha] at hstatus
    cases hstatus
  cases h with
  | said hlast htold =>
    rename_i a
    obtain ⟨x, hx, harrived⟩ := Option.bind_eq_some_iff.1 hlast
    have hmem : x ∈ xs := (List.mem_filter.1 (List.mem_of_getLast? hx)).1
    have hstatus : a.status < 1000 := by
      have hreply := hxs x hmem
      rw [hasStatus, harrived, Option.all_some] at hreply
      exact of_decide_eq_true hreply
    have hsaid := htold.has404_iff hstatus
    rw [hsaid]
    refine ⟨fun h => .inl ⟨a, hlast, h⟩, ?_⟩
    rintro (⟨b, hb, h404⟩ | hmisread)
    · rw [hlast] at hb
      rwa [Option.some.inj hb]
    · exact hsaid.1 hmisread.has404
  | unanswered h hlast =>
    rw [or_iff_right (hexpired hlast)]
    exact ⟨h.misread (.inr rfl), Misread.has404⟩
  | notSignedIn h hlast =>
    rw [or_iff_right (hexpired hlast)]
    refine ⟨fun h404 => ?_, Misread.has404⟩
    cases h with
    | unanswered h => exact h.misread (.inl rfl) h404
    | denied _ _ _ hverdict =>
      obtain ⟨_, rfl⟩ := exists_of_verdict hverdict
      obtain ⟨text, htext, -⟩ := h404
      cases htext

/-- What is read is the body of an answer that does not have status 404. -/
theorem Answered.not_404_of_ok {text : String} (h : Answered login r xs (.ok text)) :
    ¬ ∃ a, lastAnswer? r xs = some a ∧ a.status = 404 := by
  rintro ⟨a, ha, hstatus⟩
  cases h with
  | said hlast htold =>
    rw [ha] at hlast
    obtain rfl := Option.some.inj hlast
    cases htold with
    | done hdone =>
      rw [hstatus] at hdone
      cases hdone

theorem Answered.ne_torrentNotFound (h : Answered login r xs (.error e)) (infoHash : String) :
    e ≠ .torrentNotFound infoHash := by
  rintro rfl
  cases h with
  | said _ htold => cases htold
  | unanswered h => cases h
  | notSignedIn h =>
    cases h with
    | unanswered h => cases h
    | denied _ _ _ hverdict =>
      obtain ⟨_, htext⟩ := exists_of_verdict hverdict
      cases htext

/-! ### Statuses -/

/-- A network whose server answers with statuses of at most three digits. -/
def HasStatuses (n : Network) : Prop := ∀ reply ∈ n.afterScript :: n.script, hasStatus reply = true

instance (n : Network) : Decidable (HasStatuses n) :=
  inferInstanceAs (Decidable (∀ reply ∈ n.afterScript :: n.script, hasStatus reply = true))

/-- From one state to another, if the server answers with statuses of at most three digits, it does in
    the exchanges that took place, and still will. -/
def StatusesKept (s t : Session) : Prop :=
  HasStatuses s.network → Added (fun x => hasStatus x.reply = true) s t ∧ HasStatuses t.network

theorem StatusesKept.of_network_eq (h : t.network = s.network) : StatusesKept s t :=
  fun hstatuses => ⟨.of_network_eq h, h ▸ hstatuses⟩

theorem StatusesKept.trans (h : StatusesKept s t) (k : StatusesKept t u) :
    StatusesKept s u := fun hstatuses =>
  have ⟨hadded, hmid⟩ := h hstatuses
  have ⟨hmore, hend⟩ := k hmid
  ⟨hadded.trans hmore, hend⟩

theorem HasStatuses.next {n : Network} (h : HasStatuses n) :
    hasStatus n.next.1 = true ∧ HasStatuses n.next.2 ∧ n.next.2.exchanges = n.exchanges := by
  rw [HasStatuses, List.forall_mem_cons] at h
  obtain ⟨hafter, hscript⟩ := h
  rw [Network.next]
  split
  · exact ⟨hafter, List.forall_mem_cons.2 ⟨hafter, hscript⟩, rfl⟩
  · rename_i reply script heq
    rw [heq] at hscript
    obtain ⟨hreply, hscript⟩ := List.forall_mem_cons.1 hscript
    exact ⟨hreply, List.forall_mem_cons.2 ⟨hafter, hscript⟩, rfl⟩

theorem statusesKept_ask (r : Request) : (ask r).Keeps StatusesKept := by
  intro s hstatuses
  rcases network_ask_cases r s with hsame | ⟨url, cookie, -, -, hsent⟩
  · exact StatusesKept.of_network_eq hsame hstatuses
  · obtain ⟨hreply, hnext, hexchanges⟩ := hstatuses.next
    rw [Network.send] at hsent
    split at hsent
    · refine ⟨⟨[⟨r, url.target, cookie, s.network.next.1⟩], ?_, List.forall_mem_singleton.2 hreply⟩, ?_⟩
      · rw [hsent]
        exact congrArg (· ++ _) hexchanges
      · rw [hsent]
        exact hnext
    · exact StatusesKept.of_network_eq hsent hstatuses

/-! ### The files of a torrent -/

/-- The request for the files of a torrent. -/
def contentsRequest (account : Account) (infoHash : String) : Request :=
  ⟨.get, Session.base account ++ ("/api/v2/torrents/files?hash=" ++ Text.lowercase infoHash), .none⟩

theorem parsed_ne_torrentNotFound {α : Type} (read : Json → Option α) (text infoHash : String) (s : Session) :
    ((parsed read text).from s).1 ≠ .error (.torrentNotFound infoHash) := by
  rw [parsed]
  split
  · exact fun h => by cases h
  · exact fun h => by cases h

theorem from_contents (infoHash : String) (s : Session) :
    (Backend.contents infoHash : Run Session (List ContentFile)).from s
      = match (Session.send (contentsRequest s.account infoHash)).from s with
        | (.ok text, t) => (parsed contents? text).from t
        | (.error e, t) => (.error (contentsError infoHash e), t) := by
  have hfetch : (Session.fetch ("/api/v2/torrents/files?hash=" ++ Text.lowercase infoHash)).from s
      = (Session.send (contentsRequest s.account infoHash)).from s := Run.from_bind_ok (Run.from_get s) _
  change (tryCatch (Session.fetch ("/api/v2/torrents/files?hash=" ++ Text.lowercase infoHash))
    (fun e => throw (contentsError infoHash e)) >>= fun text => parsed contents? text).from s = _
  rw [Run.from_bind, Run.from_rethrow, hfetch]
  cases (Session.send (contentsRequest s.account infoHash)).from s with
  | mk fetched t => cases fetched <;> rfl

/-- What listing a torrent's files answers, whatever the server does and however it is reached.

    It is that the torrent is not there exactly if the last answer to the request for them has status
    404, or if that request or a login is not answered and its address has 404 in it. Any other failure
    is told as it is, and what is read is read as a list of files. -/
theorem contents_answer (s : Session) (infoHash : String) (hstatuses : HasStatuses s.network) :
    let r := contentsRequest s.account infoHash
    ∃ fetched answer t xs, (Session.send r).from s = (fetched, t) ∧
      (Backend.contents infoHash).from s = (answer, t) ∧ Heard s t xs ∧
      Answered (loginRequest s.account) r xs fetched ∧
      (answer = .error (.torrentNotFound infoHash) ↔
        (∃ a, lastAnswer? r xs = some a ∧ a.status = 404) ∨
          ∃ e, fetched = .error e ∧ Misread (loginRequest s.account) r e) ∧
      (∀ e, fetched = .error e → answer = .error (.torrentNotFound infoHash) ∨ answer = .error e) ∧
      ∀ text, fetched = .ok text → answer = ((parsed contents? text).from t).1 := by
  intro r
  have hcontents := from_contents infoHash s
  have hkept : (Session.send r).Keeps StatusesKept :=
    keeps_send StatusesKept.trans StatusesKept.of_network_eq (fun account => statusesKept_ask _)
      (statusesKept_ask r)
  obtain ⟨fetched, t, xs, hsend, hheard, hanswered⟩ :=
    answered_send (r := r) (fun account => by simp [r, contentsRequest, loginRequest]) s
  have hxs : ∀ x ∈ xs, hasStatus x.reply = true := by
    have hadded := (hkept s hstatuses).1
    rw [hsend] at hadded
    exact hheard.of_added hadded
  rw [hsend] at hcontents
  rw [List.nil_append] at hanswered
  cases fetched with
  | ok text =>
    refine ⟨.ok text, ((parsed contents? text).from t).1, t, xs, hsend, ?_, hheard, hanswered, ?_,
      fun e he => (by cases he), fun _ htext => by rw [Except.ok.inj htext]⟩
    · rw [hcontents]
      exact Prod.ext rfl (state_parsed contents? text t)
    · refine iff_of_false (parsed_ne_torrentNotFound _ _ _ _) ?_
      rintro (hstatus | ⟨e, he, -⟩)
      · exact hanswered.not_404_of_ok hstatus
      · cases he
  | error e =>
    have hmissing := (contentsError_eq_torrentNotFound_iff (hanswered.ne_torrentNotFound infoHash)).trans
      (hanswered.has404_iff hxs)
    refine ⟨.error e, .error (contentsError infoHash e), t, xs, hsend, hcontents, hheard, hanswered,
      ?_, ?_, fun text htext => by cases htext⟩
    · simpa only [Except.error.injEq, exists_eq_left'] using hmissing
    · rintro _ ⟨rfl⟩
      by_cases h404 : Has404 e
      · exact .inl (congrArg _ (contentsError_of_has404 h404 infoHash))
      · exact .inr (congrArg _ (contentsError_of_not_has404 h404 infoHash))

/-- A server that has no torrents, and says so with status 404. -/
def missingServer : Network :=
  ⟨"http://127.0.0.1:8080", [.answer 200 (utf8 "Ok.") true none], .answer 404 [] true none, []⟩

/-- A torrent is not there if the server says so. -/
theorem contents_answer_missing :
    let s := Session.start localAccount missingServer
    HasStatuses missingServer ∧
      ∃ t, (Backend.contents "aa").from s = (.error (.torrentNotFound "aa"), t) ∧
        lastAnswer? (contentsRequest localAccount "aa") t.network.exchanges = some ⟨404, some []⟩ := by
  intro s
  have hstatuses : HasStatuses missingServer := by decide
  obtain ⟨fetched, answer, t, xs, -, hfrom, hheard, -, hmissing, -⟩ := contents_answer s "aa" hstatuses
  obtain rfl : t.network.exchanges = xs := hheard.exchanges
  have ht : t.network.exchanges = ((Backend.contents "aa").from s).2.network.exchanges :=
    congrArg (fun x => x.2.network.exchanges) hfrom.symm
  have hlast : lastAnswer? (contentsRequest localAccount "aa") t.network.exchanges
      = some ⟨404, some []⟩ := by
    rw [ht]
    decide
  exact ⟨hstatuses, t, hmissing.2 (.inl ⟨_, hlast, rfl⟩) ▸ hfrom, hlast⟩

/-- A server that goes away after a login. -/
def leavingServer : Network :=
  ⟨"http://127.0.0.1:8080", [.answer 200 (utf8 "Ok.") true none], .hangUp, []⟩

/-- There, a torrent with 404 in its info hash is not there, though the server does not say so. -/
theorem not_only_missing_of_hungUp : ¬ ∀ (s : Session) (infoHash : String), HasStatuses s.network →
    ∀ t xs, (Backend.contents infoHash).from s = (.error (.torrentNotFound infoHash), t) → Heard s t xs →
      ∃ a, lastAnswer? (contentsRequest s.account infoHash) xs = some a ∧ a.status = 404 := by
  intro h
  let listing : Except Error (List ContentFile) × Session :=
    (Backend.contents "404").from (Session.start localAccount leavingServer)
  have hanswer : listing.1 = .error (.torrentNotFound "404") := by decide +kernel
  have hlast : lastAnswer? (contentsRequest localAccount "404") listing.2.network.exchanges = none := by
    decide
  have haccount : listing.2.account = localAccount := by decide
  generalize hfrom : listing = outcome at hanswer hlast haccount
  obtain ⟨answer, t⟩ := outcome
  obtain rfl : answer = .error (.torrentNotFound "404") := hanswer
  obtain ⟨a, ha, -⟩ := h _ "404" (by decide) t t.network.exchanges hfrom ⟨rfl, haccount⟩
  rw [show contentsRequest (Session.start localAccount leavingServer).account "404"
    = contentsRequest localAccount "404" from rfl, hlast] at ha
  cases ha

end Seedkeeper.QBittorrent
