import Seedkeeper.Proofs.Client.Runs
import Seedkeeper.QBittorrent.Session

/-!
What a request within a session can come to.

A server answers a request, or not, as it likes. `Talk` has one rule for each way in which a login, a
request, a login after the session has expired and the request made again can follow each other. The
client's requests keep to these rules, those that are made again and those that are not (`speaks_send`,
`speaks_upload`); what is said of exchanges and sessions elsewhere is read off the rules.
-/

namespace Seedkeeper.QBittorrent

open Client (Error Run)
open Http (Exchange Network Reply Request)
open Session (Answer ask bodyText loginRequest)

/-! ### Exchanges -/

/-- What arrives of a reply. -/
def arrived? : Reply → Option Answer
  | .answer status body whole _ =>
    some ⟨status, if Http.isBodiless status then some [] else if whole then some body else none⟩
  | _ => none

/-- Whether an answer to a login says that it succeeded. -/
def Session.Answer.admits (a : Answer) : Bool :=
  Text.contains ((a.body.map bodyText).getD "") "Ok."

/-- Whether a login was answered so. -/
def signsIn (x : Exchange) : Bool := (arrived? x.reply).any (·.admits)

/-- Whether a request was answered with status 403. -/
def expires (x : Exchange) : Bool := (arrived? x.reply).any (·.status = 403)

/-- Whether a request was answered with a status that says it was done, and a body that can be read. -/
def grants (x : Exchange) : Bool :=
  (arrived? x.reply).any fun a => Http.isSuccess a.status && a.body.isSome

/-- From one state to another, some exchanges took place and no others, with the same account. -/
structure Heard (s t : Session) (xs : List Exchange) : Prop where
  exchanges : t.network.exchanges = s.network.exchanges ++ xs
  account : t.account = s.account

theorem Heard.refl (s : Session) : Heard s s [] := ⟨(List.append_nil _).symm, rfl⟩

theorem Heard.trans {s t u : Session} {xs ys : List Exchange} (h : Heard s t xs) (k : Heard t u ys) :
    Heard s u (xs ++ ys) :=
  ⟨by rw [k.exchanges, h.exchanges, List.append_assoc], k.account.trans h.account⟩

/-- From one state to another, exchanges of a kind took place, and nothing was forgotten. -/
def Added (kind : Exchange → Prop) (s t : Session) : Prop :=
  ∃ new, t.network.exchanges = s.network.exchanges ++ new ∧ ∀ x ∈ new, kind x

theorem Added.of_network_eq {kind : Exchange → Prop} {s t : Session} (h : t.network = s.network) :
    Added kind s t :=
  ⟨[], by rw [h, List.append_nil], fun _ hx => by cases hx⟩

theorem Added.trans {kind : Exchange → Prop} {s t u : Session} (h : Added kind s t)
    (k : Added kind t u) : Added kind s u := by
  obtain ⟨xs, ht, hxs⟩ := h
  obtain ⟨ys, hu, hys⟩ := k
  refine ⟨xs ++ ys, by rw [hu, ht, List.append_assoc], fun x hx => ?_⟩
  rcases List.mem_append.1 hx with hx | hx
  · exact hxs x hx
  · exact hys x hx

/-- What took place was of a kind if all that took place in between was. -/
theorem Heard.of_added {kind : Exchange → Prop} {s t : Session} {xs : List Exchange}
    (h : Heard s t xs) (k : Added kind s t) : ∀ x ∈ xs, kind x := by
  obtain ⟨new, ht, hnew⟩ := k
  rw [h.exchanges] at ht
  rwa [List.append_cancel_left ht]

/-! ### One request -/

/-- A request that is sent to the network's server makes an exchange; any other one is refused. -/
theorem send_cases (n : Network) (r : Request) (url : Url) (cookie : Option String) :
    n.send r url cookie = (.refuse, n) ∨
    ∃ x rest, x.request = r ∧ n.send r url cookie = (x.reply, rest) ∧
      rest.exchanges = n.exchanges ++ [x] := by
  have hnext : n.next.2.exchanges = n.exchanges := by
    rw [Network.next]
    split <;> rfl
  rw [Network.send]
  split
  · exact .inr ⟨⟨r, url.target, cookie, n.next.1⟩, _, rfl, rfl, congrArg (· ++ _) hnext⟩
  · exact .inl rfl

/-- All that a request can come to: it is not sent, or no answer arrives, or one does. -/
theorem from_ask_cases (r : Request) (s : Session) :
    (∃ e, (ask r).from s = (.error e, s)) ∨
    ∃ x t, x.request = r ∧ Heard s t [x] ∧ t.signedIn = s.signedIn ∧
      ((arrived? x.reply = none ∧ ∃ e, (ask r).from s = (.error e, t)) ∨
        ∃ a, arrived? x.reply = some a ∧ (ask r).from s = (.ok a, t)) := by
  cases hurl : Url.ofText? r.address with
  | none => exact .inl ⟨_, by rw [ask, hurl]; rfl⟩
  | some url =>
    cases hreach : Session.isReachable url with
    | false => exact .inl ⟨_, by simp only [ask, hurl, hreach]; rfl⟩
    | true =>
      by_cases hpatience : s.account.patience = 0
      · exact .inl ⟨.timeout, by simp [ask, hurl, hreach, Run.from_bind, hpatience]⟩
      · rcases send_cases s.network r url (s.jar.header? url.path) with
          hsend | ⟨x, rest, hx, hsend, hrest⟩
        · refine .inl ⟨.connectionFailed (Session.aboutUrl "error sending request" url), ?_⟩
          simp [ask, hurl, hreach, Run.from_bind, hpatience, hsend, -bind_pure_comp]
        · refine .inr ⟨x, ((ask r).from s).2, hx, ?_⟩
          cases hreply : x.reply <;>
            simp [ask, hurl, hreach, Run.from_bind, hpatience, hsend, hreply, arrived?,
              -bind_pure_comp] <;>
            exact ⟨hrest, rfl⟩

/-- To read an answer says whether the request was done, and does nothing else. -/
theorem from_read (a : Answer) (s : Session) :
    ∃ answer, (Session.read a).from s = (answer, s) ∧
      answer.isOk = (Http.isSuccess a.status && a.body.isSome) := by
  obtain ⟨status, body⟩ := a
  rw [Session.read]
  cases hdone : Http.isSuccess status with
  | false => exact ⟨_, rfl, rfl⟩
  | true => cases body <;> exact ⟨_, rfl, rfl⟩

/-- A request whose answer is read at once. -/
theorem from_ask_read_cases (r : Request) (s : Session) :
    (∃ e, (ask r >>= Session.read).from s = (.error e, s)) ∨
    ∃ x answer t, x.request = r ∧ Heard s t [x] ∧ t.signedIn = s.signedIn ∧ answer.isOk = grants x ∧
      (ask r >>= Session.read).from s = (answer, t) := by
  rw [Run.from_bind]
  rcases from_ask_cases r s with
    ⟨e, hask⟩ | ⟨x, t, hx, hheard, hstands, ⟨harrived, e, hask⟩ | ⟨a, harrived, hask⟩⟩
  · exact .inl ⟨e, by rw [hask]⟩
  · refine .inr ⟨x, .error e, t, hx, hheard, hstands, ?_, by rw [hask]⟩
    rw [grants, harrived]
    rfl
  · obtain ⟨answer, hread, hdone⟩ := from_read a t
    refine .inr ⟨x, answer, t, hx, hheard, hstands, ?_, by rw [hask]; exact hread⟩
    rw [grants, harrived, hdone]
    rfl

/-! ### Logins -/

theorem verdict?_eq_none_iff (a : Answer) : Session.verdict? a = none ↔ a.admits = true := by
  rw [Session.verdict?, Answer.admits]
  split
  · simpa
  · rename_i hnot
    split <;> simp [hnot]

/-- All that a login can come to if the client is not signed in. Then it is, exactly if the login was
    answered so. -/
theorem from_login_cases (s : Session) (hout : s.signedIn = false) :
    (∃ e, Session.login.from s = (.error e, s)) ∨
    ∃ x answer t, x.request = loginRequest s.account ∧ Heard s t [x] ∧ t.signedIn = signsIn x ∧
      answer.isOk = signsIn x ∧ Session.login.from s = (answer, t) := by
  rw [Session.login, Run.from_bind_ok (Run.from_get s), Run.from_bind]
  rcases from_ask_cases (loginRequest s.account) s with
    ⟨e, hask⟩ | ⟨x, t, hx, hheard, hstands, ⟨harrived, e, hask⟩ | ⟨a, harrived, hask⟩⟩
  · exact .inl ⟨e, by rw [hask]⟩
  · have hfails : signsIn x = false := by rw [signsIn, harrived, Option.any_none]
    exact .inr ⟨x, .error e, t, hx, hheard, by rw [hstands, hout, hfails], hfails.symm, by rw [hask]⟩
  · have hsigns : signsIn x = a.admits := by rw [signsIn, harrived, Option.any_some]
    rw [hask]
    cases hverdict : Session.verdict? a with
    | none =>
      have hadmits := (verdict?_eq_none_iff a).1 hverdict
      exact .inr ⟨x, .ok ⟨⟩, { t with signedIn := true }, hx, ⟨hheard.exchanges, hheard.account⟩,
        by rw [hsigns, hadmits], by rw [hsigns, hadmits]; rfl, by simp only [hverdict, Run.from_modify]⟩
    | some e =>
      have hfails : a.admits = false := Bool.eq_false_iff.2 fun hadmits => by
        rw [(verdict?_eq_none_iff a).2 hadmits] at hverdict
        cases hverdict
      exact .inr ⟨x, .error e, t, hx, hheard, by rw [hstands, hout, hsigns, hfails],
        by rw [hsigns, hfails]; rfl, by simp only [hverdict, Run.from_throw]⟩

theorem from_ensured_of_signedIn {s : Session} (hsigned : s.signedIn = true) :
    Session.ensureSignedIn.from s = (.ok (), s) := by
  rw [Session.ensureSignedIn, Run.from_bind_ok (Run.from_get s), if_pos hsigned]
  rfl

theorem from_ensured_of_signedOut {s : Session} (hout : s.signedIn = false) :
    Session.ensureSignedIn.from s = Session.login.from s := by
  rw [Session.ensureSignedIn, Run.from_bind_ok (Run.from_get s), hout]
  rfl

/-! ### Requests within a session -/

/-- What a request within a session can come to: whether the client is signed in before, the exchanges,
    whether the request was done, and whether the client is signed in after. -/
inductive Talk (login r : Request) : Bool → List Exchange → Bool → Bool → Prop where
  /-- The request is not sent. -/
  | unsent : Talk login r true [] false true
  /-- It is sent, and its answer stands. -/
  | asked {x : Exchange} (hx : x.request = r) : Talk login r true [x] (grants x) true
  /-- The session has expired, and no login is sent. -/
  | stranded {x : Exchange} (hx : x.request = r) (hexpired : expires x) :
      Talk login r true [x] false false
  /-- The session has expired, and the login fails. -/
  | denied {x l : Exchange} (hx : x.request = r) (hexpired : expires x) (hl : l.request = login)
      (hfails : signsIn l = false) : Talk login r true [x, l] false false
  /-- The session has expired and is renewed, and the request is not sent again. -/
  | lost {x l : Exchange} (hx : x.request = r) (hexpired : expires x) (hl : l.request = login)
      (hrenews : signsIn l) : Talk login r true [x, l] false true
  /-- The session has expired and is renewed, and the request is sent again. -/
  | again {x l y : Exchange} (hx : x.request = r) (hexpired : expires x) (hl : l.request = login)
      (hrenews : signsIn l) (hy : y.request = r) : Talk login r true [x, l, y] (grants y) true
  /-- There is no session, and no login is sent. -/
  | shut : Talk login r false [] false false
  /-- There is no session, and the login fails. -/
  | refused {l : Exchange} (hl : l.request = login) (hfails : signsIn l = false) :
      Talk login r false [l] false false
  /-- There is no session, and the login gives one. -/
  | admitted {l : Exchange} {xs : List Exchange} {done after : Bool} (hl : l.request = login)
      (hadmits : signsIn l) (h : Talk login r true xs done after) :
      Talk login r false (l :: xs) done after

/-- What an operation comes to from a state is what a request within a session can come to. -/
def Speaks {α : Type} (r : Request) (o : Run Session α) (s : Session) : Prop :=
  ∃ answer t xs, o.from s = (answer, t) ∧ Heard s t xs ∧
    Talk (loginRequest s.account) r s.signedIn xs answer.isOk t.signedIn

variable {α : Type} {r : Request} {o : Run Session α} {s t : Session} {xs : List Exchange}
  {answer : Except Error α} {before done after : Bool}

theorem Speaks.intro (h : o.from s = (answer, t)) (hheard : Heard s t xs)
    (htalk : Talk (loginRequest s.account) r before xs done after) (hbefore : s.signedIn = before)
    (hdone : answer.isOk = done) (hafter : t.signedIn = after) : Speaks r o s := by
  subst hbefore hdone hafter
  exact ⟨answer, t, xs, h, hheard, htalk⟩

/-- To sign in first, where that is needed. -/
theorem speaks_ensured (ho : ∀ s : Session, s.signedIn = true → Speaks r o s) (s : Session) :
    Speaks r (Session.ensureSignedIn >>= fun _ => o) s := by
  cases hsigned : s.signedIn with
  | true =>
    rw [Speaks, Run.from_bind_ok (from_ensured_of_signedIn hsigned)]
    exact ho s hsigned
  | false =>
    have hensured := from_ensured_of_signedOut hsigned
    rcases from_login_cases s hsigned with
      ⟨e, hlogin⟩ | ⟨l, answer, t, hl, hheard, hafter, hok, hlogin⟩
    · exact .intro (Run.from_bind_error (hensured.trans hlogin) _) (.refl s) .shut hsigned rfl
        hsigned
    · cases answer with
      | error e =>
        have hfails : signsIn l = false := hok.symm
        exact .intro (Run.from_bind_error (hensured.trans hlogin) _) hheard (.refused hl hfails)
          hsigned rfl (hafter.trans hfails)
      | ok _ =>
        have hadmits : signsIn l = true := hok.symm
        obtain ⟨answer, u, xs, hrest, hmore, htalk⟩ := ho t (hafter.trans hadmits)
        rw [hheard.account, hafter.trans hadmits] at htalk
        exact .intro ((Run.from_bind_ok (hensured.trans hlogin) _).trans hrest) (hheard.trans hmore)
          (.admitted hl hadmits htalk) hsigned rfl rfl

/-- A request is asked for and its answer read. -/
theorem speaks_upload (r : Request) : ∀ s, Speaks r (Session.upload r) s := by
  refine speaks_ensured fun s hsigned => ?_
  rcases from_ask_read_cases r s with ⟨e, hask⟩ | ⟨x, answer, t, hx, hheard, hstands, hok, hask⟩
  · exact .intro hask (.refl s) .unsent hsigned rfl hsigned
  · exact .intro hask hheard (.asked hx) hsigned hok (hstands.trans hsigned)

/-- A session that was given up after an answer is renewed, and the request asked for again. -/
theorem speaks_renewed {o : Run Session String} {x : Exchange}
    (h : o.from s = (Session.login >>= fun _ => ask r >>= Session.read).from t) (hx : x.request = r)
    (hexpired : expires x) (hheard : Heard s t [x]) (hsigned : s.signedIn = true)
    (hout : t.signedIn = false) : Speaks r o s := by
  rcases from_login_cases t hout with ⟨e, hlogin⟩ | ⟨l, answer, u, hl, hmore, hafter, hok, hlogin⟩
  · exact .intro (h.trans (Run.from_bind_error hlogin _)) hheard (.stranded hx hexpired) hsigned rfl
      hout
  · have hboth : Heard s u [x, l] := hheard.trans hmore
    rw [hheard.account] at hl
    cases answer with
    | error e =>
      have hfails : signsIn l = false := hok.symm
      exact .intro (h.trans (Run.from_bind_error hlogin _)) hboth (.denied hx hexpired hl hfails)
        hsigned rfl (hafter.trans hfails)
    | ok _ =>
      have hrenews : signsIn l = true := hok.symm
      have hrenewed := h.trans (Run.from_bind_ok hlogin _)
      rcases from_ask_read_cases r u with ⟨e, hask⟩ | ⟨y, answer, v, hy, hlast, hstill, hdone, hask⟩
      · exact .intro (hrenewed.trans hask) hboth (.lost hx hexpired hl hrenews) hsigned rfl
          (hafter.trans hrenews)
      · exact .intro (hrenewed.trans hask) (hboth.trans hlast) (.again hx hexpired hl hrenews hy)
          hsigned hdone (hstill.trans (hafter.trans hrenews))

/-- A request is asked for, and once more in a new session if the session has expired. -/
theorem speaks_send (r : Request) : ∀ s, Speaks r (Session.send r) s := by
  refine speaks_ensured fun s hsigned => ?_
  rcases from_ask_cases r s with
    ⟨e, hask⟩ | ⟨x, t, hx, hheard, hstands, ⟨harrived, e, hask⟩ | ⟨a, harrived, hask⟩⟩
  · exact .intro (Run.from_bind_error hask _) (.refl s) .unsent hsigned rfl hsigned
  · have hnot : grants x = false := by rw [grants, harrived, Option.any_none]
    exact .intro (Run.from_bind_error hask _) hheard (.asked hx) hsigned hnot.symm
      (hstands.trans hsigned)
  · by_cases hstatus : a.status = 403
    · have hexpired : expires x = true := by
        rw [expires, harrived, Option.any_some, decide_eq_true hstatus]
      -- the session is given up before the login, so there is none if the login fails
      have hout : Heard s { t with signedIn := false } [x] := ⟨hheard.exchanges, hheard.account⟩
      refine speaks_renewed ?_ hx hexpired hout hsigned rfl
      rw [Run.from_bind_ok hask, if_pos hstatus, Run.from_bind_ok (Run.from_modify _ t)]
    · obtain ⟨answer, hread, hdone⟩ := from_read a t
      have hgrants : answer.isOk = grants x := by rw [grants, harrived, hdone, Option.any_some]
      refine .intro ?_ hheard (.asked hx) hsigned hgrants (hstands.trans hsigned)
      rw [Run.from_bind_ok hask, if_neg hstatus, hread]

end Seedkeeper.QBittorrent
