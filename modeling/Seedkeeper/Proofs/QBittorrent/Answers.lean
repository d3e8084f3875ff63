import Seedkeeper.Proofs.QBittorrent.Conduct
import Seedkeeper.Proofs.QBittorrent.Protocol

/-!
What a request within a session answers.

It is what the last answer to the request says, or that there is none, or that a login was not answered,
or that one was denied (`answered_send`). Only an answer that the session has expired is followed by
another exchange, so where the request is not answered in the end, or no session is had for it, that is
what the last answer to it says, if there ever was one.
-/

namespace Seedkeeper.QBittorrent

open Client (Error Run)
open Http (Exchange Request)
open Session (Answer aboutUrl ask bodyText ensureSignedIn loginRequest)

variable {login r : Request} {e : Error} {s t : Session} {xs ys : List Exchange} {x : Exchange}
  {a : Answer}

/-! ### What is said -/

/-- What is said of a request that no answer arrives to. -/
inductive Unanswered (q : Request) : Error → Prop where
  | noAddress (h : Url.ofText? q.address = none) : Unanswered q (.apiError "builder error")
  | unreachable {url : Url} (h : Url.ofText? q.address = some url)
      (hreach : Session.isReachable url = false) :
      Unanswered q (.apiError (aboutUrl "builder error" url))
  | late : Unanswered q .timeout
  | refused {url : Url} (h : Url.ofText? q.address = some url) :
      Unanswered q (.connectionFailed (aboutUrl "error sending request" url))
  | hungUp {url : Url} (h : Url.ofText? q.address = some url) :
      Unanswered q (.apiError (aboutUrl "error sending request" url))

/-- What an answer says. -/
inductive Says (a : Answer) : Except Error String → Prop where
  | done {body : Text.Bytes} (hdone : Http.isSuccess a.status = true) (hbody : a.body = some body) :
      Says a (.ok (bodyText body))
  | unreadable (hdone : Http.isSuccess a.status = true) (hbody : a.body = none) :
      Says a (.error (.apiError "error decoding response body"))
  | failed (hfails : Http.isSuccess a.status = false) :
      Says a (.error (.apiError ("HTTP " ++ Http.statusText a.status)))

/-- The answer to the last of some exchanges that a request was sent in, if it was answered. -/
def lastAnswer? (r : Request) (xs : List Exchange) : Option Answer :=
  (about r xs).getLast?.bind fun x => arrived? x.reply

/-- What is said of a login that fails, given exchanges with the login among them. -/
inductive LoginFails (login : Request) (xs : List Exchange) : Error → Prop where
  | unanswered {e : Error} (h : Unanswered login e) : LoginFails login xs e
  | denied {l : Exchange} {a : Answer} {e : Error} (hmem : l ∈ xs) (hl : l.request = login)
      (harrived : arrived? l.reply = some a) (hverdict : Session.verdict? a = some e) :
      LoginFails login xs e

/-- The last answer to a request, if there is one, says that the session has expired. -/
def OnlyExpired (r : Request) (xs : List Exchange) : Prop :=
  ∀ a, lastAnswer? r xs = some a → a.status = 403

/-- What a request within a session answers, given the exchanges that it was made with. -/
inductive Answered (login r : Request) (xs : List Exchange) : Except Error String → Prop where
  | said {a : Answer} {answer : Except Error String} (hlast : lastAnswer? r xs = some a)
      (htold : Says a answer) : Answered login r xs answer
  | unanswered {e : Error} (h : Unanswered r e) (hlast : OnlyExpired r xs) :
      Answered login r xs (.error e)
  | notSignedIn {e : Error} (h : LoginFails login xs e) (hlast : OnlyExpired r xs) :
      Answered login r xs (.error e)

theorem unanswered_of_ask (h : (ask r).from s = (.error e, t)) : Unanswered r e := by
  cases hurl : Url.ofText? r.address with
  | none =>
    rw [ask, hurl] at h
    obtain ⟨he, -⟩ := Prod.mk.inj h
    obtain rfl := Except.error.inj he
    exact .noAddress hurl
  | some url =>
    cases hreach : Session.isReachable url with
    | false =>
      simp only [ask, hurl, hreach] at h
      obtain ⟨he, -⟩ := Prod.mk.inj h
      obtain rfl := Except.error.inj he
      exact .unreachable hurl hreach
    | true =>
      by_cases hpatience : s.account.patience = 0
      · simp [ask, hurl, hreach, Run.from_bind, hpatience] at h
        obtain ⟨rfl, -⟩ := h
        exact .late
      · cases hsend : s.network.send r url (s.jar.header? url.path) with
        | mk reply rest =>
          cases reply <;>
            simp [ask, hurl, hreach, Run.from_bind, hpatience, hsend, -bind_pure_comp] at h
          · obtain ⟨rfl, -⟩ := h
            exact .hungUp hurl
          · obtain ⟨rfl, -⟩ := h
            exact .refused hurl
          · obtain ⟨rfl, -⟩ := h
            exact .late

theorem says_read (a : Answer) (s : Session) :
    ∃ answer, (Session.read a).from s = (answer, s) ∧ Says a answer := by
  obtain ⟨status, body⟩ := a
  cases hdone : Http.isSuccess status with
  | false => exact ⟨_, by rw [Session.read, hdone]; rfl, .failed hdone⟩
  | true =>
    cases body with
    | none => exact ⟨_, by rw [Session.read, hdone]; rfl, .unreadable hdone rfl⟩
    | some body => exact ⟨_, by rw [Session.read, hdone]; rfl, .done hdone rfl⟩

/-! ### The last answer -/

theorem lastAnswer?_concat (hx : x.request = r) (xs : List Exchange) :
    lastAnswer? r (xs ++ [x]) = arrived? x.reply := by
  rw [lastAnswer?, about, List.filter_append, List.filter_cons_of_pos (by simpa using hx),
    List.filter_nil, List.getLast?_concat, Option.bind_some]

/-- What is sent besides a request leaves its last answer. -/
theorem lastAnswer?_append_of_ne (h : ∀ x ∈ ys, x.request ≠ r) (xs : List Exchange) :
    lastAnswer? r (xs ++ ys) = lastAnswer? r xs := by
  have hnone : about r ys = [] := List.filter_eq_nil_iff.2 fun x hx => by simpa using h x hx
  rw [lastAnswer?, lastAnswer?, about, List.filter_append, ← about, ← about, hnone, List.append_nil]

theorem onlyExpired_nil (r : Request) : OnlyExpired r [] := nofun

theorem OnlyExpired.append (h : OnlyExpired r xs) (hys : ∀ x ∈ ys, x.request ≠ r) :
    OnlyExpired r (xs ++ ys) := by
  intro a
  rw [lastAnswer?_append_of_ne hys]
  exact h a

theorem LoginFails.mono (h : LoginFails login ys e) (hys : ys ⊆ xs) : LoginFails login xs e := by
  cases h with
  | unanswered h => exact .unanswered h
  | denied hmem hl harrived hverdict => exact .denied (hys hmem) hl harrived hverdict

/-! ### Requests within a session -/

/-- What comes of signing in: nothing but logins is sent, and if it fails, one of them did. -/
def SignsIn (o : Run Session Unit) (s : Session) : Prop :=
  ∃ answer t xs, o.from s = (answer, t) ∧ Heard s t xs ∧
    (∀ x ∈ xs, x.request = loginRequest s.account) ∧
    ∀ e, answer = .error e → LoginFails (loginRequest s.account) xs e

theorem SignsIn.of_ok {o : Run Session Unit} (h : o.from s = (.ok (), t)) (hheard : Heard s t xs)
    (hlogins : ∀ x ∈ xs, x.request = loginRequest s.account) : SignsIn o s :=
  ⟨.ok (), t, xs, h, hheard, hlogins, nofun⟩

theorem SignsIn.of_error {o : Run Session Unit} (h : o.from s = (.error e, t)) (hheard : Heard s t xs)
    (hlogins : ∀ x ∈ xs, x.request = loginRequest s.account)
    (hfails : LoginFails (loginRequest s.account) xs e) : SignsIn o s :=
  ⟨.error e, t, xs, h, hheard, hlogins, fun _ he => Except.error.inj he ▸ hfails⟩

theorem signsIn_login (s : Session) : SignsIn Session.login s := by
  have hunanswered : ∀ {e t}, (ask (loginRequest s.account)).from s = (.error e, t) →
      Session.login.from s = (.error e, t) := fun hask => by
    rw [Session.login, Run.from_bind_ok (Run.from_get s), Run.from_bind_error hask]
  rcases from_ask_cases (loginRequest s.account) s with
    ⟨e, hask⟩ | ⟨x, t, hx, hheard, -, ⟨-, e, hask⟩ | ⟨a, harrived, hask⟩⟩
  · exact .of_error (hunanswered hask) (.refl s) (List.forall_mem_nil _)
      (.unanswered (unanswered_of_ask hask))
  · exact .of_error (hunanswered hask) hheard (List.forall_mem_singleton.2 hx)
      (.unanswered (unanswered_of_ask hask))
  · cases hverdict : Session.verdict? a with
    | none =>
      have hlogin : Session.login.from s = (.ok (), { t with signedIn := true }) := by
        rw [Session.login, Run.from_bind_ok (Run.from_get s), Run.from_bind_ok hask, hverdict]
        rfl
      exact .of_ok hlogin ⟨hheard.exchanges, hheard.account⟩ (List.forall_mem_singleton.2 hx)
    | some e =>
      have hlogin : Session.login.from s = (.error e, t) := by
        rw [Session.login, Run.from_bind_ok (Run.from_get s), Run.from_bind_ok hask, hverdict]
        rfl
      exact .of_error hlogin hheard (List.forall_mem_singleton.2 hx)
        (.denied (List.mem_singleton.2 rfl) hx harrived hverdict)

theorem signsIn_ensured (s : Session) : SignsIn ensureSignedIn s := by
  cases hsigned : s.signedIn with
  | true => exact .of_ok (from_ensured_of_signedIn hsigned) (.refl s) (List.forall_mem_nil _)
  | false =>
    rw [SignsIn, from_ensured_of_signedOut hsigned]
    exact signsIn_login s

/-- What an operation answers from a state, after some exchanges, is what a request can answer. -/
def AnswersAfter (r : Request) (earlier : List Exchange) (o : Run Session String) (s : Session) : Prop :=
  ∃ answer t xs, o.from s = (answer, t) ∧ Heard s t xs ∧
    Answered (loginRequest s.account) r (earlier ++ xs) answer

/-- A request goes on where signing in succeeds. -/
theorem SignsIn.bind {signIn : Run Session Unit} {o : Run Session String} (h : SignsIn signIn s)
    (hne : r ≠ loginRequest s.account) (hexpired : OnlyExpired r xs)
    (ho : ∀ t ys, t.account = s.account → OnlyExpired r (xs ++ ys) → AnswersAfter r (xs ++ ys) o t) :
    AnswersAfter r xs (signIn >>= fun _ => o) s := by
  obtain ⟨answer, t, ys, hfrom, hheard, hlogins, hfails⟩ := h
  have hstill : OnlyExpired r (xs ++ ys) := hexpired.append fun y hy heq => hne (heq ▸ hlogins y hy)
  cases answer with
  | error e =>
    refine ⟨.error e, t, ys, Run.from_bind_error hfrom _, hheard, .notSignedIn ?_ hstill⟩
    exact (hfails e rfl).mono (List.subset_append_right xs ys)
  | ok _ =>
    obtain ⟨answer, u, zs, hrest, hmore, hanswered⟩ := ho t ys hheard.account hstill
    rw [hheard.account, List.append_assoc] at hanswered
    exact ⟨answer, u, ys ++ zs, (Run.from_bind_ok hfrom _).trans hrest, hheard.trans hmore, hanswered⟩

/-- A request goes on where it is answered. -/
theorem answersAfter_ask {f : Answer → Run Session String} (hexpired : OnlyExpired r xs)
    (hf : ∀ a x t, t.account = s.account → lastAnswer? r (xs ++ [x]) = some a →
      AnswersAfter r (xs ++ [x]) (f a) t) : AnswersAfter r xs (ask r >>= f) s := by
  rcases from_ask_cases r s with
    ⟨e, hask⟩ | ⟨x, t, hx, hheard, -, ⟨harrived, e, hask⟩ | ⟨a, harrived, hask⟩⟩
  · refine ⟨.error e, s, [], Run.from_bind_error hask _, .refl s, ?_⟩
    exact .unanswered (unanswered_of_ask hask) ((List.append_nil xs).symm ▸ hexpired)
  · refine ⟨.error e, t, [x], Run.from_bind_error hask _, hheard, ?_⟩
    refine .unanswered (unanswered_of_ask hask) fun a ha => ?_
    rw [lastAnswer?_concat hx, harrived] at ha
    cases ha
  · have hlast : lastAnswer? r (xs ++ [x]) = some a := by rw [lastAnswer?_concat hx, harrived]
    obtain ⟨answer, u, ys, hrest, hmore, hanswered⟩ := hf a x t hheard.account hlast
    rw [hheard.account, List.append_assoc] at hanswered
    exact ⟨answer, u, x :: ys, (Run.from_bind_ok hask _).trans hrest, hheard.trans hmore, hanswered⟩

theorem answersAfter_read (hlast : lastAnswer? r xs = some a) (s : Session) :
    AnswersAfter r xs (Session.read a) s := by
  obtain ⟨answer, hread, htold⟩ := says_read a s
  exact ⟨answer, s, [], hread, .refl s, .said (by rwa [List.append_nil]) htold⟩

/-- To give a session up first changes nothing else. -/
theorem AnswersAfter.signedOut {o : Run Session String}
    (h : AnswersAfter r xs o { s with signedIn := false }) :
    AnswersAfter r xs ((modify fun s : Session => { s with signedIn := false }) >>= fun _ => o) s := by
  obtain ⟨answer, t, ys, hfrom, hheard, hanswered⟩ := h
  exact ⟨answer, t, ys, (Run.from_bind_ok (Run.from_modify _ s) _).trans hfrom,
    ⟨hheard.exchanges, hheard.account⟩, hanswered⟩

/-- What a request within a session answers. -/
theorem answered_send (hne : ∀ account, r ≠ loginRequest account) (s : Session) :
    AnswersAfter r [] (Session.send r) s := by
  refine (signsIn_ensured s).bind (hne s.account) (onlyExpired_nil r) fun t ys _ hexpired => ?_
  refine answersAfter_ask hexpired fun a x u _ hlast => ?_
  split
  · rename_i hstatus
    have hrefused : OnlyExpired r ([] ++ ys ++ [x]) := fun b hb => by
      rw [hlast] at hb
      rwa [← Option.some.inj hb]
    -- the session is given up, a login made, and the request made again
    refine AnswersAfter.signedOut ((signsIn_login _).bind (hne _) hrefused fun v zs _ hagain => ?_)
    exact answersAfter_ask hagain fun b y w _ hlast => answersAfter_read hlast w
  · exact answersAfter_read hlast u

end Seedkeeper.QBittorrent
