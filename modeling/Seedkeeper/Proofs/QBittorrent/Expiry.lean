import Seedkeeper.Proofs.QBittorrent.Protocol

/-!
What a client makes of a session that has expired.

A server says so by status 403. The client takes notice of it where the request can be made again: it gives
the session up and logs in. It takes none where the request is an upload, or was made again already; it
then goes on as if the session stood (`session_expiry`).

`Outcome` says what a list of exchanges comes to if its last request was answered so, and such lists can be
put together (`Outcome.append`). So it is enough to say what one upload and one request of another kind
come to; operations are made of these, and follow by induction (`Conducted.accounts`).
-/

namespace Seedkeeper.QBittorrent

open Client (AddRequest Error Operation Run afterAll)
open Http (Exchange Network Request)
open Session (ask loginRequest)

/-! ### Requests that were answered with status 403 -/

/-- Whether a request that follows some exchanges is made again: they end in the same request, answered
    with status 403, and a login that succeeded. -/
def MadeAgain (login : Request) (earlier : List Exchange) (r : Request) : Prop :=
  ∃ first w l, earlier = first ++ [w, l] ∧ w.request = r ∧ expires w ∧ l.request = login ∧ signsIn l

/-- Whether the client takes no notice of status 403. -/
def Unheeded (login : Request) (earlier : List Exchange) (r : Request) : Prop :=
  isUpload r ∨ MadeAgain login earlier r

/-- What becomes of an operation whose last request `x` was answered with status 403, where `later` are the
    logins after it: whether it is done, and whether the client is signed in after it. -/
structure Expired (login : Request) (earlier : List Exchange) (x : Exchange) (later : List Exchange)
    (done after : Bool) : Prop where
  /-- The operation fails. -/
  fails : done = false
  /-- Unheeded, it is the last that is sent, and the client still counts as signed in. -/
  unheeded : Unheeded login earlier x.request → later = [] ∧ after = true
  /-- Otherwise the session is given up: a login is all that is sent, and the client counts as signed in
      only if there was one and it succeeded. -/
  heeded : ¬ Unheeded login earlier x.request → later.length ≤ 1 ∧ after = later.any signsIn

/-- What some exchanges come to if the last request among them, but for logins, was answered with status
    403. -/
def Outcome (login : Request) (xs : List Exchange) (done after : Bool) : Prop :=
  ∀ earlier x later, xs = earlier ++ x :: later → x.request ≠ login →
    (∀ l ∈ later, l.request = login) → expires x → Expired login earlier x later done after

variable {α β : Type} {login r : Request} {x l : Exchange} {xs ys earlier later : List Exchange}
  {between before done after : Bool} {s t : Session} {o : Run Session α}

/-- Of logins alone there is nothing to say. -/
theorem Outcome.logins (h : ∀ l ∈ xs, l.request = login) : Outcome login xs done after := by
  rintro earlier x later rfl hx
  exact absurd (h x (by simp)) hx

/-- The last request but for logins is found in one way only. -/
theorem last_unique {first last : List Exchange} {y : Exchange} (hx : x.request ≠ login)
    (hlater : ∀ l ∈ later, l.request = login) (hy : y.request ≠ login)
    (hlast : ∀ l ∈ last, l.request = login) (h : earlier ++ x :: later = first ++ y :: last) :
    earlier = first ∧ x = y ∧ later = last := by
  rcases List.append_eq_append_iff.1 h with ⟨more, rfl, hrest⟩ | ⟨more, rfl, hrest⟩
  · cases more with
    | nil => simpa using hrest
    | cons z more =>
      obtain ⟨rfl, rfl⟩ := List.cons.inj hrest
      exact absurd (hlater y (by simp)) hy
  · cases more with
    | nil => simpa [eq_comm] using hrest
    | cons z more =>
      obtain ⟨rfl, rfl⟩ := List.cons.inj hrest
      exact absurd (hlast x (by simp)) hx

theorem Outcome.intro (earlier : List Exchange) (hx : x.request ≠ login)
    (hlater : ∀ l ∈ later, l.request = login)
    (h : expires x → Expired login earlier x later done after) :
    Outcome login (earlier ++ x :: later) done after := by
  intro first y last hsplit hy hlast hexpired
  obtain ⟨rfl, rfl, rfl⟩ := last_unique hx hlater hy hlast hsplit
  exact h hexpired

/-- After a part that was done, a request is made again only within its own part. -/
theorem madeAgain_append (h : Outcome login xs true between) (hr : r ≠ login) :
    MadeAgain login (xs ++ earlier) r ↔ MadeAgain login earlier r := by
  constructor
  · rintro ⟨first, w, l, hsplit, hw, hexpired, hl, hsigns⟩
    have hother : w.request ≠ login := hw ▸ hr
    rcases List.append_eq_append_iff.1 hsplit with ⟨more, rfl, hrest⟩ | ⟨more, rfl, hrest⟩
    · exact ⟨more, w, l, hrest, hw, hexpired, hl, hsigns⟩
    · -- the first of the two requests lies in the part that was done, so it was not answered so
      cases more with
      | nil => exact ⟨[], w, l, hrest.symm, hw, hexpired, hl, hsigns⟩
      | cons z more =>
        obtain ⟨rfl, htail⟩ : w = z ∧ [l] = more ++ earlier := List.cons.inj hrest
        have hmore : ∀ y ∈ more, y.request = login := by
          intro y hy
          have hmem : y ∈ [l] := by
            rw [htail]
            exact List.mem_append_left _ hy
          rw [List.mem_singleton.1 hmem, hl]
        cases (h first w more rfl hother hmore hexpired).fails
  · rintro ⟨first, w, l, rfl, hw, hexpired, hl, hsigns⟩
    exact ⟨xs ++ first, w, l, by rw [List.append_assoc], hw, hexpired, hl, hsigns⟩

theorem unheeded_append (h : Outcome login xs true between) (hr : r ≠ login) :
    Unheeded login (xs ++ earlier) r ↔ Unheeded login earlier r :=
  or_congr_right (madeAgain_append h hr)

/-- A part that was done, and one after it. -/
theorem Outcome.append (h : Outcome login xs true between) (k : Outcome login ys done after) :
    Outcome login (xs ++ ys) done after := by
  intro earlier x later hsplit hx hlater hexpired
  have hlast : ∀ first, ys = first ++ x :: later → earlier = xs ++ first →
      Expired login earlier x later done after := by
    rintro first hys rfl
    obtain ⟨hfails, hunheeded, hheeded⟩ := k first x later hys hx hlater hexpired
    exact ⟨hfails, fun hnone => hunheeded ((unheeded_append h hx).1 hnone),
      fun hsome => hheeded (mt (unheeded_append h hx).2 hsome)⟩
  rcases List.append_eq_append_iff.1 hsplit with ⟨more, rfl, hrest⟩ | ⟨more, rfl, hrest⟩
  · exact hlast more hrest rfl
  · cases more with
    | nil => exact hlast [] hrest.symm (by rw [List.append_nil, List.append_nil])
    | cons z more =>
      obtain ⟨rfl, rfl⟩ := List.cons.inj hrest
      have hmore : ∀ l ∈ more, l.request = login := fun l hl => hlater l (List.mem_append_left _ hl)
      cases (h earlier x more rfl hx hmore hexpired).fails

/-! ### Requests within a session -/

/-- What an operation comes to from a state. -/
def Accounts (o : Run Session α) (s : Session) : Prop :=
  ∃ answer t xs, o.from s = (answer, t) ∧ Heard s t xs ∧
    Outcome (loginRequest s.account) xs answer.isOk t.signedIn

/-- An operation that asks nothing. -/
theorem accounts_nothing {answer : Except Error α} (h : o.from s = (answer, s)) : Accounts o s :=
  ⟨answer, s, [], h, .refl s, .logins nofun⟩

theorem Accounts.bind {f : α → Run Session β} (h : Accounts o s)
    (hf : ∀ a t, o.from s = (.ok a, t) → Accounts (f a) t) : Accounts (o >>= f) s := by
  obtain ⟨answer, t, xs, hfrom, hheard, houtcome⟩ := h
  cases answer with
  | error e => exact ⟨.error e, t, xs, Run.from_bind_error hfrom f, hheard, houtcome⟩
  | ok a =>
    obtain ⟨answer, u, ys, hrest, hmore, hlast⟩ := hf a t hfrom
    rw [hheard.account] at hlast
    exact ⟨answer, u, xs ++ ys, (Run.from_bind_ok hfrom f).trans hrest, hheard.trans hmore,
      houtcome.append hlast⟩

theorem Accounts.rethrow (h : Accounts o s) (reason : Error → Error) :
    Accounts (tryCatch o fun e => throw (reason e)) s := by
  obtain ⟨answer, t, xs, hfrom, hheard, houtcome⟩ := h
  have hsame : (answer.mapError reason).isOk = answer.isOk := by cases answer <;> rfl
  exact ⟨answer.mapError reason, t, xs, by rw [Run.from_rethrow, hfrom], hheard, hsame ▸ houtcome⟩

theorem accounts_ensured (s : Session) : Accounts Session.ensureSignedIn s := by
  cases hsigned : s.signedIn with
  | true => exact accounts_nothing (from_ensured_of_signedIn hsigned)
  | false =>
    have hensured := from_ensured_of_signedOut hsigned
    rcases from_login_cases s hsigned with ⟨e, hlogin⟩ | ⟨l, answer, t, hl, hheard, -, -, hlogin⟩
    · exact accounts_nothing (hensured.trans hlogin)
    · exact ⟨answer, t, [l], hensured.trans hlogin, hheard, .logins (by simpa using hl)⟩

/-- Once a session was ensured the client is signed in. -/
theorem signedIn_of_ensured (h : Session.ensureSignedIn.from s = (.ok ⟨⟩, t)) : t.signedIn = true := by
  cases hsigned : s.signedIn with
  | true =>
    rw [from_ensured_of_signedIn hsigned] at h
    obtain rfl : s = t := congrArg (·.2) h
    exact hsigned
  | false =>
    rw [from_ensured_of_signedOut hsigned] at h
    rcases from_login_cases s hsigned with ⟨e, hlogin⟩ | ⟨l, answer, u, -, -, hafter, hok, hlogin⟩
    · rw [hlogin] at h
      cases h
    · rw [hlogin] at h
      obtain ⟨rfl, rfl⟩ := Prod.mk.inj h
      exact hafter.trans hok.symm

/-- An upload is made, and its answer read, where the client is signed in. -/
theorem accounts_read (hupload : isUpload r) (hne : r ≠ loginRequest s.account)
    (hsigned : s.signedIn = true) : Accounts (ask r >>= Session.read) s := by
  rcases from_ask_read_cases r s with ⟨e, hask⟩ | ⟨x, answer, t, hx, hheard, hstands, hok, hask⟩
  · exact accounts_nothing hask
  · refine ⟨answer, t, [x], hask, hheard, ?_⟩
    refine Outcome.intro [] (hx ▸ hne) nofun fun hexpired => ⟨?_, fun _ => ?_, fun hnot => ?_⟩
    · rw [hok, not_grants_of_expires hexpired]
    · exact ⟨rfl, hstands.trans hsigned⟩
    · exact absurd (.inl (hx ▸ hupload)) hnot

/-- An upload is not made again, and the client takes no notice of an expiry. -/
theorem accounts_upload (hupload : isUpload r) (hne : ∀ account, r ≠ loginRequest account)
    (s : Session) : Accounts (Session.upload r) s :=
  (accounts_ensured s).bind fun _ t hensured =>
    accounts_read hupload (hne t.account) (signedIn_of_ensured hensured)

/-- The first request of an operation that is no upload is heeded. -/
theorem Expired.first (hupload : isUpload x.request = false) (hlater : later.length ≤ 1)
    (hafter : after = later.any signsIn) : Expired login [] x later false after := by
  have hheeded : ¬ Unheeded login [] x.request := by
    rintro (hnot | ⟨first, w, l, hnil, -⟩)
    · rw [hupload] at hnot
      cases hnot
    · simp at hnil
  exact ⟨rfl, fun hnone => absurd hnone hheeded, fun _ => ⟨hlater, hafter⟩⟩

/-- After a session was given up and renewed, or not, the request is made again, or not. -/
theorem accounts_renewed {o : Run Session String}
    (h : o.from s = (Session.login >>= fun _ => ask r >>= Session.read).from t) (hx : x.request = r)
    (hupload : isUpload r = false) (hne : r ≠ loginRequest s.account) (hexpired : expires x)
    (hheard : Heard s t [x]) (hout : t.signedIn = false) : Accounts o s := by
  subst hx
  rcases from_login_cases t hout with ⟨e, hlogin⟩ | ⟨l, answer, u, hl, hmore, hafter, hok, hlogin⟩
  · refine ⟨.error e, t, [x], h.trans (Run.from_bind_error hlogin _), hheard, ?_⟩
    exact Outcome.intro [] hne nofun fun _ => .first hupload (Nat.zero_le 1) hout
  · have hboth : Heard s u [x, l] := hheard.trans hmore
    rw [hheard.account] at hl
    have hlost : Outcome (loginRequest s.account) [x, l] false u.signedIn :=
      Outcome.intro [] hne (by simpa using hl) fun _ =>
        .first hupload (Nat.le_refl 1) (by simpa using hafter)
    cases answer with
    | error e => exact ⟨.error e, u, [x, l], h.trans (Run.from_bind_error hlogin _), hboth, hlost⟩
    | ok _ =>
      have hrenews : signsIn l = true := hok.symm
      have hrenewed := h.trans (Run.from_bind_ok hlogin _)
      rcases from_ask_read_cases x.request u with
        ⟨e, hask⟩ | ⟨y, answer, v, hy, hlast, hstill, hdone, hask⟩
      · exact ⟨.error e, u, [x, l], hrenewed.trans hask, hboth, hlost⟩
      · refine ⟨answer, v, [x, l, y], hrenewed.trans hask, hboth.trans hlast, ?_⟩
        have hagain : MadeAgain (loginRequest s.account) [x, l] y.request :=
          ⟨[], x, l, rfl, hy.symm, hexpired, hl, hrenews⟩
        refine Outcome.intro [x, l] (hy ▸ hne) nofun fun hrefused =>
          ⟨?_, fun _ => ⟨rfl, ?_⟩, fun hnot => absurd (.inr hagain) hnot⟩
        · rw [hdone, not_grants_of_expires hrefused]
        · rw [hstill, hafter, hrenews]

/-- Any other request is made again once, and the client takes notice of an expiry the first time. -/
theorem accounts_send (hupload : isUpload r = false) (hne : ∀ account, r ≠ loginRequest account)
    (s : Session) : Accounts (Session.send r) s := by
  refine (accounts_ensured s).bind fun _ t hensured => ?_
  have hsigned := signedIn_of_ensured hensured
  rcases from_ask_cases r t with
    ⟨e, hask⟩ | ⟨x, u, hx, hheard, hstands, ⟨harrived, e, hask⟩ | ⟨a, harrived, hask⟩⟩
  · exact accounts_nothing (Run.from_bind_error hask _)
  · refine ⟨.error e, u, [x], Run.from_bind_error hask _, hheard, ?_⟩
    refine Outcome.intro [] (hx ▸ hne t.account) nofun fun hexpired => ?_
    rw [expires, harrived] at hexpired
    cases hexpired
  · by_cases hstatus : a.status = 403
    · have hexpired : expires x = true := by
        rw [expires, harrived, Option.any_some, decide_eq_true hstatus]
      have hout : Heard t { u with signedIn := false } [x] := ⟨hheard.exchanges, hheard.account⟩
      refine accounts_renewed ?_ hx hupload (hne t.account) hexpired hout rfl
      rw [Run.from_bind_ok hask, if_pos hstatus, Run.from_bind_ok (Run.from_modify _ u)]
    · obtain ⟨answer, hread, -⟩ := from_read a u
      refine ⟨answer, u, [x], ?_, hheard, ?_⟩
      · rw [Run.from_bind_ok hask, if_neg hstatus, hread]
      · refine Outcome.intro [] (hx ▸ hne t.account) nofun fun hexpired => ?_
        rw [expires, harrived, Option.any_some, decide_eq_true_iff] at hexpired
        exact absurd hexpired hstatus

/-! ### Operations -/

theorem Conducted.accounts (h : Conducted o) (s : Session) : Accounts o s := by
  induction h generalizing s with
  | pure a => exact accounts_nothing (Run.from_pure a s)
  | throw e => exact accounts_nothing (Run.from_throw e s)
  | get => exact accounts_nothing (Run.from_get s)
  | bind _ _ ih ihf => exact (ih s).bind fun a t _ => ihf a t
  | rethrow _ reason ih => exact (ih s).rethrow reason
  | send hupload hne => exact accounts_send hupload hne s
  | upload hupload hne => exact accounts_upload hupload hne s

/-! ### Operations in a row -/

/-- Within a session, something else than a login comes first. -/
theorem Talk.first_of_signedIn (hne : r ≠ login) (h : Talk login r true xs done after) :
    (xs = [] ∧ after = true) ∨ ∃ x rest, xs = x :: rest ∧ x.request ≠ login := by
  cases h with
  | unsent => exact .inl ⟨rfl, rfl⟩
  | asked hx | stranded hx _ | denied hx _ _ _ | lost hx _ _ _ | again hx _ _ _ _ =>
    exact .inr ⟨_, _, rfl, hx ▸ hne⟩

theorem Series.first_of_signedIn (h : Series login before xs done after) (hsigned : before = true) :
    (xs = [] ∧ after = true) ∨ ∃ x rest, xs = x :: rest ∧ x.request ≠ login := by
  induction h with
  | nothing => exact .inl ⟨rfl, hsigned⟩
  | failed hne h =>
    subst hsigned
    exact h.first_of_signedIn hne
  | next hne h _ ih =>
    subst hsigned
    rcases h.first_of_signedIn hne with ⟨rfl, hstill⟩ | ⟨x, rest, rfl, hx⟩
    · exact ih hstill
    · exact .inr ⟨x, _, rfl, hx⟩

/-- A login is the first thing to be sent exactly if the client is not signed in. -/
theorem first_afterAll_iff (ops : List Operation) (s : Session) :
    ∃ xs, Heard s (afterAll ops s) xs ∧
      ∀ x ∈ xs.head?, x.request = loginRequest s.account ↔ s.signedIn = false := by
  cases hsigned : s.signedIn with
  | false =>
    obtain ⟨xs, hheard, hfirst⟩ := first_afterAll ops s hsigned
    exact ⟨xs, hheard, fun x hx => iff_of_true (hfirst x hx) rfl⟩
  | true =>
    induction ops generalizing s with
    | nil => exact ⟨[], .refl s, nofun⟩
    | cons op ops ih =>
      obtain ⟨answer, t, xs, done, hfrom, hheard, hseries, -⟩ := performs_run op s
      rw [Client.afterAll_cons, hfrom]
      rcases hseries.first_of_signedIn hsigned with ⟨rfl, hstill⟩ | ⟨x, rest, rfl, hx⟩
      · obtain ⟨ys, hmore, hfirst⟩ := ih t hstill
        exact ⟨ys, hheard.trans hmore, hheard.account ▸ hfirst⟩
      · obtain ⟨ys, hmore⟩ := heard_afterAll ops t
        refine ⟨_, hheard.trans hmore, fun y hy => ?_⟩
        obtain rfl : x = y := Option.some.inj hy
        exact iff_of_false hx nofun

/-- From one state to another, if the client is signed in, it still is, and only uploads were sent. -/
def Uploads (s t : Session) : Prop :=
  s.signedIn = true → t.signedIn = true ∧ ∃ xs, Heard s t xs ∧ ∀ x ∈ xs, isUpload x.request

theorem Uploads.refl (s : Session) : Uploads s s := fun hsigned => ⟨hsigned, [], .refl s, nofun⟩

theorem Uploads.trans {s t u : Session} (h : Uploads s t) (k : Uploads t u) : Uploads s u := by
  intro hsigned
  obtain ⟨hstill, xs, hheard, hxs⟩ := h hsigned
  obtain ⟨hlast, ys, hmore, hys⟩ := k hstill
  refine ⟨hlast, xs ++ ys, hheard.trans hmore, fun x hx => ?_⟩
  rcases List.mem_append.1 hx with hx | hx
  · exact hxs x hx
  · exact hys x hx

/-- An upload keeps the session, whatever the server answers. -/
theorem uploads_upload (hupload : isUpload r) : (Session.upload r).Keeps Uploads := by
  intro s hsigned
  rw [Session.upload, Run.from_bind_ok (from_ensured_of_signedIn hsigned)]
  rcases from_ask_read_cases r s with ⟨e, hask⟩ | ⟨x, answer, t, hx, hheard, hstands, -, hask⟩
  · rw [hask]
    exact Uploads.refl s hsigned
  · rw [hask]
    exact ⟨hstands.trans hsigned, [x], hheard, by simpa [hx] using hupload⟩

theorem uploads_add (request : AddRequest) :
    (Operation.run (.add request) : Run Session Unit).Keeps Uploads := by
  have hpure : ∀ {α : Type} (a : α), (pure a : Run Session α).Keeps Uploads := fun _ s => .refl s
  have hadd : ∀ (source : Http.Part) (options : Client.AddOptions) (hash : Option String),
      (do upload source options; return hash : Run Session (Option String)).Keeps Uploads := by
    intro source options hash
    refine Run.Keeps.bind Uploads.trans ?_ fun _ => hpure hash
    rw [upload]
    refine Run.Keeps.bind Uploads.trans (fun s => .refl s) fun s => ?_
    exact Run.Keeps.bind Uploads.trans (uploads_upload rfl) fun _ => hpure _
  obtain ⟨source, options⟩ := request
  cases source with
  | magnet uri => exact Run.Keeps.bind Uploads.trans (hadd _ options _) fun _ => hpure _
  | file data filename => exact Run.Keeps.bind Uploads.trans (hadd _ options _) fun _ => hpure _

theorem uploads_afterAll (requests : List AddRequest) (s : Session) :
    Uploads s (afterAll (requests.map .add) s) := by
  induction requests generalizing s with
  | nil => exact .refl s
  | cons request requests ih => exact (uploads_add request s).trans (ih _)

/-- What a client makes of an expired session, from every state and with every server.

    If the last request of an operation, but for logins, was answered with status 403, the operation
    fails. It gives the session up, and the client counts as signed in only after a login that succeeds;
    but if the request was an upload, or was made again after an expiry, nothing more is sent and the
    client counts as signed in still. What the client does next starts with a login exactly if it does
    not count as signed in. So as long as it only adds torrents, a client that counts as signed in never
    logs in, whatever its uploads are answered. -/
theorem session_expiry (s : Session) :
    (∀ op : Operation, ∃ answer t xs, op.run.from s = (answer, t) ∧ Heard s t xs ∧
      Outcome (loginRequest s.account) xs answer.isOk t.signedIn) ∧
    (∀ ops, ∃ xs, Heard s (afterAll ops s) xs ∧
      ∀ x ∈ xs.head?, x.request = loginRequest s.account ↔ s.signedIn = false) ∧
    ∀ requests : List AddRequest, Uploads s (afterAll (requests.map .add) s) :=
  ⟨fun op => (conducted_run op).accounts s, fun ops => first_afterAll_iff ops s,
    fun requests => uploads_afterAll requests s⟩

/-- A server that gives up its session when it is first asked for something, and then refuses logins. -/
def lockingServer : Network :=
  ⟨"http://127.0.0.1:8080", [.answer 200 (Text.utf8 "Ok.") true none, .answer 403 [] true none],
    .answer 200 (Text.utf8 "Fails.") true none, []⟩

/-- There, the request is heeded: the operation fails, the client is signed out, and what it does next
    starts with a login. -/
theorem session_expiry_locked :
    let welcome : Exchange := ⟨loginRequest localAccount, "/api/v2/auth/login", none,
      .answer 200 (Text.utf8 "Ok.") true none⟩
    let forbidden : Exchange := ⟨⟨.get, "http://127.0.0.1:8080/api/v2/torrents/tags", .none⟩,
      "/api/v2/torrents/tags", none, .answer 403 [] true none⟩
    let locked : Exchange := ⟨loginRequest localAccount, "/api/v2/auth/login", none,
      .answer 200 (Text.utf8 "Fails.") true none⟩
    let s := afterAll [.tags] (Session.start localAccount lockingServer)
    s.network.exchanges = [welcome, forbidden, locked] ∧
      Expired (loginRequest localAccount) [welcome] forbidden [locked] false false ∧
      s.signedIn = false ∧
      ∃ xs, Heard s (afterAll [.tags] s) xs ∧
        ∀ x ∈ xs.head?, x.request = loginRequest localAccount := by
  intro welcome forbidden locked s
  obtain ⟨hxs, hout, haccount⟩ : s.network.exchanges = [welcome] ++ forbidden :: [locked] ∧
      s.signedIn = false ∧ s.account = localAccount := by decide +kernel
  obtain ⟨answer, t, xs, hfrom, hheard, houtcome⟩ :=
    (session_expiry (Session.start localAccount lockingServer)).1 .tags
  obtain rfl : t = s := congrArg (·.2) hfrom.symm
  obtain rfl : s.network.exchanges = xs := hheard.exchanges
  have hexpired := houtcome [welcome] forbidden [locked] hxs (by decide)
    (List.forall_mem_singleton.2 rfl) rfl
  obtain ⟨xs, hnext, hfirst⟩ := (session_expiry s).2.1 [.tags]
  refine ⟨hxs, ?_, hout, xs, hnext, fun x hx => ?_⟩
  · rwa [hexpired.fails, hout] at hexpired
  · rw [← haccount]
    exact (hfirst x hx).2 hout

/-- A server that lets everybody sign in and nobody do anything. -/
def forbiddingServer : Network :=
  ⟨"http://127.0.0.1:8080", [.answer 200 (Text.utf8 "Ok.") true none], .answer 403 [] true none, []⟩

/-- There, an upload is answered with status 403, and the client still counts as signed in: the next
    upload starts with no login and is answered alike. -/
theorem upload_expiry_unnoticed :
    let add : Operation := .add (.of (.magnet "magnet:?xt=urn:btih:aa"))
    let s := afterAll [add] (Session.start localAccount forbiddingServer)
    (s.network.exchanges.getLast?.any expires = true ∧ s.signedIn = true) ∧
      (afterAll [add] s).network.exchanges.map (·.target) =
        ["/api/v2/auth/login", "/api/v2/torrents/add", "/api/v2/torrents/add"] ∧
      (afterAll [add] s).network.exchanges.getLast?.any expires = true := by
  decide +kernel

end Seedkeeper.QBittorrent
