import Seedkeeper.Proofs.QBittorrent.Conduct
import Seedkeeper.Proofs.QBittorrent.Dialogue

/-!
The protocol between a client and its server, for every server.

A request within a session is a `Conversation`: the request is sent at most twice, and the second time
only after the session has expired and was renewed. An operation is such requests one after the other, up
to the first that is not done (`performs_run`). Over any operations in a row, nothing but a login is sent
unless the last login before it succeeded: `Talk.sound` says what one request keeps, `Series.sound` what
an operation keeps, and `sound_afterAll` what all of them keep.
-/

namespace Seedkeeper.QBittorrent

open Client (Action Backend Error Operation Run afterAll)
open Http (Exchange Network Reply Request)
open Session (loginRequest)

variable {α β : Type} {login r : Request} {x l : Exchange} {xs ys earlier : List Exchange}
  {before between after done : Bool} {s t : Session}

/-! ### Conversations -/

/-- The exchanges of a request. -/
def about (r : Request) (xs : List Exchange) : List Exchange := xs.filter (·.request = r)

/-- The exchanges by which a request is made within a session, and whether it was done. -/
structure Conversation (login r : Request) (xs : List Exchange) (done : Bool) : Prop where
  /-- Nothing is sent but the request and logins. -/
  only : ∀ x ∈ xs, x.request = r ∨ x.request = login
  /-- The request is sent twice at most. -/
  twice : (about r xs).length ≤ 2
  /-- It is sent a second time only at the end, after it was answered with status 403 and one login then
      succeeded. -/
  again : ∀ x y, about r xs = [x, y] →
    expires x ∧ ∃ earlier l, xs = earlier ++ [x, l, y] ∧ l.request = login ∧ signsIn l
  /-- Nothing is sent after a login that failed. -/
  stops : ∀ l ∈ xs.dropLast, l.request = login → signsIn l
  /-- The request is done exactly if it was sent and, the last time, answered with a status that says so
      and a body that can be read. -/
  done_iff : done = true ↔ ∃ x, (about r xs).getLast? = some x ∧ grants x

theorem not_grants_of_expires (h : expires x) : grants x = false := by
  rw [expires] at h
  rw [grants]
  cases hx : arrived? x.reply with
  | none => rfl
  | some a =>
    rw [hx, Option.any_some, decide_eq_true_iff] at h
    rw [Option.any_some, h]
    rfl

/-- A login that succeeds can come first. -/
theorem Conversation.admitted (hne : r ≠ login) (hl : l.request = login) (hadmits : signsIn l)
    (h : Conversation login r xs done) : Conversation login r (l :: xs) done := by
  have habout : about r (l :: xs) = about r xs := List.filter_cons_of_neg (by simp [hl, hne.symm])
  refine ⟨List.forall_mem_cons.2 ⟨.inr hl, h.only⟩, habout ▸ h.twice, fun x y hxy => ?_, ?_,
    habout ▸ h.done_iff⟩
  · obtain ⟨hexpired, earlier, l', hxs, hl', hrenews⟩ := h.again x y (habout ▸ hxy)
    exact ⟨hexpired, l :: earlier, l', by rw [hxs]; rfl, hl', hrenews⟩
  · cases xs with
    | nil => exact nofun
    | cons x xs =>
      rw [List.dropLast_cons_cons]
      exact List.forall_mem_cons.2 ⟨fun _ => hadmits, h.stops⟩

theorem Talk.conversation (hne : r ≠ login) (h : Talk login r before xs done after) :
    Conversation login r xs done := by
  induction h with
  | unsent | shut => constructor <;> simp [about]
  | asked hx => constructor <;> simp [about, hx]
  | stranded hx hexpired => constructor <;> simp [about, hx, not_grants_of_expires hexpired]
  | denied hx hexpired hl _ | lost hx hexpired hl _ =>
    constructor <;> simp [about, hx, hl, hne, hne.symm, not_grants_of_expires hexpired]
  | again hx hexpired hl hrenews hy =>
    constructor <;> simp [about, hx, hl, hy, hne, hne.symm, hexpired, hrenews]
    exact ⟨[], _, rfl, hl, hrenews⟩
  | refused hl _ => constructor <;> simp [about, hl, hne.symm]
  | admitted hl hadmits _ ih => exact ih.admitted hne hl hadmits

/-- After a login that failed the request is not done, and there is no session. -/
theorem Talk.failed (hne : r ≠ login) (h : Talk login r before xs done after) (hmem : l ∈ xs)
    (hl : l.request = login) (hfails : signsIn l = false) : done = false ∧ after = false := by
  have hother : ∀ {x : Exchange}, x.request = r → l ≠ x := by
    rintro _ hx rfl
    exact hne (hx.symm.trans hl)
  have hsigned : ∀ {x : Exchange}, signsIn x = true → l ≠ x := by
    rintro _ hx rfl
    rw [hfails] at hx
    cases hx
  induction h with
  | unsent => cases hmem
  | asked hx => exact absurd (List.mem_singleton.1 hmem) (hother hx)
  | stranded | denied | shut | refused => exact ⟨rfl, rfl⟩
  | lost hx _ _ hrenews => simp [hother hx, hsigned hrenews] at hmem
  | again hx _ _ hrenews hy => simp [hother hx, hother hy, hsigned hrenews] at hmem
  | admitted _ hadmits _ ih => exact ih (List.mem_of_ne_of_mem (hsigned hadmits) hmem)

/-- Without a session, nothing comes before a login. -/
theorem Talk.first (h : Talk login r false xs done after) :
    (xs = [] ∧ done = false ∧ after = false) ∨ ∃ l rest, xs = l :: rest ∧ l.request = login := by
  cases h with
  | shut => exact .inl ⟨rfl, rfl, rfl⟩
  | refused hl _ => exact .inr ⟨_, [], rfl, hl⟩
  | admitted hl _ _ => exact .inr ⟨_, _, rfl, hl⟩

/-! ### Logins before requests -/

/-- Whether the last login among some exchanges succeeded, and there was one. -/
def AdmittedBy (login : Request) (xs : List Exchange) : Prop :=
  ∃ l, (about login xs).getLast? = some l ∧ signsIn l

/-- Nothing but logins was sent unless the last login before it had succeeded. -/
def Guarded (login : Request) (xs : List Exchange) : Prop :=
  ∀ earlier x, earlier ++ [x] <+: xs → x.request ≠ login → AdmittedBy login earlier

/-- What holds of all exchanges up to a state: they are guarded, and where the client is signed in the
    last login succeeded. -/
def Sound (login : Request) (xs : List Exchange) (signedIn : Bool) : Prop :=
  Guarded login xs ∧ (signedIn = true → AdmittedBy login xs)

theorem sound_nil (login : Request) : Sound login [] false :=
  ⟨fun _ _ hprefix => by simp at hprefix, nofun⟩

theorem guarded_concat (h : Guarded login xs) (hx : x.request ≠ login → AdmittedBy login xs) :
    Guarded login (xs ++ [x]) := by
  intro earlier y hprefix hy
  rcases List.prefix_concat_iff.1 hprefix with heq | hprefix
  · obtain ⟨rfl, hlast⟩ := List.append_inj' heq rfl
    obtain rfl := List.singleton_inj.1 hlast
    exact hx hy
  · exact h earlier y hprefix hy

/-- A login tells whether there is a session after it. -/
theorem Sound.signIn (h : Sound login xs before) (hl : l.request = login) :
    Sound login (xs ++ [l]) (signsIn l) := by
  refine ⟨guarded_concat h.1 fun hne => absurd hl hne, fun hadmits => ⟨l, ?_, hadmits⟩⟩
  rw [about, List.filter_append, List.filter_cons_of_pos (by simpa using hl), List.filter_nil,
    List.getLast?_concat]

/-- A request within a session leaves what the last login was. -/
theorem Sound.request (h : Sound login xs true) (hx : x.request ≠ login) :
    Sound login (xs ++ [x]) true := by
  refine ⟨guarded_concat h.1 fun _ => h.2 rfl, fun _ => ?_⟩
  rw [AdmittedBy, about, List.filter_append, List.filter_cons_of_neg (by simpa using hx),
    List.filter_nil, List.append_nil]
  exact h.2 rfl

/-- A session can be given up at any time. -/
theorem Sound.out (h : Sound login xs before) : Sound login xs false := ⟨h.1, nofun⟩

/-- What one request keeps. -/
theorem Talk.sound (hne : r ≠ login) (h : Talk login r before xs done after)
    (hs : Sound login earlier before) : Sound login (earlier ++ xs) after := by
  have hrequest : ∀ {x : Exchange}, x.request = r → x.request ≠ login := fun hx => hx ▸ hne
  induction h generalizing earlier with
  | unsent | shut => rwa [List.append_nil]
  | asked hx => exact hs.request (hrequest hx)
  | stranded hx _ => exact (hs.request (hrequest hx)).out
  | denied hx _ hl hfails | lost hx _ hl hfails =>
    have hlogin := (hs.request (hrequest hx)).signIn hl
    rwa [hfails, List.append_assoc] at hlogin
  | again hx _ hl hrenews hy =>
    have hlogin := (hs.request (hrequest hx)).signIn hl
    rw [hrenews] at hlogin
    have hagain := hlogin.request (hrequest hy)
    rwa [List.append_assoc, List.append_assoc] at hagain
  | refused hl hfails => exact hfails ▸ hs.signIn hl
  | admitted hl hadmits _ ih =>
    have hrest := ih (hadmits ▸ hs.signIn hl)
    rwa [List.append_assoc] at hrest

/-! ### Operations -/

/-- What operations come to: requests within sessions, one after the other, up to the first that is not
    done. -/
inductive Series (login : Request) : Bool → List Exchange → Bool → Bool → Prop where
  | nothing {signedIn : Bool} : Series login signedIn [] true signedIn
  | failed {r : Request} {xs : List Exchange} {before after : Bool} (hne : r ≠ login)
      (h : Talk login r before xs false after) : Series login before xs false after
  | next {r : Request} {xs ys : List Exchange} {before between after done : Bool} (hne : r ≠ login)
      (h : Talk login r before xs true between) (rest : Series login between ys done after) :
      Series login before (xs ++ ys) done after

theorem Series.append (h : Series login before xs true between)
    (k : Series login between ys done after) : Series login before (xs ++ ys) done after := by
  generalize hdone : true = fulfilled at h
  induction h with
  | nothing => exact k
  | failed => cases hdone
  | next hne h _ ih =>
    rw [List.append_assoc]
    exact .next hne h (ih k hdone)

theorem Series.sound (h : Series login before xs done after) (hs : Sound login earlier before) :
    Sound login (earlier ++ xs) after := by
  induction h generalizing earlier with
  | nothing => rwa [List.append_nil]
  | failed hne h => exact h.sound hne hs
  | next hne h _ ih =>
    rw [← List.append_assoc]
    exact ih (h.sound hne hs)

/-- After a login that failed the operation fails, and there is no session. -/
theorem Series.login_failed (h : Series login before xs done after) (hmem : l ∈ xs)
    (hl : l.request = login) (hfails : signsIn l = false) : done = false ∧ after = false := by
  induction h with
  | nothing => cases hmem
  | failed hne h => exact h.failed hne hmem hl hfails
  | next hne h _ ih =>
    rcases List.mem_append.1 hmem with hmem | hmem
    · cases (h.failed hne hmem hl hfails).1
    · exact ih hmem

/-- Without a session, nothing comes before a login. -/
theorem Series.first (h : Series login false xs done after) :
    (xs = [] ∧ after = false) ∨ ∃ l rest, xs = l :: rest ∧ l.request = login := by
  cases h with
  | nothing => exact .inl ⟨rfl, rfl⟩
  | failed _ h =>
    rcases h.first with ⟨hxs, _, hafter⟩ | hfirst
    · exact .inl ⟨hxs, hafter⟩
    · exact .inr hfirst
  | next _ h _ =>
    rcases h.first with ⟨_, hdone, _⟩ | ⟨l, rest, rfl, hl⟩
    · cases hdone
    · exact .inr ⟨l, _, rfl, hl⟩

/-- Nothing is sent after a login that failed. -/
theorem Series.stops (h : Series login before xs done after) :
    ∀ l ∈ xs.dropLast, l.request = login → signsIn l := by
  induction h with
  | nothing => exact nofun
  | failed hne h => exact (h.conversation hne).stops
  | @next r xs ys _ _ _ _ hne h _ ih =>
    intro l hmem hl
    have hsplit : l ∈ xs ∨ l ∈ ys.dropLast := by
      cases ys with
      | nil =>
        rw [List.append_nil] at hmem
        exact .inl (List.dropLast_subset xs hmem)
      | cons y ys =>
        rw [List.dropLast_append_of_ne_nil (List.cons_ne_nil y ys)] at hmem
        exact List.mem_append.1 hmem
    rcases hsplit with hmem | hmem
    · -- a request that is done has no login that failed
      cases hfails : signsIn l with
      | true => rfl
      | false => cases (h.failed hne hmem hl hfails).1
    · exact ih l hmem hl

/-- The conversations of some requests, in order. -/
theorem Series.conversations (h : Series login before xs done after) :
    ∃ talks : List (Request × List Exchange), xs = talks.flatMap (·.2) ∧
      (∀ c ∈ talks, c.1 ≠ login ∧ ∃ fulfilled, Conversation login c.1 c.2 fulfilled) ∧
      (∀ c ∈ talks.dropLast, Conversation login c.1 c.2 true) ∧
      (done = true → ∀ c ∈ talks, Conversation login c.1 c.2 true) := by
  induction h with
  | nothing => exact ⟨[], rfl, nofun, nofun, nofun⟩
  | @failed r xs _ _ hne h =>
    have htalk := h.conversation hne
    exact ⟨[(r, xs)], by simp, List.forall_mem_singleton.2 ⟨hne, _, htalk⟩, nofun, nofun⟩
  | @next r xs _ _ _ _ _ hne h _ ih =>
    obtain ⟨talks, hys, hall, hbut, hdone⟩ := ih
    have htalk := h.conversation hne
    refine ⟨(r, xs) :: talks, by rw [hys]; rfl, List.forall_mem_cons.2 ⟨⟨hne, _, htalk⟩, hall⟩, ?_,
      fun hfulfilled => List.forall_mem_cons.2 ⟨htalk, hdone hfulfilled⟩⟩
    cases talks with
    | nil => exact nofun
    | cons c talks =>
      rw [List.dropLast_cons_cons]
      exact List.forall_mem_cons.2 ⟨htalk, hbut⟩

/-! ### What the client's operations come to -/

variable {o : Run Session α} {answer : Except Error α}

/-- What an operation comes to from a state. It succeeds only if all its requests were done. -/
def Performs (o : Run Session α) (s : Session) : Prop :=
  ∃ answer t xs done, o.from s = (answer, t) ∧ Heard s t xs ∧
    Series (loginRequest s.account) s.signedIn xs done t.signedIn ∧ (answer.isOk = true → done = true)

/-- An operation that asks nothing. -/
theorem performs_nothing (h : o.from s = (answer, s)) : Performs o s :=
  ⟨answer, s, [], true, h, .refl s, .nothing, fun _ => rfl⟩

theorem Speaks.performs (h : Speaks r o s) (hne : r ≠ loginRequest s.account) : Performs o s := by
  obtain ⟨answer, t, xs, hfrom, hheard, htalk⟩ := h
  cases hdone : answer.isOk with
  | false => exact ⟨answer, t, xs, false, hfrom, hheard, .failed hne (hdone ▸ htalk), fun h => hdone ▸ h⟩
  | true =>
    have hseries := Series.next hne (hdone ▸ htalk) .nothing
    rw [List.append_nil] at hseries
    exact ⟨answer, t, xs, true, hfrom, hheard, hseries, fun _ => rfl⟩

/-- An operation goes on where the one before it succeeded. -/
theorem Performs.bind {f : α → Run Session β} (h : Performs o s) (hf : ∀ a t, Performs (f a) t) :
    Performs (o >>= f) s := by
  obtain ⟨answer, t, xs, done, hfrom, hheard, hseries, hdone⟩ := h
  cases answer with
  | error e => exact ⟨.error e, t, xs, done, Run.from_bind_error hfrom f, hheard, hseries, nofun⟩
  | ok a =>
    obtain ⟨answer, u, ys, done', hrest, hmore, hseries', hdone'⟩ := hf a t
    rw [hdone rfl] at hseries
    rw [hheard.account] at hseries'
    exact ⟨answer, u, xs ++ ys, done', (Run.from_bind_ok hfrom f).trans hrest, hheard.trans hmore,
      hseries.append hseries', hdone'⟩

/-- An operation that fails for another reason. -/
theorem Performs.rethrow (h : Performs o s) (reason : Error → Error) :
    Performs (tryCatch o fun e => throw (reason e)) s := by
  obtain ⟨answer, t, xs, done, hfrom, hheard, hseries, hdone⟩ := h
  have hsame : (answer.mapError reason).isOk = answer.isOk := by cases answer <;> rfl
  exact ⟨answer.mapError reason, t, xs, done, by rw [Run.from_rethrow, hfrom], hheard, hseries,
    hsame ▸ hdone⟩

theorem Conducted.performs (h : Conducted o) (s : Session) : Performs o s := by
  induction h generalizing s with
  | pure a => exact performs_nothing (Run.from_pure a s)
  | throw e => exact performs_nothing (Run.from_throw e s)
  | get => exact performs_nothing (Run.from_get s)
  | bind _ _ ih ihf => exact (ih s).bind ihf
  | rethrow _ reason ih => exact (ih s).rethrow reason
  | send _ hne => exact (speaks_send _ s).performs (hne s.account)
  | upload _ hne => exact (speaks_upload _ s).performs (hne s.account)

theorem performs_run (op : Operation) (s : Session) : Performs op.run s :=
  (conducted_run op).performs s

/-! ### Operations in a row -/

theorem heard_afterAll (ops : List Operation) (s : Session) : ∃ xs, Heard s (afterAll ops s) xs := by
  induction ops generalizing s with
  | nil => exact ⟨[], .refl s⟩
  | cons op ops ih =>
    obtain ⟨answer, t, xs, _, hfrom, hheard, _⟩ := performs_run op s
    obtain ⟨ys, hmore⟩ := ih t
    exact ⟨xs ++ ys, by rw [Client.afterAll_cons, hfrom]; exact hheard.trans hmore⟩

/-- What operations in a row keep. -/
theorem sound_afterAll (ops : List Operation) (s : Session)
    (hs : Sound (loginRequest s.account) s.network.exchanges s.signedIn) :
    Sound (loginRequest s.account) (afterAll ops s).network.exchanges (afterAll ops s).signedIn := by
  induction ops generalizing s with
  | nil => exact hs
  | cons op ops ih =>
    obtain ⟨answer, t, xs, done, hfrom, hheard, hseries, _⟩ := performs_run op s
    have ht := hseries.sound hs
    rw [← hheard.exchanges, ← hheard.account] at ht
    rw [Client.afterAll_cons, hfrom, ← hheard.account]
    exact ih t ht

/-- Without a session, nothing comes before a login, whatever operations follow. -/
theorem first_afterAll (ops : List Operation) (s : Session) (hout : s.signedIn = false) :
    ∃ xs, Heard s (afterAll ops s) xs ∧ ∀ x ∈ xs.head?, x.request = loginRequest s.account := by
  induction ops generalizing s with
  | nil => exact ⟨[], .refl s, nofun⟩
  | cons op ops ih =>
    obtain ⟨answer, t, xs, done, hfrom, hheard, hseries, _⟩ := performs_run op s
    rw [Client.afterAll_cons, hfrom]
    rw [hout] at hseries
    rcases hseries.first with ⟨rfl, hstill⟩ | ⟨l, rest, rfl, hl⟩
    · obtain ⟨ys, hmore, hfirst⟩ := ih t hstill
      exact ⟨ys, hheard.trans hmore, hheard.account ▸ hfirst⟩
    · obtain ⟨ys, hmore⟩ := heard_afterAll ops t
      refine ⟨_, hheard.trans hmore, fun x hx => ?_⟩
      obtain rfl : l = x := Option.some.inj hx
      exact hl

/-- The exchanges of an operation, whether it succeeded and whether the client is signed in after it. -/
structure Operated (login : Request) (xs : List Exchange) (succeeded signedIn : Bool) : Prop where
  /-- They are the conversations of some requests, in order. All but the last are done, and the last one
      too if the operation succeeds. -/
  conversations : ∃ talks : List (Request × List Exchange), xs = talks.flatMap (·.2) ∧
    (∀ c ∈ talks, c.1 ≠ login ∧ ∃ done, Conversation login c.1 c.2 done) ∧
    (∀ c ∈ talks.dropLast, Conversation login c.1 c.2 true) ∧
    (succeeded = true → ∀ c ∈ talks, Conversation login c.1 c.2 true)
  /-- Nothing is sent after a login that failed. -/
  stops : ∀ l ∈ xs.dropLast, l.request = login → signsIn l
  /-- After a login that failed the operation fails, and there is no session. -/
  failed : ∀ l ∈ xs, l.request = login → signsIn l = false → succeeded = false ∧ signedIn = false

theorem Performs.operated (h : Performs o s) : ∃ answer t xs, o.from s = (answer, t) ∧ Heard s t xs ∧
    Operated (loginRequest s.account) xs answer.isOk t.signedIn := by
  obtain ⟨answer, t, xs, done, hfrom, hheard, hseries, hdone⟩ := h
  obtain ⟨talks, hxs, hall, hbut, hlast⟩ := hseries.conversations
  refine ⟨answer, t, xs, hfrom, hheard, ⟨talks, hxs, hall, hbut, fun hok => hlast (hdone hok)⟩,
    hseries.stops, fun l hmem hl hfails => ?_⟩
  obtain ⟨hnot, hout⟩ := hseries.login_failed hmem hl hfails
  exact ⟨Bool.eq_false_iff.2 fun hok => (by cases hnot.symm.trans (hdone hok)), hout⟩

/-- The protocol between a client and its server, whatever the server does.

    From the first request on, over operations of any kind and in any order, nothing but a login is sent
    unless there was a login and the last one succeeded. Every request, made again after an expiry or
    not, is a conversation, from whatever state it is made. Every operation is conversations one after
    the other up to the first that is not done; a login that fails ends it and the session with it. A
    client that is not signed in sends a login before anything else, whatever operations follow. An
    action on no torrents changes nothing, and so sends nothing. -/
theorem session_protocol (account : Account) (origin : String) (script : List Reply)
    (afterScript : Reply) :
    (∀ ops, Guarded (loginRequest account)
      (afterAll ops (Session.start account ⟨origin, script, afterScript, []⟩)).network.exchanges) ∧
    (∀ (s : Session) (r : Request), r ≠ loginRequest s.account →
      ∀ o ∈ [Session.send r, Session.upload r], ∃ answer t xs, o.from s = (answer, t) ∧ Heard s t xs ∧
        Conversation (loginRequest s.account) r xs answer.isOk) ∧
    (∀ (s : Session) (op : Operation), ∃ answer t xs, op.run.from s = (answer, t) ∧ Heard s t xs ∧
      Operated (loginRequest s.account) xs answer.isOk t.signedIn) ∧
    (∀ (s : Session) (ops : List Operation), s.signedIn = false →
      ∃ xs, Heard s (afterAll ops s) xs ∧ ∀ x ∈ xs.head?, x.request = loginRequest s.account) ∧
    ∀ (s : Session) (action : Action),
      (Backend.act action [] : Run Session Unit).from s = (.ok (), s) := by
  refine ⟨fun ops => ?_, fun s r hne o ho => ?_, fun s op => (performs_run op s).operated,
    fun s ops => first_afterAll ops s, fun s action => rfl⟩
  · exact (sound_afterAll ops (Session.start account ⟨origin, script, afterScript, []⟩)
      (sound_nil _)).1
  · have hspeaks : Speaks r o s := by
      rcases List.mem_cons.1 ho with rfl | ho
      · exact speaks_send r s
      · exact List.mem_singleton.1 ho ▸ speaks_upload r s
    obtain ⟨answer, t, xs, hfrom, hheard, htalk⟩ := hspeaks
    exact ⟨answer, t, xs, hfrom, hheard, htalk.conversation hne⟩

/-- An account on this machine. -/
def localAccount : Account := ⟨"qb", "http://127.0.0.1:8080/", "user", "secret", 30⟩

/-- A server that gives up its session once, when it is first asked for something. -/
def forgetfulServer : Network :=
  let welcome : Reply := .answer 200 (Text.utf8 "Ok.") true none
  ⟨"http://127.0.0.1:8080", [welcome, .answer 403 [] true none, welcome],
    .answer 200 (Text.utf8 "[]") true none, []⟩

/-- There, the request is sent again after a second login, and done. -/
theorem session_protocol_forgetful :
    let s := Session.start localAccount forgetfulServer
    let r : Request := ⟨.get, "http://127.0.0.1:8080/api/v2/torrents/tags", .none⟩
    let xs := ((Session.send r).from s).2.network.exchanges
    r ≠ loginRequest localAccount ∧ Conversation (loginRequest localAccount) r xs true ∧
      xs.map (·.target) = ["/api/v2/auth/login", "/api/v2/torrents/tags", "/api/v2/auth/login",
        "/api/v2/torrents/tags"] := by
  intro s r
  have hne : r ≠ loginRequest localAccount := by decide
  have hdone : ((Session.send r).from s).1.isOk = true := by decide +kernel
  have htargets : ((Session.send r).from s).2.network.exchanges.map (·.target)
      = ["/api/v2/auth/login", "/api/v2/torrents/tags", "/api/v2/auth/login",
        "/api/v2/torrents/tags"] := by decide +kernel
  obtain ⟨answer, t, xs, hfrom, hheard, htalk⟩ :=
    (session_protocol localAccount forgetfulServer.origin forgetfulServer.script
      forgetfulServer.afterScript).2.1 s r hne _ List.mem_cons_self
  have hxs : t.network.exchanges = xs := hheard.exchanges
  rw [hfrom] at hdone htargets ⊢
  rw [hdone] at htalk
  exact ⟨hne, hxs ▸ htalk, htargets⟩

end Seedkeeper.QBittorrent
