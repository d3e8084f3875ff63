import Seedkeeper.Proofs.Client.Operations
import Seedkeeper.Proofs.QBittorrent.Dialogue
import Seedkeeper.QBittorrent.Client

/-!
What the operations of a client are made of.

Every operation is made of requests within a session, none of which is a login, and of steps that ask the
server nothing (`conducted_run`). So what such requests keep, and what is kept from one part of an
operation to the next, every operation keeps; that is one induction on `Conducted`. A relation that only
what is asked can break is kept by an operation if everything that is asked keeps it (`Conducted.keeps`).
-/

namespace Seedkeeper.QBittorrent

open Client (Error Operation Run)
open Http (Request)
open Session (ask fetch loginRequest post)

/-- Whether a request is an upload. -/
def isUpload (r : Request) : Bool :=
  match r.body with
  | .multipart _ => true
  | _ => false

/-- Operations that ask the server nothing but by requests within a session, none of which is a login. -/
inductive Conducted : {α : Type} → Run Session α → Prop where
  | pure {α : Type} (a : α) : Conducted (pure a : Run Session α)
  | throw {α : Type} (e : Error) : Conducted (throw e : Run Session α)
  | get : Conducted (get : Run Session Session)
  | bind {α β : Type} {o : Run Session α} {f : α → Run Session β} (ho : Conducted o)
      (hf : ∀ a, Conducted (f a)) : Conducted (o >>= f)
  | rethrow {α : Type} {o : Run Session α} (ho : Conducted o) (reason : Error → Error) :
      Conducted (tryCatch o fun e => throw (reason e))
  | send {r : Request} (hupload : isUpload r = false) (hne : ∀ account, r ≠ loginRequest account) :
      Conducted (Session.send r)
  | upload {r : Request} (hupload : isUpload r) (hne : ∀ account, r ≠ loginRequest account) :
      Conducted (Session.upload r)

variable {α : Type} {o : Run Session α}

/-! ### What is kept -/

section Keeps

variable {related : Session → Session → Prop} {r : Request}

/-- What leaves the network alone keeps whatever only the network can break. -/
theorem keeps_idle (hidle : ∀ {s t : Session}, t.network = s.network → related s t)
    (h : ∀ s, (o.from s).2.network = s.network) : o.Keeps related := fun s => hidle (h s)

theorem network_read (a : Session.Answer) (s : Session) :
    ((Session.read a).from s).2.network = s.network := by
  obtain ⟨answer, hread, -⟩ := from_read a s
  rw [hread]

variable (htrans : ∀ {s t u : Session}, related s t → related t u → related s u)
  (hidle : ∀ {s t : Session}, t.network = s.network → related s t)
  (hlogin : ∀ account, (ask (loginRequest account)).Keeps related)

include htrans hidle hlogin

theorem keeps_login : Session.login.Keeps related := by
  rw [Session.login]
  refine .bind htrans (keeps_idle hidle fun _ => rfl) fun s => ?_
  refine .bind htrans (hlogin s.account) fun a => ?_
  split
  · exact keeps_idle hidle fun _ => rfl
  · exact keeps_idle hidle fun _ => rfl

theorem keeps_ensureSignedIn : Session.ensureSignedIn.Keeps related := by
  rw [Session.ensureSignedIn]
  refine .bind htrans (keeps_idle hidle fun _ => rfl) fun s => ?_
  split
  · exact keeps_idle hidle fun _ => rfl
  · exact keeps_login htrans hidle hlogin

theorem keeps_upload (hr : (ask r).Keeps related) : (Session.upload r).Keeps related := by
  rw [Session.upload]
  exact .bind htrans (keeps_ensureSignedIn htrans hidle hlogin) fun _ =>
    .bind htrans hr fun a => keeps_idle hidle (network_read a)

theorem keeps_send (hr : (ask r).Keeps related) : (Session.send r).Keeps related := by
  rw [Session.send]
  refine .bind htrans (keeps_ensureSignedIn htrans hidle hlogin) fun _ => .bind htrans hr fun a => ?_
  split
  · exact .bind htrans (keeps_idle hidle fun _ => rfl) fun _ =>
      .bind htrans (keeps_login htrans hidle hlogin) fun _ =>
        .bind htrans hr fun b => keeps_idle hidle (network_read b)
  · exact keeps_idle hidle (network_read a)

end Keeps

/-- What every request keeps, every operation keeps. -/
theorem Conducted.keeps {related : Session → Session → Prop}
    (htrans : ∀ {s t u : Session}, related s t → related t u → related s u)
    (hidle : ∀ {s t : Session}, t.network = s.network → related s t)
    (hask : ∀ r, (ask r).Keeps related) (h : Conducted o) : o.Keeps related := by
  induction h with
  | pure a => exact keeps_idle hidle fun _ => rfl
  | throw e => exact keeps_idle hidle fun _ => rfl
  | get => exact keeps_idle hidle fun _ => rfl
  | bind _ _ ih ihf => exact .bind htrans ih ihf
  | rethrow _ reason ih => exact fun s => by rw [Run.from_rethrow]; exact ih s
  | send => exact keeps_send htrans hidle (fun account => hask _) (hask _)
  | upload => exact keeps_upload htrans hidle (fun account => hask _) (hask _)

/-! ### The operations -/

/-- Requests that get something are no logins. -/
theorem conducted_fetch (endpoint : String) : Conducted (fetch endpoint) :=
  .bind .get fun _ => .send rfl (by simp [loginRequest])

/-- Forms that do not start with a user name are no logins. -/
theorem conducted_post {endpoint key value : String} {fields : List (String × String)}
    (hkey : key ≠ "username") : Conducted (post endpoint ((key, value) :: fields)) :=
  .bind .get fun _ => .bind (.send rfl (by simp [loginRequest, hkey])) fun _ => .pure _

theorem conducted_upload (source : Http.Part) (options : Client.AddOptions) :
    Conducted (upload source options) :=
  .bind .get fun _ => .bind (.upload rfl (by simp [loginRequest])) fun _ => .pure _

theorem conducted_parsed (read : Json → Option α) (text : String) : Conducted (parsed read text) := by
  rw [parsed]
  split
  · exact .pure _
  · exact .throw _

theorem conducted_fetchTorrents (endpoint : String) : Conducted (fetchTorrents endpoint) :=
  .bind (conducted_fetch endpoint) fun text => conducted_parsed _ text

/-- An operation, what it finds left out. -/
theorem Conducted.discard (h : Conducted o) : Conducted (do let _ ← o; return () : Run Session Unit) :=
  .bind h fun _ => .pure _

theorem conducted_run (op : Operation) : Conducted (op.run : Run Session Unit) := by
  cases op with
  | torrent infoHash =>
    refine (Conducted.bind (conducted_fetchTorrents _) fun ts => ?_).discard
    cases ts with
    | nil => exact .throw _
    | cons x ts => exact .pure x
  | torrents filters => exact (Conducted.bind (conducted_fetchTorrents _) fun _ => .pure _).discard
  | add request =>
    obtain ⟨source, options⟩ := request
    cases source with
    | magnet uri => exact (Conducted.bind (conducted_upload _ options) fun _ => .pure _).discard
    | file data filename => exact (Conducted.bind (conducted_upload _ options) fun _ => .pure _).discard
  | modify infoHash changes =>
    obtain ⟨name, category⟩ := changes
    cases name with
    | none =>
      cases category with
      | none => exact .pure ()
      | some category => exact conducted_post (by decide)
    | some name =>
      refine .bind (conducted_post (by decide)) fun _ => ?_
      cases category with
      | none => exact .pure ()
      | some category => exact conducted_post (by decide)
  | act action infoHashes =>
    change Conducted (postHashes _ infoHashes _)
    rw [postHashes]
    split
    · exact .pure ()
    · exact conducted_post (by decide)
  | createTags names => exact conducted_post (by decide)
  | deleteTags names => exact conducted_post (by decide)
  | tags => exact (Conducted.bind (conducted_fetch _) fun text => conducted_parsed _ text).discard
  | categories => exact (Conducted.bind (conducted_fetch _) fun text => conducted_parsed _ text).discard
  | createCategory name savePath => exact conducted_post (by decide)
  | deleteCategories names => exact conducted_post (by decide)
  | contents infoHash =>
    exact (Conducted.bind (.rethrow (conducted_fetch _) _) fun text => conducted_parsed _ text).discard

end Seedkeeper.QBittorrent
