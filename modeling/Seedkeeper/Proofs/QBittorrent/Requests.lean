import Seedkeeper.Proofs.Batch.Attempts
import Seedkeeper.Proofs.QBittorrent.Conduct
import Seedkeeper.Proofs.Text.Lowercase

/-!
What a client of a server sends.

A form can name torrents for the server to act on, in its field `hashes`; logins and lookups name none,
since nothing is done to a torrent that is looked up. Every operation keeps the exchanges that were
there and adds its own, so a batch sends what its attempts send: nothing but logins, lookups, and forms
that name the one info hash of their target (`sent_apply`).
-/

namespace Seedkeeper.QBittorrent

open Client (Action Backend Error Run)
open Http (Request)
open Session (ask fetch post)

/-! ### Naming torrents -/

/-- The field of a form that names torrents. -/
def hashesField : String := "hashes"

/-- The values by which a request names torrents to act on. -/
def namings (r : Request) : List String :=
  match r.body with
  | .form fields => (fields.filter (·.1 = hashesField)).map (·.2)
  | _ => []

/-- Requests that name no torrents. -/
def NamesNone (r : Request) : Prop := namings r = []

/-- Requests that name torrents by one value or not at all. -/
def NamesAtMost (value : String) (r : Request) : Prop := namings r = [] ∨ namings r = [value]

/-! ### Exchanges -/

/-- From one state to another, requests of a kind were sent and no others, and nothing was forgotten. -/
def Sent (kind : Request → Prop) (s t : Session) : Prop :=
  ∃ new, t.network.exchanges = s.network.exchanges ++ new ∧ ∀ x ∈ new, kind x.request

variable {kind kind' : Request → Prop} {s t u : Session} {α β : Type}

theorem Sent.of_network_eq (h : t.network = s.network) : Sent kind s t := Added.of_network_eq h

theorem Sent.refl (s : Session) : Sent kind s s := .of_network_eq rfl

theorem Sent.trans (h : Sent kind s t) (k : Sent kind t u) : Sent kind s u := Added.trans h k

theorem Sent.mono (h : Sent kind s t) (hkind : ∀ r, kind r → kind' r) : Sent kind' s t := by
  obtain ⟨new, ht, hnew⟩ := h
  exact ⟨new, ht, fun x hx => hkind _ (hnew x hx)⟩

/-- Whether an operation sends requests of a kind only. -/
abbrev Sends (kind : Request → Prop) (x : Run Session α) : Prop := x.Keeps (Sent kind)

theorem Sends.bind {x : Run Session α} {f : α → Run Session β} (hx : Sends kind x)
    (hf : ∀ a, Sends kind (f a)) : Sends kind (x >>= f) :=
  Run.Keeps.bind Sent.trans hx hf

theorem Sends.mono {x : Run Session α} (h : Sends kind x) (hkind : ∀ r, kind r → kind' r) :
    Sends kind' x :=
  fun s => (h s).mono hkind

/-- An operation that leaves the network alone sends nothing. -/
theorem sends_of_network_eq {x : Run Session α} (h : ∀ s, (x.from s).2.network = s.network) :
    Sends kind x :=
  fun s => .of_network_eq (h s)

theorem sends_pure (a : α) : Sends kind (pure a : Run Session α) := sends_of_network_eq fun _ => rfl

theorem sends_throw (e : Error) : Sends kind (throw e : Run Session α) :=
  sends_of_network_eq fun _ => rfl

theorem sends_get : Sends kind (get : Run Session Session) := sends_of_network_eq fun _ => rfl

/-! ### Requests within a session -/

/-- Asking sends the request, or nothing. -/
theorem sends_ask {r : Request} (hr : kind r) : Sends kind (ask r) := by
  intro s
  rcases from_ask_cases r s with ⟨e, hask⟩ | ⟨x, t, hx, hheard, -, ⟨-, e, hask⟩ | ⟨a, -, hask⟩⟩
  · rw [hask]
    exact .refl s
  · rw [hask]
    exact ⟨[x], hheard.exchanges, List.forall_mem_singleton.2 (hx ▸ hr)⟩
  · rw [hask]
    exact ⟨[x], hheard.exchanges, List.forall_mem_singleton.2 (hx ▸ hr)⟩

/-- A login names no torrents. -/
theorem namesNone_loginRequest (account : Account) : NamesNone (Session.loginRequest account) := by
  simp [NamesNone, namings, Session.loginRequest, hashesField]

/-- A request within a session is sent with the logins it needs. -/
theorem sends_send {r : Request} (hlogin : ∀ r, NamesNone r → kind r) (hr : kind r) :
    Sends kind (Session.send r) :=
  keeps_send Sent.trans Sent.of_network_eq
    (fun account => sends_ask (hlogin _ (namesNone_loginRequest account))) (sends_ask hr)

/-- A lookup names no torrents. -/
theorem sends_fetch (endpoint : String) : Sends NamesNone (fetch endpoint) := by
  rw [fetch]
  exact sends_get.bind fun _ => sends_send (fun _ h => h) rfl

theorem sends_post {endpoint : String} {fields : List (String × String)}
    (hlogin : ∀ r, NamesNone r → kind r)
    (hform : ∀ address, kind ⟨.post, address, .form fields⟩) : Sends kind (post endpoint fields) := by
  rw [post]
  exact sends_get.bind fun _ => (sends_send hlogin (hform _)).bind fun _ => sends_pure _

/-! ### Operations of the client -/

/-- Looking for a torrent names none. -/
theorem sends_torrent (infoHash : String) :
    Sends NamesNone (Backend.torrent infoHash : Run Session Torrent) := by
  have hparsed : ∀ text, Sends NamesNone (parsed (Json.asList torrent?) text) := by
    intro text
    rw [parsed]
    split
    · exact sends_pure _
    · exact sends_throw _
  have hlist : Sends NamesNone
      (fetchTorrents ("/api/v2/torrents/info?hashes=" ++ Text.lowercase infoHash)) := by
    rw [fetchTorrents]
    exact (sends_fetch _).bind hparsed
  refine hlist.bind fun ts => ?_
  cases ts with
  | nil => exact sends_throw _
  | cons t ts => exact sends_pure _

/-- What an action needs besides the torrents does not name any. -/
theorem namings_actionForm (action : Action) (address hashes : String) :
    namings ⟨.post, address, .form ((hashesField, hashes) :: (actionForm action).2)⟩ = [hashes] := by
  cases action <;> simp [namings, actionForm, hashesField]

/-- An action on a torrent names that one, in lower case. -/
theorem sends_act (action : Action) (infoHash : String) :
    Sends (NamesAtMost (Text.lowercase infoHash))
      (Backend.act action [infoHash] : Run Session Unit) := by
  have hjoin : joinHashes [infoHash] = Text.lowercase infoHash := by
    simp [joinHashes, Text.joinWith]
  refine sends_post (fun r h => .inl h) fun address => .inr ?_
  rw [hjoin]
  exact namings_actionForm action address _

/-! ### Batches -/

/-- To attempt a target names that one, or none. -/
theorem sends_attempt (looks : Bool) (action : Action) (infoHash : String) :
    Sends (NamesAtMost (Text.lowercase infoHash))
      (Batch.attempt looks action infoHash : Run Session Unit) := by
  cases looks with
  | false => exact sends_act action infoHash
  | true =>
    exact ((sends_torrent infoHash).mono fun r h => .inl h).bind fun _ => sends_act action infoHash

/-- Targets that are attempted are named, and no others. -/
theorem sent_attempts (looks : Bool) (action : Action) (hs : List String) (s : Session) :
    Sent (fun r => namings r = [] ∨ ∃ h ∈ hs, namings r = [Text.lowercase h]) s
      (Batch.attempts looks action hs s).2 := by
  induction hs generalizing s with
  | nil => exact .refl _
  | cons h hs ih =>
    rw [Batch.attempts]
    refine Sent.trans ((sends_attempt looks action h s).mono ?_) ((ih _).mono ?_)
    · rintro r (hnone | hone)
      · exact .inl hnone
      · exact .inr ⟨h, List.mem_cons_self, hone⟩
    · rintro r (hnone | ⟨g, hg, hone⟩)
      · exact .inl hnone
      · exact .inr ⟨g, List.mem_cons_of_mem _ hg, hone⟩

/-- An action on some info hashes names these to the server, one in a request, and no others. -/
theorem sent_apply (action : Action) (hs : List String) (clock : Calendar.Clock) (s : Session)
    (log : Option Traffic.Log) :
    Sent (fun r => namings r = [] ∨ ∃ h ∈ hs, namings r = [Text.lowercase h]) s
      (Batch.apply action (.hashes hs) clock s log).2.1 := by
  obtain ⟨after, hafter⟩ := Batch.apply_hashes action hs clock s log
  rw [hafter]
  exact sent_attempts _ action hs s

end Seedkeeper.QBittorrent
