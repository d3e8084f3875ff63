import Seedkeeper.Proofs.QBittorrent.Protocol
import Seedkeeper.Proofs.Url.Parameters

/-!
What a client asks a server for.

Every exchange is for the path and the query of the address that its request has (`aimed_run`). So the
parameters of a lookup are a matter of an address: where the server is, an endpoint and a query. A
listing encodes the values that it is given, and has exactly these as its parameters. The two lookups of
one torrent put its info hash into the address as it is, and have it as their parameter exactly if
nothing in it means anything in a query (`lookup_parameters`).
-/

namespace Seedkeeper.QBittorrent

open Client (Error Filters Operation Run)
open Http (Exchange Network Reply Request)
open Session (ask fetch loginRequest)
open Text (utf8)
open Url (Unmarked Verbatim found parameters)

variable {α β : Type} {s : Session} {o : Run Session α} {endpoint : String} {plusIsBlank : Bool}

/-! ### Addresses -/

/-- Whether an exchange was for the path and the query of the address of its request. -/
def Aimed (x : Exchange) : Prop :=
  ∃ url, Url.ofText? x.request.address = some url ∧ Session.isReachable url ∧ x.target = url.target

/-- What a request does to the network: nothing, or what sending it to its address does. -/
theorem network_ask_cases (r : Request) (s : Session) :
    ((ask r).from s).2.network = s.network ∨ ∃ url cookie, Url.ofText? r.address = some url ∧
      Session.isReachable url ∧ ((ask r).from s).2.network = (s.network.send r url cookie).2 := by
  cases hurl : Url.ofText? r.address with
  | none => exact .inl (by rw [ask, hurl]; rfl)
  | some url =>
    cases hreach : Session.isReachable url with
    | false => exact .inl (by simp only [ask, hurl, hreach]; rfl)
    | true =>
      by_cases hpatience : s.account.patience = 0
      · exact .inl (by simp [ask, hurl, hreach, Run.from_bind, hpatience])
      · refine .inr ⟨url, s.jar.header? url.path, rfl, hreach, ?_⟩
        cases hsend : s.network.send r url (s.jar.header? url.path) with
        | mk reply rest =>
          cases reply <;>
            simp [ask, hurl, hreach, Run.from_bind, hpatience, hsend, -bind_pure_comp]

theorem added_ask (r : Request) : (ask r).Keeps (Added Aimed) := by
  intro s
  rcases network_ask_cases r s with hsame | ⟨url, cookie, hurl, hreach, hsent⟩
  · exact .of_network_eq hsame
  · have hnext : s.network.next.2.exchanges = s.network.exchanges := by
      rw [Network.next]
      split <;> rfl
    rw [Network.send] at hsent
    split at hsent
    · refine ⟨[⟨r, url.target, cookie, s.network.next.1⟩], ?_,
        List.forall_mem_singleton.2 ⟨url, hurl, hreach, rfl⟩⟩
      rw [hsent]
      exact congrArg (· ++ _) hnext
    · exact .of_network_eq hsent

/-- Everything that operations ask for is where their requests say. -/
theorem aimed_run (op : Operation) : (op.run : Run Session Unit).Keeps (Added Aimed) :=
  (conducted_run op).keeps Added.trans Added.of_network_eq added_ask

/-! ### Lookups -/

/-- Everything that an operation asks a server for, logins apart. -/
def Asks (op : Operation) (s : Session) (p : String → Prop) : Prop :=
  ∃ xs, Heard s (op.run.from s).2 xs ∧ ∀ x ∈ xs, x.request ≠ loginRequest s.account → p x.target

theorem Asks.mono {op : Operation} {p q : String → Prop} (h : Asks op s p) (hpq : ∀ t, p t → q t) :
    Asks op s q := by
  obtain ⟨xs, hheard, hxs⟩ := h
  exact ⟨xs, hheard, fun x hx hother => hpq _ (hxs x hx hother)⟩

/-- From the first exchange on, everything that took place is what was asked. -/
theorem Asks.of_start {account : Account} {network : Network} {op : Operation} {p : String → Prop}
    (h : Asks op (Session.start account network) p) (hnone : network.exchanges = []) :
    ∀ x ∈ (op.run.from (Session.start account network)).2.network.exchanges,
      x.request ≠ loginRequest account → p x.target := by
  obtain ⟨xs, hheard, hxs⟩ := h
  have hnew := hheard.exchanges
  rw [show (Session.start account network).network.exchanges = [] from hnone, List.nil_append] at hnew
  rwa [hnew]

/-- An operation that asks for what is at one endpoint. -/
def LooksUp (op : Operation) (endpoint : String) : Prop :=
  ∀ s : Session, (op.run.from s).2 = ((fetch endpoint).from s).2

/-- What comes after a request and leaves the state alone can be left out. -/
theorem state_bind_idle {f : α → Run Session β} (hidle : ∀ a t, ((f a).from t).2 = t) (s : Session) :
    ((o >>= f).from s).2 = (o.from s).2 := by
  rw [Run.from_bind]
  cases hfrom : o.from s with
  | mk answer t =>
    cases answer with
    | ok a => exact hidle a t
    | error e => rfl

theorem state_parsed (read : Json → Option α) (text : String) (s : Session) :
    ((parsed read text).from s).2 = s := by
  rw [parsed]
  split <;> rfl

theorem state_fetchTorrents (endpoint : String) (s : Session) :
    ((fetchTorrents endpoint).from s).2 = ((fetch endpoint).from s).2 :=
  state_bind_idle (fun text => state_parsed _ text) s

theorem looksUp_torrents (filters : Filters) :
    LooksUp (.torrents filters) ("/api/v2/torrents/info" ++ listingQuery filters) := by
  intro s
  rw [Operation.run, state_bind_idle fun _ _ => rfl]
  exact (state_bind_idle (fun _ _ => rfl) s).trans (state_fetchTorrents _ s)

theorem looksUp_torrent (infoHash : String) :
    LooksUp (.torrent infoHash) ("/api/v2/torrents/info?hashes=" ++ Text.lowercase infoHash) := by
  intro s
  rw [Operation.run, state_bind_idle fun _ _ => rfl]
  refine (state_bind_idle (fun ts t => ?_) s).trans (state_fetchTorrents _ s)
  cases ts <;> rfl

theorem looksUp_contents (infoHash : String) :
    LooksUp (.contents infoHash) ("/api/v2/torrents/files?hash=" ++ Text.lowercase infoHash) := by
  intro s
  rw [Operation.run, state_bind_idle fun _ _ => rfl]
  refine (state_bind_idle (fun text => state_parsed _ text) s).trans ?_
  rw [Run.from_rethrow]

/-- A lookup asks for what its endpoint is in the address. -/
theorem LooksUp.asks {op : Operation} (h : LooksUp op endpoint) (s : Session) :
    Asks op s fun target => ∃ url, Url.ofText? (Session.base s.account ++ endpoint) = some url ∧
      Session.isReachable url ∧ target = url.target := by
  let r : Request := ⟨.get, Session.base s.account ++ endpoint, .none⟩
  have hne : r ≠ loginRequest s.account := by simp [r, loginRequest]
  obtain ⟨answer, t, xs, hfrom, hheard, htalk⟩ := speaks_send r s
  have hstate : (op.run.from s).2 = t := by
    rw [h s, fetch, Run.from_bind_ok (Run.from_get s)]
    exact congrArg Prod.snd hfrom
  refine ⟨xs, hstate ▸ hheard, fun x hx hother => ?_⟩
  have hr : x.request = r := ((htalk.conversation hne).only x hx).resolve_right hother
  obtain ⟨url, hurl, hreach, htarget⟩ := hheard.of_added (hstate ▸ aimed_run op s) x hx
  exact ⟨url, by rw [← hurl, hr], hreach, htarget⟩

/-! ### Their parameters -/

theorem isReachable_scheme {url : Url} (h : Session.isReachable url = true) :
    url.scheme = "http" ∨ url.scheme = "https" := by
  simp only [Session.isReachable, Bool.and_eq_true, Bool.or_eq_true, beq_iff_eq] at h
  exact h.2

/-- The parameters that a listing is given. -/
def listed (filters : Filters) : List (String × String) :=
  (filters.state.map fun state => ("filter", state)).toList ++
  (filters.category.map fun category => ("category", category)).toList

theorem listingQuery_eq (filters : Filters) :
    listingQuery filters = if listed filters = [] then ""
      else "?" ++ Text.joinWith "&" ((listed filters).map Url.component) := by
  obtain ⟨state, category, includeAll⟩ := filters
  cases state <;> cases category <;> rfl

theorem isPlain_of_listed {filters : Filters} : ∀ p ∈ listed filters, Url.IsPlain p.1.toList := by
  intro p hp
  have hname : p.1 = "filter" ∨ p.1 = "category" := by
    rcases List.mem_append.1 hp with hp | hp <;>
      obtain ⟨value, -, rfl⟩ := Option.map_eq_some_iff.1 (Option.mem_toList.1 hp)
    · exact .inl rfl
    · exact .inr rfl
  rcases hname with hname | hname <;> rw [hname] <;> decide

theorem unmarked_append {front path : String} (hfront : Unmarked front.toList)
    (hpath : Unmarked path.toList) : Unmarked (front ++ path).toList := by
  rw [String.toList_append]
  exact List.forall_mem_append.2 ⟨hfront, hpath⟩

/-- A listing has the parameters that it is given and no others, whatever they are. -/
theorem asks_listed (plusIsBlank : Bool) (hbase : Unmarked (Session.base s.account).toList)
    (filters : Filters) : Asks (.torrents filters) s fun target =>
      parameters plusIsBlank target = (listed filters).map found := by
  have hfront : Unmarked (Session.base s.account ++ "/api/v2/torrents/info").toList :=
    unmarked_append hbase (by decide)
  refine ((looksUp_torrents filters).asks s).mono ?_
  rintro _ ⟨url, hurl, hreach, rfl⟩
  have hweb := isReachable_scheme hreach
  rw [listingQuery_eq] at hurl
  split at hurl
  · rename_i hnone
    rw [String.append_empty] at hurl
    rw [hnone, Url.parameters_target_of_unmarked hfront hurl hweb, List.map_nil]
  · rw [← String.append_assoc, ← String.append_assoc] at hurl
    rw [Url.parameters_target_of_query hfront hurl hweb,
      Url.parametersOf_arriving_components isPlain_of_listed]

/-- A lookup that puts a value into its address as it is, has it as its parameter exactly if nothing
    in it means anything in a query. -/
theorem LooksUp.asks_verbatim_iff {op : Operation} {path name value : String}
    (h : LooksUp op (path ++ "?" ++ name ++ "=" ++ value)) (plusIsBlank : Bool)
    (hbase : Unmarked (Session.base s.account).toList) (hpath : Unmarked path.toList)
    (hname : Url.IsPlain name.toList) : Asks op s fun target =>
      parameters plusIsBlank target = [found (name, value)] ↔ Verbatim plusIsBlank value.toList := by
  refine (h.asks s).mono ?_
  rintro _ ⟨url, hurl, hreach, rfl⟩
  have haddress : Session.base s.account ++ (path ++ "?" ++ name ++ "=" ++ value)
      = Session.base s.account ++ path ++ "?" ++ (name ++ "=" ++ value) := by
    simp only [String.append_assoc]
  rw [haddress] at hurl
  have hquery : (name ++ "=" ++ value).toList = name.toList ++ '=' :: value.toList := by simp
  have hiff := Url.parametersOf_arriving_verbatim_iff plusIsBlank hname value.toList
  rw [String.ofList_toList, String.ofList_toList] at hiff
  rw [Url.parameters_target_of_query (unmarked_append hbase hpath) hurl (isReachable_scheme hreach),
    hquery]
  exact hiff

/-- What parameters lookups have, at a server whose address has no query and no fragment of its own, and
    whether `+` is a blank there or itself.

    A listing has the state filter and the category that it is given and nothing else, whatever they
    are. To look for a torrent or for its files puts the info hash, in lower case, into the address as
    it is; it is the one parameter exactly if nothing in it means anything in a query. -/
theorem lookup_parameters (plusIsBlank : Bool) (s : Session)
    (hbase : Unmarked (Session.base s.account).toList) :
    (∀ filters, Asks (.torrents filters) s fun target =>
      parameters plusIsBlank target = (listed filters).map found) ∧
    (∀ infoHash, Asks (.torrent infoHash) s fun target =>
      (parameters plusIsBlank target = [found ("hashes", Text.lowercase infoHash)] ↔
        Verbatim plusIsBlank (Text.lowercase infoHash).toList)) ∧
    ∀ infoHash, Asks (.contents infoHash) s fun target =>
      (parameters plusIsBlank target = [found ("hash", Text.lowercase infoHash)] ↔
        Verbatim plusIsBlank (Text.lowercase infoHash).toList) := by
  refine ⟨asks_listed plusIsBlank hbase, fun infoHash => ?_, fun infoHash => ?_⟩
  · have hstart : "/api/v2/torrents/info?hashes="
        = "/api/v2/torrents/info" ++ "?" ++ "hashes" ++ "=" := by decide
    have hlooks := looksUp_torrent infoHash
    rw [hstart] at hlooks
    exact hlooks.asks_verbatim_iff plusIsBlank hbase (by decide) (by decide)
  · have hstart : "/api/v2/torrents/files?hash="
        = "/api/v2/torrents/files" ++ "?" ++ "hash" ++ "=" := by decide
    have hlooks := looksUp_contents infoHash
    rw [hstart] at hlooks
    exact hlooks.asks_verbatim_iff plusIsBlank hbase (by decide) (by decide)

/-- A server that has no torrents. -/
def emptyServer : Network :=
  ⟨"http://127.0.0.1:8080", [.answer 200 (utf8 "Ok.") true none], .answer 200 (utf8 "[]") true none, []⟩

/-- What takes place there if an operation is the first one. -/
def exchangesAt (op : Operation) : List Exchange :=
  (op.run.from (Session.start localAccount emptyServer)).2.network.exchanges

theorem unmarked_base_localAccount : Unmarked (Session.base localAccount).toList := by
  decide

/-- There, a listing has values that need encoding as its parameters, and a lookup has its info hash. -/
theorem lookup_parameters_local :
    Unmarked (Session.base localAccount).toList ∧
      (exchangesAt (.torrents ⟨some "a&b", some "c+d", true⟩)).map (fun x => (x.request.method, x.target))
        = [(.post, "/api/v2/auth/login"),
          (.get, "/api/v2/torrents/info?filter=a%26b&category=c%2Bd")] ∧
      (∀ x ∈ exchangesAt (.torrents ⟨some "a&b", some "c+d", true⟩), x.request.method = .get →
        parameters true x.target = [found ("filter", "a&b"), found ("category", "c+d")]) ∧
      (exchangesAt (.torrent "AB")).map (fun x => (x.request.method, x.target))
        = [(.post, "/api/v2/auth/login"), (.get, "/api/v2/torrents/info?hashes=ab")] ∧
      ∀ x ∈ exchangesAt (.torrent "AB"), x.request.method = .get →
        parameters true x.target = [found ("hashes", "ab")] := by
  have hlower : Text.lowercase "AB" = "ab" := by decide +kernel
  have hplain : Url.IsPlain "ab".toList := by decide
  have hother : ∀ x : Exchange, x.request.method = .get → x.request ≠ loginRequest localAccount := by
    rintro x hget heq
    rw [heq] at hget
    cases hget
  obtain ⟨hlisted, hhash, -⟩ :=
    lookup_parameters true (Session.start localAccount emptyServer) unmarked_base_localAccount
  have hlisting := (hlisted ⟨some "a&b", some "c+d", true⟩).of_start rfl
  have hlookup := (hhash "AB").of_start rfl
  rw [hlower] at hlookup
  exact ⟨unmarked_base_localAccount, by decide +kernel, fun x hx hget => hlisting x hx (hother x hget),
    by decide +kernel,
    fun x hx hget => (hlookup x hx (hother x hget)).2 (Url.verbatim_of_isPlain hplain)⟩

/-- There, an info hash with `&` in it begins another parameter. -/
theorem not_parameters_of_ampersand : ¬ ∀ (s : Session) (infoHash : String),
    Unmarked (Session.base s.account).toList → Asks (.torrent infoHash) s fun target =>
      parameters false target = [found ("hashes", Text.lowercase infoHash)] := by
  intro h
  have hasked : ∃ x ∈ exchangesAt (.torrent "aa&filter=x"), x.request ≠ loginRequest localAccount ∧
      x.target = "/api/v2/torrents/info?hashes=aa&filter=x" := by
    decide +kernel
  have hfound : parameters false "/api/v2/torrents/info?hashes=aa&filter=x"
      = [found ("hashes", "aa"), found ("filter", "x")] := by
    decide +kernel
  have hall := (h (Session.start localAccount emptyServer) "aa&filter=x"
    unmarked_base_localAccount).of_start rfl
  obtain ⟨x, hx, hother, htarget⟩ := hasked
  have hone := hall x hx hother
  rw [htarget, hfound] at hone
  cases (List.cons.inj hone).2

end Seedkeeper.QBittorrent
