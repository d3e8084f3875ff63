import Seedkeeper.Client.Basic
import Seedkeeper.Http.Exchange
import Seedkeeper.Text.Marked

/-!
A session with a qBittorrent server.

Nothing is asked before a login has succeeded. When the server answers a request with status 403 the
session has expired: the client logs in again and asks once more, and what the server says then is
the answer. Uploads are not asked twice. A failed login ends the operation.
-/

namespace Seedkeeper.QBittorrent

open Client (Error Run)
open Http (Body Network Request)
open Text (Bytes)

/-- An account on a server. -/
structure Account where
  /-- What the client is called. -/
  name : String
  /-- Where the server's interface is; slashes at its end do not count. -/
  address : String
  username : String
  password : String
  /-- How many seconds an answer may take; with none at all there is never one. -/
  patience : Nat
  deriving DecidableEq

/-- The state of a client of a server. -/
structure Session where
  account : Account
  /-- Whether a login succeeded and the session has not been seen to expire since. -/
  signedIn : Bool
  jar : Http.Jar
  network : Network

namespace Session

/-- Before the first request. -/
def start (account : Account) (network : Network) : Session := ⟨account, false, [], network⟩

/-! ### Requests and answers -/

/-- An answer that arrived. -/
structure Answer where
  status : Nat
  /-- The body, unless its end is missing. -/
  body : Option Bytes
  deriving DecidableEq

/-- A body as text. -/
def bodyText (body : Bytes) : String := Text.ofMarkedLossy body

/-- The complaint about a request that could not be made or got no answer. -/
def aboutUrl (what : String) (url : Url) : String := what ++ " for url (" ++ url.text ++ ")"

/-- Whether requests can be made to an address. -/
def isReachable (url : Url) : Bool :=
  url.host.isSome && (url.scheme == "http" || url.scheme == "https")

/-- The cookies after an answer to a request for an address. -/
def keepCookie (jar : Http.Jar) (url : Url) (header : Option String) : Http.Jar :=
  match header.bind (Http.Cookie.ofHeader? (url.host.getD "") url.path) with
  | some c => jar.keep c
  | none => jar

/-- One request to a server: its answer, or why there is none. -/
def ask (request : Request) : Run Session Answer := do
  match Url.ofText? request.address with
  | none => throw (.apiError "builder error")
  | some url =>
    if !isReachable url then throw (.apiError (aboutUrl "builder error" url))
    let s ← get
    if s.account.patience = 0 then throw .timeout
    let (reply, network) := s.network.send request url (s.jar.header? url.path)
    match reply with
    | .refuse =>
      set { s with network }
      throw (.connectionFailed (aboutUrl "error sending request" url))
    | .silence =>
      set { s with network }
      throw .timeout
    | .hangUp =>
      set { s with network }
      throw (.apiError (aboutUrl "error sending request" url))
    | .answer status body whole cookie =>
      set { s with network, jar := keepCookie s.jar url cookie }
      return ⟨status,
        if Http.isBodiless status then some [] else if whole then some body else none⟩

/-- The text of an answer that says the request was done. -/
def read (a : Answer) : Run Session String :=
  if Http.isSuccess a.status then
    match a.body with
    | some body => return bodyText body
    | none => throw (.apiError "error decoding response body")
  else throw (.apiError ("HTTP " ++ Http.statusText a.status))

/-! ### Logging in -/

/-- The server's address without slashes at its end. -/
def base (account : Account) : String :=
  String.ofList (account.address.toList.reverse.dropWhile (· = '/')).reverse

/-- The login request. -/
def loginRequest (account : Account) : Request :=
  ⟨.post, base account ++ "/api/v2/auth/login",
    .form [("username", account.username), ("password", account.password)]⟩

/-- What a login's answer means: nothing, or why it failed. -/
def verdict? (a : Answer) : Option Error :=
  let text := (a.body.map bodyText).getD ""
  if Text.contains text "Ok." then none
  else if Text.contains text "Fails." ∨ a.status = 403 then
    some (.authenticationFailed "Invalid credentials")
  else
    some (.authenticationFailed
      ("Unexpected response: " ++ String.ofList (text.toList.take 100)))

/-- A login. -/
def login : Run Session Unit := do
  let a ← ask (loginRequest (← get).account)
  match verdict? a with
  | none => modify fun s => { s with signedIn := true }
  | some e => throw e

/-- A login, unless the session stands. -/
def ensureSignedIn : Run Session Unit := do
  if (← get).signedIn then return () else login

/-! ### Authenticated requests -/

/-- A request within the session, made again once if the session has expired. -/
def send (request : Request) : Run Session String := do
  ensureSignedIn
  let a ← ask request
  if a.status = 403 then
    modify fun s => { s with signedIn := false }
    login
    read (← ask request)
  else read a

/-- An upload within the session, made once. -/
def upload (request : Request) : Run Session String := do
  ensureSignedIn
  read (← ask request)

/-- What the server has at an endpoint. -/
def fetch (endpoint : String) : Run Session String := do
  send ⟨.get, base (← get).account ++ endpoint, .none⟩

/-- A form sent to an endpoint. -/
def post (endpoint : String) (fields : List (String × String)) : Run Session Unit := do
  let _ ← send ⟨.post, base (← get).account ++ endpoint, .form fields⟩

end Session

end Seedkeeper.QBittorrent
