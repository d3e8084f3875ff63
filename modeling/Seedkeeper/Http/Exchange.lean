import Seedkeeper.Http.Cookie
import Seedkeeper.Http.Status
import Seedkeeper.Url.Basic

/-!
Requests, what a server does with them, and a network with one server in it.

A server's behaviour is given beforehand: what it does with the first request, the second, and so
on, and with every request after those. Whatever a server does, some such list describes it, so what
holds for every list holds for every server. The network keeps all exchanges in order. No answer names
another address to go to, so a status that redirects is an answer like any other.
-/

namespace Seedkeeper.Http

open Text (Bytes)

/-- One part of a multipart body. -/
structure Part where
  name : String
  filename : Option String
  contentType : Option String
  content : Bytes
  deriving DecidableEq

/-- A part that is a plain text. -/
def Part.text (name content : String) : Part := ⟨name, none, none, Text.utf8 content⟩

/-- What a request carries. -/
inductive Body where
  | none
  | form (fields : List (String × String))
  | multipart (parts : List Part)
  deriving DecidableEq

/-- The method of a request. -/
inductive Method where
  | get
  | post
  deriving DecidableEq

/-- The name of a method. -/
def Method.name : Method → String
  | .get => "GET"
  | .post => "POST"

/-- A request. -/
structure Request where
  method : Method
  /-- The address as it is put together; it may turn out not to be one. -/
  address : String
  body : Body
  deriving DecidableEq

/-- What a server does with a request. -/
inductive Reply where
  /-- It answers, without a `Location`. A body that is not whole ends before its announced length. -/
  | answer (status : Nat) (body : Bytes) (whole : Bool) (cookie : Option String)
  /-- It takes the request and closes the connection. -/
  | hangUp
  /-- It lets nobody connect. -/
  | refuse
  /-- It never answers. -/
  | silence
  deriving DecidableEq

/-- Whether the server got to see the request. -/
def Reply.wasSeen : Reply → Bool
  | .answer .. | .hangUp => true
  | .refuse | .silence => false

/-- A request as it was sent and what came of it. -/
structure Exchange where
  request : Request
  /-- Path and query as they were sent. -/
  target : String
  cookie : Option String
  reply : Reply
  deriving DecidableEq

/-- A network with one server. -/
structure Network where
  /-- Where the server is: scheme, host and port. -/
  origin : String
  /-- What the server does with the requests to come, in order. -/
  script : List Reply
  /-- What it does with those after them. -/
  afterScript : Reply
  /-- In the order they happened. -/
  exchanges : List Exchange

namespace Network

/-- What the server does next, and the network after it. -/
def next (n : Network) : Reply × Network :=
  match n.script with
  | [] => (n.afterScript, n)
  | r :: rs => (r, { n with script := rs })

/-- A request sent to an address; nobody is at any address but the server's. -/
def send (n : Network) (request : Request) (url : Url) (cookie : Option String) : Reply × Network :=
  if url.origin = n.origin then
    let (reply, n) := n.next
    (reply, { n with exchanges := n.exchanges ++ [⟨request, url.target, cookie, reply⟩] })
  else (.refuse, n)

end Network

end Seedkeeper.Http
