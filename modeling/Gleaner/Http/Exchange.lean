import Gleaner.Http.Fault
import Gleaner.Http.Message

set_option autoImplicit false

/-! # Exchanges with a server

A server is a function: it gets all requests sent so far and replies to the last of them, so it may change
its mind from one request to the next but not otherwise. An exchange sends a request, follows redirects up
to a limit and ends with the head of a response, whose body then arrives in chunks and may break off. -/

namespace Gleaner.Http

/-! ## Replies -/

/-- A body on its way. -/
structure Stream where
  chunks : List Bytes
  /-- How many chunks arrive before the connection breaks, if it does. -/
  brokenAfter : Option Nat := none
  deriving DecidableEq, Repr

namespace Stream

/-- The whole body. -/
def content (s : Stream) : Bytes := s.chunks.flatten

/-- The whole body arrives. -/
def isComplete (s : Stream) : Bool := s.brokenAfter.isNone

/-- What a reader of the body meets, one after the other: chunks, and behind them the failure that the
body breaks off with, if it does. -/
def deliveries (s : Stream) : List (Except Fault Bytes) :=
  match s.brokenAfter with
  | none => s.chunks.map .ok
  | some count => (s.chunks.take count).map .ok ++ [.error .brokenBody]

end Stream

/-- The bytes that are delivered, if no failure is among the deliveries. -/
def collect : List (Except Fault Bytes) → Except Fault Bytes
  | [] => .ok []
  | .ok chunk :: rest => (collect rest).map (chunk ++ ·)
  | .error fault :: _ => .error fault

/-- What becomes of a request. -/
inductive Reply where
  /-- It does not reach the server. -/
  | unreachable (obstacle : Obstacle)
  /-- The server closes the connection instead of answering. -/
  | silence
  | response (status : Nat) (fields : Fields) (body : Stream)
  deriving DecidableEq, Repr

/-- The reply to the last of some requests. -/
abbrev Server := List Request → Reply

/-- A server that no request reaches, because no network is at hand. What a secure request meets with is
known of a client only that sends these through a proxy, so they are taken to end before a tunnel. -/
def Server.unreachable : Server := fun sent =>
  let refusal := Obstacle.refusal SystemCode.networkUnreachable
  .unreachable (if sent.getLast?.any (·.url.scheme == "https") then .tunnel refusal else refusal)

/-! ## Redirects -/

/-- The statuses that send the client to another address. -/
def isRedirect (status : Nat) : Bool := [301, 302, 303, 307, 308].contains status

/-- The address that a response sends the client to. -/
def redirection? (url : Url) (status : Nat) (fields : Fields) : Option Url :=
  if isRedirect status then
    (fields.values "location").head?.bind fun location => (url.join location).toOption
  else none

/-- The redirect asks for another page than the request did, so the body stays behind. -/
def dropsBody (method : String) (status : Nat) : Bool :=
  status = 303 || ((status = 301 || status = 302) && method == "POST")

/-- Fields that describe a body. -/
def bodyFields : List String :=
  ["content-type", "content-length", "content-encoding", "transfer-encoding"]

/-- Fields that are for one host only. -/
def sensitiveFields : List String :=
  ["authorization", "cookie", "cookie2", "proxy-authorization", "www-authenticate"]

/-- The port, even if it is the default. -/
def portOf? (url : Url) : Option Nat :=
  (url.authority.bind (·.port)).or (Url.defaultPort? url.scheme)

/-- The two addresses have the same host and the same port. -/
def sameHost (a b : Url) : Bool :=
  a.authority.map (·.host) == b.authority.map (·.host) && portOf? a == portOf? b

/-- An address without the name and the password in it. -/
def withoutCredentials (url : Url) : Url :=
  { url with authority := url.authority.map fun a => { a with username := "", password := none } }

/-- What a request tells of the page before it, unless that page was secret. -/
def referer? (url next : Url) : Option String :=
  if url.scheme = "https" ∧ next.scheme = "http" then none
  else some { withoutCredentials url with fragment := none }.text

/-- The request that follows a redirect; the limit that the exchange has been given still stands. -/
def redirected (r : Request) (status : Nat) (next : Url) : Request :=
  let question := dropsBody r.method status
  let fields := if question then bodyFields.foldl Fields.erase r.fields else r.fields
  let fields := if sameHost r.url next then fields else sensitiveFields.foldl Fields.erase fields
  { method := if question && r.method != "HEAD" then "GET" else r.method
    url := next
    fields := match referer? r.url next with
      | some referer => fields.set ⟨"referer", referer⟩
      | none => fields
    body := if question then none else r.body
    timeout := r.timeout }

/-! ## Exchanges -/

/-- The head of a response, and its body. -/
structure Received where
  /-- The address that answered. -/
  url : Url
  status : Nat
  fields : Fields
  body : Stream
  deriving DecidableEq, Repr

/-- Sends a request after others and follows up to `limit` redirects. The answer is all requests that
reached the server, and what came of the last. -/
def Server.exchange (server : Server) :
    (limit : Nat) → Request → List Request → List Request × Except Fault Received
  | limit, r, sent =>
    if !isSendable r.url then (sent, .error (.unsendable r.url))
    else match server (sent ++ [r]) with
      | .unreachable obstacle => (sent, .error (.unanswered r.url (.unreachable obstacle)))
      | .silence => (sent ++ [r], .error (.unanswered r.url .closed))
      | .response status fields body =>
        match redirection? r.url status fields with
        | none => (sent ++ [r], .ok ⟨r.url, status, fields, body⟩)
        | some next =>
          match limit with
          | 0 => (sent ++ [r], .error (.tooManyRedirects r.url))
          | limit + 1 =>
            if next.scheme = "http" ∨ next.scheme = "https" then
              exchange server limit (redirected r status next) (sent ++ [r])
            else (sent ++ [r], .error (.foreignScheme next))

end Gleaner.Http
