import Gleaner.Duration
import Gleaner.Http.Field
import Gleaner.Http.Status
import Gleaner.Json.Reader
import Gleaner.Url.Reader

set_option autoImplicit false

/-! # Requests and responses

A request is what a server gets to see, apart from the fields that the connection itself adds: the host,
the length of the body and how long the connection lasts. With it goes the time that the client is ready to
wait: a server that takes longer might as well not have answered. A response is complete: its body has
arrived. -/

namespace Gleaner.Http

/-! ## Requests -/

/-- A request. -/
structure Request where
  method : String
  url : Url
  fields : Fields
  body : Option Bytes := none
  /-- A limit for the whole exchange. -/
  timeout : Option Duration := none
  deriving DecidableEq, Repr

/-- The longest address in a request. -/
def addressLimit : Nat := 65534

/-- The characters of host names that addresses allow and requests do not. -/
def isUnsendable (c : Char) : Bool := "\x22\x60\x7b\x7d".contains c

/-- An address that a request can be sent to. -/
def isSendable (url : Url) : Bool :=
  url.text.utf8ByteSize ≤ addressLimit &&
    match url.authority with
    | some a => !a.host.text.toList.any isUnsendable
    | none => false

/-! ## Responses -/

/-- A response. -/
structure Response where
  /-- The address that answered, after all redirects. -/
  url : Url
  status : Nat
  fields : Fields
  body : Bytes
  deriving DecidableEq, Repr

namespace Response

/-- The status is that of plain success. -/
def isOk (r : Response) : Bool := r.status == Status.ok

/-- The reason for the status; empty if it has none. -/
def statusText (r : Response) : String := (Status.reason? r.status).getD ""

/-- The body as text. -/
def text (r : Response) : String := Utf8.decodeLossy r.body

/-- The body as JSON. -/
def json (r : Response) : Except Json.ReadError Json := Json.readBytes r.body

end Response

end Gleaner.Http
