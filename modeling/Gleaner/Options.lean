import Gleaner.Duration
import Gleaner.Error
import Gleaner.Url.Reader

set_option autoImplicit false

/-! # Request options

The options of a request tell what to ask for and how: a method, an address, header fields, query
parameters, a body and a time limit. They are data and may be wrong; `address` is the check that comes
before anything is sent. -/

namespace Gleaner

/-- What is sent along with a request. -/
inductive Options.Body where
  | text (content : String)
  | json (value : Json)
  | form (fields : Dictionary String)
  deriving DecidableEq

/-- The options of a request. -/
structure Options where
  method : String
  url : String
  headers : Dictionary String
  query : Dictionary String
  body : Option Options.Body
  /-- A limit for the whole exchange. -/
  timeoutMs : Option UInt64
  deriving DecidableEq

namespace Options

/-- The method unless another one is set. -/
def defaultMethod : String := "GET"

/-- A request for what is at an address. -/
def get (url : String) : Options where
  method := defaultMethod
  url := url
  headers := .empty
  query := .empty
  body := none
  timeoutMs := none

/-- With another method. -/
def withMethod (o : Options) (method : String) : Options := { o with method }

/-- With one more header field, or another value for it. -/
def withHeader (o : Options) (name value : String) : Options :=
  { o with headers := o.headers.insert name value }

/-- With one more query parameter, or another value for it. -/
def withQuery (o : Options) (name value : String) : Options :=
  { o with query := o.query.insert name value }

/-- With a body. -/
def withBody (o : Options) (body : Body) : Options := { o with body := some body }

/-- With a time limit, of which the whole milliseconds are kept, modulo the range of 64 bits. -/
def withTimeout (o : Options) (limit : Duration) : Options :=
  { o with timeoutMs := some (UInt64.ofNat limit.milliseconds) }

/-! ## The address -/

/-- The schemes that requests can be sent by. -/
def schemes : List String := ["http", "https"]

/-- The address, without the blanks around it, if a request can be sent there. -/
def address (o : Options) : Except Error Url :=
  match Text.trim o.url.toList with
  | [] => .error (.config "empty crawler options are invalid")
  | trimmed =>
    match Url.read (String.ofList trimmed) with
    | .error e => .error (.urlParse e)
    | .ok url => if schemes.contains url.scheme then .ok url else .error (.invalidUrl o.url)

end Options

end Gleaner
