import Gleaner.Files.Fault
import Gleaner.Url.Basic

set_option autoImplicit false

/-! # Failures of an exchange

Between a request and the whole of its response much can go wrong. A failure has a message, which names
the address, and a list of causes from the outermost to the innermost; the message is the first of them. -/

namespace Gleaner.Http

/-- What stands in the way of a connection. -/
inductive Obstacle where
  /-- The system makes no connection, for the reason with the number. -/
  | refusal (code : Nat)
  /-- The way leads through a tunnel, and something stands in the way of its near end. -/
  | tunnel (before : Obstacle)
  deriving DecidableEq, Repr

/-- The texts of an obstacle, the outermost first. -/
def Obstacle.messages : Obstacle → List String
  | refusal code => ["tcp connect error", SystemCode.message code]
  | tunnel before => "tunnel error: failed to create underlying connection" :: before.messages

/-- Why a request could not be sent or was not answered. -/
inductive Cause where
  /-- There is no connection to the host. -/
  | unreachable (obstacle : Obstacle)
  /-- The connection was closed before an answer came. -/
  | closed
  deriving DecidableEq, Repr

/-- The causes of a cause, itself included. -/
def Cause.messages : Cause → List String
  | unreachable obstacle => "client error (Connect)" :: obstacle.messages
  | closed => ["client error (SendRequest)", "connection closed before message completed"]

/-- A failed exchange. -/
inductive Fault where
  /-- The address cannot stand in a request. -/
  | unsendable (url : Url)
  /-- Redirected to an address of another scheme. -/
  | foreignScheme (url : Url)
  | unanswered (url : Url) (cause : Cause)
  | tooManyRedirects (url : Url)
  /-- The body broke off. -/
  | brokenBody
  deriving DecidableEq, Repr

namespace Fault

/-- The wording of a failure. -/
def message : Fault → String
  | unsendable url | foreignScheme url => "builder error for url (" ++ url.text ++ ")"
  | unanswered url _ => "error sending request for url (" ++ url.text ++ ")"
  | tooManyRedirects url => "error following redirect for url (" ++ url.text ++ ")"
  | brokenBody => "error decoding response body"

/-- The message and the causes behind it. -/
def causes (f : Fault) : List String :=
  f.message ::
    match f with
    | unsendable _ => ["Parsed Url is not a valid Uri"]
    | foreignScheme _ => ["URL scheme is not allowed"]
    | unanswered _ cause => cause.messages
    | tooManyRedirects _ => ["too many redirects"]
    | brokenBody => ["request or response body error", "end of file before message length reached"]

end Fault

end Gleaner.Http
