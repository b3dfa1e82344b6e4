import Gleaner.Files.Fault
import Gleaner.Http.Fault
import Gleaner.Http.Status
import Gleaner.Json.Mismatch

set_option autoImplicit false

/-! # Errors

Everything that can go wrong between a configuration and a result. An error is of one of three kinds:
something that was given is wrong, which is noticed before anything is sent or written; the exchange with
the server failed; or a file could not be read or written. -/

namespace Gleaner

/-- Why there is no result. -/
inductive Error where
  /-- A setting, the options of a request or a destination. -/
  | config (reason : String)
  | http (fault : Http.Fault)
  /-- An answer whose status is not plain success. -/
  | status (code : Nat) (reason : String)
  | urlParse (error : UrlError)
  | io (fault : FileFault)
  /-- An address that no request is sent to. -/
  | invalidUrl (url : String)
  | invalidHeader (reason : String)
  | invalidRule (path reason : String)
  | json (error : Json.Error)
  deriving DecidableEq

/-- What an error comes from. -/
inductive Error.Kind where
  /-- Something that was given, noticed before anything is done. -/
  | config
  /-- The exchange with the server. -/
  | transport
  /-- The file system. -/
  | io
  deriving DecidableEq, Repr

namespace Error

/-- The kind of an error. -/
def kind : Error → Kind
  | http _ | status _ _ => .transport
  | io _ => .io
  | config _ | urlParse _ | invalidUrl _ | invalidHeader _ | invalidRule _ _ | json _ => .config

/-- The wording of an error. -/
def message : Error → String
  | config reason => "Invalid crawler configuration: " ++ reason
  | http fault => "HTTP error: " ++ fault.message
  | status code reason => toString code ++ " " ++ reason
  | urlParse error => "URL parse error: " ++ error.message
  | io fault => "IO error: " ++ fault.message
  | invalidUrl url => "Invalid URL: " ++ url
  | invalidHeader reason => "Invalid header: " ++ reason
  | invalidRule path reason => "Invalid rule at " ++ path ++ ": " ++ reason
  | json error => "JSON error: " ++ error.message

/-- What is behind an error, from the outermost cause to the innermost. -/
def causes : Error → List String
  | http fault => fault.causes
  | urlParse error => [error.message]
  | io fault => [fault.message]
  | json error => [error.message]
  | config _ | status _ _ | invalidUrl _ | invalidHeader _ | invalidRule _ _ => []

/-- The error of an answer with another status than plain success. -/
def ofStatus (code : Nat) : Error := .status code ((Http.Status.reason? code).getD "Unknown")

/-- The error of a text that is no JSON. -/
def ofText (error : Json.ReadError) : Error := .json (.text error)

/-- The error of a value of another shape. -/
def ofShape (mismatch : Json.Mismatch) : Error := .json (.shape mismatch)

end Error

end Gleaner
