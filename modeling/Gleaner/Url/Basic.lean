import Gleaner.Url.Host

set_option autoImplicit false

/-! # Addresses on the web

An address is a scheme and, behind it, a path, perhaps with the host it belongs to, a query and a
fragment. The parts are kept in the encoded form in which they are written, so two addresses that are
written alike are equal. -/

namespace Gleaner

/-- The owner of a path: a host, and who asks it for the path. -/
structure Url.Authority where
  username : String := ""
  password : Option String := none
  host : Host
  /-- The port, unless it is the default of the scheme. -/
  port : Option Nat := none
  deriving DecidableEq, Repr

/-- What an address leads to. -/
inductive Url.Path where
  /-- Segments behind one slash each. -/
  | segments (parts : List String)
  /-- A text without a root, to which no other path is relative. -/
  | rootless (content : String)
  deriving DecidableEq, Repr

/-- An address. -/
structure Url where
  scheme : String
  authority : Option Url.Authority
  path : Url.Path
  query : Option String := none
  fragment : Option String := none
  deriving DecidableEq, Repr

namespace Url

/-! ## Schemes -/

/-- The default port of a scheme. -/
def defaultPort? (scheme : String) : Option Nat :=
  match scheme with
  | "http" | "ws" => some 80
  | "https" | "wss" => some 443
  | "ftp" => some 21
  | _ => none

/-- Schemes whose addresses always have a host, which is a domain name, and a path. -/
def isSpecial (scheme : String) : Bool :=
  ["http", "https", "ws", "wss", "ftp", "file"].contains scheme

/-! ## Writing -/

/-- The name and the password before the host. -/
def Authority.userInfo (a : Authority) : String :=
  match a.password with
  | some password => a.username ++ ":" ++ password ++ "@"
  | none => if a.username = "" then "" else a.username ++ "@"

/-- The host and the port. -/
def Authority.hostText (a : Authority) : String :=
  a.host.text ++ ((a.port.map fun p => ":" ++ toString p).getD "")

/-- The path as it is written. -/
def Path.text : Path → String
  | .segments parts => String.join (parts.map ("/" ++ ·))
  | .rootless content => content

/-- The parts of an address up to its path. A path that would look like a host is kept apart from the
scheme. -/
def lead (u : Url) : String :=
  match u.authority with
  | some a => u.scheme ++ "://" ++ a.userInfo ++ a.hostText
  | none =>
    match u.path with
    | .segments ("" :: _ :: _) => u.scheme ++ ":/."
    | _ => u.scheme ++ ":"

/-- The address up to the query. -/
def beforeFragment (u : Url) : String :=
  u.lead ++ u.path.text ++ ((u.query.map ("?" ++ ·)).getD "")

/-- The whole address. -/
def text (u : Url) : String := u.beforeFragment ++ ((u.fragment.map ("#" ++ ·)).getD "")

end Url

end Gleaner
