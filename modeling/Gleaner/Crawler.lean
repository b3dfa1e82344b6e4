import Gleaner.Config
import Gleaner.Element
import Gleaner.Html.Reader
import Gleaner.Options
import Gleaner.Session
import Gleaner.Text.Base64

set_option autoImplicit false

/-! # Crawlers

A crawler is a configuration that has been checked. It fetches what the options of a request ask for,
writes it to a file, or reads it as a page and applies a rule to it.

Everything that is given is checked before anything is sent: an error of the kind `config` means that the
server has not been asked and that no file has been touched. -/

namespace Gleaner

/-! ## Checks -/

/-- The first fault among header fields. -/
def headersFault? (headers : List (String × String)) : Option Error :=
  headers.findSome? fun (name, value) =>
    (Http.fieldFault? name value).map fun fault => .invalidHeader (name ++ ": " ++ fault.message)

/-- The first fault of a configuration: its header fields come before its name. -/
def Config.fault? (c : Config) : Option Error :=
  (headersFault? c.headers).or
    (if Http.isFieldValue c.userAgent then none
    else some (.config "invalid client settings: builder error"))

/-- A configuration that can be used. -/
structure Crawler where
  config : Config
  sound : config.fault? = none

/-- The method in upper case, if it is one. -/
def Options.token (o : Options) : Except Error String :=
  let method := Text.upper o.method
  if Http.isToken method then .ok method
  else .error (.config ("invalid HTTP method: " ++ o.method))

namespace Crawler

/-- The crawler of a configuration. -/
def ofConfig (c : Config) : Except Error Crawler :=
  match h : c.fault? with
  | none => .ok ⟨c, h⟩
  | some e => .error e

/-! ## From options to a request -/

/-- The name and the password in an address, if they are texts, and at least one of them is there. -/
def credentials? (url : Url) : Option (String × Option String) := do
  let authority ← url.authority
  let decode (s : String) : Option String := Utf8.decode? (Percent.decode (Utf8.encode s))
  let username ← decode authority.username
  let password := authority.password.bind decode
  if username.isEmpty && password.isNone then none else some (username, password)

/-- The field that tells the server a name and a password. -/
def authorization (username : String) (password : Option String) : Http.Field :=
  let both := username ++ ":" ++ password.getD ""
  ⟨"authorization", "Basic " ++ String.ofList (Text.Base64.encode (Utf8.encode both))⟩

/-- An address with more parameters behind those that its query has. -/
def addQuery (url : Url) (parameters : Dictionary String) : Url :=
  if parameters.isEmpty then url
  else
    let added := Percent.form parameters.entries
    let query := match url.query with
      | none | some "" => added
      | some query => query ++ "&" ++ added
    { url with query := some query }

/-- The bytes of a body. -/
def bodyContent : Options.Body → Bytes
  | .text content => Utf8.encode content
  | .json value => Utf8.encode value.text
  | .form fields => Utf8.encode (Percent.form fields.entries)

/-- The type of a body that has one. -/
def bodyType? : Options.Body → Option String
  | .text _ => none
  | .json _ => some "application/json"
  | .form _ => some "application/x-www-form-urlencoded"

/-- The fields of requests that have no fields of these names. -/
def defaultFields (c : Config) : Http.Fields :=
  c.headers.foldl (fun fields (name, value) => fields.set (.of name value))
    [⟨"accept", "*/*"⟩, ⟨"user-agent", c.userAgent⟩]

/-- The fields of a request with these options, without those of the configuration. -/
def ownFields (url : Url) (o : Options) : Http.Fields :=
  let start : Http.Fields := match credentials? url with
    | some (username, password) => [authorization username password]
    | none => []
  let given := o.headers.entries.foldl (fun fields (name, value) => fields.add (.of name value)) start
  match o.body.bind bodyType? with
  | some type => given.supply ⟨"content-type", type⟩
  | none => given

/-- The request for an address with a method and these options. -/
def request (c : Crawler) (method : String) (url : Url) (o : Options) : Http.Request where
  method := method
  url := addQuery (if (credentials? url).isSome then Http.withoutCredentials url else url) o.query
  fields := (ownFields url o).supplyAll (defaultFields c.config)
  body := o.body.map bodyContent
  timeout := o.timeoutMs.map .ofMilliseconds

/-! ## Fetching -/

/-- The part of the program that talks to servers, in reports. -/
def clientSource : String := "rule_crawler::client"

/-- The part of the program that reads pages, in reports. -/
def parserSource : String := "rule_crawler::parser"

/-- The rest of the program, in reports. -/
def crawlerSource : String := "rule_crawler"

/-- A status in reports. -/
def statusText (status : Nat) : String :=
  toString status ++ " " ++ (Http.Status.reason? status).getD "<unknown status code>"

/-- Sends the request that the options describe. -/
def send (c : Crawler) (o : Options) : Action Http.Received := do
  let url ← o.address
  let method ← o.token
  Action.report .debug clientSource (method ++ " " ++ url.text)
  match headersFault? o.headers.entries with
  | some e => throw e
  | none => Action.send c.config.maxRedirects.toNat (c.request method url o)

/-- Fetches the whole response, whatever its status. -/
def fetch (c : Crawler) (o : Options) : Action Http.Response := do
  let received ← c.send o
  match Http.collect received.body.deliveries with
  | .ok body =>
    let response : Http.Response := ⟨received.url, received.status, received.fields, body⟩
    Action.report .info clientSource
      ("Fetched " ++ toString response.body.length ++ " bytes from " ++ response.url.text ++ " (" ++
        statusText response.status ++ ")")
    pure response
  | .error fault => throw (.http fault)

/-- Fetches a response; if `strict`, any status other than plain success is an error. -/
def fetchResponse (c : Crawler) (o : Options) (strict : Bool) : Action Http.Response := do
  let response ← c.fetch o
  if strict && !response.isOk then
    Action.report .warn crawlerSource
      ("Rejecting " ++ response.url.text ++ " with status " ++ statusText response.status)
    throw (.ofStatus response.status)
  else pure response

/-! ## Downloads -/

/-- The destination of a download, as a path from the root. -/
def destination (directory path : String) : Except Error String :=
  if path.isEmpty then .error (.config "empty file path for download")
  else .ok (FileTree.absolute directory path)

/-- Writes what is delivered to a file, up to the first failure, and answers how much has been written in
all. -/
def save (file : List String) (written : Nat) : List (Except Http.Fault Bytes) → Action Nat
  | [] => pure written
  | .ok chunk :: rest => do
    Action.append file chunk
    save file (written + chunk.length) rest
  | .error fault :: _ => throw (.http fault)

/-- Sends the request that the options describe and writes the body of a response of plain success to the
file at a path from the root, as far as it arrives. The file is created when the status is known, and not
before. The answer is the size of the file. -/
def download (c : Crawler) (o : Options) (path : String) : Action Nat := do
  let received ← c.send o
  if received.status = Http.Status.ok then
    Action.report .debug clientSource ("Streaming " ++ received.url.text ++ " to " ++ path)
    let file ← Action.create path
    let written ← save file 0 received.body.deliveries
    let size ← Action.size path
    if size ≠ written then
      Action.report .warn clientSource
        ("Wrote " ++ toString written ++ " bytes to " ++ path ++ " but it holds " ++ toString size)
    Action.report .info clientSource
      ("Downloaded " ++ toString size ++ " bytes to " ++ path)
    pure size
  else
    Action.report .warn clientSource
      ("Download of " ++ received.url.text ++ " rejected with status " ++ statusText received.status)
    throw (.ofStatus received.status)

/-- Downloads to a path, which may start in the working directory. -/
def fetchToFile (c : Crawler) (o : Options) (path : String) : Action Nat := do
  let path ← destination (← get).directory path
  let _ ← o.address
  c.download o path

/-! ## Extraction -/

/-- The result of a rule for the page that a body is. Addresses on the page are relative to `base`. -/
def extract (c : Crawler) (body : Bytes) (base : Option Url) (rule : Rule) : Json :=
  rule.walk (Element.accessors (Url.resolve base)) c.config.maxRuleDepth.toNat
    (Html.Page.readBytes body).top

/-- A result in reports. -/
def shape : Json → String
  | .obj members => toString members.length ++ " fields"
  | .arr items => toString items.length ++ " items"
  | .null => "null"
  | _ => "a single value"

/-- Fetches a page and applies a rule to it, or writes out its markup if there is no rule. -/
def fetchAndExtract (c : Crawler) (o : Options) (rule : Option Rule) : Action Json := do
  let response ← c.fetchResponse o true
  Action.report .debug parserSource
    ("Parsing " ++ toString response.body.length ++ " bytes of HTML")
  let result := c.extract response.body (some response.url) (rule.getD .html)
  Action.report .debug crawlerSource
    ("Extracted " ++ shape result ++ " from " ++ toString response.body.length ++ " bytes")
  pure result

end Crawler

end Gleaner
