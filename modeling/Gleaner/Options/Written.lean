import Gleaner.Options

set_option autoImplicit false

/-! # Written request options

The options of a request are written as the text of its address, which is then simply fetched, as an
object, or as an array of the values in a fixed order. Some members of the object go by two names, but
only one of them at a time. A body is given as `body`, or as `json` or `form`, which come first; the
value `true` for `json` is no body but asks for JSON in return.

A value that is none of these is refused as a whole, whatever part of it is wrong. -/

namespace Gleaner

namespace Options

/-! ## Bodies -/

/-- The names of the variants of a body. -/
def Body.variants : List String := ["text", "json", "form"]

/-- The body that an object with one member is: its key tells what the value is. -/
def Body.ofJson : Json → Except Json.Mismatch Body
  | .obj [(variant, v)] =>
    match variant with
    | "text" => v.asText.map .text
    | "json" => .ok (.json v.arrange)
    | "form" => v.asTexts.map .form
    | _ => .error (.unknownVariant variant variants)
  | .obj _ => .error .notOneVariant
  | .str variant =>
    if variants.contains variant then .error .bareVariant
    else .error (.unknownVariant variant variants)
  | v => .error (.kind v "string or map")

/-- The body that any value is: a text, an object that tells what it is, or else JSON. -/
def Body.ofAny : Json → Body
  | .str s => .text s
  | v => (Body.ofJson v).toOption.getD (.json v.arrange)

/-- The written form of a body. -/
def Body.toJson : Body → Json
  | text content => .object [("text", .str content)]
  | json value => .object [("json", value)]
  | form fields => .object [("form", .ofDictionary fields)]

/-! ## The parts -/

/-- The values given for the parts of the options. -/
structure Draft where
  method : Option Json := none
  url : Option Json := none
  headers : Option Json := none
  query : Option Json := none
  body : Option Json := none
  json : Option Json := none
  form : Option Json := none
  timeout : Option Json := none

namespace Draft

/-- Enters a member; none if its part has been given before. Members of other names are passed over. -/
def enter (d : Draft) (name : String) (v : Json) : Option Draft :=
  match name with
  | "method" => if d.method.isNone then some { d with method := some v } else none
  | "url" | "uri" => if d.url.isNone then some { d with url := some v } else none
  | "headers" => if d.headers.isNone then some { d with headers := some v } else none
  | "query" | "qs" => if d.query.isNone then some { d with query := some v } else none
  | "body" => if d.body.isNone then some { d with body := some v } else none
  | "json" => if d.json.isNone then some { d with json := some v } else none
  | "form" => if d.form.isNone then some { d with form := some v } else none
  | "timeout_ms" | "timeout" => if d.timeout.isNone then some { d with timeout := some v } else none
  | _ => some d

/-- The parts among the members of an object. -/
def ofMembers (members : List (String × Json)) : Option Draft :=
  members.foldlM (fun d (name, v) => d.enter name v) {}

/-- The order of the parts in an array. -/
def order : List String :=
  ["method", "url", "headers", "query", "body", "json", "form", "timeout_ms"]

/-- The parts in an array. -/
def ofItems (items : List Json) : Option Draft :=
  if order.length < items.length then none else ofMembers (order.zip items)

/-- A part that may be left out. -/
def optional {α : Type} (default : α) (read : Json → Except Json.Mismatch α) :
    Option Json → Option α
  | none => some default
  | some v => (read v).toOption

/-- A part that may be left out or be null. -/
def nullable {α : Type} (read : Json → Except Json.Mismatch α) : Option Json → Option (Option α)
  | none | some .null => some none
  | some v => (read v).toOption.map some

/-- The fields with one that asks for JSON, unless there is one of its name in any letter case. -/
def askForJson (headers : Dictionary String) : Dictionary String :=
  if headers.entries.any fun (name, _) => Text.sameLetters name "accept" then headers
  else headers.insert "Accept" "application/json"

/-- The body that comes first among those given. -/
def chooseBody (body json : Option Json) (form : Option (Dictionary String)) : Option Body :=
  match form, json with
  | some fields, _ => some (.form fields)
  | none, none | none, some .null | none, some (.bool _) =>
    match body with
    | none | some .null => none
    | some v => some (Body.ofAny v)
  | none, some v => some (.json v.arrange)

/-- The options that the parts make. -/
def options? (d : Draft) : Option Options := do
  let method ← optional defaultMethod Json.asText d.method
  let url ← (← d.url).asText.toOption
  let headers ← optional .empty Json.asTexts d.headers
  let query ← optional .empty Json.asTexts d.query
  let form ← nullable Json.asTexts d.form
  let timeoutMs ← nullable (Json.asUInt64 "u64") d.timeout
  some
    { method, url, query, timeoutMs
      headers := if d.json = some (.bool true) then askForJson headers else headers
      body := chooseBody d.body d.json form }

end Draft

/-! ## The whole -/

/-- The options that a value is, if it is of one of the forms. -/
def ofJson? : Json → Option Options
  | .str url => some (get url)
  | .obj members => (Draft.ofMembers members).bind Draft.options?
  | .arr items => (Draft.ofItems items).bind Draft.options?
  | _ => none

/-- The options that a value is. -/
def ofJson (v : Json) : Except Json.Mismatch Options :=
  match ofJson? v with
  | some o => .ok o
  | none => .error (.notRequestOptions v.arrange)

/-- The options that a text spells. What follows the value is looked at last. -/
def read (s : String) : Except Json.Error Options := do
  let (v, c) ← (Json.readAsWritten (Utf8.encode s)).mapError .text
  let o ← (ofJson v).mapError .shape
  c.finish.mapError .text
  .ok o

/-- The written form of options, with all parts. -/
def toJson (o : Options) : Json :=
  .object [("method", .str o.method), ("url", .str o.url), ("headers", .ofDictionary o.headers),
    ("query", .ofDictionary o.query), ("body", (o.body.map Body.toJson).getD .null),
    ("timeout_ms", (o.timeoutMs.map Json.ofUInt64).getD .null)]

end Options

end Gleaner
