import Gleaner.Config

set_option autoImplicit false

/-! # Written configurations

A configuration is written as an object with a member for every setting, or as an array of the settings
in a fixed order. Only the time limit may be left out, and only of an object. The first value that is
wrong is reported, members in the order in which they are written, and before any that are missing. -/

namespace Gleaner.Config

/-! ## Settings -/

/-- What a configuration is called in messages. -/
def expected : String := "struct CrawlerConfig"

/-- A time limit or null. -/
def timeoutOfJson : Json → Except Json.Mismatch (Option Duration)
  | .null => .ok none
  | v => (Duration.ofJson v).map some

/-- A header field as an array of its name and its value. -/
def headerOfJson : Json → Except Json.Mismatch (String × String)
  | .arr [] => .error (.length 0 "a tuple of size 2")
  | .arr [name] => do
    let _ ← name.asText
    .error (.length 1 "a tuple of size 2")
  | .arr (name :: value :: rest) => do
    let header := (← name.asText, ← value.asText)
    if rest.isEmpty then .ok header
    else .error (.length (rest.length + 2) "fewer elements in array")
  | v => .error (.kind v "a tuple of size 2")

/-- An array of header fields. -/
def headersOfJson : Json → Except Json.Mismatch (List (String × String))
  | .arr items => items.mapM headerOfJson
  | v => .error (.kind v "a sequence")

/-! ## The parts -/

/-- The settings that have been read. -/
structure Draft where
  userAgent : Option String := none
  timeout : Option (Option Duration) := none
  maxRedirects : Option UInt32 := none
  headers : Option (List (String × String)) := none
  maxRuleDepth : Option UInt64 := none

namespace Draft

/-- Reads one more setting; other names are passed over. -/
def enter (d : Draft) (name : String) (v : Json) : Except Json.Mismatch Draft :=
  match name with
  | "user_agent" => v.asText.map fun x => { d with userAgent := some x }
  | "timeout" => (timeoutOfJson v).map fun x => { d with timeout := some x }
  | "max_redirects" => v.asUInt32.map fun x => { d with maxRedirects := some x }
  | "headers" => (headersOfJson v).map fun x => { d with headers := some x }
  | "max_rule_depth" => (v.asUInt64 "usize").map fun x => { d with maxRuleDepth := some x }
  | _ => .ok d

/-- The order of the settings in an array. -/
def order : List String := ["user_agent", "timeout", "max_redirects", "headers", "max_rule_depth"]

/-- A setting that must have been read. -/
def need {α : Type} (name : String) (setting : Option α) : Except Json.Mismatch α :=
  match setting with
  | some x => .ok x
  | none => .error (.missingField name)

/-- The configuration, if nothing but the time limit is missing. -/
def config (d : Draft) : Except Json.Mismatch Config := do
  let userAgent ← need "user_agent" d.userAgent
  let maxRedirects ← need "max_redirects" d.maxRedirects
  let headers ← need "headers" d.headers
  let maxRuleDepth ← need "max_rule_depth" d.maxRuleDepth
  .ok { userAgent, timeout := d.timeout.getD none, maxRedirects, headers, maxRuleDepth }

end Draft

/-! ## The whole -/

/-- Reads the settings one after the other. -/
def readSettings (settings : List (String × Json)) : Except Json.Mismatch Draft :=
  settings.foldlM (fun d (name, v) => d.enter name v) {}

/-- The configuration that a value is. -/
def ofJson : Json → Except Json.Mismatch Config
  | .obj members => do (← readSettings members).config
  | .arr items => do
    let d ← readSettings (Draft.order.zip items)
    if items.length < Draft.order.length then
      .error (.length items.length (expected ++ " with 5 elements"))
    else
      let c ← d.config
      if items.length = Draft.order.length then .ok c
      else .error (.length items.length "fewer elements in array")
  | v => .error (.kind v expected)

/-- The written form of a configuration. -/
def toJson (c : Config) : Json :=
  .object [("user_agent", .str c.userAgent), ("timeout", (c.timeout.map (·.toJson)).getD .null),
    ("max_redirects", .ofUInt64 c.maxRedirects.toUInt64),
    ("headers", .arr (c.headers.map fun (name, value) => .arr [.str name, .str value])),
    ("max_rule_depth", .ofUInt64 c.maxRuleDepth)]

end Gleaner.Config
