import Gleaner.Duration
import Gleaner.Rule.Walk

set_option autoImplicit false

/-! # Configurations

What all requests of a crawler have in common: how it introduces itself, the header fields it sends unless
a request has its own, how long it waits, how often it follows a redirect, and how deep rules may be
nested. -/

namespace Gleaner

/-- The settings of a crawler. -/
structure Config where
  userAgent : String := "Mozilla/5.0 (compatible; RuleCrawler/0.1)"
  /-- A limit for a whole exchange; without one an answer is waited for indefinitely. -/
  timeout : Option Duration := none
  maxRedirects : UInt32 := 10
  /-- Fields by name; of several for one name the last one counts. -/
  headers : List (String × String) :=
    [("Accept", "text/html,application/xhtml+xml,application/xml;q=0.9,*/*;q=0.8"),
      ("Accept-Language", "en-US,en;q=0.5")]
  maxRuleDepth : UInt64 := UInt64.ofNat Rule.defaultBound
  deriving DecidableEq, Repr

namespace Config

/-- With another name of the crawler. -/
def withUserAgent (c : Config) (userAgent : String) : Config := { c with userAgent }

/-- With a time limit. -/
def withTimeout (c : Config) (limit : Duration) : Config := { c with timeout := some limit }

/-- With one more header field. -/
def withHeader (c : Config) (name value : String) : Config :=
  { c with headers := c.headers ++ [(name, value)] }

/-- With another bound for rules. -/
def withMaxRuleDepth (c : Config) (depth : UInt64) : Config := { c with maxRuleDepth := depth }

/-! ## From the environment -/

/-- The variables of an environment. -/
abbrev Environment := String → Option String

/-- The names of the variables that make settings. -/
def variableNames : List String :=
  ["CRAWLER_USER_AGENT", "CRAWLER_TIMEOUT_SECS", "CRAWLER_MAX_REDIRECTS", "CRAWLER_MAX_RULE_DEPTH"]

/-- A natural number below a limit: decimal digits, perhaps with a plus sign before them. -/
def number? (limit : Nat) (s : String) : Option Nat :=
  let digits := match s.toList with
    | '+' :: rest => rest
    | cs => cs
  if digits.isEmpty || !digits.all Text.isAsciiDigit then none
  else
    let n := digits.foldl (fun n c => n * 10 + (c.toNat - '0'.toNat)) 0
    if n < limit then some n else none

/-- The configuration with the settings that the environment makes; what is no number there is passed
over. -/
def ofEnvironment (environment : Environment) : Config :=
  let setting (name : String) (limit : Nat) : Option Nat := (environment name).bind (number? limit)
  let default : Config := {}
  { default with
    userAgent := (environment "CRAWLER_USER_AGENT").getD default.userAgent
    timeout := ((setting "CRAWLER_TIMEOUT_SECS" UInt64.size).map fun n =>
      Duration.ofSeconds (UInt64.ofNat n)).or default.timeout
    maxRedirects := ((setting "CRAWLER_MAX_REDIRECTS" UInt32.size).map UInt32.ofNat).getD
      default.maxRedirects
    maxRuleDepth := ((setting "CRAWLER_MAX_RULE_DEPTH" UInt64.size).map UInt64.ofNat).getD
      default.maxRuleDepth }

end Config

end Gleaner
