import Gleaner.Json.Mismatch

set_option autoImplicit false

/-! # Spans of time

Time limits are counted in seconds and nanoseconds; the options of a request count whole milliseconds. -/

namespace Gleaner

/-- How many nanoseconds are a second. -/
abbrev Duration.nanosecondsPerSecond : Nat := 1000000000

/-- A span of time. -/
structure Duration where
  seconds : UInt64
  /-- What is left beyond the seconds. -/
  nanoseconds : Fin Duration.nanosecondsPerSecond
  deriving DecidableEq, Repr

namespace Duration

/-- A whole number of seconds. -/
def ofSeconds (n : UInt64) : Duration := ⟨n, 0⟩

/-- A whole number of milliseconds. -/
def ofMilliseconds (n : UInt64) : Duration :=
  ⟨n / 1000, Fin.ofNat nanosecondsPerSecond (n.toNat % 1000 * 1000000)⟩

/-- A number of nanoseconds, as far as the seconds in it can be counted. -/
def ofNanoseconds (n : Nat) : Duration :=
  ⟨UInt64.ofNat (n / nanosecondsPerSecond), Fin.ofNat nanosecondsPerSecond n⟩

/-- The whole milliseconds. -/
def milliseconds (d : Duration) : Nat := d.seconds.toNat * 1000 + d.nanoseconds.val / 1000000

/-! ## As JSON -/

/-- The names of the parts. -/
def fieldNames : List String := ["secs", "nanos"]

/-- A span of time as an object. -/
def toJson (d : Duration) : Json :=
  .object [("secs", .ofUInt64 d.seconds), ("nanos", .ofUInt64 (UInt64.ofNat d.nanoseconds.val))]

/-- A span of time with any number of nanoseconds, full seconds of which are carried over. -/
def ofParts (seconds : UInt64) (nanoseconds : UInt32) : Except Json.Mismatch Duration :=
  let carried := seconds.toNat + nanoseconds.toNat / nanosecondsPerSecond
  if carried < UInt64.size then
    .ok ⟨UInt64.ofNat carried, Fin.ofNat nanosecondsPerSecond nanoseconds.toNat⟩
  else .error .durationOverflow

/-- The parts that are given among the members of an object. -/
def parts (members : List (String × Json)) :
    Except Json.Mismatch (Option UInt64 × Option UInt32) :=
  members.foldlM (fun (seconds, nanoseconds) (name, v) =>
    match name with
    | "secs" => do .ok (some (← v.asUInt64 "u64"), nanoseconds)
    | "nanos" => do .ok (seconds, some (← v.asUInt32))
    | _ => .error (.unknownField name fieldNames)) (none, none)

/-- The span of time that an object or an array is. -/
def ofJson : Json → Except Json.Mismatch Duration
  | .arr [] => .error (.length 0 "struct Duration")
  | .arr [seconds] => do
    let _ ← seconds.asUInt64 "u64"
    .error (.length 1 "struct Duration")
  | .arr (seconds :: nanoseconds :: rest) => do
    let d ← ofParts (← seconds.asUInt64 "u64") (← nanoseconds.asUInt32)
    if rest.isEmpty then .ok d
    else .error (.length (rest.length + 2) "fewer elements in array")
  | .obj members => do
    match ← parts members with
    | (some seconds, some nanoseconds) => ofParts seconds nanoseconds
    | (none, _) => .error (.missingField "secs")
    | (_, none) => .error (.missingField "nanos")
  | v => .error (.kind v "struct Duration")

end Duration

end Gleaner
