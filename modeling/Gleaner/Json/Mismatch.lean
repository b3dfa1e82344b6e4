import Gleaner.Json.Printer
import Gleaner.Json.Reader
import Gleaner.Text.Quoted

set_option autoImplicit false

/-! # Values that are not what was expected

Configurations and requests are written as JSON values. A value of the wrong shape is answered by a
`Mismatch`, which tells what was found where something else was expected; the functions `as…` read
values of the simple shapes. -/

namespace Gleaner.Json

/-! ## Mismatches -/

/-- What can be wrong with the shape of a value. -/
inductive Mismatch where
  /-- A value of another kind. -/
  | kind (found : Json) (expected : String)
  /-- An integer that is too small or too large. -/
  | range (found : Int) (expected : String)
  /-- Too few or too many items. -/
  | length (found : Nat) (expected : String)
  | missingField (name : String)
  | unknownField (name : String) (known : List String)
  | unknownVariant (name : String) (known : List String)
  /-- An object that names no variant, or several. -/
  | notOneVariant
  /-- A variant without its content. -/
  | bareVariant
  /-- A span of time with more seconds than can be counted. -/
  | durationOverflow
  /-- Something else than the options of a request. -/
  | notRequestOptions (found : Json)
  deriving DecidableEq

/-- A value as a message mentions it. -/
def mention : Json → String
  | null => "null"
  | bool true => "boolean \x60true\x60"
  | bool false => "boolean \x60false\x60"
  | num (.int n _) => "integer \x60" ++ toString n ++ "\x60"
  | num (.float x) => "floating point \x60" ++ String.ofList (floatText x) ++ "\x60"
  | str s => "string " ++ Text.Quoted.encode s
  | arr _ => "sequence"
  | obj _ => "map"

/-- Names that would have been right. -/
def choices (names : List String) : String :=
  let marked := names.map fun name => "\x60" ++ name ++ "\x60"
  match marked with
  | [a, b] => a ++ " or " ++ b
  | marked => "one of " ++ String.intercalate ", " marked

/-- The wording of a mismatch. -/
def Mismatch.message : Mismatch → String
  | kind found expected => "invalid type: " ++ found.mention ++ ", expected " ++ expected
  | range found expected =>
    "invalid value: integer \x60" ++ toString found ++ "\x60, expected " ++ expected
  | length found expected => "invalid length " ++ toString found ++ ", expected " ++ expected
  | missingField name => "missing field \x60" ++ name ++ "\x60"
  | unknownField name known =>
    "unknown field \x60" ++ name ++ "\x60, expected " ++ choices known
  | unknownVariant name known =>
    "unknown variant \x60" ++ name ++ "\x60, expected " ++ choices known
  | notOneVariant => "invalid value: map, expected map with a single key"
  | bareVariant => "invalid type: unit variant, expected newtype variant"
  | durationOverflow => "overflow deserializing Duration"
  | notRequestOptions found =>
    "request options must be a URL string or an object with a string \x60url\x60 (or \x60uri\x60), found "
      ++ found.text

/-- Why a value could not be taken from JSON. -/
inductive Error where
  /-- The text is no JSON. -/
  | text (error : ReadError)
  /-- The value is of another shape. -/
  | shape (mismatch : Mismatch)
  deriving DecidableEq

/-- The wording of an error. -/
def Error.message : Error → String
  | text error => error.message
  | shape mismatch => mismatch.message

/-! ## Simple shapes -/

/-- A text. -/
def asText : Json → Except Mismatch String
  | str s => .ok s
  | v => .error (.kind v "a string")

/-- A natural number below a limit. -/
def asBelow (limit : Nat) (expected : String) : Json → Except Mismatch Nat
  | num (.int n _) =>
    if 0 ≤ n ∧ n < limit then .ok n.toNat else .error (.range n expected)
  | v => .error (.kind v expected)

/-- A number of 32 bits. -/
def asUInt32 (v : Json) : Except Mismatch UInt32 := (v.asBelow UInt32.size "u32").map UInt32.ofNat

/-- A number of 64 bits, as the size of `expected`. -/
def asUInt64 (expected : String) (v : Json) : Except Mismatch UInt64 :=
  (v.asBelow UInt64.size expected).map UInt64.ofNat

/-- A dictionary of texts; the first member that is none is reported. -/
def asTexts : Json → Except Mismatch (Dictionary String)
  | obj members => do
    let pairs ← members.mapM fun (key, v) => do .ok (key, ← v.asText)
    .ok (.ofList pairs)
  | v => .error (.kind v "a map")

end Gleaner.Json
