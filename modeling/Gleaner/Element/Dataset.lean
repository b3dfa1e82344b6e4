import Gleaner.Json.Printer
import Gleaner.Json.Reader
import Gleaner.Text.Blank

set_option autoImplicit false

/-! # Data sets

The attributes whose names start with `data-` hold values for programs. They are looked up by a key in
camel case and hold words, numbers and JSON texts besides plain text. A word or a number is decoded only
if writing the decoded value gives back the very text, so that no two texts decode to the same one. -/

namespace Gleaner.Dataset

/-! ## Keys -/

/-- A character of a key, with a dash before a letter that was upper case. -/
def dashedChar (c : Char) : List Char :=
  if Text.isAsciiUpper c then ['-', c.toLower] else [c]

/-- A key in camel case, written with dashes. -/
def dashed (key : List Char) : List Char := key.flatMap dashedChar

/-- The attribute that holds the value of a key. -/
def attributeName (key : String) : String := "data-" ++ String.ofList (dashed key.toList)

/-! ## Values -/

/-- The sign and the digits of a number that is written as an integer. -/
def signed (raw : List Char) : Bool × List Char :=
  match raw with
  | '-' :: digits => (true, digits)
  | digits => (false, digits)

/-- The value of decimal digits. -/
def natural (digits : List Char) : Nat :=
  digits.foldl (fun n c => n * 10 + (c.toNat - '0'.toNat)) 0

/-- The signed 64-bit integer whose decimal text this is. -/
def integer? (raw : List Char) : Option Int :=
  let (negative, digits) := signed raw
  if digits.isEmpty || !digits.all Text.isAsciiDigit then none
  else
    let n : Int := if negative then -(natural digits) else natural digits
    if -0x8000000000000000 ≤ n ∧ n < 0x8000000000000000 ∧ (toString n).toList = raw then some n
    else none

/-- The positional text of a number in its shortest decimal. -/
def floatText (x : Binary64) : List Char :=
  let magnitude := (Decimal.shortest x).positional
  if x.isNegative then '-' :: magnitude else magnitude

/-- The number other than zero whose shortest positional decimal this is. -/
def float? (raw : List Char) : Option Binary64 :=
  let (negative, unsigned) := signed raw
  let (whole, fraction) := (Text.cut? '.' unsigned).getD (unsigned, [])
  if !(whole ++ fraction).all Text.isAsciiDigit then none
  else
    match Binary64.ofDecimal? negative (natural (whole ++ fraction)) (-(fraction.length : Int)) with
    | some x => if !x.isZero ∧ floatText x = raw then some x else none
    | none => none

/-- The text stands in a pair of curly or square brackets. -/
def isBracketed (raw : List Char) : Bool :=
  (raw.head? == some '\x7b' && raw.getLast? == some '\x7d') ||
    (raw.head? == some '[' && raw.getLast? == some ']')

/-- The JSON array or object that a text spells. -/
def container? (raw : String) : Option Json :=
  if isBracketed raw.toList then (Json.read raw).toOption else none

/-- The value that the text of an attribute stands for. -/
def decode (raw : String) : Json :=
  if raw = "true" then .bool true
  else if raw = "false" then .bool false
  else if raw = "null" then .null
  else match (integer? raw.toList).bind Json.ofInt? with
    | some n => n
    | none => match float? raw.toList with
      | some x => .num (.float x)
      | none => (container? raw).getD (.str raw)

end Gleaner.Dataset
