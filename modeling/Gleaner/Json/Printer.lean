import Gleaner.Decimal.Shortest
import Gleaner.Json.Basic

set_option autoImplicit false

/-! # JSON text

The compact form has no space at all; the indented form gives every item and member a line of its
own, two spaces deeper than what encloses it, and writes empty containers as in the compact form. -/

namespace Gleaner.Json

/-! ## Scalars -/

/-- The text of a finite number: positional as long as the decimal point stands at most sixteen
digits behind the first digit or at most four zeros before it, otherwise with an exponent. A number
without a fraction is marked by one. -/
def floatText (x : Binary64) : List Char :=
  let d := Decimal.shortest x
  let pointAt : Int := d.digitChars.length + d.exponent
  let magnitude :=
    if x.isZero || (-5 < pointAt && pointAt ≤ 16) then
      d.positional ++ (if 0 ≤ d.exponent then ['.', '0'] else [])
    else d.scientific
  if x.isNegative then '-' :: magnitude else magnitude

/-- The text of a number. -/
def Number.text : Number → List Char
  | .int n _ => (toString n).toList
  | .float x => floatText x

/-- One character of a quoted text. -/
def escapeChar (c : Char) : List Char :=
  if c == '\x22' then ['\\', '\x22']
  else if c == '\\' then ['\\', '\\']
  else if c == '\n' then ['\\', 'n']
  else if c == '\r' then ['\\', 'r']
  else if c == '\t' then ['\\', 't']
  else if c == '\x08' then ['\\', 'b']
  else if c == '\x0c' then ['\\', 'f']
  else if c.toNat < 0x20 then
    ['\\', 'u', '0', '0', Nat.digitChar (c.toNat / 16), Nat.digitChar (c.toNat % 16)]
  else [c]

/-- A text in quotes. -/
def quote (s : String) : List Char := '\x22' :: (s.toList.flatMap escapeChar ++ ['\x22'])

/-! ## The compact form -/

mutual

/-- The compact text of a value. -/
def chars : Json → List Char
  | null => ['n', 'u', 'l', 'l']
  | bool true => ['t', 'r', 'u', 'e']
  | bool false => ['f', 'a', 'l', 's', 'e']
  | num n => n.text
  | str s => quote s
  | arr items => '[' :: itemChars items ++ [']']
  | obj members => '\x7b' :: memberChars members ++ ['\x7d']

/-- Items, separated by commas. -/
def itemChars : List Json → List Char
  | [] => []
  | [item] => chars item
  | item :: next :: rest => chars item ++ ',' :: itemChars (next :: rest)

/-- Members, separated by commas. -/
def memberChars : List (String × Json) → List Char
  | [] => []
  | [(key, value)] => quote key ++ ':' :: chars value
  | (key, value) :: next :: rest =>
    quote key ++ ':' :: chars value ++ ',' :: memberChars (next :: rest)

end

/-- The compact text of a value. -/
def text (v : Json) : String := String.ofList (chars v)

/-! ## The indented form -/

/-- A new line with the spaces of a level. -/
def newLine (level : Nat) : List Char := '\n' :: List.replicate (2 * level) ' '

mutual

/-- The indented text of a value that stands at a level. -/
def prettyChars (level : Nat) : Json → List Char
  | arr [] => ['[', ']']
  | arr items => '[' :: prettyItems (level + 1) items ++ newLine level ++ [']']
  | obj [] => ['\x7b', '\x7d']
  | obj members => '\x7b' :: prettyMembers (level + 1) members ++ newLine level ++ ['\x7d']
  | null => chars null
  | bool b => chars (bool b)
  | num n => chars (num n)
  | str s => chars (str s)

/-- Items, each on a line of its own. -/
def prettyItems (level : Nat) : List Json → List Char
  | [] => []
  | [item] => newLine level ++ prettyChars level item
  | item :: next :: rest =>
    newLine level ++ prettyChars level item ++ ',' :: prettyItems level (next :: rest)

/-- Members, each on a line of its own. -/
def prettyMembers (level : Nat) : List (String × Json) → List Char
  | [] => []
  | [(key, value)] => newLine level ++ quote key ++ ':' :: ' ' :: prettyChars level value
  | (key, value) :: next :: rest =>
    newLine level ++ quote key ++ ':' :: ' ' :: prettyChars level value ++
      ',' :: prettyMembers level (next :: rest)

end

/-- The indented text of a value. -/
def pretty (v : Json) : String := String.ofList (prettyChars 0 v)

end Gleaner.Json
