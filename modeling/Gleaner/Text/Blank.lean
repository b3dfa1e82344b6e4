set_option autoImplicit false

/-! # Blank characters and the cutting of text

Names and values in inline styles, header arguments and addresses are cut at a separator and freed
from the blank characters around them. Text is handled as a list of characters here, so that each
operation is one structural recursion; `String` appears only where a caller hands text in or takes
it out. -/

namespace Gleaner.Text

/-! ## Classes of characters -/

/-- The Unicode property White_Space. -/
def isBlank (c : Char) : Bool :=
  let n := c.toNat
  (9 ≤ n && n ≤ 13) || n == 0x20 || n == 0x85 || n == 0xA0 || n == 0x1680 ||
    (0x2000 ≤ n && n ≤ 0x200A) || n == 0x2028 || n == 0x2029 || n == 0x202F || n == 0x205F ||
    n == 0x3000

/-- The five characters that separate words in markup: tab, line feed, form feed, carriage return
and space. -/
def isMarkupSpace (c : Char) : Bool :=
  c == '\t' || c == '\n' || c == '\x0c' || c == '\r' || c == ' '

/-- An ASCII upper-case letter. -/
def isAsciiUpper (c : Char) : Bool := 'A' ≤ c && c ≤ 'Z'

/-- An ASCII letter. -/
def isAsciiAlpha (c : Char) : Bool := ('a' ≤ c && c ≤ 'z') || isAsciiUpper c

/-- An ASCII decimal digit. -/
def isAsciiDigit (c : Char) : Bool := '0' ≤ c && c ≤ '9'

/-- The value of a hexadecimal digit, in either letter case. -/
def hexDigit? (c : Char) : Option Nat :=
  if isAsciiDigit c then some (c.toNat - '0'.toNat)
  else if 'a' ≤ c && c ≤ 'f' then some (c.toNat - 'a'.toNat + 10)
  else if 'A' ≤ c && c ≤ 'F' then some (c.toNat - 'A'.toNat + 10)
  else none

/-- A hexadecimal digit, in either letter case. -/
def isHexDigit (c : Char) : Bool := (hexDigit? c).isSome

/-- The code points that no text can hold: the halves of surrogate pairs and everything beyond the
last plane. `Char.ofNat` sends them to zero, so callers ask first. -/
def isScalar (n : Nat) : Bool := n < 0xD800 || (0xDFFF < n && n < 0x110000)

/-! ## Letter case -/

/-- ASCII letters in lower case, everything else unchanged. -/
def lower (s : String) : String := String.ofList (s.toList.map Char.toLower)

/-- ASCII letters in upper case, everything else unchanged. -/
def upper (s : String) : String := String.ofList (s.toList.map Char.toUpper)

/-- Equality up to the case of ASCII letters. -/
def sameLetters (s t : String) : Bool := lower s == lower t

/-! ## Trimming -/

/-- Drops what satisfies `p` from the end. -/
def dropEnd (p : Char → Bool) (cs : List Char) : List Char := (cs.reverse.dropWhile p).reverse

/-- Drops what satisfies `p` from both ends. -/
def strip (p : Char → Bool) (cs : List Char) : List Char := dropEnd p (cs.dropWhile p)

/-- Drops blank characters from both ends. -/
def trim (cs : List Char) : List Char := strip isBlank cs

/-! ## Cutting -/

/-- The pieces between the occurrences of a separator; `n` separators give `n + 1` pieces. -/
def pieces (sep : Char) : List Char → List (List Char)
  | [] => [[]]
  | c :: rest =>
    if c = sep then [] :: pieces sep rest
    else match pieces sep rest with
      | [] => [[c]]
      | piece :: more => (c :: piece) :: more

/-- What stands before and after the first occurrence of a separator. -/
def cut? (sep : Char) : List Char → Option (List Char × List Char)
  | [] => none
  | c :: rest =>
    if c = sep then some ([], rest)
    else (cut? sep rest).map fun (before, after) => (c :: before, after)

/-- The pieces between the characters that satisfy `p`; `n` of them give `n + 1` pieces. -/
def piecesAt (p : Char → Bool) : List Char → List (List Char)
  | [] => [[]]
  | c :: rest =>
    if p c then [] :: piecesAt p rest
    else match piecesAt p rest with
      | [] => [[c]]
      | piece :: more => (c :: piece) :: more

/-- The maximal runs of characters that do not satisfy `p`, none of them empty. -/
def words (p : Char → Bool) (cs : List Char) : List (List Char) :=
  (piecesAt p cs).filter (· ≠ [])

/-- What is left of `cs` when it starts with `lead`. -/
def afterLead? : List Char → List Char → Option (List Char)
  | [], cs => some cs
  | _ :: _, [] => none
  | l :: lead, c :: cs => if l = c then afterLead? lead cs else none

/-- `n` in base sixteen with lower-case digits, at least `width` of them. -/
def hex (width n : Nat) : List Char :=
  let digits := Nat.toDigits 16 n
  List.replicate (width - digits.length) '0' ++ digits

/-- `n` in base sixteen with upper-case digits, at least `width` of them. -/
def hexUpper (width n : Nat) : List Char := (hex width n).map Char.toUpper

end Gleaner.Text
