import Gleaner.Html.Token

set_option autoImplicit false

/-! # Character references

An ampersand may start the name or the number of a character. What is no reference is text and
stays as it is. -/

namespace Gleaner.Html.CharacterReference

/-- The characters that the numbers 128 to 159 stand for: an old encoding put them there. -/
def legacy : List Nat :=
  [0x20AC, 0x81, 0x201A, 0x192, 0x201E, 0x2026, 0x2020, 0x2021, 0x2C6, 0x2030, 0x160, 0x2039, 0x152,
    0x8D, 0x17D, 0x8F, 0x90, 0x2018, 0x2019, 0x201C, 0x201D, 0x2022, 0x2013, 0x2014, 0x2DC, 0x2122,
    0x161, 0x203A, 0x153, 0x9D, 0x17E, 0x178]

/-- The character that a number stands for. -/
def ofNumber (n : Nat) : Char :=
  if n == 0 || !Text.isScalar n then Token.replacement
  else Char.ofNat ((legacy[n - 128]?.filter fun _ => 128 ≤ n).getD n)

/-- Reads the digits of a number in a base; without digits the characters read so far are text. -/
def readNumber (base : Nat) (digit? : Char → Option Nat) (lead : List Char) (cs : List Char) :
    List Char × List Char :=
  let digits := cs.takeWhile fun c => (digit? c).isSome
  let rest := cs.drop digits.length
  if digits.isEmpty then (lead, cs)
  else
    let n := digits.foldl (fun n c => n * base + (digit? c).getD 0) 0
    ([ofNumber n], match rest with
      | ';' :: rest => rest
      | rest => rest)

/-- The value of a decimal digit. -/
def decimalDigit? (c : Char) : Option Nat :=
  if Text.isAsciiDigit c then some (c.toNat - '0'.toNat) else none

/-- Reads a reference from behind its ampersand on. The answer is the characters it stands for and
what comes behind it. In an attribute an unfinished name that runs into an equals sign, a letter or a
digit is no reference. -/
def read (inAttribute : Bool) : List Char → List Char × List Char
  | '#' :: 'x' :: rest => readNumber 16 Text.hexDigit? ['&', '#', 'x'] rest
  | '#' :: 'X' :: rest => readNumber 16 Text.hexDigit? ['&', '#', 'X'] rest
  | '#' :: rest => readNumber 10 decimalDigit? ['&', '#'] rest
  | cs =>
    match NamedCharacter.longestMatch? cs with
    | none => (['&'], cs)
    | some (length, characters) =>
      let rest := cs.drop length
      let runsOn := match rest with
        | c :: _ => c == '=' || Text.isAsciiAlpha c || Text.isAsciiDigit c
        | [] => false
      if inAttribute && runsOn && (cs.take length).getLast? != some ';' then (['&'], cs)
      else (characters, rest)

/-- A text with its references resolved; every step leaves less of it. -/
def resolve (inAttribute : Bool) (cs : List Char) : List Char := go cs.length cs
where
  /-- At most as many steps as there are characters. -/
  go : Nat → List Char → List Char
    | 0, cs => cs
    | _ + 1, [] => []
    | n + 1, '&' :: rest =>
      let (characters, rest) := read inAttribute rest
      characters ++ go n rest
    | n + 1, c :: rest => c :: go n rest

end Gleaner.Html.CharacterReference
