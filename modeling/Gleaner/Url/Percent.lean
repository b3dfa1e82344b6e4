import Gleaner.Text.Blank
import Gleaner.Text.Utf8

set_option autoImplicit false

/-! # Percent encoding

A character that may not stand in a part of an address is written as its UTF-8 bytes, each as a percent
sign and two hexadecimal digits. Which characters those are depends on the part; controls and everything
outside ASCII are always among them. -/

namespace Gleaner.Percent

/-! ## What is encoded where -/

/-- Controls and what is not ASCII. -/
def isControl (c : Char) : Bool := c.toNat < 0x20 || 0x7E < c.toNat

/-- Encoded in fragments. -/
def inFragment (c : Char) : Bool := isControl c || " \x22<>\x60".contains c

/-- Encoded in queries. -/
def inQuery (c : Char) : Bool := isControl c || " \x22#<>".contains c

/-- Encoded in the queries of special schemes. -/
def inSpecialQuery (c : Char) : Bool := inQuery c || c == '\x27'

/-- Encoded in paths. -/
def inPath (c : Char) : Bool := inFragment c || "#?\x7b\x7d".contains c

/-- Encoded in names and passwords. -/
def inUserInfo (c : Char) : Bool := inPath c || "/:;=@[\\]^|".contains c

/-! ## Encoding and decoding -/

/-- One byte. -/
def encodeByte (b : UInt8) : List Char := '%' :: Text.hexUpper 2 b.toNat

/-- One character, encoded if `special`. -/
def encodeChar (special : Char → Bool) (c : Char) : List Char :=
  if special c then (Utf8.encodeChar c).flatMap encodeByte else [c]

/-- A text with its special characters encoded. -/
def encode (special : Char → Bool) (cs : List Char) : List Char := cs.flatMap (encodeChar special)

/-- The value of a byte that is a hexadecimal digit. -/
def hexByte? (b : UInt8) : Option Nat := Text.hexDigit? (Char.ofNat b.toNat)

/-- The bytes that a text with encoded bytes stands for. A percent sign without two digits stands for
itself. -/
def decode : Bytes → Bytes
  | 37 :: a :: b :: rest =>
    match hexByte? a, hexByte? b with
    | some high, some low => UInt8.ofNat (16 * high + low) :: decode rest
    | _, _ => 37 :: decode (a :: b :: rest)
  | b :: rest => b :: decode rest
  | [] => []

/-! ## Forms -/

/-- One byte of a form field: a plus sign for a space. -/
def formByte (b : UInt8) : List Char :=
  let c := Char.ofNat b.toNat
  if Text.isAsciiAlpha c || Text.isAsciiDigit c || "*-._".contains c then [c]
  else if c == ' ' then ['+']
  else encodeByte b

/-- A text in a form. -/
def formText (s : String) : List Char := (Utf8.encode s).flatMap formByte

/-- Names and values as the fields of a form. -/
def form (fields : List (String × String)) : String :=
  String.intercalate "&"
    (fields.map fun (name, value) => String.ofList (formText name ++ '=' :: formText value))

end Gleaner.Percent
