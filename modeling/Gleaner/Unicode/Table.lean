import Gleaner.Text.Blank

set_option autoImplicit false

/-! # Tables of code points

Properties of characters are listed by code point in base sixteen, ranges with a dash between their
ends. A table is a text of such entries with blanks between them. -/

namespace Gleaner.Unicode

/-- The number that hexadecimal digits stand for. -/
def number (digits : List Char) : Nat :=
  digits.foldl (fun n c => n * 16 + (Text.hexDigit? c).getD 0) 0

/-- The entries of a table. -/
def entries (table : String) : List (List Char) := Text.words Text.isMarkupSpace table.toList

/-- What stands before and after a separator; the whole and the default without one. -/
def cutOr (sep : Char) (entry default : List Char) : List Char × List Char :=
  (Text.cut? sep entry).getD (entry, default)

/-- The first and the last code point of a range. -/
def range (entry : List Char) : Nat × Nat :=
  let (first, last) := cutOr '-' entry entry
  (number first, number last)

/-- The ranges of a table. -/
def ranges (table : String) : List (Nat × Nat) := (entries table).map range

/-- The character is in one of the ranges. -/
def inRanges (ranges : List (Nat × Nat)) (c : Char) : Bool :=
  ranges.any fun (first, last) => first ≤ c.toNat && c.toNat ≤ last

/-- The characters of code points with commas between them. -/
def characters (codes : List Char) : List Char :=
  (Text.pieces ',' codes).map fun code => Char.ofNat (number code)

end Gleaner.Unicode
