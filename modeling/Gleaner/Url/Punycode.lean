set_option autoImplicit false

/-! # Punycode

A label of a domain name that holds characters outside ASCII is written in ASCII alone: first its ASCII
characters, then, behind a dash, where the others are to be put in and which they are, as differences in
a number system of base 36 whose digits weigh more or less as the text goes on. -/

namespace Gleaner.Punycode

/-! ## Weights -/

/-- The number of digits. -/
def base : Nat := 36

/-- The least threshold. -/
def leastThreshold : Nat := 1

/-- The greatest threshold. -/
def greatestThreshold : Nat := 26

/-- The threshold at a digit that stands at `position`, counted in multiples of the base. -/
def threshold (bias position : Nat) : Nat :=
  max leastThreshold (min greatestThreshold (position - bias))

/-- Divides until the number is small enough; the count of divisions moves the bias. -/
def settle : Nat → Nat → Nat → Nat
  | 0, k, delta => k + (base * delta) / (delta + 38)
  | fuel + 1, k, delta =>
    if (base - leastThreshold) * greatestThreshold / 2 < delta then
      settle fuel (k + base) (delta / (base - leastThreshold))
    else k + (base * delta) / (delta + 38)

/-- The bias behind a difference, with `count` characters in place. -/
def adapt (delta count : Nat) (first : Bool) : Nat :=
  let delta := if first then delta / 700 else delta / 2
  let delta := delta + delta / count
  settle 16 0 delta

/-! ## Digits -/

/-- The letter or decimal digit for a value. -/
def digitChar (n : Nat) : Char :=
  if n < 26 then Char.ofNat ('a'.toNat + n) else Char.ofNat ('0'.toNat + (n - 26))

/-- The value of a digit. -/
def digit? (c : Char) : Option Nat :=
  if 'a' ≤ c && c ≤ 'z' then some (c.toNat - 'a'.toNat)
  else if 'A' ≤ c && c ≤ 'Z' then some (c.toNat - 'A'.toNat)
  else if '0' ≤ c && c ≤ '9' then some (c.toNat - '0'.toNat + 26)
  else none

/-- Numbers from here on are not followed any further. -/
def limit : Nat := UInt32.size

/-! ## Encoding -/

/-- The digits of a difference; the fuel bounds their number. -/
def digitsOf (bias : Nat) : Nat → Nat → Nat → List Char
  | 0, _, _ => []
  | fuel + 1, position, q =>
    let t := threshold bias position
    if q < t then [digitChar q]
    else digitChar (t + (q - t) % (base - t)) ::
      digitsOf bias fuel (position + base) ((q - t) / (base - t))

/-- The state between two characters. -/
structure Progress where
  delta : Nat
  bias : Nat
  /-- How many characters are in place. -/
  count : Nat
  out : List Char

/-- Passes over the characters of the text, the code point `n` being the next to be put in. -/
def place (n ascii : Nat) (p : Progress) (c : Char) : Progress :=
  if c.toNat < n then { p with delta := p.delta + 1 }
  else if c.toNat = n then
    { delta := 0,
      bias := adapt p.delta (p.count + 1) (p.count == ascii),
      count := p.count + 1,
      out := p.out ++ digitsOf p.bias 16 base p.delta }
  else p

/-- Puts in the code points in ascending order. `n` is the least that may come next. -/
def placeAll (cs : List Char) (ascii : Nat) : List Nat → Nat → Progress → Progress
  | [], _, p => p
  | m :: more, n, p =>
    let p := { p with delta := p.delta + (m - n) * (p.count + 1) }
    let p := cs.foldl (place m ascii) p
    placeAll cs ascii more (m + 1) { p with delta := p.delta + 1 }

/-- A text in ASCII. -/
def encode (cs : List Char) : List Char :=
  let ascii := cs.filter fun c => c.toNat < 0x80
  let others := ((cs.map (·.toNat)).filter (0x80 ≤ ·)).mergeSort
  let distinct := others.foldr (fun n ms => if ms.head? = some n then ms else n :: ms) []
  let start := if ascii.isEmpty then [] else ascii ++ ['-']
  (placeAll cs ascii.length distinct 0x80 ⟨0, 72, ascii.length, start⟩).out

/-! ## Decoding -/

/-- Reads the digits of a difference and what is behind them. -/
def readDifference (bias : Nat) : Nat → Nat → Nat → List Char → Option (Nat × List Char)
  | _, _, _, [] => none
  | position, weight, value, c :: rest =>
    match digit? c with
    | none => none
    | some d =>
      let value := value + d * weight
      let t := threshold bias position
      if limit ≤ value then none
      else if d < t then some (value, rest)
      else if limit ≤ weight * (base - t) then none
      else readDifference bias (position + base) (weight * (base - t)) value rest

/-- Puts characters in where the differences tell; the fuel is the number of digits. -/
def insertAll : Nat → Nat → Nat → Nat → List Char → List Char → Option (List Char)
  | _, _, _, _, out, [] => some out
  | 0, _, _, _, _, _ => none
  | fuel + 1, n, i, bias, out, digits =>
    match readDifference bias base 1 i digits with
    | none => none
    | some (j, rest) =>
      let count := out.length + 1
      let m := n + j / count
      let index := j % count
      if 0xD800 ≤ m && m ≤ 0xDFFF || 0x110000 ≤ m then none
      else
        insertAll fuel m (index + 1) (adapt (j - i) count (i == 0))
          (out.take index ++ Char.ofNat m :: out.drop index) rest

/-- The text that a text in ASCII stands for. A dash with nothing in front of it parts nothing. -/
def decode? (cs : List Char) : Option (List Char) :=
  let behind := cs.reverse.takeWhile (· != '-')
  let ascii := cs.take (cs.length - behind.length - 1)
  let digits := if ascii.isEmpty then cs else behind.reverse
  insertAll digits.length 0x80 0 72 ascii digits

end Gleaner.Punycode
