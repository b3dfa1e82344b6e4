import Gleaner.Decimal.Binary64

set_option autoImplicit false

/-! # The shortest decimal of a binary64 number

A binary64 number stands for every real number that rounds to it. Its decimal is the one with the
fewest digits among those reals, and of several with that many digits the nearest to the number. The
search goes over the decimal grids from coarse to fine: a grid has a point among those reals exactly
when one of the two grid points next to the number is among them, so two candidates for each number
of digits suffice, and seventeen digits always do. -/

namespace Gleaner

/-- A decimal magnitude `digits · 10 ^ exponent`. -/
structure Decimal where
  digits : Nat
  exponent : Int
  deriving DecidableEq, Repr

namespace Decimal

/-- `a · 10 ^ k` against `b`, with the power moved to the side where it is a natural. -/
def scaleTen (a : Nat) (b : Nat) (k : Int) : Nat × Nat :=
  if k < 0 then (a, b * Nat.pow 10 k.natAbs) else (a * Nat.pow 10 k.natAbs, b)

/-- The reals that round to a binary64 number: those between `low / den` and `high / den`, with
`mid / den` the number itself. The ends belong to it when `closed`. -/
structure Interval where
  low : Nat
  mid : Nat
  high : Nat
  den : Nat
  closed : Bool

/-- The interval of the reals that round to the magnitude of `x`. Below a power of two the
neighbour is half as far as above it. -/
def Interval.ofBinary64 (x : Binary64) : Interval :=
  let m := x.significand
  let narrow := m == 0x10000000000000 && 1 < x.exponentField
  let (mid, den) := Binary64.scaled (4 * m) 1 (x.exponent - 2)
  let unit := mid / (4 * m)
  { low := mid - unit * (if narrow then 1 else 2), mid, high := mid + unit * 2, den,
    closed := m % 2 == 0 }

/-- The decimal `n · 10 ^ k` lies in the interval. -/
def Interval.holds (i : Interval) (n : Nat) (k : Int) : Bool :=
  let (point, den) := scaleTen (n * i.den) 1 k
  if i.closed then i.low * den ≤ point && point ≤ i.high * den
  else i.low * den < point && point < i.high * den

/-- The number of digits before the decimal point of `num / den`, counted down past the point when
the fraction starts with zeros: the `e` with `10 ^ (e - 1) ≤ num / den < 10 ^ e`. -/
def magnitude (num den : Nat) : Int :=
  let quotient := num / den
  if quotient ≠ 0 then (Nat.toDigits 10 quotient).length
  else
    -- `den / num` has `d` digits, so the fraction starts in the `d`-th place or the one before.
    let d : Nat := (Nat.toDigits 10 (den / num)).length
    if num * Nat.pow 10 (d - 1) ≥ den then 2 - (d : Int) else 1 - (d : Int)

/-- The point of the grid of multiples of `10 ^ k` that represents the interval, if one of the two
next to its number lies in it; of two, the nearer, and the even one of two equally near. -/
def Interval.onGrid? (i : Interval) (k : Int) : Option Nat :=
  let (num, den) := scaleTen i.mid i.den (-k)
  let below := num / den
  match below != 0 && i.holds below k, i.holds (below + 1) k with
  | true, true =>
    let twice := 2 * (num % den)
    some (if twice < den then below
      else if den < twice then below + 1
      else if below % 2 = 0 then below else below + 1)
  | true, false => some below
  | false, true => some (below + 1)
  | false, false => none

/-- The first grid, from `count` digits on, that has a point in the interval. -/
def Interval.search (i : Interval) (top : Int) : Nat → Nat → Decimal
  | 0, count =>
    let k := top - count
    let (num, den) := scaleTen i.mid i.den (-k)
    ⟨num / den, k⟩
  | more + 1, count =>
    let k := top - count
    match i.onGrid? k with
    | some n => ⟨n, k⟩
    | none => i.search top more (count + 1)

/-- Moves trailing zeros of the digits into the exponent. -/
def normalize (d : Decimal) : Decimal :=
  go (Nat.log2 d.digits) d
where
  /-- At most as many steps as there are digits. -/
  go : Nat → Decimal → Decimal
    | 0, d => d
    | more + 1, d =>
      if d.digits ≠ 0 ∧ d.digits % 10 = 0 then go more ⟨d.digits / 10, d.exponent + 1⟩ else d

/-- The shortest decimal that rounds to the magnitude of `x`. -/
def shortest (x : Binary64) : Decimal :=
  if x.isZero then ⟨0, 0⟩
  else
    let i := Interval.ofBinary64 x
    normalize (i.search (magnitude i.mid i.den) 17 1)

/-! ## Writing it down -/

/-- The digits as characters. -/
def digitChars (d : Decimal) : List Char := Nat.toDigits 10 d.digits

/-- The digits with the decimal point in its place and no exponent: no point when there is no
fraction, and a zero before the point of a pure fraction. -/
def positional (d : Decimal) : List Char :=
  let ds := d.digitChars
  if 0 ≤ d.exponent then
    if d.digits = 0 then ['0'] else ds ++ List.replicate d.exponent.toNat '0'
  else
    let places := d.exponent.natAbs
    if places < ds.length then
      ds.take (ds.length - places) ++ '.' :: ds.drop (ds.length - places)
    else '0' :: '.' :: (List.replicate (places - ds.length) '0' ++ ds)

/-- One digit before the point, the exponent behind `e` with its sign. -/
def scientific (d : Decimal) : List Char :=
  let ds := d.digitChars
  let e : Int := d.exponent + ds.length - 1
  let fraction := match ds.drop 1 with
    | [] => []
    | more => '.' :: more
  ds.take 1 ++ fraction ++ 'e' :: (if e < 0 then '-' else '+') :: Nat.toDigits 10 e.natAbs

end Decimal

end Gleaner
