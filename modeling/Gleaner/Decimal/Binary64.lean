set_option autoImplicit false

/-! # Finite binary64 numbers

Numbers that are no integers in the machine range are kept as finite IEEE 754 binary64 values. The
value is held as its 64 bits, so equality is decidable and zero keeps its sign; all arithmetic on it
is exact arithmetic on naturals followed by one rounding to the nearest value, ties to the even
significand. Infinities and NaN do not occur: an operation that would overflow answers nothing. -/

namespace Gleaner

/-- A finite binary64 number, by its bits. -/
structure Binary64 where
  bits : UInt64
  /-- The exponent field is not the one of infinities and NaN. -/
  finite : (bits >>> 52) &&& 0x7FF ≠ 0x7FF
  deriving DecidableEq, Repr

namespace Binary64

/-! ## Reading the bits -/

/-- The number stands below zero, or is the zero with a minus sign. -/
def isNegative (x : Binary64) : Bool := x.bits >>> 63 == 1

/-- The biased exponent. -/
def exponentField (x : Binary64) : Nat := ((x.bits >>> 52) &&& 0x7FF).toNat

/-- The stored part of the significand. -/
def fraction (x : Binary64) : Nat := (x.bits &&& 0xFFFFFFFFFFFFF).toNat

/-- The significand `m` of the magnitude `m · 2 ^ exponent`. -/
def significand (x : Binary64) : Nat :=
  if x.exponentField = 0 then x.fraction else 0x10000000000000 + x.fraction

/-- The exponent of the magnitude `significand · 2 ^ exponent`. -/
def exponent (x : Binary64) : Int := (max x.exponentField 1 : Nat) - 1075

/-- One of the two zeros. -/
def isZero (x : Binary64) : Bool := x.significand == 0

/-- Zero, with the sign asked for. -/
def zero (negative : Bool) : Binary64 :=
  if negative then ⟨0x8000000000000000, by decide⟩ else ⟨0, by decide⟩

/-! ## Rounding -/

/-- The quotient rounded to the nearest natural, a half to the even one. -/
def divideEven (num den : Nat) : Nat :=
  let quotient := num / den
  let twice := 2 * (num % den)
  if twice < den then quotient
  else if den < twice then quotient + 1
  else if quotient % 2 = 0 then quotient else quotient + 1

/-- `num · 2 ^ e / den`, as a fraction of naturals. -/
def scaled (num den : Nat) (e : Int) : Nat × Nat :=
  if e < 0 then (num, den <<< e.natAbs) else (num <<< e.natAbs, den)

/-- The exponent of the last place of the binary64 number next to `num / den`. -/
def lastPlace (num den : Nat) : Int :=
  let guess : Int := (Nat.log2 num : Int) - (Nat.log2 den : Int) - 52
  let (n, d) := scaled num den (-guess)
  -- The guess is exact or one too large.
  let place := if n < d <<< 52 then guess - 1 else guess
  max place (-1074)

/-- The binary64 number nearest to `num / den`, ties to the even significand; none when the
magnitude is beyond the largest finite number. -/
def ofRatio? (negative : Bool) (num den : Nat) : Option Binary64 :=
  if num = 0 then some (zero negative)
  else
    let place := lastPlace num den
    let (n, d) := scaled num den (-place)
    let m := divideEven n d
    -- The leading bit of the significand adds one to the exponent field, so that a subnormal number
    -- gets the field zero and a significand rounded up to 2 ^ 53 the next exponent.
    let magnitude := (place + 1074).toNat <<< 52 + m
    if 0x7FF0000000000000 ≤ magnitude then none
    else
      let bits := UInt64.ofNat (magnitude + if negative then 0x8000000000000000 else 0)
      if h : (bits >>> 52) &&& 0x7FF ≠ 0x7FF then some ⟨bits, h⟩ else none

/-- The magnitude as a fraction of naturals. -/
def ratio (x : Binary64) : Nat × Nat := scaled x.significand 1 x.exponent

/-- The product, rounded. -/
def mul? (x y : Binary64) : Option Binary64 :=
  let (a, b) := x.ratio
  let (c, d) := y.ratio
  ofRatio? (x.isNegative != y.isNegative) (a * c) (b * d)

/-- The quotient by a number other than zero, rounded. -/
def div? (x y : Binary64) : Option Binary64 :=
  let (a, b) := x.ratio
  let (c, d) := y.ratio
  if c = 0 then none else ofRatio? (x.isNegative != y.isNegative) (a * d) (b * c)

/-- The number nearest to `digits · 10 ^ exponent`. Exponents far outside the range are answered
without forming the power. -/
def ofDecimal? (negative : Bool) (digits : Nat) (exponent : Int) : Option Binary64 :=
  let size : Int := (Nat.toDigits 10 digits).length
  if digits = 0 then some (zero negative)
  else if exponent + size < -400 then some (zero negative)
  else if 400 < exponent + size then none
  else if exponent < 0 then ofRatio? negative digits (Nat.pow 10 exponent.natAbs)
  else ofRatio? negative (digits * Nat.pow 10 exponent.natAbs) 1

end Binary64

end Gleaner
