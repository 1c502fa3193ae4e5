import ChannelMux.Decimal.Power
import ChannelMux.Text.Hex

/-!
Binary floating-point numbers of 64 bits, worked with exactly: every operation here takes the true
value, a quotient of natural numbers, and rounds it once to the nearest double, a tie going to the
even one.

A double other than NaN and the infinities stands for `±m · 2^q` with `-1074 ≤ q`. Read as a number,
the 63 bits below the sign grow with the magnitude, and the bits of `m · 2^q` are
`(q + 1074) · 2^52 + m`, whether `m` has 53 bits or, at the smallest `q`, fewer.
-/
namespace ChannelMux

structure Binary64 where
  bits : UInt64
deriving DecidableEq, Repr

namespace Binary64

def exponentOnes : Nat := 2047

/-- The bits of infinity, which also bound those of every finite magnitude. -/
def infiniteMagnitude : Nat := exponentOnes * twoTo 52

def ofMagnitude (negative : Bool) (magnitude : Nat) : Binary64 :=
  ⟨UInt64.ofNat (if negative then twoTo 63 + magnitude else magnitude)⟩

def zero : Binary64 := ofMagnitude false 0
def one : Binary64 := ofMagnitude false (1023 * twoTo 52)
def infinity (negative : Bool) : Binary64 := ofMagnitude negative infiniteMagnitude
def nan : Binary64 := ofMagnitude false (infiniteMagnitude + twoTo 51)

def magnitude (x : Binary64) : Nat := x.bits.toNat % twoTo 63
def isNegative (x : Binary64) : Bool := twoTo 63 ≤ x.bits.toNat
def isNaN (x : Binary64) : Bool := infiniteMagnitude < x.magnitude
def isInfinite (x : Binary64) : Bool := x.magnitude = infiniteMagnitude
def isFinite (x : Binary64) : Bool := x.magnitude < infiniteMagnitude
def isZero (x : Binary64) : Bool := x.magnitude = 0

/-- The `m` and `q` of a finite number, leaving its sign aside. -/
def parts (x : Binary64) : Nat × Int :=
  let exponent : Nat := x.magnitude / twoTo 52
  let fraction : Nat := x.magnitude % twoTo 52
  if exponent = 0 then (fraction, -1074) else (fraction + twoTo 52, (exponent : Int) - 1075)

/-- The whole number nearest to `num / den`, a tie going to the even one. -/
def roundHalfEven (num den : Nat) : Nat :=
  let whole := num / den
  let twice := 2 * (num % den)
  if twice < den then whole
  else if den < twice then whole + 1
  else whole + whole % 2

/-- `num / den` times `2 ^ shift`, as a quotient. -/
def scale (num den : Nat) (shift : Int) : Nat × Nat :=
  if 0 ≤ shift then (num * twoTo shift.toNat, den) else (num, den * twoTo (-shift).toNat)

/-- The greatest `e` with `2 ^ e ≤ num / den`, for positive numbers. -/
def floorLog2 (num den : Nat) : Int :=
  let guess : Int := (num.log2 : Int) - (den.log2 : Int)
  let (n, d) := scale num den (-guess)
  if d ≤ n then guess else guess - 1

/-- The magnitude bits of the double nearest to `num / den`. -/
def nearestMagnitude (num den : Nat) : Nat :=
  if num = 0 then 0
  else
    let q := max (floorLog2 num den - 52) (-1074)
    let (n, d) := scale num den (-q)
    min ((q + 1074).toNat * twoTo 52 + roundHalfEven n d) infiniteMagnitude

/-- The double nearest to `± num / den`; too large a value becomes infinite. -/
def nearest (negative : Bool) (num den : Nat) : Binary64 :=
  ofMagnitude negative (nearestMagnitude num den)

def ofNat (n : Nat) : Binary64 := nearest false n 1

def ofInt (i : Int) : Binary64 := nearest (i < 0) i.natAbs 1

/-- The double nearest to `± digits · 10 ^ exponent`. Exponents far outside the range of doubles
are answered without forming the power. -/
def ofDecimal (negative : Bool) (digits : Nat) (exponent : Int) : Binary64 :=
  if digits = 0 then ofMagnitude negative 0
  else if 310 ≤ exponent then infinity negative
  else if 0 ≤ exponent then nearest negative (digits * tenTo exponent.toNat) 1
  else if (digits.log2 : Int) + 1 + 1080 ≤ 3 * -exponent then ofMagnitude negative 0
  else nearest negative digits (tenTo (-exponent).toNat)

/-- The product, rounded once. -/
def mul (x y : Binary64) : Binary64 :=
  let negative := x.isNegative != y.isNegative
  if x.isNaN || y.isNaN then nan
  else if x.isInfinite || y.isInfinite then
    if x.isZero || y.isZero then nan else infinity negative
  else
    let (m, q) := x.parts
    let (n, r) := y.parts
    let (num, den) := scale (m * n) 1 (q + r)
    nearest negative num den

/-- The whole part, kept between zero and `limit`; what is no number counts as zero. -/
def toNatClamped (x : Binary64) (limit : Nat) : Nat :=
  if x.isNaN || x.isNegative then 0
  else if x.isInfinite then limit
  else
    let (m, q) := x.parts
    let (num, den) := scale m 1 q
    min (num / den) limit

/-- The number itself if it is at least one, otherwise one; what is no number counts as one. -/
def atLeastOne (x : Binary64) : Binary64 :=
  if x.isNaN || x.isNegative || x.magnitude < one.magnitude then one else x

/-- Sixteen hexadecimal digits, the sign bit first. -/
def hex (x : Binary64) : String := String.ofList (Text.hexDigits 16 x.bits.toNat)

example : (ofNat 1).bits = 0x3FF0000000000000 := by decide
example : (ofDecimal false 1 (-1)).bits = 0x3FB999999999999A := by decide
example : (ofDecimal false 5 (-324)).bits = 1 := by decide +kernel

end Binary64

end ChannelMux
