import ChannelMux.Decimal.Binary64

/-!
The shortest decimal that reads back as a given double: of the decimals with the fewest digits in
the interval that rounds to the double, the one nearest to it. Two may be equally near.
-/
namespace ChannelMux.Decimal

/-- Which of two equally near decimals is taken. -/
inductive Tie where
  /-- The one whose last digit is even. -/
  | toEven
  | away
deriving DecidableEq, Repr

/-- `digits · 10 ^ exponent`. -/
structure Scientific where
  digits : Nat
  exponent : Int
deriving DecidableEq, Repr

/-- The number of decimal digits. -/
def digitCount (n : Nat) : Nat := (Nat.toDigits 10 n).length

/-- The least `k`, from the one given on, with `den ≤ num * 10 ^ k`. -/
def leastScale (num den : Nat) : Nat → Nat → Nat
  | 0, k => k
  | fuel + 1, k => if den ≤ num * tenTo k then k else leastScale num den fuel (k + 1)

/-- The greatest `e` with `10 ^ e ≤ num / den`, for positive numbers. A quotient below one is first
sized in bits, three of which are less than a digit. -/
def floorLog10 (num den : Nat) : Int :=
  if den ≤ num then (digitCount (num / den) : Int) - 1
  else
    let gap := den.log2 - num.log2
    Int.negOfNat (leastScale num den (gap + 2) (gap * 3 / 10 - 1))

/-- The interval of reals that round to `m · 2 ^ q`, and the number itself, over one denominator.
The ends belong to it iff `m` is even; below a power of two the neighbour is only half as far. -/
structure Interval where
  low : Nat
  value : Nat
  high : Nat
  den : Nat
  closed : Bool

def Interval.around (m : Nat) (q : Int) : Interval :=
  let lower := if m = twoTo 52 ∧ -1074 < q then 4 * m - 1 else 4 * m - 2
  let (unit, den) := Binary64.scale 1 1 (q - 2)
  ⟨lower * unit, 4 * m * unit, (4 * m + 2) * unit, den, m % 2 = 0⟩

/-- The interval measured in units of `10 ^ p`. -/
def Interval.inUnits (i : Interval) (p : Int) : Interval :=
  let up := tenTo (-p).toNat
  ⟨i.low * up, i.value * up, i.high * up, i.den * tenTo p.toNat, i.closed⟩

/-- The value is nearer to `down` than to the whole number above it, or as near and preferred. -/
def Interval.leansDown (i : Interval) (tie : Tie) (down : Nat) : Bool :=
  let below := i.value - down * i.den
  let above := (down + 1) * i.den - i.value
  below < above || (below = above && tie = .toEven && down % 2 = 0)

/-- The point of the grid of whole numbers that lies in the interval, the nearer of two. -/
def Interval.gridPoint? (i : Interval) (tie : Tie) : Option Nat :=
  let down := i.value / i.den
  let up := down + 1
  let downIn := if i.closed then i.low ≤ down * i.den else i.low < down * i.den
  let upIn := if i.closed then up * i.den ≤ i.high else up * i.den < i.high
  if downIn ∧ (¬ upIn ∨ i.leansDown tie down) then some down
  else if upIn then some up
  else none

/-- Drops zeros at the end of the digits. -/
def Scientific.trim : Nat → Scientific → Scientific
  | 0, s => s
  | fuel + 1, s =>
    if s.digits ≠ 0 ∧ s.digits % 10 = 0 then trim fuel ⟨s.digits / 10, s.exponent + 1⟩ else s

/-- Tries grids from coarse to fine, `left` of them, the next with unit `10 ^ p`. -/
def firstGrid (i : Interval) (tie : Tie) : Nat → Int → Scientific
  | 0, p => ⟨(i.inUnits p).value / (i.inUnits p).den, p⟩
  | left + 1, p =>
    match (i.inUnits p).gridPoint? tie with
    | some digits => ⟨digits, p⟩
    | none => firstGrid i tie left (p - 1)

/-- The shortest decimal for `m · 2 ^ q`; seventeen digits always suffice. -/
def shortest (tie : Tie) (m : Nat) (q : Int) : Scientific :=
  if m = 0 then ⟨0, 0⟩
  else
    let i := Interval.around m q
    (firstGrid i tie 17 (floorLog10 i.value i.den)).trim 20

end ChannelMux.Decimal
