import ChannelMux.Decimal.Power

/-!
Spans of time in words: the largest of s, ms, µs and ns that the span fills, with a decimal fraction
without trailing zeros.
-/
namespace ChannelMux.Text

/-- The digits of `n` in `width` places, from the left, without trailing zeros. -/
def fraction : (width : Nat) → Nat → List Char
  | 0, _ => []
  | width + 1, n =>
    if n = 0 then []
    else Nat.digitChar (n / tenTo width) :: fraction width (n % tenTo width)

/-- A number of units of `10 ^ width` nanoseconds. -/
def inUnits (nanos width : Nat) (name : String) : String :=
  let rest := nanos % tenTo width
  let decimals := if rest = 0 then "" else "." ++ String.ofList (fraction width rest)
  toString (nanos / tenTo width) ++ decimals ++ name

def span (nanos : Nat) : String :=
  if tenTo 9 ≤ nanos then inUnits nanos 9 "s"
  else if tenTo 6 ≤ nanos then inUnits nanos 6 "ms"
  else if tenTo 3 ≤ nanos then inUnits nanos 3 "µs"
  else inUnits nanos 0 "ns"

example : span 10000000000 = "10s" ∧ span 1500000000 = "1.5s" ∧ span 250000000 = "250ms" := by
  decide +kernel
example : span 0 = "0ns" ∧ span 1002003 = "1.002003ms" := by decide +kernel

end ChannelMux.Text
