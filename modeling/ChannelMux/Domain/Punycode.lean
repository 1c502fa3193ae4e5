import ChannelMux.Decimal.Power

/-!
Labels of a domain name in ASCII. The characters outside ASCII are taken out of a label and written
behind it as numbers, each a step from the one before: over all places of the label, and over all
greater characters after those.
-/
namespace ChannelMux.Domain.Punycode

/-- Letters stand for 0 to 25, digits for 26 to 35. -/
def digit? (c : Char) : Option Nat :=
  if c.isLower then some (c.toNat - 97)
  else if c.isDigit then some (c.toNat - 48 + 26)
  else none

/-- A digit below the threshold ends a number. The thresholds rise from 1 to 26 with the place. -/
def threshold (bias place : Nat) : Nat := min 26 (max 1 (place - bias))

/-- Divides a step until it is small, and counts the divisions. -/
def reduced (step : Nat) : Nat × Nat :=
  if 455 < step then
    let (rest, count) := reduced (step / 35)
    (rest, count + 1)
  else (step, 0)
termination_by step
decreasing_by omega

/-- The next numbers are expected to be about as long as this step. -/
def adapted (step length : Nat) (isFirst : Bool) : Nat :=
  let damped := if isFirst then step / 700 else step / 2
  let (rest, count) := reduced (damped + damped / length)
  36 * count + 36 * rest / (rest + 38)

/-- Numbers beyond this one are refused. -/
def greatest : Nat := twoTo 32 - 1

/-- A label that is being put together. -/
structure Progress where
  label : List Char
  /-- The character that was put in last. -/
  code : Nat
  /-- The place where the next search starts, and how far it has come. -/
  start : Nat
  index : Nat
  bias : Nat
  /-- The weight of the next digit, and the place that it is compared at. -/
  weight : Nat
  place : Nat

/-- Puts in the character that a whole number leads to. -/
def Progress.insert (p : Progress) : Option Progress :=
  let length := p.label.length + 1
  let code := p.code + p.index / length
  let position := p.index % length
  if code < 0xD800 ∨ (0xDFFF < code ∧ code < 0x110000) then
    some
      { label := p.label.take position ++ Char.ofNat code :: p.label.drop position, code
        start := position + 1, index := position + 1
        bias := adapted (p.index - p.start) length (p.start = 0)
        weight := 1, place := 36 }
  else none

/-- Numbers are written from the lowest digit. -/
def Progress.read (p : Progress) (c : Char) : Option Progress := do
  let digit ← digit? c
  let index := p.index + digit * p.weight
  let threshold := threshold p.bias p.place
  let weight := p.weight * (36 - threshold)
  if greatest < index then none
  else if digit < threshold then Progress.insert { p with index }
  else if greatest < weight then none
  else some { p with index, weight, place := p.place + 36 }

/-- What stands before the last hyphen, and what stands behind it. One in front parts nothing. -/
def parts (cs : List Char) : List Char × List Char :=
  match cs.reverse.span (· ≠ '-') with
  | (numbers, '-' :: basic@(_ :: _)) => (basic.reverse, numbers.reverse)
  | _ => ([], cs)

/-- The label that a text in small letters stands for. -/
def decode? (cs : List Char) : Option (List Char) := do
  let (basic, numbers) := parts cs
  let p ← numbers.foldlM Progress.read
    { label := basic, code := 0x80, start := 0, index := 0, bias := 72, weight := 1, place := 36 }
  if p.place = 36 then some p.label else none

example : decode? "mnchen-3ya".toList = some "münchen".toList := by decide +kernel
example : decode? "0".toList = none := by decide +kernel

end ChannelMux.Domain.Punycode
