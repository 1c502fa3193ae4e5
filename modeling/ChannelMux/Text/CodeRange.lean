/-!
Tables of characters by code point: stretches that share a property, and stretches in which every
character stands as far from its counterpart.
-/
namespace ChannelMux.Text

/-- A stretch of code points, both ends included. -/
structure CodeRange where
  first : Nat
  last : Nat

def CodeRange.covers (range : CodeRange) (code : Nat) : Bool :=
  range.first ≤ code && code ≤ range.last

/-- Whether one of the stretches covers a character. -/
def within (ranges : List CodeRange) (c : Char) : Bool := ranges.any (·.covers c.toNat)

/-- Every `step`-th code point from `first` to `last` has its counterpart `shift` places on. -/
structure ShiftRun where
  first : Nat
  last : Nat
  step : Nat
  shift : Int

def ShiftRun.covers (run : ShiftRun) (code : Nat) : Bool :=
  run.first ≤ code && code ≤ run.last && (code - run.first) % run.step = 0

/-- The counterpart of a character, if a run gives one. -/
def shifted? (runs : List ShiftRun) (c : Char) : Option Char :=
  (runs.find? (·.covers c.toNat)).map (fun run => Char.ofNat ((c.toNat : Int) + run.shift).toNat)

end ChannelMux.Text
