import ChannelMux.Domain.ReplacementTable
import ChannelMux.Text.Unassigned

/-!
What stands for a character in a domain name. Names that look the same to a reader are made the
same, and characters that would mislead one are refused.
-/
namespace ChannelMux.Domain

open Text (within shifted? unassigned)

/-- The characters that stand for `c`, or nothing if it is refused. Letters of ASCII become small,
and its other characters stay. -/
def replaced? (c : Char) : Option (List Char) :=
  if c.toNat < 0x80 then some [c.toLower]
  else match shifted? shifts c with
    | some d => some [d]
    | none =>
      match forms.find? (·.covers c.toNat) with
      | some run => (run.texts[c.toNat - run.first]?).map String.toList
      | none =>
        if within ignored c then some []
        else if within refused c || within unassigned c then none
        else some [c]

/-- Whether a character stands for itself. -/
def isPlain (c : Char) : Bool := replaced? c = some [c]

end ChannelMux.Domain
