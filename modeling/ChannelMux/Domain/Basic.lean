import ChannelMux.Domain.Direction
import ChannelMux.Domain.Joining
import ChannelMux.Domain.Punycode
import ChannelMux.Domain.Replacement
import ChannelMux.Text.Parts

/-!
Domain names with letters of all scripts. A name is read as its labels, in one form for all ways of
writing it: in small letters, in composed normal form, and with labels in ASCII that stand for
others replaced by those.
-/
namespace ChannelMux.Domain

open Text (isMark normalForm splitOn)

def isAscii (c : Char) : Bool := c.toNat < 0x80

/-- Characters of ASCII that no name may contain. -/
def isForbidden (c : Char) : Bool :=
  c.toNat < 0x20 || c.toNat = 0x7F || " #%/:<>?@[\\]^|".toList.contains c

/-- The label that stands behind the mark `xn--` in ASCII. It has to stand for what no plain label
stands for, and to be in the one form. -/
def unmarked? (cs : List Char) : Option (List Char) := do
  if !cs.all isAscii ∨ cs = [] ∨ cs.getLast? = some '-' ∨ 2000 < cs.length then none
  else
    let label ← Punycode.decode? cs
    if label.all (fun c => isPlain c && c ≠ '.' && !isForbidden c) ∧ normalForm label = label then
      some label
    else none

/-- What a label stands for. -/
def label? (cs : List Char) : Option (List Char) :=
  match cs with
  | 'x' :: 'n' :: '-' :: '-' :: rest => unmarked? rest
  | _ => some cs

/-- Whether a label may be part of a name. -/
def isLabel (label : List Char) : Bool :=
  label.all isAscii ||
    (!label.head?.any isMark && joinersFit [] label && label.length ≤ 1000)

/-- The labels of a name, if it is one. -/
def labels? (cs : List Char) : Option (List (List Char)) := do
  let characters := normalForm (← cs.mapM replaced?).flatten
  if characters.any isForbidden then none
  else
    let labels ← (splitOn '.' characters).mapM label?
    if labels.all isLabel && directionsFit labels then some labels else none

example : labels? "MÜNCHEN。xn--mnchen-3ya".toList =
    some ["münchen".toList, "münchen".toList] := by decide +kernel
example : labels? "\u00ad".toList = some [[]] := by decide +kernel
example : labels? "a\u200db".toList = none := by decide +kernel

end ChannelMux.Domain
