import ChannelMux.Text.CombiningTable

/-!
The composed normal form of a text, in which equal texts are written alike: marks stand in one
order, and a character with a mark is one character where there is one. Characters that never occur
in the normal form are not taken apart; whoever uses it has to replace or refuse them.
-/
namespace ChannelMux.Text

/-- Marks of different classes may change places; class 0 stays where it is. -/
def combiningClass (c : Char) : Nat :=
  match classRuns.find? (fun run => run.first ≤ c.toNat && c.toNat ≤ run.last) with
  | some run => run.order
  | none => 0

/-! Hangul syllables are numbered by their leading consonant, vowel and trailing consonant. -/

namespace Hangul

def isSyllable (code : Nat) : Bool := 0xAC00 ≤ code && code < 0xAC00 + 19 * 21 * 28

def parts (code : Nat) : List Nat :=
  let index := code - 0xAC00
  let leading := [0x1100 + index / 588, 0x1161 + index % 588 / 28]
  if index % 28 = 0 then leading else leading ++ [0x11A7 + index % 28]

def compose? (first second : Nat) : Option Nat :=
  if 0x1100 ≤ first && first < 0x1113 && 0x1161 ≤ second && second < 0x1176 then
    some (0xAC00 + (first - 0x1100) * 588 + (second - 0x1161) * 28)
  else if isSyllable first && (first - 0xAC00) % 28 = 0 && 0x11A7 < second && second < 0x11C3 then
    some (first + (second - 0x11A7))
  else none

end Hangul

/-- The character and the mark that a composed character stands for. -/
def split? (code : Nat) : Option (Nat × Nat) :=
  compositions.findSome? (fun run =>
    (run.pairs.find? (·.2 = code)).map (fun pair => (pair.1, run.mark)))

/-- A code point with its marks taken off, at most `depth` of them. -/
def takenApart : (depth : Nat) → Nat → List Nat
  | 0, code => [code]
  | depth + 1, code =>
    match split? code with
    | some (first, mark) => takenApart depth first ++ [mark]
    | none => [code]

/-- No character stands for another with more than three marks. -/
def decomposed (c : Char) : List Char :=
  let codes := if Hangul.isSyllable c.toNat then Hangul.parts c.toNat else takenApart 3 c.toNat
  codes.map Char.ofNat

/-- Puts a character in front, behind the marks of lower classes. -/
def insertMark (c : Char) : List Char → List Char
  | [] => [c]
  | d :: rest =>
    if 0 < combiningClass d && combiningClass d < combiningClass c then d :: insertMark c rest
    else c :: d :: rest

/-- Marks between two characters of class 0 in the order of their classes. -/
def ordered (cs : List Char) : List Char := cs.foldr insertMark []

/-- The character that stands for one followed by another. -/
def compose? (first second : Char) : Option Char :=
  let code? := Hangul.compose? first.toNat second.toNat <|> do
    let run ← compositions.find? (·.mark = second.toNat)
    let pair ← run.pairs.find? (·.1 = first.toNat)
    some pair.2
  code?.map Char.ofNat

/-- Composes `base` with the characters that follow it. In between stand the marks of `kept`, in
reverse, the last of class `reached`; they hide marks of their own class and below. -/
def composedFrom (base : Char) (kept : List Char) (reached : Nat) : List Char → List Char
  | [] => base :: kept.reverse
  | c :: rest =>
    let order := combiningClass c
    match if kept.isEmpty || reached < order then compose? base c else none with
    | some composite => composedFrom composite kept reached rest
    | none =>
      if order = 0 then base :: kept.reverse ++ composedFrom c [] 0 rest
      else composedFrom base (c :: kept) order rest

def composed : List Char → List Char
  | [] => []
  | c :: rest => composedFrom c [] 0 rest

/-- The composed normal form. Below U+0300 there is nothing to compose. -/
def normalForm (cs : List Char) : List Char :=
  if cs.all (·.toNat < 0x300) then cs else composed (ordered (cs.flatMap decomposed))

end ChannelMux.Text
