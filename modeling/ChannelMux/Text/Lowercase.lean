import ChannelMux.Text.CaseTable

/-!
Small letters of any script. Two rules reach beyond single characters: a capital I with a dot
becomes two characters, and a capital sigma becomes a final one at the end of a word.
-/
namespace ChannelMux.Text

/-- The small form of a character, taken by itself. -/
def lowerChar (c : Char) : List Char :=
  if c.toNat < 0x80 then [c.toLower]
  else if c = 'İ' then ['i', Char.ofNat 0x307]
  else [(shifted? lowerRuns c).getD c]

/-- Skipping what is ignored, the next character has case. -/
def caseFollows (s : List Char) : Bool :=
  match s.dropWhile (within caseIgnorable) with
  | c :: _ => within cased c
  | [] => false

/-- Small letters for a text whose part before it, read backwards, is `before`. -/
def lowerFrom (before : List Char) : List Char → List Char
  | [] => []
  | c :: rest =>
    let small :=
      if c = 'Σ' then
        if caseFollows before && !caseFollows rest then ['ς'] else ['σ']
      else lowerChar c
    small ++ lowerFrom (c :: before) rest

def lowercase (s : String) : String := String.ofList (lowerFrom [] s.toList)

end ChannelMux.Text
