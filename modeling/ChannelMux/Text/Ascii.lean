/-!
Case mapping of the letters a to z. Every other character, letters of other scripts included, is
left alone.
-/
namespace ChannelMux.Text

def upperAscii (s : String) : String := String.ofList (s.toList.map Char.toUpper)

def lowerAscii (s : String) : String := String.ofList (s.toList.map Char.toLower)

/-- Equal once the letters A to Z are read as a to z. -/
def sameIgnoringCase (a b : String) : Bool := lowerAscii a == lowerAscii b

@[simp] theorem toList_upperAscii (s : String) :
    (upperAscii s).toList = s.toList.map Char.toUpper := by
  simp [upperAscii]

@[simp] theorem toList_lowerAscii (s : String) :
    (lowerAscii s).toList = s.toList.map Char.toLower := by
  simp [lowerAscii]

end ChannelMux.Text
