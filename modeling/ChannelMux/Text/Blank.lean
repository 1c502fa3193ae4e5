/-!
Blank characters and trimming. A character is blank when it has the Unicode property White_Space;
trimming removes blanks from both ends and nothing else.
-/
namespace ChannelMux.Text

/-- The code points with the property White_Space. -/
def blankCodes : List Nat :=
  [0x09, 0x0A, 0x0B, 0x0C, 0x0D, 0x20, 0x85, 0xA0, 0x1680, 0x2000, 0x2001, 0x2002, 0x2003, 0x2004,
    0x2005, 0x2006, 0x2007, 0x2008, 0x2009, 0x200A, 0x2028, 0x2029, 0x202F, 0x205F, 0x3000]

def isBlank (c : Char) : Bool := blankCodes.contains c.toNat

/-- What is left once the elements that `p` accepts are cut from the end. -/
def dropEndWhile {α : Type} (p : α → Bool) (s : List α) : List α :=
  (s.reverse.dropWhile p).reverse

def trimChars (s : List Char) : List Char := dropEndWhile isBlank (s.dropWhile isBlank)

def trim (s : String) : String := String.ofList (trimChars s.toList)

example : blankCodes.length = 25 := rfl

theorem isBlank_of_isWhitespace (c : Char) (h : c.isWhitespace) : isBlank c := by
  simp only [Char.isWhitespace, Bool.or_eq_true, decide_eq_true_eq] at h
  rcases h with ((rfl | rfl) | rfl) | rfl <;> decide

@[simp] theorem toList_trim (s : String) : (trim s).toList = trimChars s.toList := by
  simp [trim]

end ChannelMux.Text
