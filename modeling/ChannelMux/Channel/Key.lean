import ChannelMux.Text.Blank

/-!
Channel requests and the canonical keys that identify them.

A key is written `name:arg:arg`. Blanks around the name and the arguments do not count and trailing
empty arguments are dropped, but an empty argument before another one keeps its place. A `:` or `\`
inside a part is written with a `\` before it, so the parts can be told apart again.
-/
namespace ChannelMux

/-- What a subscriber asks for: a channel name and its arguments in order. -/
structure ChannelRequest where
  name : String
  args : List String
deriving DecidableEq, Repr

/-- The canonical identifier of one logical subscription. -/
structure ChannelKey where
  text : String
deriving DecidableEq, Repr

namespace ChannelKey

/-- Writes `\` before every `:` and `\`. -/
def escape : List Char → List Char
  | [] => []
  | c :: rest => if c = ':' ∨ c = '\\' then '\\' :: c :: escape rest else c :: escape rest

/-- The characters before the first `:` that no `\` protects; `protect` says whether the character
before them was such a `\`. -/
def firstPart (protect : Bool) : List Char → List Char
  | [] => []
  | c :: rest =>
    if protect then c :: firstPart false rest
    else if c = ':' then []
    else c :: firstPart (decide (c = '\\')) rest

/-- Arguments without their surrounding blanks and without trailing empty ones. -/
def canonicalArgs (args : List String) : List (List Char) :=
  Text.dropEndWhile List.isEmpty (args.map (fun a => Text.trimChars a.toList))

/-- The escaped name, then each argument behind a `:`. -/
def join (name : List Char) (args : List (List Char)) : List Char :=
  escape name ++ args.flatMap (fun a => ':' :: escape a)

def ofParts (name : String) (args : List String) : ChannelKey :=
  ⟨String.ofList (join (Text.trimChars name.toList) (canonicalArgs args))⟩

/-- The name part of a key, still escaped. -/
def channel (key : ChannelKey) : String := String.ofList (firstPart false key.text.toList)

/-- Keys are ordered by the code points of their text. -/
def le (a b : ChannelKey) : Bool := !decide (b.text < a.text)

/-- The distinct keys of a list in ascending order. -/
def sorted (keys : List ChannelKey) : List ChannelKey := (keys.mergeSort le).eraseDups

/-- The form used in diagnostics. -/
def debug (key : ChannelKey) : String := "ChannelKey(" ++ key.text ++ ")"

@[simp] theorem escape_nil : escape [] = [] := rfl

/-- An escaped name is never cut short, and reading stops at the `:` behind it. -/
theorem firstPart_escape_append (name rest : List Char) (h : rest = [] ∨ ∃ r, rest = ':' :: r) :
    firstPart false (escape name ++ rest) = escape name := by
  induction name with
  | nil => rcases h with rfl | ⟨r, rfl⟩ <;> simp [firstPart]
  | cons c tail ih =>
    by_cases hc : c = ':' ∨ c = '\\'
    · simp [escape, hc, firstPart, ih]
    · obtain ⟨h1, h2⟩ := not_or.1 hc
      simp [escape, h1, h2, firstPart, ih]

end ChannelKey

namespace ChannelRequest

/-- The argument at a position, without surrounding blanks; an empty one counts as absent. -/
def arg (request : ChannelRequest) (i : Nat) : Option String :=
  (request.args[i]?).bind (fun a => let t := Text.trim a; if t = "" then none else some t)

/-- The canonical key of a request when the exchange has no convention of its own. -/
def key (request : ChannelRequest) : ChannelKey := ChannelKey.ofParts request.name request.args

end ChannelRequest

end ChannelMux
