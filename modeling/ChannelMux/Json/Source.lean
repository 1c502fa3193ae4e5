import ChannelMux.Decimal.Binary64

/-!
JSON text as it is written (RFC 8259): members in their order with repetitions, numbers as literals,
and strings that may contain half of a surrogate pair. What a text means is decided by its readers:
`Json.Value` for free-form data and `Json.Record` for records with known fields.
-/
namespace ChannelMux.Json

/-- A number as written, worth `± digits · 10 ^ exponent`. -/
structure Literal where
  negative : Bool
  digits : Nat
  exponent : Int
  /-- Written without fraction and exponent. -/
  integral : Bool
deriving DecidableEq, Repr

inductive Source where
  | null
  | bool (b : Bool)
  | number (literal : Literal)
  /-- No content if an escape stands for half of a surrogate pair. -/
  | string (content : Option String)
  | array (items : List Source)
  | object (members : List (Option String × Source))
deriving Repr

namespace Source

def isSpace (c : Char) : Bool := c = ' ' || c = '\t' || c = '\n' || c = '\r'

def skipSpace (cs : List Char) : List Char := cs.dropWhile isSpace

def simpleEscape? (c : Char) : Option Nat :=
  match c with
  | '"' => some 0x22
  | '\\' => some 0x5C
  | '/' => some 0x2F
  | 'b' => some 0x08
  | 'f' => some 0x0C
  | 'n' => some 0x0A
  | 'r' => some 0x0D
  | 't' => some 0x09
  | _ => none

/-- Reads a string behind its opening quote, up to and including the closing one. -/
def scanCodes : List Char → Option (List Nat × List Char)
  | [] => none
  | '"' :: rest => some ([], rest)
  | '\\' :: 'u' :: a :: b :: c :: d :: rest => do
    let code ← Text.hexNumber? [a, b, c, d]
    let (codes, left) ← scanCodes rest
    some (code :: codes, left)
  | '\\' :: e :: rest => do
    let code ← simpleEscape? e
    let (codes, left) ← scanCodes rest
    some (code :: codes, left)
  | c :: rest =>
    if c.toNat < 0x20 ∨ c = '\\' then none
    else do
      let (codes, left) ← scanCodes rest
      some (c.toNat :: codes, left)

def isHighSurrogate (code : Nat) : Bool := 0xD800 ≤ code && code < 0xDC00
def isLowSurrogate (code : Nat) : Bool := 0xDC00 ≤ code && code < 0xE000

/-- Joins surrogate pairs; a half without its partner makes the whole text unreadable. -/
def joinSurrogates : List Nat → Option (List Char)
  | [] => some []
  | [code] =>
    if isHighSurrogate code || isLowSurrogate code then none else some [Char.ofNat code]
  | code :: next :: rest =>
    if isHighSurrogate code then
      if isLowSurrogate next then
        (joinSurrogates rest).map
          (Char.ofNat (0x10000 + (code - 0xD800) * 0x400 + (next - 0xDC00)) :: ·)
      else none
    else if isLowSurrogate code then none
    else (joinSurrogates (next :: rest)).map (Char.ofNat code :: ·)

def scanString (cs : List Char) : Option (Option String × List Char) :=
  (scanCodes cs).map (fun (codes, left) => ((joinSurrogates codes).map String.ofList, left))

def digitValue (c : Char) : Nat := c.toNat - 48

def digitsValue (cs : List Char) : Nat := cs.foldl (fun n c => n * 10 + digitValue c) 0

/-- A non-empty run of digits. -/
def scanDigits (cs : List Char) : Option (List Char × List Char) :=
  match cs.takeWhile Char.isDigit with
  | [] => none
  | digits => some (digits, cs.dropWhile Char.isDigit)

/-- The digits before the point: a single zero, or a run that does not begin with one. -/
def scanWhole : List Char → Option (List Char × List Char)
  | '0' :: rest => some (['0'], rest)
  | cs => scanDigits cs

def scanFraction : List Char → Option (Option (List Char) × List Char)
  | '.' :: rest => (scanDigits rest).map (fun (digits, left) => (some digits, left))
  | cs => some (none, cs)

/-- An exponent if there is one. -/
def scanExponent : List Char → Option (Option Int × List Char)
  | c :: rest =>
    if c = 'e' ∨ c = 'E' then
      let (negative, rest) := match rest with
        | '-' :: r => (true, r)
        | '+' :: r => (false, r)
        | r => (false, r)
      (scanDigits rest).map (fun (digits, left) =>
        let size : Int := digitsValue digits
        (some (if negative then -size else size), left))
    else some (none, c :: rest)
  | [] => some (none, [])

def scanNumber (cs : List Char) : Option (Literal × List Char) := do
  let (negative, cs) := match cs with
    | '-' :: rest => (true, rest)
    | cs => (false, cs)
  let (whole, cs) ← scanWhole cs
  let (fraction, cs) ← scanFraction cs
  let (exponent, cs) ← scanExponent cs
  let places := fraction.getD []
  some (⟨negative, digitsValue (whole ++ places), exponent.getD 0 - places.length,
    fraction.isNone && exponent.isNone⟩, cs)

mutual

/-- Reads one value. The fuel bounds the steps; twice the length of the text is enough. -/
def scanValue : Nat → List Char → Option (Source × List Char)
  | 0, _ => none
  | fuel + 1, cs =>
    match skipSpace cs with
    | 'n' :: 'u' :: 'l' :: 'l' :: rest => some (null, rest)
    | 't' :: 'r' :: 'u' :: 'e' :: rest => some (bool true, rest)
    | 'f' :: 'a' :: 'l' :: 's' :: 'e' :: rest => some (bool false, rest)
    | '"' :: rest => (scanString rest).map (fun (content, left) => (string content, left))
    | '[' :: rest =>
      match skipSpace rest with
      | ']' :: rest => some (array [], rest)
      | rest => (scanItems fuel rest).map (fun (items, left) => (array items, left))
    | '{' :: rest =>
      match skipSpace rest with
      | '}' :: rest => some (object [], rest)
      | rest => (scanMembers fuel rest).map (fun (members, left) => (object members, left))
    | rest => (scanNumber rest).map (fun (literal, left) => (number literal, left))

/-- Reads the items of an array that is not empty, up to and including its bracket. -/
def scanItems : Nat → List Char → Option (List Source × List Char)
  | 0, _ => none
  | fuel + 1, cs => do
    let (item, rest) ← scanValue fuel cs
    match skipSpace rest with
    | ',' :: rest =>
      let (items, left) ← scanItems fuel rest
      some (item :: items, left)
    | ']' :: rest => some ([item], rest)
    | _ => none

/-- Reads the members of an object that is not empty, up to and including its brace. -/
def scanMembers : Nat → List Char → Option (List (Option String × Source) × List Char)
  | 0, _ => none
  | fuel + 1, cs => do
    let (key, rest) ← match skipSpace cs with
      | '"' :: rest => scanString rest
      | _ => none
    let (value, rest) ← match skipSpace rest with
      | ':' :: rest => scanValue fuel rest
      | _ => none
    match skipSpace rest with
    | ',' :: rest =>
      let (members, left) ← scanMembers fuel rest
      some ((key, value) :: members, left)
    | '}' :: rest => some ([(key, value)], rest)
    | _ => none

end

/-- Reads a whole text as one value with blanks around it. -/
def parse? (text : String) : Option Source :=
  let cs := text.toList
  match scanValue (2 * cs.length + 2) cs with
  | some (source, rest) => if (skipSpace rest).isEmpty then some source else none
  | none => none

end Source

end ChannelMux.Json
