import ChannelMux.Decimal.Notation
import ChannelMux.Json.Source

/-!
Free-form JSON data: values read from text, looked into by key, and printed compactly. An object
keeps its members in the order of their keys, one for each key; of repeated members the last counts.
-/
namespace ChannelMux.Json

/-- Whole numbers that fit 64 bits, signed or not, stay exact; any other number is a double. -/
inductive Number where
  | int (i : Int)
  | float (x : Binary64)
deriving DecidableEq, Repr

inductive Value where
  | null
  | bool (b : Bool)
  | number (n : Number)
  | string (s : String)
  | array (items : List Value)
  | object (members : List (String × Value))
deriving Repr

/-- A literal as a number. Minus zero is a double; a literal beyond the doubles is none. -/
def Literal.number? (l : Literal) : Option Number :=
  if l.integral && !l.negative && l.digits < twoTo 64 then some (.int l.digits)
  else if l.integral && l.negative && 0 < l.digits && l.digits ≤ twoTo 63 then
    some (.int (-(l.digits : Int)))
  else
    let x := Binary64.ofDecimal l.negative l.digits l.exponent
    if x.isInfinite then none else some (.float x)

namespace Number

def toBinary64 : Number → Binary64
  | int i => Binary64.ofInt i
  | float x => x

/-- The number if it is whole and not negative. -/
def nat? : Number → Option Nat
  | int i => if 0 ≤ i then some i.toNat else none
  | float _ => none

def write : Number → String
  | int i => toString i
  | float x => Decimal.Style.json.write x

end Number

namespace Value

/-- Puts a member in the place of its key, over one already there. -/
def insertMember (key : String) (value : Value) : List (String × Value) → List (String × Value)
  | [] => [(key, value)]
  | (k, v) :: rest =>
    if key = k then (key, value) :: rest
    else if key < k then (key, value) :: (k, v) :: rest
    else (k, v) :: insertMember key value rest

/-- An object of the given members, the later ones over the earlier. -/
def ofMembers (members : List (String × Value)) : Value :=
  object (members.foldl (fun acc (key, value) => insertMember key value acc) [])

/-- Arrays and objects may stand inside each other this deep. -/
def depthLimit : Nat := 127

mutual

/-- The data a text stands for, nested at most `depth` deep. -/
def ofSource? (depth : Nat) : Source → Option Value
  | .null => some null
  | .bool b => some (bool b)
  | .number literal => literal.number?.map number
  | .string content => content.map string
  | .array items =>
    match depth with
    | 0 => none
    | depth + 1 => (ofSources? depth items).map array
  | .object members =>
    match depth with
    | 0 => none
    | depth + 1 => (ofMembers? depth members).map ofMembers

def ofSources? (depth : Nat) : List Source → Option (List Value)
  | [] => some []
  | item :: rest => do
    let value ← ofSource? depth item
    let values ← ofSources? depth rest
    some (value :: values)

def ofMembers? (depth : Nat) : List (Option String × Source) → Option (List (String × Value))
  | [] => some []
  | (key, source) :: rest => do
    let key ← key
    let value ← ofSource? depth source
    let members ← ofMembers? depth rest
    some ((key, value) :: members)

end

def parse? (text : String) : Option Value := (Source.parse? text).bind (ofSource? depthLimit)

/-- The member of an object under a key. -/
def get? (v : Value) (key : String) : Option Value :=
  match v with
  | object members => members.lookup key
  | _ => none

def string? : Value → Option String
  | string s => some s
  | _ => none

def bool? : Value → Option Bool
  | bool b => some b
  | _ => none

def array? : Value → Option (List Value)
  | array items => some items
  | _ => none

/-- Writes a character of a string: quotes, backslashes and control characters are escaped. -/
def writeChar (c : Char) : List Char :=
  match c with
  | '"' => ['\\', '"']
  | '\\' => ['\\', '\\']
  | '\x08' => ['\\', 'b']
  | '\x0c' => ['\\', 'f']
  | '\n' => ['\\', 'n']
  | '\r' => ['\\', 'r']
  | '\t' => ['\\', 't']
  | c => if c.toNat < 0x20 then '\\' :: 'u' :: Text.hexDigits 4 c.toNat else [c]

def writeString (s : String) : List Char := '"' :: (s.toList.flatMap writeChar ++ ['"'])

mutual

def writeChars : Value → List Char
  | null => ['n', 'u', 'l', 'l']
  | bool true => ['t', 'r', 'u', 'e']
  | bool false => ['f', 'a', 'l', 's', 'e']
  | number n => n.write.toList
  | string s => writeString s
  | array items => '[' :: (writeItems items ++ [']'])
  | object members => '{' :: (writeMembers members ++ ['}'])

def writeItems : List Value → List Char
  | [] => []
  | [item] => writeChars item
  | item :: rest => writeChars item ++ ',' :: writeItems rest

def writeMembers : List (String × Value) → List Char
  | [] => []
  | [(key, value)] => writeString key ++ ':' :: writeChars value
  | (key, value) :: rest => writeString key ++ ':' :: writeChars value ++ ',' :: writeMembers rest

end

/-- Compact text, without blanks. -/
def write (v : Value) : String := String.ofList v.writeChars

end Value

end ChannelMux.Json
