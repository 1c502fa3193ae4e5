import ChannelMux.Decimal.Power
import ChannelMux.Text.Parts

/-!
The target of a handshake, as it is asked for in a request. A target is read more strictly than an
address: nothing is trimmed, slashes lean one way, and only paths and queries go beyond ASCII.
-/
namespace ChannelMux

/-- What is wrong with a target. -/
inductive TargetError where
  | tooLong
  | invalidCharacter
  | invalidAuthority
  | invalidFormat
  | unknownPort
deriving DecidableEq, Repr

def TargetError.message : TargetError → String
  | tooLong => "HTTP format error: uri too long"
  | invalidCharacter => "HTTP format error: invalid uri character"
  | invalidAuthority => "HTTP format error: invalid authority"
  | invalidFormat => "HTTP format error: invalid format"
  | unknownPort => "URL error: URL scheme not supported"

/-- A target that can be asked for. Without a scheme it is an authority alone. -/
structure Target where
  scheme? : Option (List Char)
  authority : List Char
deriving DecidableEq, Repr

namespace Target

/-- The most bytes of a target. -/
def longest : Nat := twoTo 16 - 2

def isSchemeChar (c : Char) : Bool := c.isAlphanum || "+-.~".toList.contains c

/-- The scheme before `://`, if the text starts with one, and the rest. -/
def splitScheme (cs : List Char) : Option (List Char) × List Char :=
  match cs.span isSchemeChar with
  | (scheme, ':' :: '/' :: '/' :: rest) => (some scheme, rest)
  | _ => (none, cs)

def isAuthorityChar (c : Char) : Bool :=
  c.isAlphanum || "!$%&'()*+,-.:;=@[]_~".toList.contains c

/-- What has been seen of an authority since its user, or since its brackets. -/
structure Scan where
  colons : Nat
  hasPercent : Bool
  opened : Bool
  closed : Bool

/-- Takes in a character of an authority. An address in brackets has eight colons at most, and only
a user may hold escaped characters. -/
def Scan.read (s : Scan) (c : Char) : Except TargetError Scan :=
  match c with
  | ':' =>
    if 8 ≤ s.colons then .error .invalidAuthority else .ok { s with colons := s.colons + 1 }
  | '[' =>
    if s.hasPercent || s.opened then .error .invalidAuthority else .ok { s with opened := true }
  | ']' =>
    if !s.opened || s.closed then .error .invalidAuthority
    else .ok { s with closed := true, colons := 0, hasPercent := false }
  | '@' => .ok { s with colons := 0, hasPercent := false }
  | '%' => .ok { s with hasPercent := true }
  | c => if isAuthorityChar c then .ok s else .error .invalidCharacter

def checkAuthority (cs : List Char) : Except TargetError Unit := do
  let s ← cs.foldlM Scan.read ⟨0, false, false, false⟩
  if s.opened != s.closed || 1 < s.colons || cs.getLast? = some '@' || s.hasPercent then
    .error .invalidAuthority

/-- Characters that a path holds. Quotes and braces should be escaped, but need not be. -/
def isPathChar (c : Char) : Bool :=
  0x80 ≤ c.toNat || (0x21 ≤ c.toNat && c.toNat < 0x7F && !"#<>?`".toList.contains c)

def isQueryChar (c : Char) : Bool :=
  0x80 ≤ c.toNat || (0x21 ≤ c.toNat && c.toNat < 0x7F && !"\"#<>".toList.contains c)

/-- A path, then a query behind `?`. What follows a `#` is not asked for, and may hold anything. -/
def checkPath (cs : List Char) : Except TargetError Unit :=
  match cs.dropWhile isPathChar with
  | '?' :: query =>
    match query.dropWhile isQueryChar with
    | [] | '#' :: _ => .ok ()
    | _ => .error .invalidCharacter
  | [] | '#' :: _ => .ok ()
  | _ => .error .invalidCharacter

def ofText (text : String) : Except TargetError Target := do
  if longest < text.utf8ByteSize then .error .tooLong
  let (scheme?, rest) := splitScheme text.toList
  let (authority, path) := rest.span (fun c => c ≠ '/' && c ≠ '?' && c ≠ '#')
  checkAuthority authority
  match scheme? with
  | none => if path ≠ [] then .error .invalidFormat
  | some _ => if authority = [] then .error .invalidFormat else checkPath path
  return ⟨scheme?, authority⟩

/-- The number of a socket, which may carry a plus sign. -/
def portNumber? (cs : List Char) : Option Nat :=
  let digits : List Char := match cs with
    | '+' :: digits => digits
    | digits => digits
  let n := digits.foldl (fun n c => min (n * 10 + (c.toNat - 48)) (twoTo 16)) 0
  if digits ≠ [] ∧ digits.all Char.isDigit ∧ n < twoTo 16 then some n else none

/-- The port behind the last colon, or else the one that belongs to the scheme. -/
def port? (target : Target) : Option Nat :=
  let written := match target.authority.reverse.span (· ≠ ':') with
    | (port, ':' :: _) => portNumber? port.reverse
    | _ => none
  written <|> match target.scheme?.map String.ofList with
    | some "ws" => some 80
    | some "wss" => some 443
    | _ => none

example : ((ofText "wss://u@[::1]/p").toOption.bind port?) = some 443 := by decide +kernel
example : ((ofText "ws:h").toOption.bind port?) = none ∧ (ofText "ws:/h").toOption = none := by
  decide +kernel

end Target

end ChannelMux
