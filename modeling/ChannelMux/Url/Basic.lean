import ChannelMux.Text.Ascii
import ChannelMux.Url.Host

/-!
Absolute URLs, as a lenient reader takes them. Only what can be wrong with one is looked at: its
scheme, its host and the number of its socket.
-/
namespace ChannelMux.Url

/-- Controls and spaces around a URL do not count, nor do tabs and line ends inside it. -/
def cleaned (text : String) : List Char :=
  let edge (c : Char) : Bool := c.toNat ≤ 0x20
  let inner := (text.toList.dropWhile edge).reverse.dropWhile edge
  inner.reverse.filter (fun c => c ≠ '\t' && c ≠ '\n' && c ≠ '\r')

def isSchemeChar (c : Char) : Bool := c.isAlphanum || c = '+' || c = '-' || c = '.'

/-- The scheme in small letters, and what follows its colon. -/
def scheme? (cs : List Char) : Option (String × List Char) :=
  match cs with
  | first :: _ =>
    let scheme := cs.takeWhile isSchemeChar
    match first.isAlpha, cs.dropWhile isSchemeChar with
    | true, ':' :: rest => some (Text.lowerAscii (String.ofList scheme), rest)
    | _, _ => none
  | [] => none

/-- Schemes whose URLs name a host, however many slashes stand before it. -/
def hostSchemes : List String := ["http", "https", "ws", "wss", "ftp"]

def isSlash (c : Char) : Bool := c = '/' || c = '\\'

/-- Where the part that names the host ends. A backslash counts as a slash in some schemes. -/
def endsAuthority (named : Bool) (c : Char) : Bool :=
  c = '/' || c = '?' || c = '#' || (named && c = '\\')

/-- The user before the last `@`, if there is an `@`, and the rest. -/
def splitUser (cs : List Char) : Option (List Char) × List Char :=
  match cs.reverse.span (· ≠ '@') with
  | (rest, '@' :: user) => (some user.reverse, rest.reverse)
  | _ => (none, cs)

/-- Splits the host from the port at the first colon outside brackets. -/
def splitPort : Bool → List Char → List Char × Option (List Char)
  | _, [] => ([], none)
  | bracketed, c :: rest =>
    if c = ':' ∧ !bracketed then ([], some rest)
    else
      let inside := if c = '[' then true else if c = ']' then false else bracketed
      let (host, port) := splitPort inside rest
      (c :: host, port)

def checkPort (port : Option (List Char)) : Except UrlError Unit :=
  let isValid (digits : List Char) : Bool :=
    digits.all Char.isDigit &&
      digits.foldl (fun n c => min (n * 10 + (c.toNat - 48)) 65536) 0 ≤ 65535
  if port.all (fun port => isValid (port.takeWhile (· ≠ '\\'))) then .ok () else .error .invalidPort

/-- The part that names the host. An empty host takes neither a user nor a port. -/
def checkAuthority (named : Bool) (cs : List Char) : Except UrlError Unit := do
  let authority := cs.takeWhile (!endsAuthority named ·)
  let (user, rest) := splitUser authority
  let (host, port) := splitPort false rest
  if user = some [] ∧ rest = [] ∧ authority.length < cs.length then .error .emptyHost
  if named then checkHost host else checkOpaqueHost host
  if host = [] ∧ port.isSome then .error .emptyHost
  checkPort port
  if host = [] ∧ user.any (fun user => user ≠ [] && user ≠ [':']) then .error .emptyHost

/-- A letter with a colon or a bar names a drive. -/
def isDrive (cs : List Char) : Bool :=
  match cs with
  | [letter, mark] => letter.isAlpha && (mark = ':' || mark = '|')
  | _ => false

/-- The address of a file names a host if it starts with two slashes and no drive follows. -/
def checkFile (cs : List Char) : Except UrlError Unit :=
  match cs with
  | first :: second :: rest =>
    let host := rest.takeWhile (!endsAuthority true ·)
    if !(isSlash first && isSlash second) ∨ host = [] ∨ isDrive host then .ok ()
    else checkHost host
  | _ => .ok ()

/-- The scheme of a URL that can be read. -/
def scheme (text : String) : Except UrlError String :=
  match scheme? (cleaned text) with
  | none => .error .relative
  | some (scheme, rest) => do
    if scheme ∈ hostSchemes then checkAuthority true (rest.dropWhile isSlash)
    else match scheme, rest with
      | "file", rest => checkFile rest
      | _, '/' :: '/' :: rest => checkAuthority false rest
      | _, _ => .ok ()
    return scheme

example : (scheme " WSS:\\\\u@h:443\\p ").toOption = some "wss" := by decide +kernel
example : (scheme "file://c:/x").toOption = some "file" := by decide +kernel
example : (scheme "file://h:1/x").toOption = none := by decide +kernel

end ChannelMux.Url
