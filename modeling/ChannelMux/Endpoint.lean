import ChannelMux.Error
import ChannelMux.Handshake.Target
import ChannelMux.Url.Basic

/-!
Addresses of sockets. An address is checked before anything is connected: it has to be an absolute
URL that a lenient reader accepts, as browsers do, with the scheme `ws` or `wss`. The handshake,
which comes later, is stricter about it.
-/
namespace ChannelMux

/-- An address that can be connected to, as it was given, with the headers to send. -/
structure Endpoint where
  url : String
  headers : List (String × String)
deriving DecidableEq, Repr

namespace Endpoint

/-- Accepts readable addresses with a socket scheme. -/
def ofUrl (url : String) (headers : List (String × String)) : Except Error Endpoint :=
  match Url.scheme url with
  | .error e => .error (.config ("invalid url " ++ url ++ ": " ++ e.message))
  | .ok scheme =>
    if scheme = "ws" ∨ scheme = "wss" then .ok ⟨url, headers⟩
    else .error (.config ("unsupported scheme in " ++ url))

def isTokenChar (c : Char) : Bool := c.isAlphanum || "!#$%&'*+-.^_`|~".toList.contains c

/-- Text characters and tabs, but no other controls. -/
def isHeaderValueChar (c : Char) : Bool := (0x20 ≤ c.toNat && c.toNat ≠ 0x7F) || c = '\t'

/-- The most characters of a header's name. -/
def longestHeaderName : Nat := twoTo 16 - 1

def checkHeader (header : String × String) : Except Error Unit :=
  let (name, value) := header
  if name.toList = [] ∨ !name.toList.all isTokenChar ∨ longestHeaderName < name.length then
    .error (.config ("invalid header name " ++ name ++ ": invalid HTTP header name"))
  else if !value.toList.all isHeaderValueChar then
    .error (.config ("invalid header value for " ++ name ++ ": failed to parse header value"))
  else .ok ()

/-- What is checked before a socket is opened: the address, the headers, that a port is known. -/
def checkHandshake (endpoint : Endpoint) : Except Error Unit := do
  let target ← (Target.ofText endpoint.url).mapError (fun e => .transport e.message)
  endpoint.headers.forM checkHeader
  if target.port?.isNone then .error (.transport TargetError.unknownPort.message)

end Endpoint

end ChannelMux
