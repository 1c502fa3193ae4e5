import ChannelMux.Domain.Basic
import ChannelMux.Url.Ipv6

/-!
Hosts of URLs: domain names, IPv4 addresses, and IPv6 addresses in brackets.
-/
namespace ChannelMux

/-- What is wrong with a URL. -/
inductive UrlError where
  | relative
  | emptyHost
  | invalidPort
  | invalidDomain
  | invalidCharacter
  | invalidIpv4
  | invalidIpv6
deriving DecidableEq, Repr

def UrlError.message : UrlError → String
  | relative => "relative URL without a base"
  | emptyHost => "empty host"
  | invalidPort => "invalid port number"
  | invalidDomain => "invalid international domain name"
  | invalidCharacter => "invalid domain character"
  | invalidIpv4 => "invalid IPv4 address"
  | invalidIpv6 => "invalid IPv6 address"

namespace Url

/-- The byte that two hexadecimal digits stand for. -/
def escaped? (high low : UInt8) : Option UInt8 := do
  let h ← Text.hexValue? (Char.ofNat high.toNat)
  let l ← Text.hexValue? (Char.ofNat low.toNat)
  some (UInt8.ofNat (16 * h + l))

/-- Bytes may be written as `%` and two hexadecimal digits. -/
def percentDecoded : List UInt8 → List UInt8
  | 0x25 :: high :: low :: rest =>
    match escaped? high low with
    | some byte => byte :: percentDecoded rest
    | none => 0x25 :: percentDecoded (high :: low :: rest)
  | byte :: rest => byte :: percentDecoded rest
  | [] => []

/-- The characters of a host, if its bytes stand for any. -/
def hostChars? (host : List Char) : Option (List Char) :=
  let bytes := percentDecoded (String.ofList host).toUTF8.toList
  (String.fromUTF8? (ByteArray.mk bytes.toArray)).map String.toList

def checkIpv6 (bracketed : List Char) : Except UrlError Unit :=
  if bracketed.getLast? = some ']' ∧ Ipv6.isValid bracketed.dropLast then .ok ()
  else .error .invalidIpv6

/-- The host of a scheme whose URLs name one. A name without a character left is no host. -/
def checkHost (host : List Char) : Except UrlError Unit :=
  match host with
  | [] => .error .emptyHost
  | '[' :: rest => checkIpv6 rest
  | _ =>
    match (hostChars? host).bind Domain.labels? with
    | none => .error .invalidDomain
    | some [[]] => .error .emptyHost
    | some labels =>
      if Ipv4.isMeant labels ∧ !Ipv4.isValid labels then .error .invalidIpv4 else .ok ()

/-- Characters that no host may contain. -/
def isForbidden (c : Char) : Bool :=
  c.toNat = 0 || c = '\t' || c = '\n' || c = '\r' || " #/:<>?@[\\]^|".toList.contains c

/-- The host of a scheme about which nothing is known. -/
def checkOpaqueHost (host : List Char) : Except UrlError Unit :=
  match host with
  | '[' :: rest => checkIpv6 rest
  | _ => if host.any isForbidden then .error .invalidCharacter else .ok ()

end Url

end ChannelMux
