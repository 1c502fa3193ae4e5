import ChannelMux.Digest.Sha256
import ChannelMux.Text.Hex

/-!
Keyed digests (RFC 2104) over SHA-256, as exchanges ask for them in logins. A key of any length will
do: one longer than a block is digested first.
-/
namespace ChannelMux.Digest

def blockSize : Nat := 64

def blockKey (key : List UInt8) : List UInt8 :=
  let short := if blockSize < key.length then sha256 key else key
  short ++ List.replicate (blockSize - short.length) 0

def hmac (key message : List UInt8) : List UInt8 :=
  let k := blockKey key
  sha256 (k.map (· ^^^ 0x5c) ++ sha256 (k.map (· ^^^ 0x36) ++ message))

def utf8 (s : String) : List UInt8 := s.toUTF8.toList

def hmacHex (secret message : String) : String :=
  Text.hexOfBytes (hmac (utf8 secret) (utf8 message))

def hmacBase64 (secret message : String) : String :=
  Text.base64OfBytes (hmac (utf8 secret) (utf8 message))

end ChannelMux.Digest
