import ChannelMux.Channel.Key

/-!
What can go wrong on a connection, by cause. `Error.message` holds the wording.
-/
namespace ChannelMux

inductive Error where
  /-- The connection could not be opened, or broke. -/
  | transport (reason : String)
  /-- An inbound frame does not have the shape its protocol asks for. -/
  | decode (reason : String)
  /-- An inbound frame is not JSON text at all. -/
  | notJson
  /-- A request has no wire form. -/
  | encode (reason : String)
  /-- The exchange refused one channel. -/
  | subscribe (key : ChannelKey) (reason : String)
  /-- The login was refused. -/
  | auth (reason : String)
  /-- The address or a header is unusable. -/
  | config (reason : String)
  /-- Something took too long. -/
  | timeout (what : String)
  /-- The retry budget is spent after this many attempts. -/
  | retriesExhausted (attempts : Nat)
  /-- The client was shut down. -/
  | closed
deriving DecidableEq, Repr

namespace Error

def message : Error → String
  | transport reason => "transport error: " ++ reason
  | decode reason => "decode error: " ++ reason
  | notJson => "decode error: not valid JSON"
  | encode reason => "encode error: " ++ reason
  | subscribe key reason => "subscribe error on " ++ key.text ++ ": " ++ reason
  | auth reason => "auth error: " ++ reason
  | config reason => "config error: " ++ reason
  | timeout what => "timed out: " ++ what
  | retriesExhausted attempts => "gave up after " ++ toString attempts ++ " connection attempt(s)"
  | closed => "client closed"

/-- Only a refused channel ends one channel and leaves the connection alone. -/
def isChannelScoped : Error → Bool
  | subscribe _ _ => true
  | _ => false

end Error

end ChannelMux
