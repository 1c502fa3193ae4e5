/-!
Frames, the units in which a connection reads and writes, and the socket messages that carry them.
-/
namespace ChannelMux

inductive Frame where
  | text (content : String)
  | binary (bytes : List UInt8)
  | ping (bytes : List UInt8)
  | pong (bytes : List UInt8)
  | close
deriving DecidableEq, Repr

/-- A message as the socket layer knows it. -/
inductive SocketMessage where
  | text (content : String)
  | binary (bytes : List UInt8)
  | ping (bytes : List UInt8)
  | pong (bytes : List UInt8)
  /-- A close, with the status code and the reason if the peer gave them. -/
  | close (status : Option (Nat × String))
  /-- A protocol frame before it is assembled into a message. -/
  | fragment (bytes : List UInt8)
deriving DecidableEq, Repr

namespace Frame

def text? : Frame → Option String
  | text content => some content
  | _ => none

/-- Text and binary frames carry application data. -/
def isData : Frame → Bool
  | text _ | binary _ => true
  | _ => false

/-- A close loses its status, and a fragment, which no reader sees, counts as empty. -/
def ofMessage : SocketMessage → Frame
  | .text content => text content
  | .binary bytes => binary bytes
  | .ping bytes => ping bytes
  | .pong bytes => pong bytes
  | .close _ => close
  | .fragment _ => binary []

def toMessage : Frame → SocketMessage
  | text content => .text content
  | binary bytes => .binary bytes
  | ping bytes => .ping bytes
  | pong bytes => .pong bytes
  | close => .close none

@[simp] theorem ofMessage_toMessage (frame : Frame) : ofMessage frame.toMessage = frame := by
  cases frame <;> rfl

end Frame

end ChannelMux
