import ChannelMux.Backoff
import ChannelMux.Frame
import ChannelMux.Json.Value

/-!
What one connection is tuned by. Times are in nanoseconds.
-/
namespace ChannelMux

/-- What is sent to keep a connection alive. -/
inductive KeepAlive where
  | text (content : String)
  | json (value : Json.Value)
  /-- The ping of the socket protocol. -/
  | socketPing
deriving Repr

def KeepAlive.frame : KeepAlive → Frame
  | text content => .text content
  | json value => .text value.write
  | socketPing => .ping []

structure Ping where
  interval : Nat
  payload : KeepAlive
deriving Repr

structure Settings where
  /-- What the connection is called in logs. -/
  label : String
  connectTimeout : Nat
  /-- How long a login may go unanswered. -/
  loginTimeout : Nat
  ping : Option Ping
  /-- A connection on which nothing arrives for this long is given up. -/
  idleTimeout : Option Nat
  reconnect : RetryPolicy
  /-- How long an unsubscribe may go unanswered. -/
  unsubscribeTimeout : Nat
  /-- A cap on subscribe and unsubscribe requests. -/
  maxOutboundPerSecond : Option Nat
  /-- How many lifecycle events an observer may fall behind. -/
  eventCapacity : Nat
deriving Repr

namespace Settings

def standard : Settings where
  label := "mux"
  connectTimeout := 10 * nanosPerSecond
  loginTimeout := 10 * nanosPerSecond
  ping := none
  idleTimeout := none
  reconnect := RetryPolicy.standard
  unsubscribeTimeout := 10 * nanosPerSecond
  maxOutboundPerSecond := none
  eventCapacity := 64

def withLabel (settings : Settings) (label : String) : Settings := { settings with label }

end Settings

end ChannelMux
