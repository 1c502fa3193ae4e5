import ChannelMux.Error
import ChannelMux.Frame

/-!
The wire contract of one exchange: how requests are written, how inbound frames are read and which
channel a payload belongs to. A codec is a value; what it remembers between requests and replies is
part of that value, and a request or frame that fails leaves no trace in it.
-/
namespace ChannelMux

/-- What an inbound frame says when it is not a payload. -/
inductive ControlEvent where
  | loginAck
  | loginError (reason : String)
  | subscribeAck (key : ChannelKey)
  | subscribeError (key : ChannelKey) (reason : String)
  | unsubscribeAck (key : ChannelKey)
  /-- An error that names no channel. -/
  | error (reason : String)
  /-- A keep-alive reply, or news with no effect. -/
  | heartbeat
deriving DecidableEq, Repr

inductive Envelope (ν : Type) where
  | data (payload : ν)
  | control (event : ControlEvent)
deriving Repr

/-- `κ` is the codec and `ν` the payloads it decodes. Wall time is given in milliseconds. -/
class Codec (κ : Type) (ν : outParam Type) where
  encodeSubscribe : κ → ChannelRequest → Except Error (Frame × κ)
  encodeUnsubscribe : κ → ChannelRequest → Except Error (Frame × κ)
  decode : κ → Frame → Except Error (Envelope ν × κ)
  /-- The channel of a payload, if it names one. -/
  channelOf : κ → ν → Option ChannelKey
  /-- The key under which a request is shared; `channelOf` gives it for that channel's payloads. -/
  subscriptionKey : κ → ChannelRequest → ChannelKey
  /-- The first frame of a connection that has to log in, or nothing. -/
  encodeLogin : κ → (now : Nat) → Except Error (Option Frame × κ)
  /-- A new connection is open: no reply to an earlier request will come. -/
  reset : κ → κ

end ChannelMux
