import ChannelMux.Codec.Basic
import ChannelMux.Json.Record

/-!
A plain JSON protocol for exercising a client without an exchange. A request names its channel key;
an inbound frame is an event about a channel or a whole number sent on one.
-/
namespace ChannelMux

/-- A number sent on a channel. -/
structure PlainEvent where
  channel : String
  value : Int
deriving DecidableEq, Repr

structure PlainCodec where
  /-- The connection has to log in. -/
  login : Bool
  /-- A channel key for which no subscribe can be written. -/
  unencodable : Option String
  /-- Connections this codec was reset for. -/
  resets : Nat
deriving DecidableEq, Repr

namespace PlainCodec

open Json

def operation (op : String) (request : ChannelRequest) : Frame :=
  .text (Value.ofMembers [("op", .string op), ("channel", .string request.key.text)]).write

def encodeSubscribe (codec : PlainCodec) (request : ChannelRequest) :
    Except Error (Frame × PlainCodec) :=
  if codec.unencodable = some request.key.text then
    .error (.encode ("cannot encode " ++ request.name))
  else .ok (operation "subscribe" request, codec)

structure Inbound where
  event : Option String
  channel : Option String
  reason : Option String
  value : Option Int

def Inbound.parse? (text : String) : Option Inbound := do
  let source ← Source.parse? text
  let [event, channel, reason, value] ← source.fields? ["event", "channel", "msg", "value"]
    | none
  some {
    event := ← event.optional Source.text?
    channel := ← channel.optional Source.text?
    reason := ← reason.optional Source.text?
    value := ← value.optional Source.int64? }

/-- The meaning of a named event. -/
def Inbound.control (inbound : Inbound) (event : String) : Except Error ControlEvent :=
  let reason := inbound.reason.getD ""
  match event, inbound.channel.map ChannelKey.mk with
  | "login", _ => .ok .loginAck
  | "login_error", _ => .ok (.loginError reason)
  | "subscribed", some key => .ok (.subscribeAck key)
  | "unsubscribed", some key => .ok (.unsubscribeAck key)
  | "error", some key => .ok (.subscribeError key reason)
  | "error", none => .ok (.error reason)
  | "pong", _ => .ok .heartbeat
  | other, _ => .error (.decode ("unknown event " ++ other))

def decodeFrame (frame : Frame) : Except Error (Envelope PlainEvent) :=
  match frame.text? with
  | none => .error (.decode "binary frame")
  | some text =>
    match Inbound.parse? text with
    | none => .error .notJson
    | some inbound =>
      match inbound.event, inbound.value with
      | some event, _ => (inbound.control event).map .control
      | none, some value => .ok (.data ⟨inbound.channel.getD "", value⟩)
      | none, none => .error (.decode "missing value")

def encodeLogin (codec : PlainCodec) : Option Frame :=
  if codec.login then
    some (.text (Value.ofMembers [("op", .string "login"), ("token", .string "secret")]).write)
  else none

instance : Codec PlainCodec PlainEvent where
  encodeSubscribe := encodeSubscribe
  encodeUnsubscribe codec request := .ok (operation "unsubscribe" request, codec)
  decode codec frame := (decodeFrame frame).map (·, codec)
  channelOf _ event := if event.channel = "" then none else some ⟨event.channel⟩
  subscriptionKey _ request := request.key
  encodeLogin codec _ := .ok (codec.encodeLogin, codec)
  reset codec := { codec with resets := codec.resets + 1 }

end PlainCodec

end ChannelMux
