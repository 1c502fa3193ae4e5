import ChannelMux.Codec.Basic
import ChannelMux.Registry.Basic

/-!
Routing of inbound frames: each data frame is decoded once, and is then a payload for one channel's
subscribers, news about a channel, or dropped. Whatever becomes of it is counted.
-/
namespace ChannelMux

structure Counters where
  /-- Data frames handed to the codec. -/
  frames : Nat
  /-- Payloads pushed to a channel with subscribers. -/
  delivered : Nat
  decodeErrors : Nat
  /-- Payloads for a channel nobody holds. -/
  stale : Nat
  /-- Payloads that name no channel. -/
  unroutable : Nat
  control : Nat
deriving DecidableEq, Repr

inductive Routed where
  | delivered (count : Nat)
  | control
  | stale
  | unroutable
  | malformed
deriving DecidableEq, Repr

/-- What a frame means to a connection that waits for its login to be answered. -/
inductive LoginReply where
  | ack
  | rejected (reason : String)
  | ignored
deriving DecidableEq, Repr

/-- The codec and the registry of one connection, with the counters of what passed between them. -/
structure Router (κ ν : Type) where
  codec : κ
  registry : Registry ν
  counters : Counters

namespace Router

variable {κ ν : Type} [Codec κ ν]

def start (codec : κ) : Router κ ν := ⟨codec, Registry.empty, ⟨0, 0, 0, 0, 0, 0⟩⟩

/-- Tells the registry what the exchange said about a channel. -/
def applyControl (registry : Registry ν) : ControlEvent → Registry ν
  | .subscribeAck key => (registry.activate key).2
  | .subscribeError key reason => (registry.fail key (.subscribe key reason)).2
  | .unsubscribeAck key => (registry.unsubscribeAcked key).2
  | .loginAck | .loginError _ | .error _ | .heartbeat => registry

def deliver (r : Router κ ν) (payload : ν) : Routed × Router κ ν :=
  match Codec.channelOf r.codec payload with
  | none =>
    (.unroutable,
      { r with counters := { r.counters with unroutable := r.counters.unroutable + 1 } })
  | some key =>
    match r.registry.dispatch key payload with
    | (.delivered count, registry) =>
      (.delivered count,
        { r with
          registry
          counters := { r.counters with delivered := r.counters.delivered + 1 } })
    | (.noSubscribers, registry) =>
      (.stale,
        { r with registry, counters := { r.counters with stale := r.counters.stale + 1 } })

def countFrame (r : Router κ ν) : Router κ ν :=
  { r with counters := { r.counters with frames := r.counters.frames + 1 } }

def countDecodeError (r : Router κ ν) : Router κ ν :=
  { r with counters := { r.counters with decodeErrors := r.counters.decodeErrors + 1 } }

/-- Routes a data frame of a connection that is logged in. -/
def route (r : Router κ ν) (frame : Frame) : Routed × Router κ ν :=
  let r := r.countFrame
  match Codec.decode r.codec frame with
  | .error _ => (.malformed, r.countDecodeError)
  | .ok (.data payload, codec) => { r with codec }.deliver payload
  | .ok (.control event, codec) =>
    (.control,
      { codec
        registry := applyControl r.registry event
        counters := { r.counters with control := r.counters.control + 1 } })

/-- Routes a data frame of a connection whose login is not answered. No channel is touched. -/
def routeLogin (r : Router κ ν) (frame : Frame) : LoginReply × Router κ ν :=
  let r := r.countFrame
  match Codec.decode r.codec frame with
  | .error _ => (.ignored, r.countDecodeError)
  | .ok (envelope, codec) =>
    let reply := match envelope with
      | .control .loginAck => .ack
      | .control (.loginError reason) => .rejected reason
      | .control (.error reason) => .rejected reason
      | _ => .ignored
    (reply, { r with codec })

end Router

end ChannelMux
