import ChannelMux.Connection.Manager

/-!
The client of one connection: what an application holds. Any number of subscribers share it, and any
number of connects and disconnects may be under way at once; each goes from one point where it has
to wait to the next in one step.
-/
namespace ChannelMux

/-- A subscriber's hold on a channel. -/
structure ChannelStream where
  key : ChannelKey
  ticket : Ticket
  /-- It has yielded its last item. -/
  terminated : Bool
deriving DecidableEq, Repr

/-- The form used in diagnostics. -/
def ChannelStream.debug (stream : ChannelStream) : String :=
  let terminated := if stream.terminated then "true" else "false"
  "ChannelStream \x7b key: " ++ stream.key.debug ++ ", terminated: " ++ terminated ++ " \x7d"

/-- A stream that is read as it fills, each payload handed on. -/
structure Reader where
  stream : ChannelStream
  active : Bool
deriving DecidableEq, Repr

/-- A connect or a disconnect, by how far it has come. -/
inductive Call where
  | connect
  /-- Waits until the connection is up or given up. -/
  | connecting
  | disconnect
  /-- Waits until this manager has stopped. -/
  | stopping (manager : Nat)
  | finished (result : Except Error Unit)
  /-- Nobody waits for it any more. -/
  | abandoned

def Call.isPending : Call → Bool
  | connect | connecting | disconnect | stopping _ => true
  | finished _ | abandoned => false

structure Client (κ ν : Type) where
  settings : Settings
  endpoint : String
  hub : Hub κ ν
  /-- Every manager that was ever started. -/
  managers : List Manager
  /-- The manager a disconnect would stop. -/
  running : Option Nat
  calls : List Call
  readers : List Reader

namespace Client

variable {κ ν : Type} [Codec κ ν]

def start (settings : Settings) (endpoint : String) (codec : κ) : Client κ ν where
  settings
  endpoint
  hub := ⟨Router.start codec, .disconnected, none, false⟩
  managers := []
  running := none
  calls := []
  readers := []

def registry (c : Client κ ν) : Registry ν := c.hub.router.registry

def withRegistry (c : Client κ ν) (registry : Registry ν) : Client κ ν :=
  { c with hub := c.hub.withRegistry registry }

def isConnected (c : Client κ ν) : Bool := c.hub.state = .connected

/-- The key under which this client would share a request. -/
def keyFor (c : Client κ ν) (request : ChannelRequest) : ChannelKey :=
  Codec.subscriptionKey c.hub.router.codec request

/-- Stores a wake-up for a manager. Several of them are one. -/
def nudge (c : Client κ ν) : Client κ ν := { c with hub := { c.hub with permit := true } }

/-- The first subscriber of a channel wakes the manager. -/
def subscribe (c : Client κ ν) (request : ChannelRequest) : ChannelStream × Client κ ν :=
  let key := c.keyFor request
  let (acquired, registry) := c.registry.acquire key request
  let c := c.withRegistry registry
  (⟨key, acquired.ticket, false⟩, if acquired.first then c.nudge else c)

/-- The last subscriber that leaves a channel wakes the manager if an unsubscribe is owed. -/
def unsubscribe (c : Client κ ν) (stream : ChannelStream) : Client κ ν :=
  let (release, registry) := c.registry.release stream.key stream.ticket
  let c := c.withRegistry registry
  if release = .unsubscribe then c.nudge else c

/-- Takes what a stream holds now. An error is its last item. -/
def receive (c : Client κ ν) (stream : ChannelStream) :
    List (Except Error ν) × ChannelStream × Client κ ν :=
  if stream.terminated then ([], stream, c)
  else
    let (items, registry) := c.registry.receive stream.ticket.subscriber
    (items, { stream with terminated := !registry.isLinked stream.ticket.subscriber },
      c.withRegistry registry)

/-- Subscribes with a reader. -/
def attach (c : Client κ ν) (request : ChannelRequest) : Client κ ν :=
  let (stream, c) := c.subscribe request
  { c with readers := c.readers ++ [⟨stream, true⟩] }

/-- A reader lets go of its stream. -/
def detach (c : Client κ ν) (n : Nat) : Client κ ν :=
  match c.readers[n]? with
  | none => c
  | some reader =>
    if reader.active then
      { c.unsubscribe reader.stream with
        readers := c.readers.set n { reader with active := false } }
    else c

/-- The payloads that a reader hands on now. It leaves with its stream's last item. -/
def read (c : Client κ ν) (n : Nat) : List ν × Client κ ν :=
  match c.readers[n]? with
  | none => ([], c)
  | some reader =>
    if reader.active then
      let (items, stream, c) := c.receive reader.stream
      let payloads := items.filterMap Except.toOption
      if stream.terminated then (payloads, c.detach n) else (payloads, c)
    else ([], c)

def isRunning (c : Client κ ν) : Bool :=
  (c.running.bind (c.managers[·]?)).any (fun manager => !manager.isFinished)

def spawn (c : Client κ ν) (now : Nat) : Client κ ν :=
  { c with
    hub := { c.hub with lastError := none, state := .connecting }
    managers := c.managers ++ [Manager.start c.settings now]
    running := some c.managers.length }

/-- Tells a manager to stop. -/
def stop (c : Client κ ν) (n : Nat) : Client κ ν :=
  { c with managers := c.managers.modify n (fun manager => { manager with stopping := true }) }

def begin (c : Client κ ν) (call : Call) : Client κ ν := { c with calls := c.calls ++ [call] }

def setCall (c : Client κ ν) (n : Nat) (call : Call) : Client κ ν :=
  { c with calls := c.calls.set n call }

/-- What a disconnect does last. -/
def disconnected (c : Client κ ν) : Client κ ν :=
  { c with hub := { c.hub.setOnline false with state := .disconnected } }

/-- One step of a call, unless it has to wait. -/
def callStep (c : Client κ ν) (now n : Nat) : Option (Client κ ν) :=
  match c.calls[n]? with
  | some .connect => some ((if c.isRunning then c else c.spawn now).setCall n .connecting)
  | some .connecting =>
    match c.hub.state with
    | .connected => some (c.setCall n (.finished (.ok ())))
    | .disconnected => some (c.setCall n (.finished (.error (c.hub.lastError.getD .closed))))
    | _ => none
  | some .disconnect =>
    match c.running with
    | none => some (c.disconnected.setCall n (.finished (.ok ())))
    | some m => some (({ c with running := none }.stop m).setCall n (.stopping m))
  | some (.stopping m) =>
    if (c.managers[m]?).all Manager.isFinished then
      some (c.disconnected.setCall n (.finished (.ok ())))
    else none
  | _ => none

/-- One step of a manager on a cue, with what others can see of it. -/
def managerStep (c : Client κ ν) (n : Nat) (moment : Moment) (cue : Cue) :
    Option (List Action × Client κ ν) := do
  let manager ← c.managers[n]?
  let turn ← manager.step c.settings c.endpoint moment c.hub cue
  some (turn.actions, { c with managers := c.managers.set n turn.manager, hub := turn.hub })

end Client

end ChannelMux
