import ChannelMux.Client.Basic
import ChannelMux.Loopback.Transport

/-!
A client on a transport in memory, with a clock that moves only when it is told to. Managers, calls
and readers are tasks. One that can move is put into a queue, behind those that could move before
it, and moves on until it has to wait; `settle` goes on until all of them wait. A manager may take
any cue there is for it. `managerTurn` chooses: to be told to stop comes first, then what came in,
then time. In service that nothing came in for too long is noticed before what did.
-/
namespace ChannelMux

namespace Loopback

inductive Task where
  | manager (n : Nat)
  | call (n : Nat)
  | reader (n : Nat)
deriving DecidableEq, Repr

end Loopback

open Loopback

structure Loopback (κ ν : Type) where
  client : Client κ ν
  transport : Transport
  observer : Observer
  /-- Time since the start, in nanoseconds. -/
  now : Nat
  /-- Wall time at the start, in milliseconds. -/
  epoch : Nat
  /-- The tasks that can move. -/
  ready : List Task
  /-- What the readers handed on. -/
  handled : List ν
  /-- The calls that finished, with their results. -/
  done : List (Nat × Except Error Unit)
  /-- The application let go of the client; it goes when no call needs it. -/
  dropped : Bool

namespace Loopback

variable {κ ν : Type} [Codec κ ν]

def start (settings : Settings) (codec : κ) (epoch : Nat) : Loopback κ ν where
  client := Client.start settings "memory" codec
  transport := Transport.idle
  observer := Observer.ofCapacity settings.eventCapacity
  now := 0
  epoch
  ready := []
  handled := []
  done := []
  dropped := false

def moment (w : Loopback κ ν) : Moment :=
  ⟨w.now, w.epoch + w.now / nanosPerMilli, w.transport.writing⟩

def wake (w : Loopback κ ν) (task : Task) : Loopback κ ν :=
  if task ∈ w.ready then w else { w with ready := w.ready ++ [task] }

def wakeAll (w : Loopback κ ν) (tasks : List Task) : Loopback κ ν := tasks.foldl wake w

/-- The positions at which `p` holds. -/
def positions {α : Type} (p : α → Bool) (items : List α) : List Nat :=
  (List.range items.length).filter (fun i => (items[i]?).any p)

def wakeManagers (w : Loopback κ ν) (p : Manager → Bool) : Loopback κ ν :=
  w.wakeAll ((positions p w.client.managers).map .manager)

def wakeCalls (w : Loopback κ ν) (p : Call → Bool) : Loopback κ ν :=
  w.wakeAll ((positions p w.client.calls).map .call)

/-- Wakes the connects: the state of the connection was published. -/
def wakeConnecting (w : Loopback κ ν) : Loopback κ ν :=
  w.wakeCalls (fun call => call matches .connecting)

def hasUnread (w : Loopback κ ν) (reader : Reader) : Bool :=
  reader.active && (w.client.registry.inboxes[reader.stream.ticket.subscriber]?).any
    (fun inbox => !inbox.items.isEmpty)

def wakeReaders (w : Loopback κ ν) : Loopback κ ν :=
  w.wakeAll ((positions w.hasUnread w.client.readers).map .reader)

/-- Wakes the managers that wait for a stored wake-up. -/
def wakeNudged (w : Loopback κ ν) : Loopback κ ν :=
  if w.client.hub.permit then w.wakeManagers (fun manager => manager.phase matches .serving _)
  else w

def perform (w : Loopback κ ν) (n : Nat) : Action → Loopback κ ν
  | .dial => { w with transport := w.transport.dial n }
  | .write frame => { w with transport := w.transport.logOn n (Traffic.frame · frame) }
  | .close => { w with transport := w.transport.logOn n Traffic.closed }
  | .publish _ => w.wakeConnecting
  | .announce event => { w with observer := w.observer.observe event }

def isServing (w : Loopback κ ν) (n : Nat) : Bool :=
  (w.client.managers[n]?).any (fun manager => manager.phase matches .serving _)

/-- What a manager may be given now, by precedence. -/
def cues (w : Loopback κ ν) (n : Nat) : List Cue :=
  let came := w.transport.cues n
  [.shutdown, .proceed] ++ (if w.isServing n then .elapsed :: came else came ++ [.elapsed]) ++
    [.nudged, .pingDue, .sweepDue]

/-- A manager takes a cue, if there is that cue and it waits for it. -/
def takeCue (w : Loopback κ ν) (n : Nat) (cue : Cue) : Option (Loopback κ ν) := do
  guard (cue ∈ w.cues n)
  let (actions, client) ← w.client.managerStep n w.moment cue
  let manager ← client.managers[n]?
  let w := if cue matches .arrival _ then { w with transport := w.transport.take n } else w
  let w := actions.foldl (fun w action => w.perform n action) { w with client }
  let w := if manager.phase.usesTransport then w
    else { w with transport := w.transport.release n }
  let w := w.wakeReaders
  some (if manager.isFinished then w.wakeCalls (fun call =>
    match call with
    | .stopping m => m = n
    | _ => false) else w)

def managerTurn (w : Loopback κ ν) (n : Nat) : Option (Loopback κ ν) :=
  (w.cues n).findSome? (w.takeCue n)

/-- The client itself goes once nothing holds it, and its manager is told to stop. -/
def letGo (w : Loopback κ ν) : Loopback κ ν :=
  if w.dropped && !w.client.calls.any Call.isPending then
    match w.client.running with
    | some n => { w with client := w.client.stop n }.wake (.manager n)
    | none => w
  else w

def callTurn (w : Loopback κ ν) (n : Nat) : Option (Loopback κ ν) := do
  let before ← w.client.calls[n]?
  let client ← w.client.callStep w.now n
  let after ← client.calls[n]?
  let spawned := w.client.managers.length < client.managers.length
  let w := { w with client }
  match before, after with
  | .connect, _ => some (if spawned then w.wakeConnecting.wakeManagers (fun manager =>
      manager.phase matches .starting) else w)
  | _, .stopping m => some (w.wake (.manager m))
  | .connecting, .finished result => some ({ w with done := w.done ++ [(n, result)] }.letGo)
  | _, .finished result => some ({ w with done := w.done ++ [(n, result)] }.wakeConnecting.letGo)
  | _, _ => some w

def readerTurn (w : Loopback κ ν) (n : Nat) : Option (Loopback κ ν) :=
  if (w.client.readers[n]?).any w.hasUnread then
    let (payloads, client) := w.client.read n
    some { w with client, handled := w.handled ++ payloads }.wakeNudged
  else none

def turn (w : Loopback κ ν) : Task → Option (Loopback κ ν)
  | .manager n => w.managerTurn n
  | .call n => w.callTurn n
  | .reader n => w.readerTurn n

/-- The first task that can move does so, for at most this many turns. -/
def run : Nat → Loopback κ ν → Loopback κ ν
  | 0, w => w
  | turns + 1, w =>
    match w.ready with
    | [] => w
    | task :: rest => run turns ((w.turn task).getD { w with ready := rest })

/-- More turns than are taken at one instant, unless the tasks never come to rest. -/
def patience : Nat := 100000

def settle (w : Loopback κ ν) : Loopback κ ν := run patience w

/-- One millisecond passes. -/
def tick (w : Loopback κ ν) : Loopback κ ν :=
  let w := { w with now := w.now + nanosPerMilli }
  (w.wakeManagers (fun manager =>
    (manager.phase.alarm w.client.settings.idleTimeout).any (· ≤ w.now))).settle

def advance : Nat → Loopback κ ν → Loopback κ ν
  | 0, w => w
  | millis + 1, w => advance millis w.tick

/-! What the application does. Nothing moves before `settle`. -/

/-- Begins a call and gives its number. -/
def call (w : Loopback κ ν) (call : Call) : Nat × Loopback κ ν :=
  let n := w.client.calls.length
  (n, { w with client := w.client.begin call }.wake (.call n))

def subscribe (w : Loopback κ ν) (request : ChannelRequest) : ChannelStream × Loopback κ ν :=
  let (stream, client) := w.client.subscribe request
  (stream, { w with client }.wakeNudged)

def unsubscribe (w : Loopback κ ν) (stream : ChannelStream) : Loopback κ ν :=
  { w with client := w.client.unsubscribe stream }.wakeNudged

def receive (w : Loopback κ ν) (stream : ChannelStream) :
    List (Except Error ν) × ChannelStream × Loopback κ ν :=
  let (items, stream, client) := w.client.receive stream
  (items, stream, { w with client })

/-- Whether the application held the client until now. -/
def drop (w : Loopback κ ν) : Bool × Loopback κ ν :=
  if w.dropped then (false, w) else (true, { w with dropped := true }.letGo)

/-! What the far end does. -/

/-- Something comes in. The result says whether there was a connection for it. -/
def push (w : Loopback κ ν) (arrival : Arrival) : Bool × Loopback κ ν :=
  let (manager, transport) := w.transport.push arrival
  (manager.isSome, { w with transport }.wakeAll (manager.toList.map .manager))

/-- The far end hangs up. The result says whether it had not done so before. -/
def hangUp (w : Loopback κ ν) : Bool × Loopback κ ν :=
  let (manager, transport) := w.transport.hangUp
  (w.transport.farEnd, { w with transport }.wakeAll (manager.toList.map .manager))

def refuse (w : Loopback κ ν) (attempts : Nat) : Loopback κ ν :=
  { w with transport := { w.transport with refusals := attempts } }

def stall (w : Loopback κ ν) (stalled : Bool) : Loopback κ ν :=
  { w with transport := { w.transport with stalled } }

def breakWrites (w : Loopback κ ν) (broken : Bool) : Loopback κ ν :=
  { w with transport := { w.transport with broken } }

/-! What was seen since it was last asked for. -/

def forgetSeen (w : Loopback κ ν) : Loopback κ ν :=
  { w with
    transport := { w.transport with traffic := [] }
    observer := { w.observer with unread := [], missed := 0 }
    handled := []
    done := [] }

end Loopback

end ChannelMux
