import ChannelMux.Backoff
import ChannelMux.Connection.Settings
import ChannelMux.Registry.Basic
import ChannelMux.Throttle

/-!
Where a manager is in its work on a connection, and what it can be waiting for there.
-/
namespace ChannelMux

/-- What comes in on a connection. -/
inductive Arrival where
  | frame (frame : Frame)
  | fault (cause : Error)
  /-- Nothing more will come. -/
  | ended
deriving DecidableEq, Repr

/-- A request the manager set out to write. -/
inductive Owed where
  | subscribe (key : ChannelKey)
  | unsubscribe (key : ChannelKey)
deriving DecidableEq, Repr

def Due.owed (due : Due) : List Owed :=
  due.unsubscribe.map Owed.unsubscribe ++ due.subscribe.map Owed.subscribe

/-- The clocks of a connection in service. -/
structure Timers where
  pingAt : Option Nat
  sweepAt : Nat
  lastInbound : Nat
deriving DecidableEq, Repr

/-- Why requests are being written. -/
inductive Purpose where
  /-- The connection is fresh; so many of its subscribes are written. -/
  | replay (sent : Nat)
  /-- They came due on a connection in service. -/
  | upkeep (timers : Timers)
deriving DecidableEq, Repr

inductive Phase where
  | starting
  | opening (deadline : Nat)
  | loggingIn (deadline : Nat)
  | requesting (purpose : Purpose) (todo : List Owed)
  /-- A frame waits for the throttle before the rest is seen to. -/
  | holding (purpose : Purpose) (release : Nat) (frame : Frame) (todo : List Owed)
  | serving (timers : Timers)
  | waiting (release : Nat)
  | finished
deriving DecidableEq, Repr

namespace Phase

/-- A connection is open or being opened. -/
def usesTransport : Phase → Bool
  | opening _ | loggingIn _ | requesting _ _ | holding _ _ _ _ | serving _ => true
  | starting | waiting _ | finished => false

/-- When this phase has to be looked at again if nothing else happens. -/
def alarm (idleTimeout : Option Nat) : Phase → Option Nat
  | opening deadline | loggingIn deadline => some deadline
  | holding _ release _ _ | waiting release => some release
  | serving timers =>
    let idleAt := idleTimeout.map (timers.lastInbound + ·)
    some ((timers.pingAt.toList ++ idleAt.toList).foldl min timers.sweepAt)
  | starting | requesting _ _ | finished => none

end Phase

structure Manager where
  phase : Phase
  /-- It was told to stop. -/
  stopping : Bool
  backoff : Backoff
  /-- Attempts that failed since a connection was last established. -/
  failures : Nat
  /-- No connection was established so far. -/
  firstAttempt : Bool
  throttle : Option Throttle
deriving DecidableEq, Repr

def Manager.start (settings : Settings) (now : Nat) : Manager where
  phase := .starting
  stopping := false
  backoff := Backoff.ofPolicy settings.reconnect
  failures := 0
  firstAttempt := true
  throttle := settings.maxOutboundPerSecond.map (Throttle.start · now)

inductive Cue where
  /-- Nothing has to be waited for. -/
  | proceed
  | shutdown
  | opened
  | refused (cause : Error)
  | arrival (arrival : Arrival)
  | nudged
  | pingDue
  /-- The time that the phase allows has passed. -/
  | elapsed
  | sweepDue
deriving DecidableEq, Repr

end ChannelMux
