import ChannelMux.Connection.Phase
import ChannelMux.Connection.State
import ChannelMux.Router

/-!
A manager in the course of one step: what it changes in itself and in what it shares with its
client, and what others can see of that, in order.
-/
namespace ChannelMux

/-- What the managers of a client share with it. -/
structure Hub (κ ν : Type) where
  router : Router κ ν
  state : ConnectionState
  /-- How the last run ended. -/
  lastError : Option Error
  /-- A wake-up is stored that no manager has taken. -/
  permit : Bool

namespace Hub

variable {κ ν : Type}

def withRegistry (hub : Hub κ ν) (registry : Registry ν) : Hub κ ν :=
  { hub with router := { hub.router with registry } }

def setOnline (hub : Hub κ ν) (online : Bool) : Hub κ ν :=
  hub.withRegistry (hub.router.registry.setOnline online)

end Hub

/-- What others can see of a step. -/
inductive Action where
  | dial
  | write (frame : Frame)
  | close
  | publish (state : ConnectionState)
  | announce (event : LifecycleEvent)
deriving DecidableEq, Repr

/-- The surroundings of a step. -/
structure Moment where
  now : Nat
  /-- Wall time, in milliseconds. -/
  wall : Nat
  /-- What becomes of a frame that is written now. -/
  writing : Except Error Unit

/-- A manager in the course of a step, with its actions so far. -/
structure Turn (κ ν : Type) where
  manager : Manager
  hub : Hub κ ν
  actions : List Action

namespace Turn

variable {κ ν : Type}

def enter (t : Turn κ ν) (phase : Phase) : Turn κ ν :=
  { t with manager := { t.manager with phase } }

def act (t : Turn κ ν) (action : Action) : Turn κ ν := { t with actions := t.actions ++ [action] }

def announce (t : Turn κ ν) (event : LifecycleEvent) : Turn κ ν := t.act (.announce event)

def publish (t : Turn κ ν) (state : ConnectionState) : Turn κ ν :=
  { t with hub := { t.hub with state } }.act (.publish state)

def write (t : Turn κ ν) (moment : Moment) (frame : Frame) : Except Error (Turn κ ν) :=
  moment.writing.map (fun _ => t.act (.write frame))

def withRouter (t : Turn κ ν) (router : Router κ ν) : Turn κ ν :=
  { t with hub := { t.hub with router } }

def withCodec (t : Turn κ ν) (codec : κ) : Turn κ ν := t.withRouter { t.hub.router with codec }

def withRegistry (t : Turn κ ν) (registry : Registry ν) : Turn κ ν :=
  { t with hub := t.hub.withRegistry registry }

def setOnline (t : Turn κ ν) (online : Bool) : Turn κ ν :=
  { t with hub := t.hub.setOnline online }

/-- Ends the run. -/
def finish (t : Turn κ ν) (cause : Error) : Turn κ ν :=
  (({ t with hub := { t.hub with lastError := some cause } }.setOnline false).publish
    .disconnected).enter .finished

/-- Waits out the next delay before another attempt. -/
def retreat (t : Turn κ ν) (moment : Moment) : Turn κ ν :=
  let (delay, backoff) := t.manager.backoff.next
  ({ t with manager := { t.manager with backoff } }.publish .reconnecting).enter
    (.waiting (moment.now + delay))

/-- The connection is gone. -/
def lose (t : Turn κ ν) (moment : Moment) (reason : String) : Turn κ ν :=
  (((t.setOnline false).act .close).announce (.disconnected reason)).retreat moment

end Turn

end ChannelMux
