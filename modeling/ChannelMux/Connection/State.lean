import ChannelMux.Decimal.Power
import ChannelMux.Error

/-!
What an observer of a connection sees: the state it is in and the events that mark its changes.
-/
namespace ChannelMux

inductive ConnectionState where
  /-- No connection and nobody at work on one. -/
  | disconnected
  /-- The first connection is being opened. -/
  | connecting
  /-- The login is written and not answered. -/
  | authenticating
  /-- Logged in where needed, and every wanted channel is requested. -/
  | connected
  /-- The connection is lost, or could not be opened, and another is to come. -/
  | reconnecting
deriving DecidableEq, Repr

inductive LifecycleEvent where
  /-- The transport is open. -/
  | connected (endpoint : String)
  /-- The login is acknowledged. -/
  | authenticated
  /-- So many subscribes were written on a fresh connection. -/
  | replayed (channels : Nat)
  | disconnected (reason : String)
  /-- So many attempts have failed in a row, the last for this cause. -/
  | reconnectFailed (attempt : Nat) (cause : Error)
  /-- No further attempt is made. -/
  | gaveUp (attempts : Nat)
deriving DecidableEq, Repr

/-- One observer of lifecycle events. It keeps a bounded number of them; the oldest make way. -/
structure Observer where
  capacity : Nat
  unread : List LifecycleEvent
  /-- Events that made way since the last reading. -/
  missed : Nat
deriving Repr

namespace Observer

/-- The least power of two from `n` on. -/
def roundUp (n : Nat) : Nat := if n ≤ 1 then 1 else twoTo (Nat.log2 (n - 1) + 1)

def ofCapacity (capacity : Nat) : Observer := ⟨roundUp capacity, [], 0⟩

def observe (o : Observer) (event : LifecycleEvent) : Observer :=
  let unread := o.unread ++ [event]
  let excess := unread.length - o.capacity
  { o with unread := unread.drop excess, missed := o.missed + excess }

/-- How many events were missed, those still kept, and the observer without them. -/
def read (o : Observer) : Nat × List LifecycleEvent × Observer :=
  (o.missed, o.unread, { o with unread := [], missed := 0 })

end Observer

end ChannelMux
