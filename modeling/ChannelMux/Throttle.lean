import ChannelMux.Backoff

/-!
A cap on the requests written per second. Slots are handed out in windows of one second; when a
window is full the next slot is booked at the start of the following one.
-/
namespace ChannelMux

structure Throttle where
  perWindow : Nat
  windowStart : Nat
  used : Nat
deriving DecidableEq, Repr

namespace Throttle

def window : Nat := nanosPerSecond

/-- At least one request a second is let through. -/
def start (perSecond now : Nat) : Throttle := ⟨max perSecond 1, now, 0⟩

/-- Takes a slot at `now`. The result is the time to wait for, if the window is full. -/
def reserve (t : Throttle) (now : Nat) : Option Nat × Throttle :=
  let t := if window ≤ now - t.windowStart then { t with windowStart := now, used := 0 } else t
  if t.used < t.perWindow then (none, { t with used := t.used + 1 })
  else
    let next := t.windowStart + window
    (some next, { t with windowStart := next, used := 1 })

end Throttle

end ChannelMux
