import ChannelMux.Decimal.Binary64

/-!
Delays between attempts to connect: each is the one before times a growth factor, cut off at a
maximum, and a connection that comes up starts the delays over. Times are in nanoseconds.
-/
namespace ChannelMux

def nanosPerMilli : Nat := 1000000
def nanosPerSecond : Nat := 1000000000

structure RetryPolicy where
  initialDelay : Nat
  maxDelay : Nat
  factor : Binary64
  /-- How many attempts may fail in a row; without a number, any. -/
  maxRetries : Option Nat
deriving DecidableEq, Repr

namespace RetryPolicy

/-- From a tenth of a second up to half a minute, doubling, without an end. -/
def standard : RetryPolicy :=
  ⟨100 * nanosPerMilli, 30 * nanosPerSecond, Binary64.ofNat 2, none⟩

def exhausted (policy : RetryPolicy) (attempts : Nat) : Bool :=
  policy.maxRetries.any (fun most => most ≤ attempts)

end RetryPolicy

structure Backoff where
  initial : Nat
  max : Nat
  factor : Binary64
  /-- The delay to wait next. -/
  current : Nat
deriving DecidableEq, Repr

namespace Backoff

/-- A factor that would shrink delays counts as one. -/
def ofPolicy (policy : RetryPolicy) : Backoff :=
  let initial := min policy.initialDelay policy.maxDelay
  ⟨initial, policy.maxDelay, policy.factor.atLeastOne, initial⟩

/-- The longest delay that growth can reach, however large the maximum. -/
def growthLimit : Nat := twoTo 64 - 1

/-- The delay to wait now. The product is a double, cut to whole nanoseconds. -/
def next (b : Backoff) : Nat × Backoff :=
  let grown := ((Binary64.ofNat b.current).mul b.factor).toNatClamped growthLimit
  (b.current, { b with current := min grown (min b.max growthLimit) })

def reset (b : Backoff) : Backoff := { b with current := b.initial }

end Backoff

end ChannelMux
