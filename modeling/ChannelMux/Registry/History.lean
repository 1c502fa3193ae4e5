import ChannelMux.Registry.Basic

/-!
Histories of a registry: the calls that are made on it, one after the other, and what each returns.
Whatever holds of every history holds however callers are interleaved, since each call is one step.
-/
namespace ChannelMux.Registry

/-- A call that may change a registry. -/
inductive Operation (ν : Type) where
  | acquire (key : ChannelKey) (request : ChannelRequest)
  | release (key : ChannelKey) (ticket : Ticket)
  | activate (key : ChannelKey)
  | fail (key : ChannelKey) (error : Error)
  | unsubscribeAcked (key : ChannelKey)
  | forget (key : ChannelKey)
  | beginSubscribe (key : ChannelKey)
  | beginUnsubscribe (key : ChannelKey) (now : Nat)
  | setOnline (online : Bool)
  | expire (now timeout : Nat)
  | dispatch (key : ChannelKey) (payload : ν)
deriving DecidableEq, Repr

inductive Answer where
  | acquired (result : Acquired)
  | released (result : Release)
  | changed (result : Bool)
  | counted (result : Nat)
  /-- The request that may be written now, if one may. -/
  | claimed (result : Option ChannelRequest)
  | dispatched (result : Dispatch)
  | silent
deriving DecidableEq, Repr

variable {ν : Type}

def perform (r : Registry ν) : Operation ν → Answer × Registry ν
  | .acquire key request => (r.acquire key request).map .acquired id
  | .release key ticket => (r.release key ticket).map .released id
  | .activate key => (r.activate key).map .changed id
  | .fail key error => (r.fail key error).map .counted id
  | .unsubscribeAcked key => (r.unsubscribeAcked key).map .changed id
  | .forget key => (r.forget key).map .changed id
  | .beginSubscribe key => (r.beginSubscribe key).map .claimed id
  | .beginUnsubscribe key now => (r.beginUnsubscribe key now).map .claimed id
  | .setOnline online => (.silent, r.setOnline online)
  | .expire now timeout => (r.expire now timeout).map .counted id
  | .dispatch key payload => (r.dispatch key payload).map .dispatched id

/-- The answers to a list of calls, and the registry after them. -/
def run (r : Registry ν) : List (Operation ν) → List Answer × Registry ν
  | [] => ([], r)
  | operation :: rest =>
    let (answer, r) := r.perform operation
    let (answers, r) := run r rest
    (answer :: answers, r)

/-- The registries that a history leads to. -/
inductive Reachable : Registry ν → Prop where
  | empty : Reachable Registry.empty
  | perform {r : Registry ν} (operation : Operation ν) :
      Reachable r → Reachable (r.perform operation).2

theorem Reachable.run {r : Registry ν} (h : Reachable r) (operations : List (Operation ν)) :
    Reachable (r.run operations).2 := by
  induction operations generalizing r with
  | nil => exact h
  | cons operation rest ih => exact ih (h.perform operation)

theorem run_cons (r : Registry ν) (operation : Operation ν) (rest : List (Operation ν)) :
    r.run (operation :: rest) =
      ((r.perform operation).1 :: ((r.perform operation).2.run rest).1,
        ((r.perform operation).2.run rest).2) := rfl

theorem run_append (r : Registry ν) (first second : List (Operation ν)) :
    r.run (first ++ second) =
      ((r.run first).1 ++ ((r.run first).2.run second).1, ((r.run first).2.run second).2) := by
  induction first generalizing r with
  | nil => rfl
  | cons operation rest ih => simp [Registry.run, ih]

end ChannelMux.Registry
