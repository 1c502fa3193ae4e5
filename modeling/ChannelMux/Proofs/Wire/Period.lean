import ChannelMux.Proofs.Registry.Driven
import ChannelMux.Proofs.Registry.Sharing

/-!
One online period, with the exchange at the other end. Requests that the registry hands out travel
over one queue; the exchange processes them in order and answers each one over another queue, on
which it also pushes payloads of the channels it is subscribed to. Application calls, writes,
processing, answers, payloads and receipts come in any order, and anything may stay where it is for
as long as it likes.
-/
namespace ChannelMux.Wire

open Registry

variable {ν : Type}

inductive Request where
  | subscribe (key : ChannelKey)
  | unsubscribe (key : ChannelKey)
deriving DecidableEq, Repr

inductive Reply (ν : Type) where
  | subscribed (key : ChannelKey)
  | unsubscribed (key : ChannelKey)
  | payload (key : ChannelKey) (content : ν)
deriving DecidableEq, Repr

/-- The subscriptions of the exchange after it processed a request. -/
def Request.apply : Request → (ChannelKey → Bool) → ChannelKey → Bool
  | .subscribe key, subscribed => fun k => if k = key then true else subscribed k
  | .unsubscribe key, subscribed => fun k => if k = key then false else subscribed k

theorem Request.apply_other {request : Request} {key : ChannelKey}
    (hsubscribe : request ≠ .subscribe key) (hunsubscribe : request ≠ .unsubscribe key)
    (subscribed : ChannelKey → Bool) : request.apply subscribed key = subscribed key := by
  cases request with
  | subscribe k => exact if_neg fun hk => hsubscribe (by rw [hk])
  | unsubscribe k => exact if_neg fun hk => hunsubscribe (by rw [hk])

def Request.reply : Request → Reply ν
  | .subscribe key => .subscribed key
  | .unsubscribe key => .unsubscribed key

/-- The call by which the client takes a reply in. -/
def Reply.operation : Reply ν → Operation ν
  | .subscribed key => .activate key
  | .unsubscribed key => .unsubscribeAcked key
  | .payload key content => .dispatch key content

structure Period (ν : Type) where
  registry : Registry ν
  /-- Written and not processed yet, oldest first. -/
  outbound : List Request
  /-- Processed and not answered yet, oldest first. -/
  unanswered : List Request
  /-- Sent by the exchange and not received yet, oldest first. -/
  inbound : List (Reply ν)
  /-- What the exchange is subscribed to now. -/
  subscribed : ChannelKey → Bool

inductive Move (ν : Type) where
  | acquire (key : ChannelKey) (request : ChannelRequest)
  | release (key : ChannelKey) (ticket : Ticket)
  | writeSubscribe (key : ChannelKey)
  | writeUnsubscribe (key : ChannelKey) (now : Nat)
  /-- The exchange processes the oldest request that reached it. -/
  | process
  /-- The exchange answers the oldest request that it has processed. -/
  | answer
  | push (key : ChannelKey) (content : ν)
  /-- The client takes in the oldest reply. -/
  | receive
deriving DecidableEq, Repr

namespace Period

/-- The connection has just come up over a registry that was down. -/
def opened (registry : Registry ν) : Period ν :=
  ⟨registry.setOnline true, [], [], [], fun _ => false⟩

/-- The request that a move writes: what the registry hands out is written, and nothing else. -/
def written (p : Period ν) : Move ν → Option Request
  | .writeSubscribe key =>
    if (p.registry.beginSubscribe key).1.isSome then some (.subscribe key) else none
  | .writeUnsubscribe key now =>
    if (p.registry.beginUnsubscribe key now).1.isSome then some (.unsubscribe key) else none
  | _ => none

/-- The call that a move makes on the registry. -/
def call? (p : Period ν) : Move ν → Option (Operation ν)
  | .acquire key request => some (.acquire key request)
  | .release key ticket => some (.release key ticket)
  | .writeSubscribe key => some (.beginSubscribe key)
  | .writeUnsubscribe key now => some (.beginUnsubscribe key now)
  | .receive => p.inbound.head?.map Reply.operation
  | .process | .answer | .push _ _ => none

def step (p : Period ν) (move : Move ν) : Period ν :=
  let registry := match p.call? move with
    | none => p.registry
    | some operation => (p.registry.perform operation).2
  match move with
  | .process =>
    match p.outbound with
    | [] => p
    | request :: rest =>
      { p with
        outbound := rest
        unanswered := p.unanswered ++ [request]
        subscribed := request.apply p.subscribed }
  | .answer =>
    match p.unanswered with
    | [] => p
    | request :: rest => { p with unanswered := rest, inbound := p.inbound ++ [request.reply] }
  | .push key content =>
    if p.subscribed key then { p with inbound := p.inbound ++ [.payload key content] } else p
  | .receive => { p with registry, inbound := p.inbound.tail }
  | _ => { p with registry, outbound := p.outbound ++ (p.written move).toList }

def run (p : Period ν) (moves : List (Move ν)) : Period ν := moves.foldl step p

/-- Everything that a run writes, in order. -/
def writes (p : Period ν) : List (Move ν) → List Request
  | [] => []
  | move :: rest => (p.written move).toList ++ (p.step move).writes rest

/-- What the exchange will be subscribed to once it has processed all that is written. -/
def target (p : Period ν) : ChannelKey → Bool :=
  p.outbound.foldl (fun subscribed request => request.apply subscribed) p.subscribed

/-- Nothing is on its way and nothing is owed. -/
structure Quiescent (p : Period ν) : Prop where
  outbound : p.outbound = []
  unanswered : p.unanswered = []
  inbound : p.inbound = []
  due : p.registry.due.isEmpty = true

variable {p : Period ν} {key : ChannelKey}

theorem run_append (p : Period ν) (first second : List (Move ν)) :
    p.run (first ++ second) = (p.run first).run second := List.foldl_append

theorem writes_append (p : Period ν) (first second : List (Move ν)) :
    p.writes (first ++ second) = p.writes first ++ (p.run first).writes second := by
  induction first generalizing p with
  | nil => rfl
  | cons move rest ih =>
    rw [List.cons_append, writes, writes, ih, List.append_assoc]
    rfl

theorem registry_step (p : Period ν) (move : Move ν) :
    (p.step move).registry =
      match p.call? move with
      | none => p.registry
      | some operation => (p.registry.perform operation).2 := by
  cases move with
  | process =>
    simp only [step, call?]
    split <;> rfl
  | answer =>
    simp only [step, call?]
    split <;> rfl
  | push key content =>
    simp only [step, call?]
    split <;> rfl
  | _ => rfl

theorem registry_step_of_call {move : Move ν} {operation : Operation ν}
    (h : p.call? move = some operation) :
    (p.step move).registry = (p.registry.perform operation).2 := by
  rw [registry_step, h]

theorem registry_step_of_none {move : Move ν} (h : p.call? move = none) :
    (p.step move).registry = p.registry := by
  rw [registry_step, h]

/-- Only writing changes what the exchange is heading for. -/
theorem target_step (p : Period ν) (move : Move ν) :
    (p.step move).target =
      (p.written move).toList.foldl (fun subscribed request => request.apply subscribed)
        p.target := by
  cases move with
  | process =>
    simp only [step, written]
    split
    · rfl
    · rename_i request rest hout
      simp [target, hout]
  | answer =>
    simp only [step, written]
    split <;> rfl
  | push key content =>
    simp only [step, written]
    split <;> rfl
  | receive => rfl
  | acquire key request => simp [step, written, target]
  | release key ticket => simp [step, written, target]
  | writeSubscribe key => simp only [step, target, List.foldl_append]
  | writeUnsubscribe key now => simp only [step, target, List.foldl_append]

theorem target_of_subscribe {move : Move ν} (h : p.written move = some (.subscribe key)) :
    (p.step move).target key = true := by
  rw [target_step, h]
  exact if_pos rfl

theorem target_of_unsubscribe {move : Move ν} (h : p.written move = some (.unsubscribe key)) :
    (p.step move).target key = false := by
  rw [target_step, h]
  exact if_pos rfl

theorem target_unchanged {move : Move ν} (hsubscribe : p.written move ≠ some (.subscribe key))
    (hunsubscribe : p.written move ≠ some (.unsubscribe key)) :
    (p.step move).target key = p.target key := by
  rw [target_step]
  cases hwritten : p.written move with
  | none => rfl
  | some request =>
    rw [hwritten] at hsubscribe hunsubscribe
    exact request.apply_other (by rintro rfl; exact hsubscribe rfl)
      (by rintro rfl; exact hunsubscribe rfl) _

theorem target_run (p : Period ν) (moves : List (Move ν)) :
    (p.run moves).target =
      (p.writes moves).foldl (fun subscribed request => request.apply subscribed) p.target := by
  induction moves generalizing p with
  | nil => rfl
  | cons move rest ih =>
    rw [writes, List.foldl_append, ← target_step]
    exact ih (p.step move)

theorem subscribed_of_quiescent (h : p.Quiescent) : p.subscribed = p.target := by
  rw [target, h.outbound]
  rfl

end Period

end ChannelMux.Wire
