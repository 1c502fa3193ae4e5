import ChannelMux.Proofs.Registry.Inboxes
import Mathlib.Data.Set.Function

/-!
Subscribers and rounds under other numbers. What a call makes of a record, and what it answers, does
not depend on how subscribers and rounds are numbered, as long as different ones have different
numbers.
-/
namespace ChannelMux

def Ticket.rename (φ : Nat → Nat) (ticket : Ticket) : Ticket :=
  ⟨φ ticket.generation, φ ticket.subscriber⟩

def Ticket.Below (ticket : Ticket) (n : Nat) : Prop :=
  ticket.generation < n ∧ ticket.subscriber < n

namespace Record

def rename (φ : Nat → Nat) (record : Record) : Record :=
  { record with
    generation := φ record.generation
    subscribers := record.subscribers.map φ }

/-- The round and the subscribers of a record have numbers below `n`. -/
structure Below (record : Record) (n : Nat) : Prop where
  generation : record.generation < n
  subscribers : ∀ s ∈ record.subscribers, s < n

variable {φ ψ : Nat → Nat} {n : Nat} {record : Record} {ticket : Ticket}

theorem rename_subscribers_eq_nil (φ : Nat → Nat) (record : Record) :
    (record.rename φ).subscribers = [] ↔ record.subscribers = [] :=
  List.map_eq_nil_iff

theorem rename_owesSubscribe (φ : Nat → Nat) (record : Record) :
    (record.rename φ).OwesSubscribe ↔ record.OwesSubscribe := by
  simp [OwesSubscribe, rename]

theorem rename_owesUnsubscribe (φ : Nat → Nat) (record : Record) :
    (record.rename φ).OwesUnsubscribe ↔ record.OwesUnsubscribe := by
  simp [OwesUnsubscribe, rename]

theorem rename_congr (h : record.Below n) (hsame : ∀ s < n, φ s = ψ s) :
    record.rename φ = record.rename ψ := by
  have hsubscribers : record.subscribers.map φ = record.subscribers.map ψ :=
    List.map_congr_left fun s hs => hsame s (h.subscribers s hs)
  rw [rename, rename, hsame _ h.generation, hsubscribers]

theorem tickets_rename (φ : Nat → Nat) (record : Record) :
    (record.rename φ).tickets = record.tickets.map (Ticket.rename φ) := by
  simp only [tickets, rename, List.map_map]
  rfl

theorem joined_rename (φ : Nat → Nat) (slot : Option Record) (key : ChannelKey)
    (request : ChannelRequest) (generation subscriber : Nat) :
    joined (slot.map (rename φ)) key request (φ generation) (φ subscriber) =
      (joined slot key request generation subscriber).rename φ := by
  cases slot with
  | none => rfl
  | some old =>
    simp only [Option.map_some, joined, reopened]
    by_cases hstate : old.state = .unsubscribing
    · by_cases hmark : old.unsubscribeSent.isSome = true
      · simp [rename, hstate, hmark]
      · simp [rename, hstate, hmark]
    · simp [rename, hstate]

/-- The place of a ticket is found under other numbers where it was. -/
theorem place_rename (hφ : Set.InjOn φ {s | s < n}) (h : record.Below n)
    (hgeneration : ticket.generation < n) (hsubscriber : ticket.subscriber < n) :
    ((record.rename φ).generation ≠ (ticket.rename φ).generation ∨
        (ticket.rename φ).subscriber ∉ (record.rename φ).subscribers) ↔
      (record.generation ≠ ticket.generation ∨ ticket.subscriber ∉ record.subscribers) := by
  refine or_congr (not_congr (hφ.eq_iff h.generation hgeneration)) (not_congr ?_)
  constructor
  · intro hmem
    obtain ⟨s, hs, hsame⟩ := List.mem_map.mp hmem
    rwa [← hφ (h.subscribers s hs) hsubscriber hsame]
  · exact List.mem_map_of_mem

theorem left_rename (hφ : Set.InjOn φ {s | s < n}) (h : record.Below n)
    (hsubscriber : ticket.subscriber < n) :
    (record.rename φ).subscribers.filter (fun s => s ≠ (ticket.rename φ).subscriber) =
      (record.subscribers.filter (fun s => s ≠ ticket.subscriber)).map φ := by
  rw [rename, Ticket.rename, List.filter_map]
  congr 1
  refine List.filter_congr fun s hs => ?_
  rw [Function.comp_apply, decide_eq_decide]
  exact not_congr (hφ.eq_iff (h.subscribers s hs) hsubscriber)

theorem released_rename (hφ : Set.InjOn φ {s | s < n}) (h : record.Below n)
    (hgeneration : ticket.generation < n) (hsubscriber : ticket.subscriber < n) (online : Bool) :
    (record.rename φ).released online (ticket.rename φ) =
      (record.released online ticket).map (rename φ) := by
  have hplace := place_rename hφ h hgeneration hsubscriber
  unfold released
  rw [left_rename hφ h hsubscriber]
  by_cases hout : record.generation ≠ ticket.generation ∨ ticket.subscriber ∉ record.subscribers
  · rw [if_pos (hplace.mpr hout), if_pos hout]
    rfl
  · rw [if_neg (mt hplace.mp hout), if_neg hout]
    by_cases hleft : record.subscribers.filter (fun s => s ≠ ticket.subscriber) = []
    · rw [if_neg (not_not_intro hleft), if_neg (by rw [hleft]; exact not_not_intro rfl)]
      change (if (online && record.liveOnWire) = true then _ else _) = _
      split <;> rfl
    · rw [if_pos hleft, if_pos (mt List.map_eq_nil_iff.mp hleft)]
      rfl

/-- Every other call looks at no number. -/
theorem confirmed_rename (φ : Nat → Nat) (record : Record) :
    (record.rename φ).confirmed = record.confirmed.rename φ := by
  cases hstate : record.state <;> simp [confirmed, rename, hstate]

theorem unsubscribed_rename (φ : Nat → Nat) (record : Record) :
    (record.rename φ).unsubscribed = record.unsubscribed.map (rename φ) := by
  simp only [unsubscribed, rename_subscribers_eq_nil]
  change (if record.unsubscribeSent = none then _ else _) = _
  repeat' split
  all_goals rfl

theorem forgotten_rename (φ : Nat → Nat) (record : Record) :
    (record.rename φ).forgotten = record.forgotten.map (rename φ) := by
  simp only [forgotten, rename_subscribers_eq_nil]
  split <;> rfl

theorem subscribing_rename (φ : Nat → Nat) (record : Record) (online : Bool) :
    (record.rename φ).subscribing online = (record.subscribing online).rename φ := by
  simp only [subscribing, rename_owesSubscribe]
  split <;> rfl

theorem unsubscribing_rename (φ : Nat → Nat) (record : Record) (online : Bool) (now : Nat) :
    (record.rename φ).unsubscribing online now =
      (record.unsubscribing online now).map (rename φ) := by
  simp only [unsubscribing, rename_owesUnsubscribe]
  repeat' split
  all_goals rfl

theorem swept_rename (φ : Nat → Nat) (record : Record) (now timeout : Nat) :
    (record.rename φ).swept now timeout = (record.swept now timeout).map (rename φ) := by
  simp only [swept, rename_subscribers_eq_nil]
  change (if Registry.isOverdue now timeout record = true then _ else _) = _
  repeat' split
  all_goals rfl

theorem fed_rename (φ : Nat → Nat) (record : Record) :
    (record.rename φ).fed = record.fed.rename φ := by
  simp only [fed, ne_eq, rename_subscribers_eq_nil]
  change (if ¬record.subscribers = [] ∧ record.state = .pending then _ else _) = _
  split <;> rfl

theorem afterLoss_rename (φ : Nat → Nat) (record : Record) :
    Registry.afterLoss (record.rename φ) = (Registry.afterLoss record).map (rename φ) := by
  cases hstate : record.state <;> simp [Registry.afterLoss, rename, hstate]

end Record

namespace Registry

variable {ν : Type} {φ : Nat → Nat} {n : Nat} {key : ChannelKey} {slot : Option Record}

/-- The tickets in a call, renamed. -/
def Operation.rename (φ : Nat → Nat) : Operation ν → Operation ν
  | .release key ticket => .release key (ticket.rename φ)
  | operation => operation

/-- The numbers in a call are below `n`. -/
def Operation.Below (n : Nat) : Operation ν → Prop
  | .release _ ticket => ticket.Below n
  | _ => True

theorem Operation.rename_congr {ψ : Nat → Nat} {operation : Operation ν}
    (h : operation.Below n) (hsame : ∀ s < n, φ s = ψ s) :
    operation.rename φ = operation.rename ψ := by
  cases operation with
  | release k ticket =>
    simp only [Operation.rename, Ticket.rename, hsame _ h.1, hsame _ h.2]
  | _ => rfl

/-- What a call makes of a record, it makes of the same record under other numbers. -/
theorem revise_rename (hφ : Set.InjOn φ {s | s < n}) (hslot : ∀ record ∈ slot, record.Below n)
    {operation : Operation ν} (hbelow : operation.Below n) (online : Bool)
    (generation subscriber : Nat) :
    (operation.rename φ).revise online (φ generation) (φ subscriber) key
        (slot.map (Record.rename φ)) =
      (operation.revise online generation subscriber key slot).map (Record.rename φ) := by
  cases operation with
  | acquire k request =>
    simp only [Operation.rename, Operation.revise]
    split
    · rw [Record.joined_rename]
      rfl
    · rfl
  | release k ticket =>
    simp only [Operation.rename, Operation.revise]
    split
    · cases slot with
      | none => rfl
      | some record =>
        exact Record.released_rename hφ (hslot record rfl) hbelow.1 hbelow.2 online
    · rfl
  | _ =>
    simp only [Operation.rename, Operation.revise]
    cases slot with
    | none => simp
    | some record =>
      simp only [Option.map_some, Option.bind_some, Record.confirmed_rename,
        Record.unsubscribed_rename, Record.forgotten_rename, Record.subscribing_rename,
        Record.unsubscribing_rename, Record.swept_rename, Record.fed_rename,
        Record.afterLoss_rename]
      try split
      all_goals rfl

/-- The channel that a call names. -/
def Operation.key? : Operation ν → Option ChannelKey
  | .acquire key _ | .release key _ | .activate key | .fail key _ | .unsubscribeAcked key
  | .forget key | .beginSubscribe key | .beginUnsubscribe key _ | .dispatch key _ => some key
  | .setOnline _ | .expire _ _ => none

theorem Operation.key?_rename (φ : Nat → Nat) (operation : Operation ν) :
    (operation.rename φ).key? = operation.key? := by
  cases operation <;> rfl

theorem Operation.posts?_rename (φ : Nat → Nat) (key : ChannelKey) (operation : Operation ν) :
    (operation.rename φ).posts? key = operation.posts? key := by
  cases operation <;> rfl

theorem Operation.posts?_of_key? {operation : Operation ν} {k : ChannelKey}
    (hk : operation.key? ≠ some k) : operation.posts? k = none := by
  cases operation with
  | fail k' error => exact if_neg fun h => hk (congrArg some h)
  | dispatch k' payload => exact if_neg fun h => hk (congrArg some h)
  | _ => rfl

theorem given_key {r : Registry ν} {operation : Operation ν} {k : ChannelKey} {ticket : Ticket}
    (hgiven : given? (operation, (r.perform operation).1) = some (k, ticket)) :
    operation.key? = some k := by
  cases operation with
  | acquire k' request => cases hgiven; rfl
  | _ => cases hgiven

end Registry

end ChannelMux
