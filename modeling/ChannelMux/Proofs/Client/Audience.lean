import ChannelMux.Client.Basic
import ChannelMux.Proofs.Registry.Inboxes
import Mathlib.Data.List.TakeWhile

/-!
A registry with the streams that its acquisitions give out. Calls on the registry and polls of the
streams come in any order. `itemsFor` reads off the calls alone what is sent to the holder of a
ticket.
-/
namespace ChannelMux

open Registry

variable {ν : Type}

/-- What a stream answers to one poll. -/
inductive Polled (ν : Type) where
  | item (content : Except Error ν)
  /-- Nothing is there yet. -/
  | pending
  | ended

/-- What was yielded, if anything was. -/
def Polled.yield? : Polled ν → Option (Except Error ν)
  | .item content => some content
  | .pending | .ended => none

theorem Polled.yields_singleton (polled : Polled ν) :
    [polled].filterMap Polled.yield? = polled.yield?.toList := by
  cases polled <;> rfl

namespace Registry

/-- What a subscriber has not read, oldest first. -/
def unread (r : Registry ν) (subscriber : Nat) : List (Except Error ν) :=
  ((r.inboxes[subscriber]?).map Inbox.items).getD []

def dropOldest (r : Registry ν) (subscriber : Nat) : Registry ν :=
  { r with inboxes := r.inboxes.modify subscriber (fun inbox =>
      { inbox with items := inbox.items.tail }) }

end Registry

/-- One poll. A stream yields what is unread; it has ended after an error, or once nothing is unread
and nothing can be sent any more. -/
def ChannelStream.poll (stream : ChannelStream) (r : Registry ν) :
    Polled ν × ChannelStream × Registry ν :=
  if stream.terminated then (.ended, stream, r)
  else match r.unread stream.ticket.subscriber with
    | .error cause :: _ =>
      (.item (.error cause), { stream with terminated := true },
        r.dropOldest stream.ticket.subscriber)
    | .ok payload :: _ => (.item (.ok payload), stream, r.dropOldest stream.ticket.subscriber)
    | [] =>
      if r.isLinked stream.ticket.subscriber then (.pending, stream, r)
      else (.ended, { stream with terminated := true }, r)

/-- A registry and the streams that its acquisitions gave out, in order. -/
structure Audience (ν : Type) where
  registry : Registry ν
  streams : List ChannelStream

namespace Audience

inductive Move (ν : Type) where
  | call (operation : Operation ν)
  | poll (n : Nat)
deriving DecidableEq, Repr

def Move.call? : Move ν → Option (Operation ν)
  | .call operation => some operation
  | .poll _ => none

def start : Audience ν := ⟨empty, []⟩

/-- Makes a call; an acquisition gives out a stream. -/
def call (a : Audience ν) (operation : Operation ν) : Audience ν where
  registry := (a.registry.perform operation).2
  streams := a.streams ++
    (given? (operation, (a.registry.perform operation).1)).toList.map fun (key, ticket) =>
      ⟨key, ticket, false⟩

/-- Polls a stream, if there is one of that number. -/
def poll (a : Audience ν) (n : Nat) : Option (Polled ν) × Audience ν :=
  match a.streams[n]? with
  | none => (none, a)
  | some stream =>
    let (polled, stream, registry) := stream.poll a.registry
    (some polled, ⟨registry, a.streams.set n stream⟩)

def step (a : Audience ν) : Move ν → Audience ν
  | .call operation => a.call operation
  | .poll n => (a.poll n).2

def run (a : Audience ν) (moves : List (Move ν)) : Audience ν := moves.foldl step a

/-- What stream `n` answers in a move. -/
def answer (n : Nat) (a : Audience ν) : Move ν → Option (Polled ν)
  | .call _ => none
  | .poll m => if m = n then (a.poll n).1 else none

/-- What stream `n` answers to its polls, one after the other. -/
def heard (n : Nat) (a : Audience ν) : List (Move ν) → List (Polled ν)
  | [] => []
  | move :: rest => (a.answer n move).toList ++ heard n (a.step move) rest

theorem run_concat (a : Audience ν) (moves : List (Move ν)) (move : Move ν) :
    a.run (moves ++ [move]) = (a.run moves).step move := by
  simp [run]

theorem heard_concat (n : Nat) (a : Audience ν) (moves : List (Move ν)) (move : Move ν) :
    heard n a (moves ++ [move]) = heard n a moves ++ ((a.run moves).answer n move).toList := by
  induction moves generalizing a with
  | nil => simp [heard, run]
  | cons first rest ih =>
    rw [List.cons_append, heard, heard, ih, List.append_assoc]
    rfl

end Audience

namespace Registry

variable {r : Registry ν} {s : Nat}

theorem unread_of_getElem? {inbox : Inbox ν} (h : r.inboxes[s]? = some inbox) :
    r.unread s = inbox.items := by
  simp [unread, h]

theorem getElem?_dropOldest (r : Registry ν) (s m : Nat) :
    (r.dropOldest s).inboxes[m]? = (r.inboxes[m]?).map (fun inbox =>
      if s = m then { inbox with items := inbox.items.tail } else inbox) := by
  simp only [dropOldest, List.getElem?_modify]
  split <;> simp

/-- Reading leaves the registry as consistent as it was. -/
theorem Consistent.dropOldest (h : r.Consistent) (s : Nat) : (r.dropOldest s).Consistent := by
  refine ⟨h.distinct, h.sound, h.numbered.ascending, h.numbered.counted, h.numbered.once,
    h.numbered.apart, ?_⟩
  intro record hmem subscriber hsubscriber
  change subscriber < (r.inboxes.modify s _).length
  rw [List.length_modify]
  exact h.numbered.known record hmem subscriber hsubscriber

def Operation.payload? (key : ChannelKey) : Operation ν → Option ν
  | .dispatch k payload => if k = key then some payload else none
  | _ => none

def Operation.refusal? : Operation ν → Option Error
  | .fail _ error => some error
  | _ => none

/-- What calls send to the holder of `ticket` on `key`: the payloads of the channel up to the call
that ends the place, and the error of that call if it is a refusal. -/
def itemsFor (key : ChannelKey) (ticket : Ticket) (calls : List (Operation ν)) :
    List (Except Error ν) :=
  ((calls.takeWhile (fun call => !call.ends key ticket)).filterMap (·.payload? key)).map .ok ++
    ((calls.find? (Operation.ends key ticket)).bind Operation.refusal?).toList.map .error

/-- The place of `ticket` on `key` has been ended. -/
def isOver (key : ChannelKey) (ticket : Ticket) (calls : List (Operation ν)) : Bool :=
  calls.any (Operation.ends key ticket)

variable {key : ChannelKey} {ticket : Ticket} {calls : List (Operation ν)}

theorem isOver_concat (call : Operation ν) :
    isOver key ticket (calls ++ [call]) = (isOver key ticket calls || call.ends key ticket) := by
  simp [isOver]

theorem itemsFor_concat_of_over (hover : isOver key ticket calls = true) (call : Operation ν) :
    itemsFor key ticket (calls ++ [call]) = itemsFor key ticket calls := by
  obtain ⟨last, hmem, hends⟩ := List.any_eq_true.mp hover
  have hfind : (calls.find? (Operation.ends key ticket)).isSome = true :=
    List.find?_isSome.mpr ⟨last, hmem, hends⟩
  obtain ⟨first, hfirst⟩ := Option.isSome_iff_exists.mp hfind
  have htake : (calls ++ [call]).takeWhile (fun call => !call.ends key ticket) =
      calls.takeWhile (fun call => !call.ends key ticket) := by
    rw [List.takeWhile_append, if_neg]
    intro hall
    have hself := List.takeWhile_eq_self_iff.mp
      ((List.takeWhile_prefix _).eq_of_length hall) last hmem
    simp [hends] at hself
  rw [itemsFor, htake, List.find?_append, hfirst]
  rw [itemsFor, hfirst]
  rfl

theorem itemsFor_of_not_over (hopen : isOver key ticket calls = false) :
    itemsFor key ticket calls = (calls.filterMap (·.payload? key)).map .ok := by
  have hall : ∀ call ∈ calls, call.ends key ticket = false := by
    intro call hmem
    exact Bool.eq_false_iff.mpr (List.any_eq_false.mp hopen call hmem)
  have htake : calls.takeWhile (fun call => !call.ends key ticket) = calls :=
    List.takeWhile_eq_self_iff.mpr fun call hmem => by simp [hall call hmem]
  have hfind : calls.find? (Operation.ends key ticket) = none :=
    List.find?_eq_none.mpr fun call hmem => by simp [hall call hmem]
  simp [itemsFor, htake, hfind]

theorem itemsFor_concat_of_not_over (hopen : isOver key ticket calls = false)
    (call : Operation ν) : itemsFor key ticket (calls ++ [call]) =
      itemsFor key ticket calls ++ (call.posts? key).toList := by
  have hall : ∀ call ∈ calls, call.ends key ticket = false := by
    intro call hmem
    exact Bool.eq_false_iff.mpr (List.any_eq_false.mp hopen call hmem)
  have hfind : calls.find? (Operation.ends key ticket) = none :=
    List.find?_eq_none.mpr fun call hmem => by simp [hall call hmem]
  have htake : (calls ++ [call]).takeWhile (fun call => !call.ends key ticket) =
      calls ++ [call].takeWhile (fun call => !call.ends key ticket) :=
    List.takeWhile_append_of_pos fun call hmem => by simp [hall call hmem]
  rw [itemsFor_of_not_over hopen, itemsFor, htake, List.find?_append, hfind, Option.none_or,
    List.filterMap_append, List.map_append, List.append_assoc]
  congr 1
  cases call with
  | dispatch k payload =>
    by_cases hk : k = key <;> simp [Operation.ends, Operation.payload?, Operation.posts?, hk]
  | fail k error =>
    by_cases hk : k = key <;>
      simp [Operation.ends, Operation.payload?, Operation.refusal?, Operation.posts?, hk]
  | release k other =>
    by_cases hk : k = key <;> by_cases hother : other = ticket <;>
      simp [Operation.ends, Operation.payload?, Operation.refusal?, Operation.posts?, hk, hother]
  | _ => simp [Operation.ends, Operation.payload?, Operation.posts?]

/-- An error is the last thing sent, and it ends the place. -/
theorem error_last {before after : List (Except Error ν)} {error : Error}
    (h : itemsFor key ticket calls = before ++ .error error :: after) :
    after = [] ∧ isOver key ticket calls = true := by
  have hnot : ∀ payloads : List ν, Except.error error ∉ payloads.map Except.ok := by simp
  cases hover : isOver key ticket calls with
  | false =>
    rw [itemsFor_of_not_over hover] at h
    exact absurd (h ▸ List.mem_append_right _ List.mem_cons_self) (hnot _)
  | true =>
    refine ⟨?_, rfl⟩
    unfold itemsFor at h
    cases hrefusal : (calls.find? (Operation.ends key ticket)).bind Operation.refusal? with
    | none =>
      rw [hrefusal, Option.toList_none, List.map_nil, List.append_nil] at h
      exact absurd (h ▸ List.mem_append_right _ List.mem_cons_self) (hnot _)
    | some last =>
      rw [hrefusal, Option.toList_some, List.map_singleton] at h
      rcases List.append_eq_append_iff.mp h with ⟨more, hbefore, hrest⟩ | ⟨more, hpayloads, hrest⟩
      · cases more with
        | nil => simpa using (congrArg List.tail hrest).symm
        | cons head tail => simp at hrest
      · cases more with
        | nil => simpa using (congrArg List.tail hrest)
        | cons head tail =>
          have hhead : Except.error error = head := (List.cons.inj hrest).1
          rw [← hhead] at hpayloads
          exact absurd (hpayloads ▸ List.mem_append_right _ List.mem_cons_self) (hnot _)

/-- An error is sent by the refusal that ends the place, and by no other call. -/
theorem error_mem_itemsFor (error : Error) : .error error ∈ itemsFor key ticket calls ↔
    calls.find? (Operation.ends key ticket) = some (.fail key error) := by
  have hpayload : ∀ payloads : List ν, Except.error error ∉ payloads.map Except.ok := by simp
  rw [itemsFor, List.mem_append, or_iff_right (hpayload _)]
  cases hfind : calls.find? (Operation.ends key ticket) with
  | none => simp
  | some call =>
    have hends := List.find?_some hfind
    cases call with
    | fail k cause =>
      have hk : k = key := by simpa [Operation.ends] using hends
      simp [Operation.refusal?, hk, eq_comm]
    | _ => simp [Operation.refusal?]

end Registry

end ChannelMux
