import ChannelMux.Error

/-!
The registry of one connection: which channels are wanted, by whom, and which wire requests are owed
or outstanding. Many subscribers of one key share one record, so the exchange sees one subscription.

A record lives like this:

    pending --acknowledged, or first payload--> active
    active --last subscriber gone, online--> unsubscribing --acknowledged or timed out--> removed
    active --connection lost--> pending, to be requested again
    any --refused--> removed, and every subscriber is told

While the connection is offline nothing has to be torn down: a record goes with its last subscriber.
Records are kept in the order in which their current round of subscription began, and times are in
nanoseconds on a monotonic clock.
-/
namespace ChannelMux

inductive SubscriptionState where
  /-- Wanted, not confirmed on the current connection. -/
  | pending
  /-- Confirmed, or data is flowing. -/
  | active
  /-- Nobody is left; the unsubscribe is written or about to be. -/
  | unsubscribing
deriving DecidableEq, Repr

/-- A subscriber's place in a record. It goes stale when the record's generation has passed. -/
structure Ticket where
  generation : Nat
  subscriber : Nat
deriving DecidableEq, Repr

structure Record where
  key : ChannelKey
  request : ChannelRequest
  /-- When this round began, counted in acquisitions. -/
  generation : Nat
  state : SubscriptionState
  subscribers : List Nat
  /-- A subscribe is written on the current connection and not answered. -/
  subscribeSent : Bool
  /-- An unsubscribe is written and not answered since this time. -/
  unsubscribeSent : Option Nat
  /-- The state to go back to if an unwritten unsubscribe is cancelled. -/
  resumeState : SubscriptionState
deriving DecidableEq, Repr

namespace Record

/-- A record nobody has joined yet. -/
def opened (key : ChannelKey) (request : ChannelRequest) (generation : Nat) : Record :=
  ⟨key, request, generation, .pending, [], false, none, .pending⟩

/-- A record about to be joined again. An unsubscribe that was never written is cancelled; one that
was written cannot be taken back, so a new round begins. -/
def reopened (record : Record) (request : ChannelRequest) (generation : Nat) : Record :=
  if record.state = .unsubscribing then
    if record.unsubscribeSent.isSome then
      { record with request, generation, state := .pending, subscribeSent := false }
    else { record with state := record.resumeState }
  else record

/-- The exchange has, or is about to have, a subscription for this record. -/
def liveOnWire (record : Record) : Bool := record.state = .active || record.subscribeSent

end Record

/-- What one subscriber has not read yet. -/
structure Inbox (ν : Type) where
  items : List (Except Error ν)
  /-- Nothing more is taken in once the reader closed it. -/
  accepting : Bool

namespace Inbox

def empty {ν : Type} : Inbox ν := ⟨[], true⟩

def post {ν : Type} (inbox : Inbox ν) (item : Except Error ν) : Inbox ν :=
  if inbox.accepting then { inbox with items := inbox.items ++ [item] } else inbox

end Inbox

/-- Inboxes are numbered by subscriber, in the order of acquisition. -/
structure Registry (ν : Type) where
  records : List Record
  inboxes : List (Inbox ν)
  nextGeneration : Nat
  online : Bool

structure Acquired where
  ticket : Ticket
  /-- Nobody held the channel before. -/
  first : Bool
deriving DecidableEq, Repr

inductive Release where
  /-- Others still hold the channel. -/
  | retained
  /-- The last subscriber is gone and an unsubscribe is owed. -/
  | unsubscribe
  /-- The last subscriber is gone and so is the record. -/
  | removed
  /-- The ticket held no place. -/
  | stale
deriving DecidableEq, Repr

inductive Dispatch where
  | delivered (count : Nat)
  | noSubscribers
deriving DecidableEq, Repr

/-- The keys for which a wire request is owed, each list in acquisition order. -/
structure Due where
  subscribe : List ChannelKey
  unsubscribe : List ChannelKey
deriving DecidableEq, Repr

def Due.isEmpty (due : Due) : Bool := due.subscribe.isEmpty && due.unsubscribe.isEmpty

namespace Registry

variable {ν : Type}

def empty : Registry ν := ⟨[], [], 0, false⟩

def find? (r : Registry ν) (key : ChannelKey) : Option Record :=
  r.records.find? (fun record => record.key = key)

def update (r : Registry ν) (key : ChannelKey) (f : Record → Record) : Registry ν :=
  { r with records := r.records.map (fun record => if record.key = key then f record else record) }

def remove (r : Registry ν) (key : ChannelKey) : Registry ν :=
  { r with records := r.records.filter (fun record => record.key ≠ key) }

def state? (r : Registry ν) (key : ChannelKey) : Option SubscriptionState :=
  (r.find? key).map Record.state

def subscriberCount (r : Registry ν) (key : ChannelKey) : Nat :=
  ((r.find? key).map (fun record => record.subscribers.length)).getD 0

def size (r : Registry ν) : Nat := r.records.length

/-- Puts a record where its generation belongs: a new round goes last, any other keeps its place. -/
def place (r : Registry ν) (record : Record) : Registry ν :=
  if record.generation = r.nextGeneration then
    { r with records := (r.remove record.key).records ++ [record] }
  else r.update record.key (fun _ => record)

/-- Adds a subscriber to a channel, with an inbox of its own. -/
def acquire (r : Registry ν) (key : ChannelKey) (request : ChannelRequest) :
    Acquired × Registry ν :=
  let subscriber := r.inboxes.length
  let record := match r.find? key with
    | none => Record.opened key request r.nextGeneration
    | some old => old.reopened request r.nextGeneration
  let joined := { record with subscribers := record.subscribers ++ [subscriber] }
  let placed := r.place joined
  (⟨⟨record.generation, subscriber⟩, record.subscribers.isEmpty⟩,
    { placed with
      inboxes := r.inboxes ++ [Inbox.empty]
      nextGeneration := r.nextGeneration + 1 })

/-- Gives up a place. A ticket that holds none changes nothing. -/
def release (r : Registry ν) (key : ChannelKey) (ticket : Ticket) : Release × Registry ν :=
  match r.find? key with
  | none => (.stale, r)
  | some record =>
    if record.generation ≠ ticket.generation ∨ ticket.subscriber ∉ record.subscribers then
      (.stale, r)
    else
      let left := record.subscribers.filter (fun s => s ≠ ticket.subscriber)
      if left ≠ [] then
        (.retained, r.update key (fun record => { record with subscribers := left }))
      else if r.online && record.liveOnWire then
        (.unsubscribe, r.update key (fun record =>
          { record with subscribers := [], resumeState := record.state, state := .unsubscribing }))
      else (.removed, r.remove key)

/-- The exchange confirmed a subscribe. The result says whether the record became active by it. -/
def activate (r : Registry ν) (key : ChannelKey) : Bool × Registry ν :=
  match r.find? key with
  | none => (false, r)
  | some record =>
    match record.state with
    | .pending =>
      (true, r.update key (fun record => { record with subscribeSent := false, state := .active }))
    | .unsubscribing =>
      (false, r.update key (fun record =>
        { record with subscribeSent := false, resumeState := .active }))
    | .active => (false, r.update key (fun record => { record with subscribeSent := false }))

/-- Puts an item into the inboxes of the given subscribers and counts those that took it. -/
def post (r : Registry ν) (subscribers : List Nat) (item : Except Error ν) : Nat × Registry ν :=
  ((subscribers.filter (fun s => (r.inboxes[s]?).any Inbox.accepting)).length,
    { r with
      inboxes := r.inboxes.mapIdx (fun s inbox =>
        if s ∈ subscribers then inbox.post item else inbox) })

/-- The channel failed: every subscriber gets the error and the record is gone. -/
def fail (r : Registry ν) (key : ChannelKey) (error : Error) : Nat × Registry ν :=
  match r.find? key with
  | none => (0, r)
  | some record => (r.remove key).post record.subscribers (.error error)

/-- The exchange confirmed an unsubscribe. The record stays if it was joined again meanwhile. -/
def unsubscribeAcked (r : Registry ν) (key : ChannelKey) : Bool × Registry ν :=
  match r.find? key with
  | none => (false, r)
  | some record =>
    if record.unsubscribeSent.isNone then (false, r)
    else if record.subscribers.isEmpty then (true, r.remove key)
    else (true, r.update key (fun record => { record with unsubscribeSent := none }))

/-- Drops a record that nobody holds. -/
def forget (r : Registry ν) (key : ChannelKey) : Bool × Registry ν :=
  match r.find? key with
  | none => (false, r)
  | some record => if record.subscribers.isEmpty then (true, r.remove key) else (false, r)

/-- Every wanted channel with its request, in acquisition order. -/
def wanted (r : Registry ν) : List (ChannelKey × ChannelRequest) :=
  (r.records.filter (fun record =>
    !record.subscribers.isEmpty && record.state ≠ .unsubscribing)).map
      (fun record => (record.key, record.request))

/-- What has to be written now. Nothing is owed while offline. -/
def due (r : Registry ν) : Due :=
  if r.online then
    { subscribe := (r.records.filter (fun record =>
        record.state = .pending && !record.subscribers.isEmpty && !record.subscribeSent)).map
          Record.key
      unsubscribe := (r.records.filter (fun record =>
        record.state = .unsubscribing && record.subscribers.isEmpty
          && record.unsubscribeSent.isNone)).map Record.key }
  else ⟨[], []⟩

/-- Claims the right to write a subscribe. Only one claim is open at a time. -/
def beginSubscribe (r : Registry ν) (key : ChannelKey) : Option ChannelRequest × Registry ν :=
  if !r.online then (none, r)
  else match r.find? key with
    | none => (none, r)
    | some record =>
      if record.state ≠ .pending ∨ record.subscribeSent ∨ record.subscribers = [] then (none, r)
      else
        (some record.request, r.update key (fun record => { record with subscribeSent := true }))

/-- Claims the right to write an unsubscribe. Offline nothing is written and the record goes. -/
def beginUnsubscribe (r : Registry ν) (key : ChannelKey) (now : Nat) :
    Option ChannelRequest × Registry ν :=
  match r.find? key with
  | none => (none, r)
  | some record =>
    if record.state ≠ .unsubscribing ∨ record.subscribers ≠ [] ∨ record.unsubscribeSent.isSome then
      (none, r)
    else if !r.online then (none, r.remove key)
    else
      (some record.request,
        r.update key (fun record => { record with unsubscribeSent := some now }))

/-- What is left of a record once the connection is lost. -/
def afterLoss (record : Record) : Option Record :=
  let cleared := { record with subscribeSent := false, unsubscribeSent := none }
  match record.state with
  | .unsubscribing => none
  | .active => some { cleared with state := .pending }
  | .pending => some cleared

/-- Marks the connection up, after login, or down. Going down forgets everything outstanding. -/
def setOnline (r : Registry ν) (online : Bool) : Registry ν :=
  if online then { r with online := true }
  else { r with online := false, records := r.records.filterMap afterLoss }

/-- An unsubscribe has gone unanswered for `timeout`. -/
def isOverdue (now timeout : Nat) (record : Record) : Bool :=
  record.unsubscribeSent.any (fun sent => timeout ≤ now - sent)

/-- Gives up waiting for overdue unsubscribes; counts the records that go with it. -/
def expire (r : Registry ν) (now timeout : Nat) : Nat × Registry ν :=
  let kept := r.records.filterMap (fun record =>
    if isOverdue now timeout record then
      if record.subscribers.isEmpty then none
      else some { record with unsubscribeSent := none }
    else some record)
  (r.records.length - kept.length, { r with records := kept })

/-- Hands a payload to every subscriber of a channel. A payload for a pending channel confirms it;
a channel being unsubscribed takes nothing. -/
def dispatch (r : Registry ν) (key : ChannelKey) (payload : ν) : Dispatch × Registry ν :=
  match r.find? key with
  | none => (.noSubscribers, r)
  | some record =>
    if record.subscribers = [] ∨ record.state = .unsubscribing then (.noSubscribers, r)
    else
      let confirmed :=
        if record.state = .pending then
          r.update key (fun record => { record with state := .active, subscribeSent := false })
        else r
      let (count, posted) := confirmed.post record.subscribers (.ok payload)
      (.delivered count, posted)

/-- Takes everything a subscriber has not read. -/
def receive (r : Registry ν) (subscriber : Nat) : List (Except Error ν) × Registry ν :=
  (((r.inboxes[subscriber]?).map Inbox.items).getD [],
    { r with inboxes := r.inboxes.modify subscriber (fun inbox => { inbox with items := [] }) })

/-- Stops a reader's inbox from taking more, without giving up its place. -/
def closeInbox (r : Registry ν) (subscriber : Nat) : Registry ν :=
  { r with
    inboxes := r.inboxes.modify subscriber (fun inbox => { inbox with accepting := false }) }

def isAccepting (r : Registry ν) (subscriber : Nat) : Bool :=
  (r.inboxes[subscriber]?).any Inbox.accepting

/-- Some record will still send to this subscriber. -/
def isLinked (r : Registry ν) (subscriber : Nat) : Bool :=
  r.records.any (fun record => record.subscribers.contains subscriber)

end Registry

end ChannelMux
