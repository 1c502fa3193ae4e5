import ChannelMux.Proofs.Registry.Listing
import ChannelMux.Proofs.Registry.Mirroring

/-!
Channels do not disturb each other. Whoever calls on a registry holds its tickets as handles; one
who looks at a single channel through them cannot tell whether the registry was ever called about
another one.
-/
namespace ChannelMux

namespace Registry

variable {ν : Type} {r full own : Registry ν} {φ : Nat → Nat} {key : ChannelKey} {s : Nat}

theorem Mirrors.editInbox (h : Mirrors key φ full own) (hs : s < own.inboxes.length)
    (edit : Inbox ν → Inbox ν) :
    Mirrors key φ (full.editInbox (φ s) edit) (own.editInbox s edit) := by
  refine ⟨⟨h.consistent.1.editInbox _ _, h.consistent.2.editInbox _ _⟩, ?_, ?_, h.online, h.slot,
    ?_, ?_⟩
  · rw [length_editInbox, length_editInbox]
    exact h.numbered
  · rw [length_editInbox]
    exact h.injective
  · intro m hm
    rw [length_editInbox] at hm
    rw [getElem?_editInbox, getElem?_editInbox, h.inboxes m hm]
    simp only [h.injective.eq_iff hs hm]
  · rw [length_editInbox]
    exact h.apart

theorem Mirrors.editInbox_other (h : Mirrors key φ full own)
    (hfree : ∀ m < own.inboxes.length, s ≠ φ m) (edit : Inbox ν → Inbox ν) :
    Mirrors key φ (full.editInbox s edit) own := by
  refine ⟨⟨h.consistent.1.editInbox _ _, h.consistent.2⟩, ?_, h.injective, h.online, h.slot, ?_,
    h.apart⟩
  · rw [length_editInbox]
    exact h.numbered
  · intro m hm
    rw [getElem?_editInbox, ← h.inboxes m hm]
    simp only [if_neg (hfree m hm), Option.map_id']

theorem Mirrors.receive (h : Mirrors key φ full own) (hs : s < own.inboxes.length) :
    (full.receive (φ s)).1 = (own.receive s).1 := by
  simp only [Registry.receive, h.inboxes s hs]

end Registry

/-- A registry with every ticket that it gave out, in order, and its channel. The tickets of a
channel are known by their numbers among these. -/
structure Desk (ν : Type) where
  registry : Registry ν
  given : List (ChannelKey × Ticket)

namespace Desk

open Registry

variable {ν : Type}

def opened : Desk ν := ⟨.empty, []⟩

/-- The tickets that were given out on a channel. -/
def handles (d : Desk ν) (key : ChannelKey) : List Ticket :=
  (d.given.filter (fun pair => pair.1 = key)).map Prod.snd

inductive Call (ν : Type) where
  | acquire (key : ChannelKey) (request : ChannelRequest)
  /-- Gives up a handle, on its own channel. -/
  | release (key : ChannelKey) (handle : Nat)
  /-- Takes what the handle has not read. -/
  | read (key : ChannelKey) (handle : Nat)
  /-- Nothing will be read through the handle any more. -/
  | close (key : ChannelKey) (handle : Nat)
  | other (operation : Operation ν)
      (plain : operation.isAcquisition = false ∧ operation.isRelease = false)

/-- The channel that a call names. -/
def Call.key? : Call ν → Option ChannelKey
  | .acquire key _ | .release key _ | .read key _ | .close key _ => some key
  | .other operation _ => operation.key?

/-- A call names this channel, or none at all. -/
def Call.concerns (key : ChannelKey) (call : Call ν) : Bool := call.key?.all (· = key)

inductive Reply (ν : Type) where
  | acquired (handle : Nat) (first : Bool)
  | answered (answer : Answer)
  | took (items : List (Except Error ν))
  | closed
  /-- No such handle was given out. -/
  | unknown

/-- Does something with the ticket of a handle. -/
def present (d : Desk ν) (key : ChannelKey) (handle : Nat)
    (use : Ticket → Reply ν × Registry ν) : Reply ν × Desk ν :=
  match (d.handles key)[handle]? with
  | none => (.unknown, d)
  | some ticket => (use ticket).map id (⟨·, d.given⟩)

def serve (d : Desk ν) : Call ν → Reply ν × Desk ν
  | .acquire key request =>
    let (acquired, registry) := d.registry.acquire key request
    (.acquired (d.handles key).length acquired.first,
      ⟨registry, d.given ++ [(key, acquired.ticket)]⟩)
  | .release key handle => d.present key handle fun ticket =>
    (d.registry.perform (.release key ticket)).map .answered id
  | .read key handle => d.present key handle fun ticket =>
    (d.registry.receive ticket.subscriber).map .took id
  | .close key handle => d.present key handle fun ticket =>
    (.closed, d.registry.closeInbox ticket.subscriber)
  | .other operation _ => (d.registry.perform operation).map .answered (⟨·, d.given⟩)

/-- The calls with their replies, and the desk after them. -/
def run (d : Desk ν) : List (Call ν) → List (Call ν × Reply ν) × Desk ν
  | [] => ([], d)
  | call :: rest =>
    let (reply, d) := d.serve call
    let (log, d) := run d rest
    ((call, reply) :: log, d)

/-- What there is of a channel, its holders by the numbers of their handles. -/
structure Look where
  state : SubscriptionState
  request : ChannelRequest
  holders : List Nat
  subscribeSent : Bool
  unsubscribeSent : Option Nat
  resumeState : SubscriptionState
deriving DecidableEq, Repr

def look (d : Desk ν) (key : ChannelKey) : Option Look :=
  (d.registry.find? key).map fun record =>
    { state := record.state
      request := record.request
      holders := record.tickets.map (fun ticket => (d.handles key).idxOf ticket)
      subscribeSent := record.subscribeSent
      unsubscribeSent := record.unsubscribeSent
      resumeState := record.resumeState }

/-- What every handle of a channel has received and not read. -/
def received (d : Desk ν) (key : ChannelKey) : List (List (Except Error ν)) :=
  (d.handles key).map (fun ticket => (d.registry.receive ticket.subscriber).1)

/-- What `full` has of `key` is what `own` has of it under other numbers. -/
structure Mirrors (key : ChannelKey) (φ : Nat → Nat) (full own : Desk ν) : Prop where
  registry : Registry.Mirrors key φ full.registry own.registry
  handles : full.handles key = (own.handles key).map (Ticket.rename φ)
  below : ∀ ticket ∈ own.handles key, ticket.Below own.registry.inboxes.length
  /-- Every place is held by a handle. -/
  held : ∀ ticket ∈ own.registry.tickets key, ticket ∈ own.handles key
  known : ∀ k, ∀ ticket ∈ full.handles k, ticket.subscriber < full.registry.inboxes.length
  /-- Handles of other channels read other inboxes. -/
  apart : ∀ k, k ≠ key → ∀ ticket ∈ full.handles k, ∀ s < own.registry.inboxes.length,
    ticket.subscriber ≠ φ s

variable {key : ChannelKey} {φ ψ : Nat → Nat} {full own : Desk ν}

theorem mirrors_opened (key : ChannelKey) (φ : Nat → Nat) :
    Mirrors key φ (opened : Desk ν) opened := by
  refine ⟨mirrors_empty key φ, rfl, ?_, ?_, ?_, ?_⟩
  · intro ticket hmem
    cases hmem
  · intro ticket hmem
    cases hmem
  · intro k ticket hmem
    cases hmem
  · intro k _ ticket hmem
    cases hmem

theorem handles_append (d : Desk ν) (registry : Registry ν) (k : ChannelKey) (ticket : Ticket) :
    handles ⟨registry, d.given ++ [(k, ticket)]⟩ key =
      if k = key then d.handles key ++ [ticket] else d.handles key := by
  simp only [handles, List.filter_append, List.map_append]
  by_cases hk : k = key
  · simp [hk]
  · simp [hk]

theorem Mirrors.handles_congr (h : Mirrors key φ full own)
    (hsame : ∀ s < own.registry.inboxes.length, φ s = ψ s) :
    full.handles key = (own.handles key).map (Ticket.rename ψ) := by
  rw [h.handles]
  refine List.map_congr_left fun ticket hmem => ?_
  have hticket := h.below ticket hmem
  rw [Ticket.rename, Ticket.rename, hsame _ hticket.1, hsame _ hticket.2]

/-- A call that gives out no ticket leaves the handles as they are. -/
theorem Mirrors.withRegistry (h : Mirrors key φ full own) {full' own' : Registry ν}
    (hnext : Registry.Mirrors key ψ full' own')
    (hsame : ∀ s < own.registry.inboxes.length, φ s = ψ s)
    (hfull : full'.inboxes.length = full.registry.inboxes.length)
    (hown : own'.inboxes.length = own.registry.inboxes.length)
    (hheld : ∀ ticket ∈ own'.tickets key, ticket ∈ own.registry.tickets key) :
    Mirrors key ψ ⟨full', full.given⟩ ⟨own', own.given⟩ := by
  refine ⟨hnext, h.handles_congr hsame, ?_, fun ticket hmem => h.held ticket (hheld ticket hmem),
    ?_, ?_⟩
  · rw [hown]
    exact h.below
  · rw [hfull]
    exact h.known
  · intro k hk ticket hmem s hs
    rw [hown] at hs
    rw [← hsame s hs]
    exact h.apart k hk ticket hmem s hs

theorem held_perform {r : Registry ν} (h : r.Consistent) {operation : Operation ν}
    (hplain : operation.isAcquisition = false) :
    ∀ ticket ∈ (r.perform operation).2.tickets key, ticket ∈ r.tickets key := by
  intro ticket hmem
  rcases (h.mem_tickets_perform operation).mp hmem with ⟨hold, -⟩ | hgiven
  · exact hold
  · cases operation with
    | acquire k request => cases hplain
    | _ => cases hgiven

theorem length_perform (r : Registry ν) {operation : Operation ν}
    (hplain : operation.isAcquisition = false) :
    (r.perform operation).2.inboxes.length = r.inboxes.length := by
  rw [length_inboxes_perform]
  cases operation with
  | acquire k request => cases hplain
  | _ => rfl

theorem isAcquisition_rename (φ : Nat → Nat) (operation : Operation ν) :
    (operation.rename φ).isAcquisition = operation.isAcquisition := by
  cases operation <;> rfl

/-- A call that both see, and by which nobody joins. -/
theorem Mirrors.perform (h : Mirrors key φ full own) (operation : Operation ν)
    (hplain : operation.isAcquisition = false)
    (hown : ∀ k, operation.key? = some k → k = key)
    (hbelow : operation.Below own.registry.inboxes.length) :
    Mirrors key (numberNext φ full.registry own.registry)
      ⟨(full.registry.perform (operation.rename φ)).2, full.given⟩
      ⟨(own.registry.perform operation).2, own.given⟩ := by
  refine h.withRegistry (h.registry.perform operation hown hbelow)
    (fun s hs => (numberNext_of_lt φ _ hs).symm) ?_ (length_perform _ hplain)
    (held_perform h.registry.consistent.2 hplain)
  refine length_perform _ ?_
  rw [isAcquisition_rename]
  exact hplain

theorem Mirrors.perform_other (h : Mirrors key φ full own) (operation : Operation ν)
    (hplain : operation.isAcquisition = false) {k : ChannelKey} (hk : operation.key? = some k)
    (hother : k ≠ key) :
    Mirrors key φ ⟨(full.registry.perform operation).2, full.given⟩ own :=
  h.withRegistry (h.registry.perform_other operation hk hother) (fun _ _ => rfl)
    (length_perform _ hplain) rfl fun _ hmem => hmem

/-- An acquisition gives out the ticket numbered next. -/
theorem mem_handles_acquire {d : Desk ν} {k : ChannelKey} {request : ChannelRequest}
    {ticket : Ticket} : ticket ∈ (d.serve (.acquire k request)).2.handles key ↔
      ticket ∈ d.handles key ∨ k = key ∧ ticket = (d.registry.acquire k request).1.ticket := by
  simp only [serve, handles_append]
  by_cases hk : k = key
  · simp [hk]
  · simp [hk]

theorem length_acquire (d : Desk ν) (k : ChannelKey) (request : ChannelRequest) :
    (d.serve (.acquire k request)).2.registry.inboxes.length = d.registry.inboxes.length + 1 :=
  length_inboxes_perform d.registry (.acquire k request)

theorem known_acquire {d : Desk ν} {k : ChannelKey} {request : ChannelRequest}
    (hknown : ∀ ticket ∈ d.handles key, ticket.subscriber < d.registry.inboxes.length) :
    ∀ ticket ∈ (d.serve (.acquire k request)).2.handles key,
      ticket.subscriber < (d.serve (.acquire k request)).2.registry.inboxes.length := by
  intro ticket hmem
  rw [length_acquire]
  rcases mem_handles_acquire.mp hmem with hold | ⟨-, rfl⟩
  · exact Nat.lt_succ_of_lt (hknown ticket hold)
  · exact Nat.lt_succ_self _

theorem Mirrors.acquire_other (h : Mirrors key φ full own) {k : ChannelKey} (hother : k ≠ key)
    (request : ChannelRequest) : Mirrors key φ (full.serve (.acquire k request)).2 own := by
  have hnext := h.registry.perform_other (.acquire k request) rfl hother
  refine ⟨hnext, ?_, h.below, h.held, fun k' => known_acquire (h.known k'), ?_⟩
  · rw [← h.handles]
    simp only [serve, handles_append, if_neg hother]
  · intro k' hk' ticket hmem s hs
    rcases mem_handles_acquire.mp hmem with hold | ⟨-, rfl⟩
    · exact h.apart k' hk' ticket hold s hs
    · exact Nat.ne_of_gt (h.registry.known hs)

theorem Mirrors.acquire (h : Mirrors key φ full own) (request : ChannelRequest) :
    Mirrors key (numberNext φ full.registry own.registry)
      (full.serve (.acquire key request)).2 (own.serve (.acquire key request)).2 := by
  have hnext := h.registry.perform (.acquire key request) (fun k hk => (Option.some.inj hk).symm)
    trivial
  have htickets := h.registry.consistent.2.tickets_acquire key key request
  rw [if_pos rfl] at htickets
  refine ⟨hnext, ?_, ?_, ?_, fun k => known_acquire (h.known k), ?_⟩
  · simp only [serve, handles_append, if_pos]
    rw [h.handles_congr fun s hs => (numberNext_of_lt φ _ hs).symm, List.map_append,
      h.registry.ticket_acquire]
    rfl
  · intro ticket hmem
    rcases mem_handles_acquire.mp hmem with hold | ⟨-, rfl⟩
    · have hticket := h.below ticket hold
      rw [length_acquire]
      exact ⟨Nat.lt_succ_of_lt hticket.1, Nat.lt_succ_of_lt hticket.2⟩
    · exact hnext.ticket_below (htickets ▸ List.mem_append_right _ (List.mem_singleton_self _))
  · intro ticket hmem
    rw [mem_handles_acquire]
    change ticket ∈ (own.registry.acquire key request).2.tickets key at hmem
    rw [htickets, List.mem_append, List.mem_singleton] at hmem
    exact hmem.imp (h.held ticket) fun hnew => ⟨rfl, hnew⟩
  · intro k hk ticket hmem s hs
    have hold := (mem_handles_acquire.mp hmem).resolve_right fun hnew => hk hnew.1.symm
    rw [length_acquire] at hs
    rcases Nat.lt_succ_iff_lt_or_eq.mp hs with hs | rfl
    · rw [numberNext_of_lt φ _ hs]
      exact h.apart k hk ticket hold s hs
    · rw [numberNext_self]
      exact Nat.ne_of_lt (h.known k ticket hold)

/-- A handle that both have is used on both. -/
theorem Mirrors.present (h : Mirrors key φ full own) (handle : Nat)
    {use use' : Ticket → Reply ν × Registry ν}
    (hnext : ∀ ticket ∈ own.handles key, (use' (ticket.rename φ)).1 = (use ticket).1 ∧
      ∃ ψ, Mirrors key ψ ⟨(use' (ticket.rename φ)).2, full.given⟩
        ⟨(use ticket).2, own.given⟩) :
    (full.present key handle use').1 = (own.present key handle use).1 ∧
      ∃ ψ, Mirrors key ψ (full.present key handle use').2 (own.present key handle use).2 := by
  unfold Desk.present
  rw [h.handles, List.getElem?_map]
  cases hticket : (own.handles key)[handle]? with
  | none => exact ⟨rfl, φ, h⟩
  | some ticket => exact hnext ticket (List.mem_of_getElem? hticket)

/-- A handle of another channel is used on one of them only. -/
theorem Mirrors.present_other (h : Mirrors key φ full own) (k : ChannelKey) (handle : Nat)
    {use : Ticket → Reply ν × Registry ν}
    (hnext : ∀ ticket ∈ full.handles k, Mirrors key φ ⟨(use ticket).2, full.given⟩ own) :
    Mirrors key φ (full.present k handle use).2 own := by
  unfold Desk.present
  cases hticket : (full.handles k)[handle]? with
  | none => exact h
  | some ticket => exact hnext ticket (List.mem_of_getElem? hticket)

theorem Mirrors.editInbox (h : Mirrors key φ full own) {s : Nat}
    (hs : s < own.registry.inboxes.length) (edit : Inbox ν → Inbox ν) :
    Mirrors key φ ⟨full.registry.editInbox (φ s) edit, full.given⟩
      ⟨own.registry.editInbox s edit, own.given⟩ :=
  h.withRegistry (h.registry.editInbox hs edit) (fun _ _ => rfl) (length_editInbox _ _ _)
    (length_editInbox _ _ _) fun _ hmem => hmem

theorem Mirrors.editInbox_other (h : Mirrors key φ full own) {k : ChannelKey} (hother : k ≠ key)
    {ticket : Ticket} (hmem : ticket ∈ full.handles k) (edit : Inbox ν → Inbox ν) :
    Mirrors key φ ⟨full.registry.editInbox ticket.subscriber edit, full.given⟩ own :=
  h.withRegistry (h.registry.editInbox_other (h.apart k hother ticket hmem) edit)
    (fun _ _ => rfl) (length_editInbox _ _ _) rfl fun _ hlive => hlive

/-- A call on another channel. -/
theorem Mirrors.serve_other (h : Mirrors key φ full own) {call : Call ν} {k : ChannelKey}
    (hk : call.key? = some k) (hother : k ≠ key) : Mirrors key φ (full.serve call).2 own := by
  cases call with
  | acquire k' request =>
    cases hk
    exact h.acquire_other hother request
  | release k' handle =>
    cases hk
    exact h.present_other k handle fun ticket _ =>
      h.perform_other (.release k ticket) rfl rfl hother
  | read k' handle =>
    cases hk
    exact h.present_other k handle fun ticket hmem => h.editInbox_other hother hmem _
  | close k' handle =>
    cases hk
    exact h.present_other k handle fun ticket hmem => h.editInbox_other hother hmem _
  | other operation plain => exact h.perform_other operation plain.1 hk hother

/-- A call that both see. They answer alike if it is about the channel. -/
theorem Mirrors.serve (h : Mirrors key φ full own) {call : Call ν}
    (hown : ∀ k, call.key? = some k → k = key) :
    (call.key? = some key → (full.serve call).1 = (own.serve call).1) ∧
      ∃ ψ, Mirrors key ψ (full.serve call).2 (own.serve call).2 := by
  cases call with
  | acquire k request =>
    obtain rfl := hown k rfl
    refine ⟨fun _ => ?_, _, h.acquire request⟩
    simp only [Desk.serve, h.registry.first_acquire, h.handles, List.length_map]
  | release k handle =>
    obtain rfl := hown k rfl
    refine And.imp_left (fun hreply _ => hreply) (h.present handle fun ticket hmem => ?_)
    have hticket := h.below ticket hmem
    have hanswer := h.registry.answer (.release k ticket) rfl hticket (by simp)
    exact ⟨congrArg Reply.answered hanswer, _, h.perform (.release k ticket) rfl hown hticket⟩
  | read k handle =>
    obtain rfl := hown k rfl
    refine And.imp_left (fun hreply _ => hreply) (h.present handle fun ticket hmem => ?_)
    have hticket := h.below ticket hmem
    exact ⟨congrArg Reply.took (h.registry.receive hticket.2), φ, h.editInbox hticket.2 _⟩
  | close k handle =>
    obtain rfl := hown k rfl
    refine And.imp_left (fun hreply _ => hreply) (h.present handle fun ticket hmem => ?_)
    exact ⟨rfl, φ, h.editInbox (h.below ticket hmem).2 _⟩
  | other operation plain =>
    -- no ticket is in such a call
    have hsame : operation.rename φ = operation := by
      cases operation with
      | release k ticket => cases plain.2
      | _ => rfl
    have hbelow : operation.Below own.registry.inboxes.length := by
      cases operation with
      | release k ticket => cases plain.2
      | _ => trivial
    have hnext := h.perform operation plain.1 hown hbelow
    have hanswer : operation.key? = some key →
        (full.registry.perform operation).1 = (own.registry.perform operation).1 := by
      intro hk
      have hrenamed := h.registry.answer operation hk hbelow (by rintro request rfl; cases plain.1)
      rwa [hsame] at hrenamed
    rw [hsame] at hnext
    exact ⟨fun hk => congrArg Reply.answered (hanswer hk), _, hnext⟩

theorem idxOf_map {α β : Type} [DecidableEq α] [DecidableEq β] {f : α → β} {l : List α} {a : α}
    (hf : ∀ b ∈ l, f b = f a → b = a) : (l.map f).idxOf (f a) = l.idxOf a := by
  induction l with
  | nil => rfl
  | cons b rest ih =>
    have hrest := ih fun c hc => hf c (List.mem_cons_of_mem b hc)
    by_cases hb : b = a
    · rw [List.map_cons, hb, List.idxOf_cons_self, List.idxOf_cons_self]
    · have hne : f b ≠ f a := fun hsame => hb (hf b List.mem_cons_self hsame)
      rw [List.map_cons, List.idxOf_cons_ne _ hne, List.idxOf_cons_ne _ hb, hrest]

theorem Mirrors.idxOf (h : Mirrors key φ full own) {ticket : Ticket}
    (hlive : ticket ∈ own.registry.tickets key) :
    (full.handles key).idxOf (ticket.rename φ) = (own.handles key).idxOf ticket := by
  rw [h.handles]
  refine idxOf_map fun other hother hsame => ?_
  have hbelow := h.below ticket (h.held ticket hlive)
  have hbelow' := h.below other hother
  obtain ⟨hgeneration, hsubscriber⟩ := Ticket.mk.inj hsame
  obtain ⟨generation, subscriber⟩ := ticket
  obtain ⟨generation', subscriber'⟩ := other
  rw [Ticket.mk.injEq]
  exact ⟨h.registry.injective hbelow'.1 hbelow.1 hgeneration,
    h.registry.injective hbelow'.2 hbelow.2 hsubscriber⟩

theorem Mirrors.look (h : Mirrors key φ full own) : full.look key = own.look key := by
  rw [Desk.look, h.registry.slot, Option.map_map, Desk.look]
  refine Option.map_congr fun record hrecord => ?_
  have hholders : (record.rename φ).tickets.map (fun ticket => (full.handles key).idxOf ticket) =
      record.tickets.map (fun ticket => (own.handles key).idxOf ticket) := by
    rw [record.tickets_rename, List.map_map]
    refine List.map_congr_left fun ticket hmem => h.idxOf ?_
    rw [tickets_of_find? hrecord]
    exact hmem
  rw [Function.comp_apply, hholders]
  rfl

theorem Mirrors.received (h : Mirrors key φ full own) :
    full.received key = own.received key := by
  rw [Desk.received, h.handles, List.map_map, Desk.received]
  exact List.map_congr_left fun ticket hmem => h.registry.receive (h.below ticket hmem).2

theorem Mirrors.held_full (h : Mirrors key φ full own) :
    ∀ ticket ∈ full.registry.tickets key, ticket ∈ full.handles key := by
  intro ticket hlive
  rw [h.registry.tickets] at hlive
  obtain ⟨other, hother, rfl⟩ := List.mem_map.mp hlive
  rw [h.handles]
  exact List.mem_map_of_mem (h.held other hother)

/-- The calls on a channel in a log, with their replies. -/
def about (key : ChannelKey) (log : List (Call ν × Reply ν)) : List (Call ν × Reply ν) :=
  log.filter (fun entry => entry.1.key? = some key)

/-- By induction on the calls, each of which goes to both desks or to `full` alone. -/
theorem Mirrors.run (h : Mirrors key φ full own) (calls : List (Call ν)) :
    about key (full.run calls).1 = about key (own.run (calls.filter (Call.concerns key))).1 ∧
      ∃ ψ, Mirrors key ψ (full.run calls).2 (own.run (calls.filter (Call.concerns key))).2 := by
  induction calls generalizing φ full own with
  | nil => exact ⟨rfl, φ, h⟩
  | cons call rest ih =>
    by_cases hconcerns : call.concerns key = true
    · have hown : ∀ k, call.key? = some k → k = key := by
        intro k hk
        rw [Call.concerns, hk] at hconcerns
        simpa using hconcerns
      obtain ⟨hreply, ψ, hnext⟩ := h.serve hown
      obtain ⟨hlog, hrest⟩ := ih hnext
      rw [List.filter_cons_of_pos hconcerns]
      refine ⟨?_, hrest⟩
      simp only [Desk.run, about, List.filter_cons]
      by_cases hk : call.key? = some key
      · simp only [hk, decide_true, if_true, hreply hk]
        exact congrArg _ hlog
      · simp only [hk, decide_false, Bool.false_eq_true, if_false]
        exact hlog
    · obtain ⟨k, hk, hother⟩ : ∃ k, call.key? = some k ∧ k ≠ key := by
        cases hk : call.key? with
        | none => simp [Call.concerns, hk] at hconcerns
        | some k => exact ⟨k, rfl, by simpa [Call.concerns, hk] using hconcerns⟩
      obtain ⟨hlog, hrest⟩ := ih (h.serve_other hk hother)
      rw [List.filter_cons_of_neg hconcerns]
      refine ⟨?_, hrest⟩
      have hskip : call.key? ≠ some key := by
        rw [hk]
        exact fun hsame => hother (Option.some.inj hsame)
      simp only [Desk.run, about, List.filter_cons, hskip, decide_false, Bool.false_eq_true,
        if_false]
      exact hlog

/-- Leave out every call on another channel, and every call that is left gets the reply that it
got; in the end the channel has the same record, the same handles hold it, and each of them has
received the same. -/
theorem isolated (key : ChannelKey) (calls : List (Call ν)) :
    let full := (opened : Desk ν).run calls
    let own := (opened : Desk ν).run (calls.filter (Call.concerns key))
    about key full.1 = about key own.1 ∧
      full.2.look key = own.2.look key ∧
      (∀ ticket ∈ full.2.registry.tickets key, ticket ∈ full.2.handles key) ∧
      full.2.received key = own.2.received key ∧
      full.2.registry.online = own.2.registry.online := by
  intro full own
  obtain ⟨hlog, ψ, h⟩ := (mirrors_opened key id).run calls
  exact ⟨hlog, h.look, h.held_full, h.received, h.registry.online⟩

end Desk

end ChannelMux
