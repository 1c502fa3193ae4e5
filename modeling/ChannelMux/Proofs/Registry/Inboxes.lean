import ChannelMux.Proofs.Registry.Counting

/-!
What reaches a subscriber. A call posts to the holders of one channel's places and to nobody else,
and a place that was lost is never given to its subscriber again.
-/
namespace ChannelMux.Registry

variable {ν : Type} {r : Registry ν} {key : ChannelKey} {ticket : Ticket}

theorem mem_subscribers_iff {record : Record} (hfind : r.find? key = some record) {s : Nat} :
    s ∈ record.subscribers ↔ ∃ held ∈ r.tickets key, held.subscriber = s := by
  rw [tickets_of_find? hfind]
  simp [Record.tickets]

theorem Consistent.subscriber_lt (h : r.Consistent) (hlive : ticket ∈ r.tickets key) :
    ticket.subscriber < r.inboxes.length := by
  obtain ⟨record, hfind, -, hmem⟩ := mem_tickets.mp hlive
  exact h.numbered.known record (mem_of_find? hfind) _ hmem

/-- A subscriber holds one place, on one channel. -/
theorem Consistent.ticket_unique (h : r.Consistent) {other : ChannelKey} {held : Ticket}
    (hlive : ticket ∈ r.tickets key) (hheld : held ∈ r.tickets other)
    (hsame : held.subscriber = ticket.subscriber) : other = key ∧ held = ticket := by
  obtain ⟨record, hfind, hgeneration, hmem⟩ := mem_tickets.mp hlive
  obtain ⟨record', hfind', hgeneration', hmem'⟩ := mem_tickets.mp hheld
  rw [hsame] at hmem'
  have hkeys := h.numbered.apart record (mem_of_find? hfind) record' (mem_of_find? hfind') _ hmem
    hmem'
  rw [key_of_find? hfind, key_of_find? hfind'] at hkeys
  subst hkeys
  rw [hfind] at hfind'
  cases hfind'
  obtain ⟨generation, subscriber⟩ := ticket
  obtain ⟨generation', subscriber'⟩ := held
  simp only at hgeneration hgeneration' hsame
  rw [← hgeneration, ← hgeneration', hsame]
  exact ⟨rfl, rfl⟩

theorem Consistent.isLinked_iff (h : r.Consistent) (s : Nat) :
    r.isLinked s = true ↔ ∃ k, ∃ held ∈ r.tickets k, held.subscriber = s := by
  simp only [isLinked, List.any_eq_true, List.contains_iff_mem]
  constructor
  · rintro ⟨record, hmem, hs⟩
    have hfind := h.distinct.find?_of_mem hmem
    exact ⟨record.key, (mem_subscribers_iff hfind).mp hs⟩
  · rintro ⟨k, held, hheld, rfl⟩
    obtain ⟨record, hfind, -, hs⟩ := mem_tickets.mp hheld
    exact ⟨record, mem_of_find? hfind, hs⟩

/-- The calls that end the place of `ticket` on `key`. -/
def Operation.ends (key : ChannelKey) (ticket : Ticket) : Operation ν → Bool
  | .release k other => k = key ∧ other = ticket
  | .fail k _ => k = key
  | _ => false

/-- After a call a ticket is live if it was and the call did not end it, or if the call gave it
out. -/
theorem Consistent.mem_tickets_perform (h : r.Consistent) (operation : Operation ν) :
    ticket ∈ (r.perform operation).2.tickets key ↔
      ticket ∈ r.tickets key ∧ operation.ends key ticket = false ∨
        given? (operation, (r.perform operation).1) = some (key, ticket) := by
  cases operation with
  | acquire k request =>
    have hgiven : given? ((.acquire k request : Operation ν), (r.perform (.acquire k request)).1) =
        some (k, (r.acquire k request).1.ticket) := rfl
    change ticket ∈ (r.acquire k request).2.tickets key ↔ _
    rw [hgiven, h.tickets_acquire]
    by_cases hk : k = key
    · subst hk
      rw [if_pos rfl, List.mem_append, List.mem_singleton]
      simp only [Operation.ends, and_true, Option.some.injEq, Prod.mk.injEq, true_and]
      exact or_congr_right eq_comm
    · simp [Operation.ends, hk]
  | release k other =>
    change ticket ∈ (r.release k other).2.tickets key ↔ _
    rw [tickets_release]
    by_cases hk : k = key
    · subst hk
      have hne : ticket ≠ other ↔ other ≠ ticket := ne_comm
      simp [Operation.ends, given?, hne]
    · simp [Operation.ends, given?, hk]
  | fail k error =>
    change ticket ∈ (r.fail k error).2.tickets key ↔ _
    rw [tickets, find?_fail]
    by_cases hk : k = key
    · simp [Operation.ends, given?, hk]
    · simp [Operation.ends, given?, hk, tickets]
  | _ =>
    rw [h.tickets_other (by simp) (by simp) (by simp)]
    simp [Operation.ends, given?]

/-- A place is kept until a call ends it. -/
theorem Consistent.live_perform (h : r.Consistent) (hlive : ticket ∈ r.tickets key)
    {operation : Operation ν} (hends : operation.ends key ticket = false) :
    ticket ∈ (r.perform operation).2.tickets key :=
  (h.mem_tickets_perform operation).mpr (Or.inl ⟨hlive, hends⟩)

theorem subscriber_of_given {operation : Operation ν}
    (hgiven : given? (operation, (r.perform operation).1) = some (key, ticket)) :
    ticket.subscriber = r.inboxes.length := by
  cases operation with
  | acquire k request =>
    cases hgiven
    rfl
  | _ => cases hgiven

/-- Nobody is given a place but the one who acquires it. -/
theorem Consistent.unlinked_perform (h : r.Consistent) {s : Nat} (hknown : s < r.inboxes.length)
    (hlost : r.isLinked s = false) (operation : Operation ν) :
    (r.perform operation).2.isLinked s = false := by
  rw [← Bool.not_eq_true, h.isLinked_iff] at hlost
  rw [← Bool.not_eq_true, (h.perform operation).isLinked_iff]
  rintro ⟨k, held, hheld, rfl⟩
  rcases (h.mem_tickets_perform operation).mp hheld with ⟨hold, -⟩ | hgiven
  · exact hlost ⟨k, held, hold, rfl⟩
  · rw [subscriber_of_given hgiven] at hknown
    exact Nat.lt_irrefl _ hknown

/-- A call that ends a place leaves its subscriber none. -/
theorem Consistent.unlinked_of_ends (h : r.Consistent) (hlive : ticket ∈ r.tickets key)
    {operation : Operation ν} (hends : operation.ends key ticket = true) :
    (r.perform operation).2.isLinked ticket.subscriber = false := by
  rw [← Bool.not_eq_true, (h.perform operation).isLinked_iff]
  rintro ⟨k, held, hheld, hsame⟩
  rcases (h.mem_tickets_perform operation).mp hheld with ⟨hold, hkept⟩ | hgiven
  · obtain ⟨rfl, rfl⟩ := h.ticket_unique hlive hold hsame
    rw [hends] at hkept
    cases hkept
  · have hlt := h.subscriber_lt hlive
    rw [← hsame, subscriber_of_given hgiven] at hlt
    exact Nat.lt_irrefl _ hlt

theorem getElem?_post (r : Registry ν) (subscribers : List Nat) (item : Except Error ν) (s : Nat) :
    (r.post subscribers item).2.inboxes[s]? =
      (r.inboxes[s]?).map (fun inbox => if s ∈ subscribers then inbox.post item else inbox) := by
  simp [post, List.getElem?_mapIdx]

/-- What a call posts to the holders of `key`. -/
def Operation.posts? (key : ChannelKey) : Operation ν → Option (Except Error ν)
  | .dispatch k payload => if k = key then some (.ok payload) else none
  | .fail k error => if k = key then some (.error error) else none
  | _ => none

theorem inbox_fail (r : Registry ν) (key : ChannelKey) (error : Error) (s : Nat) :
    (r.fail key error).2.inboxes[s]? = (r.inboxes[s]?).map (fun inbox =>
      if ∃ held ∈ r.tickets key, held.subscriber = s then inbox.post (.error error)
      else inbox) := by
  unfold fail
  cases hfind : r.find? key with
  | none => simp [tickets_of_find?_none hfind]
  | some record =>
    simp only [getElem?_post, mem_subscribers_iff hfind]
    rfl

theorem Consistent.inbox_dispatch (h : r.Consistent) (key : ChannelKey) (payload : ν) (s : Nat) :
    (r.dispatch key payload).2.inboxes[s]? = (r.inboxes[s]?).map (fun inbox =>
      if ∃ held ∈ r.tickets key, held.subscriber = s then inbox.post (.ok payload) else inbox) := by
  unfold dispatch
  cases hfind : r.find? key with
  | none => simp [tickets_of_find?_none hfind]
  | some record =>
    -- a record that takes nothing has nobody to give it to
    have hclosed : record.subscribers = [] ∨ record.state = .unsubscribing →
        r.tickets key = [] := by
      intro hor
      have hnobody := hor.elim id (h.sound key record hfind).idle.mp
      simp [tickets_of_find? hfind, Record.tickets, hnobody]
    simp only
    split
    · rename_i hor
      simp [hclosed hor]
    · have hsame : ∀ f, (if record.state = .pending then r.update key f else r).inboxes =
          r.inboxes := by
        intro f
        split <;> rfl
      simp only [getElem?_post, mem_subscribers_iff hfind, hsame]

/-- A call that posts to no place of a subscriber leaves its inbox as it is. -/
theorem Consistent.inbox_unchanged (h : r.Consistent) {s : Nat} (hknown : s < r.inboxes.length)
    {operation : Operation ν} (hother : ∀ k item, operation.posts? k = some item →
      ∀ held ∈ r.tickets k, held.subscriber ≠ s) :
    (r.perform operation).2.inboxes[s]? = r.inboxes[s]? := by
  cases operation with
  | acquire k request => exact List.getElem?_append_left hknown
  | fail k error =>
    have hnot : ¬∃ held ∈ r.tickets k, held.subscriber = s := by
      rintro ⟨held, hheld, hs⟩
      exact hother k (.error error) (if_pos rfl) held hheld hs
    refine (inbox_fail r k error s).trans ?_
    simp only [if_neg hnot, Option.map_id']
  | dispatch k payload =>
    have hnot : ¬∃ held ∈ r.tickets k, held.subscriber = s := by
      rintro ⟨held, hheld, hs⟩
      exact hother k (.ok payload) (if_pos rfl) held hheld hs
    refine (h.inbox_dispatch k payload s).trans ?_
    simp only [if_neg hnot, Option.map_id']
  | setOnline up => cases up <;> rfl
  | expire now timeout => rfl
  | _ =>
    simp only [Registry.perform, release, activate, unsubscribeAcked, forget, beginSubscribe,
      beginUnsubscribe, Prod.map_snd, id]
    repeat' split
    all_goals rfl

theorem Consistent.inbox_posted (h : r.Consistent) (hlive : ticket ∈ r.tickets key)
    {operation : Operation ν} {item : Except Error ν} (hposts : operation.posts? key = some item) :
    (r.perform operation).2.inboxes[ticket.subscriber]? =
      (r.inboxes[ticket.subscriber]?).map (·.post item) := by
  have howner : ∃ held ∈ r.tickets key, held.subscriber = ticket.subscriber := ⟨ticket, hlive, rfl⟩
  cases operation with
  | fail k error =>
    obtain ⟨rfl, rfl⟩ : k = key ∧ .error error = item := by simpa [Operation.posts?] using hposts
    refine (inbox_fail r k error _).trans ?_
    simp only [if_pos howner]
  | dispatch k payload =>
    obtain ⟨rfl, rfl⟩ : k = key ∧ .ok payload = item := by simpa [Operation.posts?] using hposts
    refine (h.inbox_dispatch k payload _).trans ?_
    simp only [if_pos howner]
  | _ => cases hposts

/-- The inbox of a live ticket gets what its own channel is sent, and nothing else. -/
theorem Consistent.inbox_of_live (h : r.Consistent) (hlive : ticket ∈ r.tickets key)
    (operation : Operation ν) :
    (r.perform operation).2.inboxes[ticket.subscriber]? =
      (r.inboxes[ticket.subscriber]?).map (fun inbox =>
        (operation.posts? key).elim inbox inbox.post) := by
  cases hposts : operation.posts? key with
  | some item => exact h.inbox_posted hlive hposts
  | none =>
    simp only [Option.elim_none, Option.map_id']
    apply h.inbox_unchanged (h.subscriber_lt hlive)
    intro k item hother held hheld hsame
    obtain ⟨rfl, -⟩ := h.ticket_unique hlive hheld hsame
    rw [hposts] at hother
    cases hother

/-- Who has no place gets nothing. -/
theorem Consistent.inbox_of_unlinked (h : r.Consistent) {s : Nat}
    (hknown : s < r.inboxes.length) (hlost : r.isLinked s = false) (operation : Operation ν) :
    (r.perform operation).2.inboxes[s]? = r.inboxes[s]? := by
  rw [← Bool.not_eq_true, h.isLinked_iff] at hlost
  apply h.inbox_unchanged hknown
  intro k item _ held hheld hs
  exact hlost ⟨k, held, hheld, hs⟩

/-- What a reader does to its own inbox. -/
def editInbox (r : Registry ν) (s : Nat) (edit : Inbox ν → Inbox ν) : Registry ν :=
  { r with inboxes := r.inboxes.modify s edit }

theorem getElem?_editInbox (r : Registry ν) (s m : Nat) (edit : Inbox ν → Inbox ν) :
    (r.editInbox s edit).inboxes[m]? =
      (r.inboxes[m]?).map (fun inbox => if s = m then edit inbox else inbox) := by
  simp only [editInbox, List.getElem?_modify]
  split <;> simp

theorem length_editInbox (r : Registry ν) (s : Nat) (edit : Inbox ν → Inbox ν) :
    (r.editInbox s edit).inboxes.length = r.inboxes.length :=
  List.length_modify edit r.inboxes s

theorem Consistent.editInbox (h : r.Consistent) (s : Nat) (edit : Inbox ν → Inbox ν) :
    (r.editInbox s edit).Consistent := by
  refine ⟨h.distinct, h.sound, h.numbered.ascending, h.numbered.counted, h.numbered.once,
    h.numbered.apart, ?_⟩
  rw [length_editInbox]
  exact h.numbered.known

end ChannelMux.Registry
