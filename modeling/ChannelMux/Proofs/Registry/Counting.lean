import ChannelMux.Proofs.Registry.Consistent
import ChannelMux.Proofs.Registry.Sharing

/-!
Counting subscribers. The places of a record are the tickets that its channel's history gave out and
has not ended since, by a release or a refusal; a ticket that is not among them is stale.
-/
namespace ChannelMux

namespace Record

/-- The tickets that hold a place in a record. -/
def tickets (record : Record) : List Ticket :=
  record.subscribers.map (Ticket.mk record.generation)

theorem tickets_without (record : Record) {ticket : Ticket}
    (hgeneration : record.generation = ticket.generation) :
    record.tickets.filter (· ≠ ticket) =
      (record.subscribers.filter (· ≠ ticket.subscriber)).map (Ticket.mk record.generation) := by
  rw [tickets, List.filter_map]
  congr 1
  apply List.filter_congr
  intro s _
  obtain ⟨generation, subscriber⟩ := ticket
  simp only at hgeneration
  simp [hgeneration]

theorem tickets_released (record : Record) (online : Bool) (ticket : Ticket) :
    (record.released online ticket).elim [] tickets = record.tickets.filter (· ≠ ticket) := by
  unfold released
  split
  · rename_i hplace
    have hother : ∀ held ∈ record.tickets, decide (held ≠ ticket) = true := by
      intro held hheld
      obtain ⟨s, hs, rfl⟩ := List.mem_map.mp hheld
      rw [decide_eq_true_eq]
      rintro rfl
      simp [hs] at hplace
    rw [Option.elim_some, List.filter_eq_self.mpr hother]
  · rename_i hplace
    have hgeneration : record.generation = ticket.generation :=
      Decidable.not_not.mp (not_or.mp hplace).1
    rw [record.tickets_without hgeneration]
    split
    · rfl
    · rename_i hleft
      rw [Decidable.not_not.mp hleft, List.map_nil]
      split <;> rfl

end Record

namespace Registry

variable {ν : Type} {r : Registry ν} {key : ChannelKey}

/-- The tickets that hold a place in a channel. -/
def tickets (r : Registry ν) (key : ChannelKey) : List Ticket :=
  (r.find? key).elim [] Record.tickets

theorem tickets_of_find? {record : Record} (hfind : r.find? key = some record) :
    r.tickets key = record.tickets := by
  rw [tickets, hfind, Option.elim_some]

theorem tickets_of_find?_none (hfind : r.find? key = none) : r.tickets key = [] := by
  rw [tickets, hfind, Option.elim_none]

theorem length_tickets (r : Registry ν) (key : ChannelKey) :
    (r.tickets key).length = r.subscriberCount key := by
  unfold tickets subscriberCount
  cases r.find? key with
  | none => rfl
  | some record => simp [Record.tickets]

theorem Consistent.nodup_tickets (h : r.Consistent) (key : ChannelKey) :
    (r.tickets key).Nodup := by
  cases hfind : r.find? key with
  | none => simp [tickets_of_find?_none hfind]
  | some record =>
    rw [tickets_of_find? hfind]
    refine (h.numbered.once record (mem_of_find? hfind)).map ?_
    intro a b hab
    exact congrArg Ticket.subscriber hab

/-- An acquisition answers whether the channel had no subscriber. -/
theorem first_acquire (r : Registry ν) (key : ChannelKey) (request : ChannelRequest) :
    (r.acquire key request).1.first = true ↔ r.tickets key = [] := by
  simp only [acquire]
  cases hfind : r.find? key with
  | none => simp [tickets_of_find?_none hfind, Record.opened]
  | some old =>
    have hsame : (old.reopened request r.nextGeneration).subscribers = old.subscribers := by
      unfold Record.reopened
      split
      · split <;> rfl
      · rfl
    simp [tickets_of_find? hfind, hsame, Record.tickets]

theorem ticket_acquire (r : Registry ν) (key : ChannelKey) (request : ChannelRequest) :
    (r.acquire key request).1.ticket =
      ⟨(r.joinedAt key request).generation, r.inboxes.length⟩ := rfl

/-- A record is given another generation only when nobody holds it, so earlier tickets stay. -/
theorem Consistent.tickets_acquire (h : r.Consistent) (k key : ChannelKey)
    (request : ChannelRequest) : (r.acquire k request).2.tickets key =
      if k = key then r.tickets key ++ [(r.acquire k request).1.ticket] else r.tickets key := by
  rw [ticket_acquire]
  by_cases hk : k = key
  · subst hk
    rw [if_pos rfl]
    have hnext : (r.acquire k request).2.find? k = some (r.joinedAt k request) := by
      rw [find?_acquire, if_pos rfl]
    rw [tickets_of_find? hnext, Record.tickets, Record.joined_subscribers, List.map_append]
    congr 1
    cases hfind : r.find? k with
    | none => simp [tickets_of_find?_none hfind]
    | some old =>
      rw [Option.elim_some, tickets_of_find? hfind, Record.tickets]
      by_cases hfounds : r.Founds k
      · have hnobody := (h.sound k old hfind).idle.mp (hfounds old hfind).1
        simp [hnobody]
      · obtain ⟨other, hother, hgeneration, -⟩ := joinedAt_of_not_founds hfounds request
        rw [hfind] at hother
        cases hother
        rw [hgeneration]
  · rw [if_neg hk, tickets, find?_acquire, if_neg hk, tickets]

theorem mem_tickets {ticket : Ticket} : ticket ∈ r.tickets key ↔
    ∃ record, r.find? key = some record ∧ record.generation = ticket.generation ∧
      ticket.subscriber ∈ record.subscribers := by
  unfold tickets
  cases r.find? key with
  | none => simp
  | some record =>
    obtain ⟨generation, subscriber⟩ := ticket
    simp only [Option.elim_some, Record.tickets, List.mem_map, Ticket.mk.injEq, Option.some.injEq]
    constructor
    · rintro ⟨s, hs, rfl, rfl⟩
      exact ⟨record, rfl, rfl, hs⟩
    · rintro ⟨_, rfl, rfl, hs⟩
      exact ⟨subscriber, hs, rfl, rfl⟩

/-- What a release can do: nothing with a ticket that holds no place; otherwise it keeps the record
for the others, or the place was the last one. -/
theorem release_cases (r : Registry ν) (key : ChannelKey) (ticket : Ticket) :
    ticket ∉ r.tickets key ∧ r.release key ticket = (.stale, r) ∨
      ticket ∈ r.tickets key ∧ (r.tickets key).filter (· ≠ ticket) ≠ [] ∧
        (r.release key ticket).1 = .retained ∨
      ticket ∈ r.tickets key ∧ (r.tickets key).filter (· ≠ ticket) = [] ∧
        ((r.release key ticket).1 = .unsubscribe ∨ (r.release key ticket).1 = .removed) := by
  rw [mem_tickets]
  unfold release
  cases hfind : r.find? key with
  | none => simp
  | some record =>
    rw [tickets_of_find? hfind]
    by_cases hplace : record.generation ≠ ticket.generation ∨
        ticket.subscriber ∉ record.subscribers
    · have hnot : ¬(record.generation = ticket.generation ∧
          ticket.subscriber ∈ record.subscribers) := by
        simpa [Decidable.imp_iff_not_or] using hplace
      exact Or.inl ⟨by simpa using hnot, if_pos hplace⟩
    · obtain ⟨hgeneration, hmem⟩ : record.generation = ticket.generation ∧
          ticket.subscriber ∈ record.subscribers := by
        simpa [not_or] using hplace
      simp only [if_neg hplace]
      rw [record.tickets_without hgeneration]
      have hheld : ∃ held, some record = some held ∧ held.generation = ticket.generation ∧
          ticket.subscriber ∈ held.subscribers := ⟨record, rfl, hgeneration, hmem⟩
      refine Or.inr ?_
      by_cases hleft : record.subscribers.filter (fun s => s ≠ ticket.subscriber) = []
      · refine Or.inr ⟨hheld, by rw [hleft, List.map_nil], ?_⟩
        rw [if_neg (not_not_intro hleft)]
        split
        · exact Or.inl rfl
        · exact Or.inr rfl
      · refine Or.inl ⟨hheld, by simpa using hleft, ?_⟩
        rw [if_pos hleft]

theorem tickets_release (r : Registry ν) (k key : ChannelKey) (ticket : Ticket) :
    (r.release k ticket).2.tickets key =
      if k = key then (r.tickets key).filter (· ≠ ticket) else r.tickets key := by
  rw [tickets, find?_release]
  split
  · rw [tickets]
    cases r.find? key with
    | none => rfl
    | some record => exact record.tickets_released r.online ticket
  · rfl

/-- Calls that neither acquire nor release nor refuse leave everybody in place. -/
theorem Consistent.tickets_other (h : r.Consistent) {operation : Operation ν}
    (hjoin : ∀ k request, operation ≠ .acquire k request)
    (hleave : ∀ k ticket, operation ≠ .release k ticket)
    (hfail : ∀ error, operation ≠ .fail key error) :
    (r.perform operation).2.tickets key = r.tickets key := by
  cases hfind : r.find? key with
  | none =>
    have hnext : (r.perform operation).2.find? key = none := by
      cases hnext : (r.perform operation).2.find? key with
      | none => rfl
      | some next =>
        obtain ⟨request, hop, -⟩ := joined_of_find?_none h.distinct hfind hnext
        exact absurd hop (hjoin key request)
    rw [tickets_of_find?_none hfind, tickets_of_find?_none hnext]
  | some record =>
    have hrevision := revision h.distinct hfind operation
    have hsound := h.sound key record hfind
    rw [tickets_of_find? hfind, tickets]
    generalize (r.perform operation).2.find? key = result at hrevision ⊢
    cases hrevision with
    | same => rfl
    | acquire request => exact absurd rfl (hjoin key request)
    | release ticket => exact absurd rfl (hleave key ticket)
    | activate =>
      unfold Record.confirmed
      split <;> rfl
    | fail error => exact absurd rfl (hfail error)
    | unsubscribeAcked hresult =>
      subst hresult
      unfold Record.unsubscribed
      split
      · rfl
      · split
        · rename_i hnobody
          simp [Record.tickets, hnobody]
        · rfl
    | forget hresult =>
      subst hresult
      unfold Record.forgotten
      split
      · rename_i hnobody
        simp [Record.tickets, hnobody]
      · rfl
    | beginSubscribe =>
      unfold Record.subscribing
      split <;> rfl
    | beginUnsubscribe now hresult =>
      subst hresult
      unfold Record.unsubscribing
      split
      · rename_i howes
        split
        · rfl
        · simp [Record.tickets, howes.2.2]
      · rfl
    | loss hresult =>
      subst hresult
      unfold afterLoss
      split
      · rename_i hstate
        simp [Record.tickets, hsound.idle.mp hstate]
      · rfl
      · rfl
    | expire now timeout hresult =>
      subst hresult
      unfold Record.swept
      split
      · split
        · rename_i hnobody
          simp [Record.tickets, hnobody]
        · rfl
      · rfl
    | dispatch payload =>
      unfold Record.fed
      split <;> rfl

/-- The live tickets of `key` after a call, given those before it: an acquisition adds the ticket
that it answers with, a release that is not stale takes its ticket away, and a refusal takes all. -/
def recount (key : ChannelKey) (held : List Ticket) : Operation ν × Answer → List Ticket
  | (.acquire k _, .acquired result) => if k = key then held ++ [result.ticket] else held
  | (.release k ticket, .released result) =>
    if k = key ∧ result ≠ .stale then held.filter (· ≠ ticket) else held
  | (.fail k _, _) => if k = key then [] else held
  | _ => held

/-- The tickets that a history acquired on `key` and neither released nor refused since. -/
def liveTickets (key : ChannelKey) (operations : List (Operation ν)) : List Ticket :=
  ((empty : Registry ν).events operations).foldl (recount key) []

theorem Consistent.tickets_perform (h : r.Consistent) (operation : Operation ν) :
    (r.perform operation).2.tickets key =
      recount key (r.tickets key) (operation, (r.perform operation).1) := by
  cases operation with
  | acquire k request => exact h.tickets_acquire k key request
  | release k ticket =>
    change (r.release k ticket).2.tickets key = if k = key ∧ (r.release k ticket).1 ≠ .stale then
      (r.tickets key).filter (· ≠ ticket) else r.tickets key
    by_cases hk : k = key
    · subst hk
      rcases release_cases r k ticket with ⟨-, hstale⟩ | ⟨-, -, hretained⟩ | ⟨-, -, hlast⟩
      · simp [hstale]
      · simp [tickets_release, hretained]
      · rw [tickets_release, if_pos rfl, if_pos ⟨rfl, by rcases hlast with h | h <;> simp [h]⟩]
    · rw [tickets_release, if_neg hk, if_neg (mt And.left hk)]
  | fail k error =>
    change (r.fail k error).2.tickets key = if k = key then [] else r.tickets key
    rw [tickets, find?_fail]
    split <;> rfl
  | _ => exact h.tickets_other (by simp) (by simp) (by simp)

theorem Consistent.tickets_run (h : r.Consistent) (operations : List (Operation ν)) :
    (r.run operations).2.tickets key =
      (r.events operations).foldl (recount key) (r.tickets key) := by
  induction operations generalizing r with
  | nil => rfl
  | cons operation rest ih =>
    rw [events_cons, List.foldl_cons, ← h.tickets_perform]
    exact ih (h.perform operation)

/-- The ticket that a call gave out, with its channel. -/
def given? : Operation ν × Answer → Option (ChannelKey × Ticket)
  | (.acquire k _, .acquired result) => some (k, result.ticket)
  | _ => none

/-- Every ticket that a history gave out, with its channel. -/
def issued (operations : List (Operation ν)) : List (ChannelKey × Ticket) :=
  ((empty : Registry ν).events operations).filterMap given?

/-- Tickets are numbered as they are given out. -/
theorem issued_numbers (operations : List (Operation ν)) :
    ∃ n, ((r.events operations).filterMap given?).map (fun pair => pair.2.subscriber) =
      List.range' r.inboxes.length n := by
  induction operations generalizing r with
  | nil => exact ⟨0, rfl⟩
  | cons operation rest ih =>
    obtain ⟨n, hrest⟩ := ih (r := (r.perform operation).2)
    rw [length_inboxes_perform] at hrest
    rw [events_cons]
    cases operation with
    | acquire k request =>
      refine ⟨n + 1, ?_⟩
      have hgiven : given? ((.acquire k request : Operation ν),
          (r.perform (.acquire k request)).1) = some (k, (r.acquire k request).1.ticket) := rfl
      rw [List.filterMap_cons_some hgiven, List.map_cons, hrest, List.range'_succ, ticket_acquire]
    | _ => exact ⟨n, by rw [List.filterMap_cons_none rfl]; exact hrest⟩

theorem nodup_issued (operations : List (Operation ν)) :
    ((issued operations).map Prod.snd).Nodup := by
  obtain ⟨n, hnumbers⟩ := issued_numbers (r := (empty : Registry ν)) operations
  refine List.Nodup.of_map Ticket.subscriber ?_
  rw [List.map_map]
  exact hnumbers ▸ List.nodup_range'

theorem issued_of_live {events : List (Operation ν × Answer)} {held : List Ticket}
    {ticket : Ticket} (hlive : ticket ∈ events.foldl (recount key) held) :
    ticket ∈ held ∨ (key, ticket) ∈ events.filterMap given? := by
  induction events generalizing held with
  | nil => exact Or.inl hlive
  | cons event rest ih =>
    rcases ih hlive with hheld | hrest
    · have hstep : ticket ∈ held ∨ given? event = some (key, ticket) := by
        unfold recount at hheld
        split at hheld
        · split at hheld
          · rename_i hk
            subst hk
            rcases List.mem_append.mp hheld with hold | hnew
            · exact Or.inl hold
            · rw [List.mem_singleton.mp hnew]
              exact Or.inr rfl
          · exact Or.inl hheld
        · split at hheld
          · exact Or.inl (List.mem_of_mem_filter hheld)
          · exact Or.inl hheld
        · split at hheld
          · cases hheld
          · exact Or.inl hheld
        · exact Or.inl hheld
      exact hstep.imp id fun hgiven => List.mem_filterMap.mpr ⟨event, List.mem_cons_self, hgiven⟩
    · obtain ⟨later, hlater, hgiven⟩ := List.mem_filterMap.mp hrest
      exact Or.inr (List.mem_filterMap.mpr ⟨later, List.mem_cons_of_mem _ hlater, hgiven⟩)

/-- A ticket is live on no channel but its own. -/
theorem not_live_elsewhere {operations : List (Operation ν)} {other : ChannelKey} {ticket : Ticket}
    (hissued : (other, ticket) ∈ issued operations) (hother : other ≠ key) :
    ticket ∉ liveTickets key operations := by
  intro hlive
  have hkey := (issued_of_live hlive).resolve_left (by simp)
  have hsame := List.inj_on_of_nodup_map (nodup_issued operations) hissued hkey rfl
  exact hother (congrArg Prod.fst hsame)

/-- Calls by which the connection looks after its records. -/
def Operation.IsUpkeep : Operation ν → Prop
  | .setOnline _ | .forget _ | .unsubscribeAcked _ | .expire _ _ | .beginUnsubscribe _ _ => True
  | _ => False

theorem Consistent.count_upkeep (h : r.Consistent) {operation : Operation ν}
    (hupkeep : operation.IsUpkeep) :
    (r.perform operation).2.subscriberCount key = r.subscriberCount key := by
  rw [← length_tickets, ← length_tickets]
  have hother : (r.perform operation).2.tickets key = r.tickets key := by
    apply h.tickets_other
    · rintro k request rfl; exact hupkeep
    · rintro k ticket rfl; exact hupkeep
    · rintro error rfl; exact hupkeep
  rw [hother]

theorem Consistent.count_release (h : r.Consistent) {ticket : Ticket}
    (hlive : ticket ∈ r.tickets key) :
    (r.release key ticket).2.subscriberCount key + 1 = r.subscriberCount key := by
  rw [← length_tickets, ← length_tickets, tickets_release, if_pos rfl]
  have herase : (r.tickets key).filter (· ≠ ticket) = (r.tickets key).erase ticket := by
    rw [(h.nodup_tickets key).erase_eq_filter]
    exact List.filter_congr fun held _ => by simp [bne, Bool.beq_eq_decide_eq]
  rw [herase, List.length_erase_add_one hlive]

theorem retained_iff {ticket : Ticket} (hlive : ticket ∈ r.tickets key) :
    (r.release key ticket).1 = .retained ↔ ∃ other ∈ r.tickets key, other ≠ ticket := by
  have hothers : (r.tickets key).filter (· ≠ ticket) ≠ [] ↔
      ∃ other ∈ r.tickets key, other ≠ ticket := by
    simp [List.filter_eq_nil_iff]
  rw [← hothers]
  rcases release_cases r key ticket with ⟨hnot, -⟩ | ⟨-, hleft, hretained⟩ | ⟨-, hlast, hgone⟩
  · exact absurd hlive hnot
  · exact iff_of_true hretained hleft
  · refine iff_of_false ?_ (not_not_intro hlast)
    rcases hgone with hgone | hgone <;> simp [hgone]

theorem release_stale_iff (r : Registry ν) (key : ChannelKey) (ticket : Ticket) :
    (r.release key ticket).1 = .stale ↔ ticket ∉ r.tickets key := by
  rcases release_cases r key ticket with ⟨hnot, hstale⟩ | ⟨hlive, -, hkept⟩ | ⟨hlive, -, hgone⟩
  · exact iff_of_true (congrArg Prod.fst hstale) hnot
  · exact iff_of_false (by simp [hkept]) (not_not_intro hlive)
  · refine iff_of_false ?_ (not_not_intro hlive)
    rcases hgone with hgone | hgone <;> simp [hgone]

/-- After any history, the subscribers of a channel are its live tickets. An acquisition says that
it is the first exactly when there was none; a release with any other ticket is stale and changes
nothing, and one with a live ticket takes one place and keeps the record for the others, if there
are any. No ticket is given out twice, and none counts on another channel. What the connection does
to look after its records leaves every count as it is. -/
theorem subscribers_are_live_tickets (operations : List (Operation ν)) (key : ChannelKey) :
    let r := ((empty : Registry ν).run operations).2
    let live := liveTickets key operations
    (r.subscriberCount key = live.length ∧ live.Nodup) ∧
      (∀ request, (r.acquire key request).1.first = true ↔ live = []) ∧
      (∀ ticket, (r.release key ticket).1 = .stale ↔ ticket ∉ live) ∧
      (∀ ticket, (r.release key ticket).1 = .stale → (r.release key ticket).2 = r) ∧
      (∀ ticket, (r.release key ticket).1 ≠ .stale →
        (r.release key ticket).2.subscriberCount key + 1 = r.subscriberCount key ∧
          ((r.release key ticket).1 = .retained ↔ ∃ other ∈ live, other ≠ ticket)) ∧
      ((issued operations).map Prod.snd).Nodup ∧
      (∀ other ticket, (other, ticket) ∈ issued operations → other ≠ key →
        (r.release key ticket).1 = .stale) ∧
      ∀ operation : Operation ν, operation.IsUpkeep →
        (r.perform operation).2.subscriberCount key = r.subscriberCount key := by
  intro r live
  have h : r.Consistent := consistent_empty.run operations
  have hlive : r.tickets key = live := consistent_empty.tickets_run operations
  rw [← hlive]
  refine ⟨⟨(length_tickets r key).symm, h.nodup_tickets key⟩, first_acquire r key,
    release_stale_iff r key, ?_, ?_, nodup_issued operations, ?_, fun _ => h.count_upkeep⟩
  · intro ticket hstale
    rcases release_cases r key ticket with ⟨-, hsame⟩ | ⟨hheld, -⟩ | ⟨hheld, -⟩
    · rw [hsame]
    · exact absurd hheld ((release_stale_iff r key ticket).mp hstale)
    · exact absurd hheld ((release_stale_iff r key ticket).mp hstale)
  · intro ticket hfresh
    have hheld : ticket ∈ r.tickets key :=
      Classical.byContradiction fun hnot => hfresh ((release_stale_iff r key ticket).mpr hnot)
    exact ⟨h.count_release hheld, retained_iff hheld⟩
  · intro other ticket hissued hother
    rw [release_stale_iff, hlive]
    exact not_live_elsewhere hissued hother

/-- A ticket of a record that was refused does not count in the record that came after it. -/
example : liveTickets trades ([.acquire trades tradesRequest,
    .fail trades (.subscribe trades "refused"), .acquire trades tradesRequest,
    .release trades ⟨0, 0⟩] : List (Operation Nat)) = [⟨1, 1⟩] := by decide

end Registry

end ChannelMux
