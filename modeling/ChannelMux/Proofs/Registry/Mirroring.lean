import ChannelMux.Proofs.Registry.Renaming

/-!
Two registries of which one was also called about other channels. What they hold of the one channel
stays the same under other numbers, call by call, and so do their answers about it.
-/
namespace ChannelMux.Registry

variable {ν : Type} {r : Registry ν} {φ : Nat → Nat} {key : ChannelKey}

/-- Every call numbers the rounds as it numbers the subscribers. -/
theorem nextGeneration_perform_eq {r : Registry ν}
    (h : r.nextGeneration = r.inboxes.length) (operation : Operation ν) :
    (r.perform operation).2.nextGeneration = (r.perform operation).2.inboxes.length := by
  rw [nextGeneration_perform, length_inboxes_perform]
  cases operation <;> simp [h]

/-- A call that posts to no other channel posts to the holders of this one, or to nobody. -/
theorem Consistent.inbox_perform (h : r.Consistent) {s : Nat} (hknown : s < r.inboxes.length)
    {operation : Operation ν} (hown : ∀ k, k ≠ key → operation.posts? k = none) :
    (r.perform operation).2.inboxes[s]? = (r.inboxes[s]?).map (fun inbox =>
      if ∃ held ∈ r.tickets key, held.subscriber = s then
        (operation.posts? key).elim inbox inbox.post
      else inbox) := by
  by_cases hheld : ∃ held ∈ r.tickets key, held.subscriber = s
  · obtain ⟨held, hlive, rfl⟩ := id hheld
    simp only [if_pos hheld]
    exact h.inbox_of_live hlive operation
  · simp only [if_neg hheld, Option.map_id']
    refine h.inbox_unchanged hknown fun k item hposts held hlive hs => ?_
    by_cases hk : k = key
    · exact hheld ⟨held, hk ▸ hlive, hs⟩
    · rw [hown k hk] at hposts
      cases hposts

/-- What `full` holds of `key` is what `own` holds of it under other numbers. -/
structure Mirrors (key : ChannelKey) (φ : Nat → Nat) (full own : Registry ν) : Prop where
  consistent : full.Consistent ∧ own.Consistent
  numbered : full.nextGeneration = full.inboxes.length ∧ own.nextGeneration = own.inboxes.length
  injective : Set.InjOn φ {s | s < own.inboxes.length}
  online : full.online = own.online
  slot : full.find? key = (own.find? key).map (Record.rename φ)
  inboxes : ∀ s < own.inboxes.length, full.inboxes[φ s]? = own.inboxes[s]?
  /-- Whoever holds another channel has a number of another handle. -/
  apart : ∀ k, k ≠ key → ∀ held ∈ full.tickets k, ∀ s < own.inboxes.length, held.subscriber ≠ φ s

variable {full own : Registry ν}

theorem mirrors_empty (key : ChannelKey) (φ : Nat → Nat) :
    Mirrors key φ (empty : Registry ν) empty := by
  refine ⟨⟨consistent_empty, consistent_empty⟩, ⟨rfl, rfl⟩, ?_, rfl, rfl, ?_, ?_⟩
  · intro s hs
    cases hs
  · intro s hs
    cases hs
  · intro k _ held _ s hs
    cases hs

theorem Mirrors.known (h : Mirrors key φ full own) {s : Nat} (hs : s < own.inboxes.length) :
    φ s < full.inboxes.length := by
  have hinbox := h.inboxes s hs
  rw [List.getElem?_eq_getElem hs] at hinbox
  exact (List.getElem?_eq_some_iff.mp hinbox).1

theorem Mirrors.below (h : Mirrors key φ full own) {record : Record}
    (hrecord : own.find? key = some record) : record.Below own.inboxes.length := by
  have hmem := mem_of_find? hrecord
  refine ⟨?_, h.consistent.2.numbered.known record hmem⟩
  rw [← h.numbered.2]
  exact h.consistent.2.numbered.counted record hmem

theorem Mirrors.ticket_below (h : Mirrors key φ full own) {ticket : Ticket}
    (hlive : ticket ∈ own.tickets key) : ticket.Below own.inboxes.length := by
  obtain ⟨record, hfind, hgeneration, hmem⟩ := mem_tickets.mp hlive
  have hrecord := h.below hfind
  exact ⟨hgeneration ▸ hrecord.generation, hrecord.subscribers _ hmem⟩

theorem Mirrors.tickets (h : Mirrors key φ full own) :
    full.tickets key = (own.tickets key).map (Ticket.rename φ) := by
  rw [Registry.tickets, h.slot, Registry.tickets]
  cases own.find? key with
  | none => rfl
  | some record => exact record.tickets_rename φ

theorem Mirrors.held_iff (h : Mirrors key φ full own) {s : Nat} (hs : s < own.inboxes.length) :
    (∃ held ∈ full.tickets key, held.subscriber = φ s) ↔
      ∃ held ∈ own.tickets key, held.subscriber = s := by
  rw [h.tickets]
  constructor
  · rintro ⟨_, hmem, hsame⟩
    obtain ⟨held, hlive, rfl⟩ := List.mem_map.mp hmem
    exact ⟨held, hlive, h.injective (h.consistent.2.subscriber_lt hlive) hs hsame⟩
  · rintro ⟨held, hlive, rfl⟩
    exact ⟨_, List.mem_map_of_mem hlive, rfl⟩

/-- A call that names another channel changes nothing here. -/
theorem Mirrors.perform_other (h : Mirrors key φ full own) (operation : Operation ν)
    {k : ChannelKey} (hk : operation.key? = some k) (hother : k ≠ key) :
    Mirrors key φ (full.perform operation).2 own := by
  have hposts : ∀ k', k' ≠ k → operation.posts? k' = none := fun k' hne =>
    Operation.posts?_of_key? (by rw [hk]; exact fun hs => hne (Option.some.inj hs).symm)
  refine ⟨⟨h.consistent.1.perform operation, h.consistent.2⟩,
    ⟨nextGeneration_perform_eq h.numbered.1 operation, h.numbered.2⟩, h.injective, ?_, ?_, ?_, ?_⟩
  · rw [online_perform, ← h.online]
    cases operation with
    | setOnline up => cases hk
    | _ => rfl
  · rw [find?_perform h.consistent.1.distinct, ← h.slot]
    cases operation with
    | setOnline up => cases hk
    | expire now timeout => cases hk
    | _ =>
      cases hk
      exact if_neg hother
  · intro s hs
    rw [← h.inboxes s hs]
    refine h.consistent.1.inbox_unchanged (h.known hs) fun k' item hitem held hheld => ?_
    have hsame : k' = k := by
      by_contra hne
      rw [hposts k' hne] at hitem
      cases hitem
    exact h.apart k' (hsame ▸ hother) held hheld s hs
  · intro k' hne held hheld s hs
    rcases (h.consistent.1.mem_tickets_perform operation).mp hheld with ⟨hold, -⟩ | hgiven
    · exact h.apart k' hne held hold s hs
    · rw [subscriber_of_given hgiven]
      exact Nat.ne_of_gt (h.known hs)

/-- The numbers that the next acquisition of the channel adds to. -/
def numberNext (φ : Nat → Nat) (full own : Registry ν) : Nat → Nat :=
  Function.update φ own.inboxes.length full.inboxes.length

theorem numberNext_of_lt (φ : Nat → Nat) (full : Registry ν) {own : Registry ν} {s : Nat}
    (hs : s < own.inboxes.length) : numberNext φ full own s = φ s :=
  Function.update_of_ne (Nat.ne_of_lt hs) _ _

theorem numberNext_self (φ : Nat → Nat) (full own : Registry ν) :
    numberNext φ full own own.inboxes.length = full.inboxes.length :=
  Function.update_self _ _ _

theorem Mirrors.injective_numberNext (h : Mirrors key φ full own) :
    Set.InjOn (numberNext φ full own) {s | s < own.inboxes.length + 1} := by
  have hnew : ∀ s < own.inboxes.length, numberNext φ full own s ≠ full.inboxes.length := by
    intro s hs
    rw [numberNext_of_lt φ full hs]
    exact Nat.ne_of_lt (h.known hs)
  intro s hs t ht hsame
  rcases Nat.lt_succ_iff_lt_or_eq.mp hs with hs | rfl
  · rcases Nat.lt_succ_iff_lt_or_eq.mp ht with ht | rfl
    · rw [numberNext_of_lt φ full hs, numberNext_of_lt φ full ht] at hsame
      exact h.injective hs ht hsame
    · rw [numberNext_self] at hsame
      exact absurd hsame (hnew s hs)
  · rcases Nat.lt_succ_iff_lt_or_eq.mp ht with ht | rfl
    · rw [numberNext_self] at hsame
      exact absurd hsame.symm (hnew t ht)
    · rfl

theorem Mirrors.slot_numberNext (h : Mirrors key φ full own) :
    full.find? key = (own.find? key).map (Record.rename (numberNext φ full own)) := by
  rw [h.slot]
  refine Option.map_congr fun record hrecord => ?_
  exact Record.rename_congr (h.below hrecord) fun s hs => (numberNext_of_lt φ full hs).symm

theorem Mirrors.slot_perform (h : Mirrors key φ full own) {operation : Operation ν}
    (hbelow : operation.Below own.inboxes.length) :
    ((full.perform (operation.rename φ)).2.find? key) =
      ((own.perform operation).2.find? key).map (Record.rename (numberNext φ full own)) := by
  have hwider : operation.Below (own.inboxes.length + 1) := by
    cases operation with
    | release k ticket => exact ⟨Nat.lt_succ_of_lt hbelow.1, Nat.lt_succ_of_lt hbelow.2⟩
    | _ => trivial
  have hrecords : ∀ record ∈ own.find? key, record.Below (own.inboxes.length + 1) := by
    intro record hrecord
    have hold := h.below hrecord
    exact ⟨Nat.lt_succ_of_lt hold.generation, fun s hs => Nat.lt_succ_of_lt (hold.subscribers s hs)⟩
  have hsame := Operation.rename_congr hbelow fun s hs => (numberNext_of_lt φ full hs).symm
  rw [find?_perform h.consistent.1.distinct, find?_perform h.consistent.2.distinct,
    h.slot_numberNext, h.online, h.numbered.1, h.numbered.2, hsame, ← numberNext_self φ full own]
  exact revise_rename h.injective_numberNext hrecords hwider own.online _ _

/-- An acquisition gives both the same ticket. -/
theorem Mirrors.ticket_acquire (h : Mirrors key φ full own) (request : ChannelRequest) :
    (full.acquire key request).1.ticket =
      (own.acquire key request).1.ticket.rename (numberNext φ full own) := by
  rw [Registry.ticket_acquire, Registry.ticket_acquire, joinedAt, joinedAt, h.slot_numberNext,
    h.numbered.1, h.numbered.2, ← numberNext_self φ full own, Record.joined_rename]
  rfl

theorem Mirrors.first_acquire (h : Mirrors key φ full own) (request : ChannelRequest) :
    (full.acquire key request).1.first = (own.acquire key request).1.first := by
  rw [Bool.eq_iff_iff, Registry.first_acquire, Registry.first_acquire, h.tickets,
    List.map_eq_nil_iff]

theorem Mirrors.inbox_perform (h : Mirrors key φ full own) {operation : Operation ν}
    (hown : ∀ k, operation.key? = some k → k = key) {s : Nat} (hs : s < own.inboxes.length) :
    (full.perform (operation.rename φ)).2.inboxes[φ s]? =
      (own.perform operation).2.inboxes[s]? := by
  have hposts : ∀ k, k ≠ key → operation.posts? k = none := fun k hne =>
    Operation.posts?_of_key? fun hk => hne (hown k hk)
  have hposts' : ∀ k, k ≠ key → (operation.rename φ).posts? k = none := fun k hne => by
    rw [Operation.posts?_rename]
    exact hposts k hne
  rw [h.consistent.1.inbox_perform (h.known hs) hposts', h.consistent.2.inbox_perform hs hposts,
    h.inboxes s hs, Operation.posts?_rename]
  simp only [h.held_iff hs]

/-- A call that both see leaves them alike. -/
theorem Mirrors.perform (h : Mirrors key φ full own) (operation : Operation ν)
    (hown : ∀ k, operation.key? = some k → k = key)
    (hbelow : operation.Below own.inboxes.length) :
    Mirrors key (numberNext φ full own) (full.perform (operation.rename φ)).2
      (own.perform operation).2 := by
  have hlength := length_inboxes_perform own operation
  refine ⟨⟨h.consistent.1.perform _, h.consistent.2.perform _⟩,
    ⟨nextGeneration_perform_eq h.numbered.1 _, nextGeneration_perform_eq h.numbered.2 _⟩,
    ?_, ?_, h.slot_perform hbelow, ?_, ?_⟩
  · refine h.injective_numberNext.mono fun s hs => ?_
    rw [Set.mem_ofPred_eq, hlength] at hs
    cases operation with
    | acquire k request => exact hs
    | _ => exact Nat.lt_succ_of_lt hs
  · rw [online_perform, online_perform]
    cases operation with
    | setOnline up => rfl
    | _ => exact h.online
  · intro s hs
    by_cases hold : s < own.inboxes.length
    · rw [numberNext_of_lt φ full hold]
      exact h.inbox_perform hown hold
    · rw [hlength] at hs
      cases operation with
      | acquire k request =>
        rw [Nat.le_antisymm (Nat.le_of_lt_succ hs) (Nat.le_of_not_lt hold), numberNext_self]
        exact List.getElem?_concat_length.trans List.getElem?_concat_length.symm
      | _ => exact absurd hs hold
  · intro k hne held hheld s hs
    have hforeign : ∀ ticket, given? (operation.rename φ,
        (full.perform (operation.rename φ)).1) ≠ some (k, ticket) := by
      intro ticket hgiven
      have hkey := given_key hgiven
      rw [Operation.key?_rename] at hkey
      exact hne (hown k hkey)
    have hlive := ((h.consistent.1.mem_tickets_perform _).mp hheld).resolve_right (hforeign held)
    by_cases hold : s < own.inboxes.length
    · rw [numberNext_of_lt φ full hold]
      exact h.apart k hne held hlive.1 s hold
    · have hlast : s = own.inboxes.length := by
        rw [hlength] at hs
        cases operation with
        | acquire k request =>
          exact Nat.le_antisymm (Nat.le_of_lt_succ hs) (Nat.le_of_not_lt hold)
        | _ => exact absurd hs hold
      rw [hlast, numberNext_self]
      exact Nat.ne_of_lt (h.consistent.1.subscriber_lt hlive.1)

/-- As many of the holders take an item. -/
theorem Mirrors.count_post (h : Mirrors key φ full own) {record : Record}
    (hrecord : own.find? key = some record) (item : Except Error ν) :
    (full.post (record.rename φ).subscribers item).1 = (own.post record.subscribers item).1 := by
  simp only [post, Record.rename, List.filter_map, List.length_map]
  congr 1
  refine List.filter_congr fun s hs => ?_
  rw [Function.comp_apply, h.inboxes s ((h.below hrecord).subscribers s hs)]

theorem Mirrors.answer_release (h : Mirrors key φ full own) {ticket : Ticket}
    (hticket : ticket.Below own.inboxes.length) :
    (full.release key (ticket.rename φ)).1 = (own.release key ticket).1 := by
  unfold release
  rw [h.slot]
  cases hfind : own.find? key with
  | none => rfl
  | some record =>
    have hbelow := h.below hfind
    have hplace := Record.place_rename h.injective hbelow hticket.1 hticket.2
    have hleft := Record.left_rename h.injective hbelow hticket.2
    simp only [Option.map_some, hplace, hleft, ne_eq, List.map_eq_nil_iff, h.online]
    change (if _ then (Release.stale, full) else if _ then _ else
      if (own.online && record.liveOnWire) = true then _ else _).1 = _
    repeat' split
    all_goals rfl

theorem Mirrors.answer_dispatch (h : Mirrors key φ full own) (payload : ν) :
    (full.dispatch key payload).1 = (own.dispatch key payload).1 := by
  unfold dispatch
  rw [h.slot]
  cases hfind : own.find? key with
  | none => rfl
  | some record =>
    simp only [Option.map_some, Record.rename_subscribers_eq_nil]
    change (if record.subscribers = [] ∨ record.state = .unsubscribing then _ else _ :
      Dispatch × Registry ν).1 = _
    split
    · rfl
    · -- confirming a record empties no inbox
      have hsame : ∀ (r : Registry ν) f subscribers item,
          ((if record.state = .pending then r.update key f else r).post subscribers item).1 =
            (r.post subscribers item).1 := by
        intro r f subscribers item
        split <;> rfl
      refine congrArg Dispatch.delivered ?_
      rw [hsame]
      exact (hsame _ _ _ _).trans (h.count_post hfind _)

/-- The two answer a call on the channel alike. An acquisition is set apart, since its answer has
numbers in it. -/
theorem Mirrors.answer (h : Mirrors key φ full own) (operation : Operation ν)
    (hk : operation.key? = some key) (hbelow : operation.Below own.inboxes.length)
    (hjoin : ∀ request, operation ≠ .acquire key request) :
    (full.perform (operation.rename φ)).1 = (own.perform operation).1 := by
  cases operation with
  | acquire k request =>
    cases hk
    exact absurd rfl (hjoin request)
  | release k ticket =>
    cases hk
    exact congrArg Answer.released (h.answer_release hbelow)
  | fail k error =>
    cases hk
    simp only [Operation.rename, Registry.perform, fail, Prod.map_fst, h.slot]
    cases hfind : own.find? key with
    | none => rfl
    | some record => exact congrArg Answer.counted (h.count_post hfind (.error error))
  | dispatch k payload =>
    cases hk
    exact congrArg Answer.dispatched (h.answer_dispatch payload)
  | activate k =>
    cases hk
    simp only [Operation.rename, Registry.perform, activate, Prod.map_fst, h.slot]
    cases own.find? key with
    | none => rfl
    | some record => cases hstate : record.state <;> simp [Record.rename, hstate]
  | setOnline up => cases hk
  | expire now timeout => cases hk
  | _ =>
    cases hk
    simp only [Operation.rename, Registry.perform, unsubscribeAcked, forget, beginSubscribe,
      beginUnsubscribe, Prod.map_fst, h.slot, h.online]
    cases own.find? key with
    | none =>
      simp only [Option.map_none]
      repeat' split
      all_goals rfl
    | some record =>
      simp only [Option.map_some, Record.rename, List.isEmpty_map, List.map_eq_nil_iff, ne_eq]
      repeat' split
      all_goals rfl

end ChannelMux.Registry
