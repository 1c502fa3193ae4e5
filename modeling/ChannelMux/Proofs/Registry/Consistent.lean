import ChannelMux.Proofs.Registry.Numbered

/-!
What holds of a registry whatever was done with it, in any order: the flags of every record agree
with its state and with the connection, and every round and every subscriber has a number of its
own.
-/
namespace ChannelMux.Registry

variable {ν : Type} {r : Registry ν}

/-- What every call keeps, and what it needs for that. -/
structure Consistent (r : Registry ν) : Prop where
  distinct : r.Distinct
  sound : ∀ key record, r.find? key = some record → record.Sound r.online
  numbered : r.Numbered

theorem consistent_empty : (empty : Registry ν).Consistent := by
  refine ⟨List.nodup_nil, ?_, numbered_empty⟩
  rintro key record ⟨⟩

theorem Consistent.perform (h : r.Consistent) (operation : Operation ν) :
    (r.perform operation).2.Consistent :=
  ⟨h.distinct.perform operation,
    fun key _ hfind => sound_perform h.distinct (h.sound key) operation hfind,
    h.numbered.perform h.distinct operation⟩

theorem Consistent.run (h : r.Consistent) (operations : List (Operation ν)) :
    (r.run operations).2.Consistent := by
  induction operations generalizing r with
  | nil => exact h
  | cons operation rest ih => exact ih (h.perform operation)

theorem Reachable.consistent (h : Reachable r) : r.Consistent := by
  induction h with
  | empty => exact consistent_empty
  | perform operation _ ih => exact ih.perform operation

theorem Consistent.sound_of_mem (h : r.Consistent) {record : Record}
    (hmem : record ∈ r.records) : record.Sound r.online :=
  h.sound record.key record (h.distinct.find?_of_mem hmem)

/-- Joining a channel whose unsubscribe is owed but not written takes up a subscription that the
exchange has, or was asked for. -/
theorem Consistent.live_of_cancelled (h : r.Consistent) {key : ChannelKey} {record : Record}
    (hfind : r.find? key = some record) (howes : record.OwesUnsubscribe)
    (request : ChannelRequest) :
    ∃ next, (r.acquire key request).2.find? key = some next ∧ next.liveOnWire = true := by
  obtain ⟨hstate, hmark, -⟩ := howes
  refine ⟨r.joinedAt key request, by rw [find?_acquire, if_pos rfl], ?_⟩
  rw [joinedAt, hfind]
  rcases (h.sound key record hfind).resumable hstate with ⟨hresume, -⟩ | ⟨hresume, hsent⟩
  · simp [Record.joined, Record.reopened, Record.liveOnWire, hstate, hmark, hresume]
  · simp [Record.joined, Record.reopened, Record.liveOnWire, hstate, hmark, hsent]

/-- Nothing is being unsubscribed while the connection is down, so there is nothing to remove. -/
theorem Consistent.beginUnsubscribe_of_offline (h : r.Consistent) (hdown : r.online = false)
    (key : ChannelKey) (now : Nat) : r.beginUnsubscribe key now = (none, r) := by
  unfold beginUnsubscribe
  cases hfind : r.find? key with
  | none => rfl
  | some record =>
    have hstate := ((h.sound key record hfind).offline hdown).1
    simp only
    rw [if_pos (Or.inl hstate)]

/-- The rules that the records of a registry obey. -/
structure WellFormed (r : Registry ν) : Prop where
  idle : ∀ record ∈ r.records, record.state = .unsubscribing ↔ record.subscribers = []
  answered : ∀ record ∈ r.records, record.state = .active → record.subscribeSent = false
  resumable : ∀ record ∈ r.records, record.state = .unsubscribing →
    record.resumeState = .active ∨ record.resumeState = .pending ∧ record.subscribeSent = true
  /-- A cancelled unsubscribe never leads back to a channel that was not asked for. -/
  cancelled : ∀ key record, r.find? key = some record → record.OwesUnsubscribe →
    ∀ request, ∃ next, (r.acquire key request).2.find? key = some next ∧ next.liveOnWire = true
  settled : r.online = false → ∀ record ∈ r.records, record.state ≠ .unsubscribing ∧
    record.subscribeSent = false ∧ record.unsubscribeSent = none
  /-- No record goes by an unsubscribe that cannot be written. -/
  untouched : r.online = false → ∀ key now, r.beginUnsubscribe key now = (none, r)
  generations : (r.records.map Record.generation).Nodup
  counted : ∀ record ∈ r.records, record.generation < r.nextGeneration
  /-- No two places have the same number, in one record or in two. -/
  subscribers : (r.records.flatMap Record.subscribers).Nodup
  /-- The next subscriber is numbered by the inboxes there are. -/
  known : ∀ s ∈ r.records.flatMap Record.subscribers, s < r.inboxes.length

theorem Consistent.wellFormed (h : r.Consistent) : r.WellFormed where
  idle _ hmem := (h.sound_of_mem hmem).idle
  answered _ hmem := (h.sound_of_mem hmem).answered
  resumable _ hmem hstate :=
    ((h.sound_of_mem hmem).resumable hstate).imp And.left id
  cancelled _ _ hfind howes request := h.live_of_cancelled hfind howes request
  settled hdown _ hmem := (h.sound_of_mem hmem).offline hdown
  untouched := h.beginUnsubscribe_of_offline
  generations := List.pairwise_map.mpr (h.numbered.ascending.imp Nat.ne_of_lt)
  counted := h.numbered.counted
  subscribers := h.numbered.nodup_subscribers h.distinct
  known s hs := by
    obtain ⟨record, hmem, hrecord⟩ := List.mem_flatMap.mp hs
    exact h.numbered.known record hmem s hrecord

/-- Whatever calls were made on a registry, in whatever order, its records obey these rules. -/
theorem wellFormed_after_any_run (operations : List (Operation ν)) :
    ((empty : Registry ν).run operations).2.WellFormed :=
  (consistent_empty.run operations).wellFormed

end ChannelMux.Registry
