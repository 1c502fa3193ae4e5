import ChannelMux.Connection.Phase
import ChannelMux.Proofs.Registry.Counting
import ChannelMux.Proofs.Registry.Listing

/-!
What a registry owes the exchange. Once the connection is up, only a caller who then has to wake the
manager makes it owe anything more: one who takes a channel first, or who leaves it last.
-/
namespace ChannelMux

def Owed.key : Owed → ChannelKey
  | .subscribe key | .unsubscribe key => key

/-- The call by which the right to write a request is claimed. -/
def Owed.claim {ν : Type} (now : Nat) : Owed → Registry.Operation ν
  | .subscribe key => .beginSubscribe key
  | .unsubscribe key => .beginUnsubscribe key now

/-- A request may be written for this record, once the connection is up. -/
def Record.Owes (record : Record) : Owed → Prop
  | .subscribe _ => record.OwesSubscribe
  | .unsubscribe _ => record.OwesUnsubscribe

namespace Record

variable {record next : Record} {owed : Owed} {online : Bool}

theorem owes_confirmed (h : record.confirmed.Owes owed) : record.Owes owed := by
  unfold confirmed at h
  cases owed with
  | subscribe key =>
    -- a confirmation leaves no channel pending
    split at h
    · cases h.1
    · rename_i hstate
      exact absurd (hstate.symm.trans h.1) (by simp)
    · rename_i hstate
      exact absurd (hstate.symm.trans h.1) (by simp)
  | unsubscribe key =>
    split at h
    · cases h.1
    · exact h
    · exact h

theorem owes_fed (h : record.fed.Owes owed) : record.Owes owed := by
  unfold fed at h
  split at h
  · cases owed with
    | subscribe key => cases h.1
    | unsubscribe key => cases h.1
  · exact h

/-- While somebody holds it, a record owes the same with and without an unsubscribe outstanding. -/
theorem owes_unmarked (hheld : record.subscribers ≠ [])
    (h : ({ record with unsubscribeSent := none } : Record).Owes owed) : record.Owes owed := by
  cases owed with
  | subscribe key => exact h
  | unsubscribe key => exact absurd h.2.2 hheld

theorem owes_subscribing (h : (record.subscribing online).Owes owed) : record.Owes owed := by
  unfold subscribing at h
  split at h
  · cases owed with
    | subscribe key => cases h.2.1
    | unsubscribe key => exact h
  · exact h

theorem owes_unsubscribing {now : Nat} (hresult : record.unsubscribing online now = some next)
    (h : next.Owes owed) : record.Owes owed := by
  rcases unsubscribing_cases hresult with ⟨rfl, -⟩ | ⟨-, -, rfl⟩
  · exact h
  · cases owed with
    | subscribe key => exact h
    | unsubscribe key => cases h.2.1

/-- A claimed subscribe is outstanding, so it is not owed. -/
theorem not_owesSubscribe_subscribing (record : Record) :
    ¬(record.subscribing true).OwesSubscribe := by
  intro howes
  unfold subscribing at howes
  split at howes
  · cases howes.2.1
  · rename_i hnot
    exact hnot ⟨rfl, howes⟩

theorem not_owesUnsubscribe_unsubscribing {now : Nat}
    (hresult : record.unsubscribing online now = some next) : ¬next.OwesUnsubscribe := by
  rcases unsubscribing_cases hresult with ⟨rfl, hnot⟩ | ⟨-, -, rfl⟩
  · exact hnot
  · exact fun howes => by cases howes.2.1

end Record

namespace Registry

variable {ν : Type} {r : Registry ν} {key : ChannelKey} {owed : Owed} {record : Record}

theorem Distinct.mem_keys (distinct : r.Distinct) (p : Record → Bool) :
    key ∈ (r.records.filter p).map Record.key ↔
      ∃ record, r.find? key = some record ∧ p record = true := by
  simp only [List.mem_map, List.mem_filter]
  constructor
  · rintro ⟨record, ⟨hmem, hp⟩, rfl⟩
    exact ⟨record, distinct.find?_of_mem hmem, hp⟩
  · rintro ⟨record, hfind, hp⟩
    exact ⟨record, ⟨mem_of_find? hfind, hp⟩, key_of_find? hfind⟩

theorem Distinct.mem_due_subscribe (distinct : r.Distinct) : key ∈ r.due.subscribe ↔
    r.online = true ∧ ∃ record, r.find? key = some record ∧ record.OwesSubscribe := by
  unfold due
  by_cases hup : r.online = true
  · rw [if_pos hup, distinct.mem_keys, eq_true hup, true_and]
    refine exists_congr fun record => and_congr_right fun _ => ?_
    simp only [Record.OwesSubscribe, Bool.and_eq_true, decide_eq_true_eq, Bool.not_eq_true',
      List.isEmpty_eq_false_iff, and_assoc]
    exact and_congr_right fun _ => and_comm
  · simp [hup]

theorem Distinct.mem_due_unsubscribe (distinct : r.Distinct) : key ∈ r.due.unsubscribe ↔
    r.online = true ∧ ∃ record, r.find? key = some record ∧ record.OwesUnsubscribe := by
  unfold due
  by_cases hup : r.online = true
  · rw [if_pos hup, distinct.mem_keys, eq_true hup, true_and]
    refine exists_congr fun record => and_congr_right fun _ => ?_
    simp only [Record.OwesUnsubscribe, Bool.and_eq_true, decide_eq_true_eq, List.isEmpty_iff,
      Option.isNone_iff_eq_none, and_assoc]
    exact and_congr_right fun _ => and_comm
  · simp [hup]

/-- A channel's record owes a request. -/
def Owes (r : Registry ν) (owed : Owed) : Prop :=
  ∃ record, r.find? owed.key = some record ∧ record.Owes owed

/-- What is due is what is owed, once the connection is up. -/
theorem Distinct.mem_due (distinct : r.Distinct) :
    owed ∈ r.due.owed ↔ r.online = true ∧ r.Owes owed := by
  unfold Due.owed
  cases owed with
  | subscribe key =>
    simp only [List.mem_append, List.mem_map, reduceCtorEq, and_false, exists_false, false_or,
      Owed.subscribe.injEq, exists_eq_right]
    exact distinct.mem_due_subscribe
  | unsubscribe key =>
    simp only [List.mem_append, List.mem_map, reduceCtorEq, and_false, exists_false, or_false,
      Owed.unsubscribe.injEq, exists_eq_right]
    exact distinct.mem_due_unsubscribe

/-- A call after which the caller wakes the manager: the channel is taken first, or left last with
an unsubscribe owed. -/
def wakes : Operation ν × Answer → Bool
  | (.acquire _ _, .acquired result) => result.first
  | (.release _ _, .released result) => result = .unsubscribe
  | _ => false

theorem wakes_acquire (r : Registry ν) (key : ChannelKey) (request : ChannelRequest) :
    wakes ((.acquire key request : Operation ν), (r.perform (.acquire key request)).1) = true ↔
      r.tickets key = [] :=
  first_acquire r key request

/-- A record that is joined while somebody holds it owes what it owed. -/
theorem owes_joined {online : Bool} (hsound : record.Sound online) (hheld : record.subscribers ≠ [])
    {request : ChannelRequest} {generation subscriber : Nat}
    (howes : (Record.joined (some record) key request generation subscriber).Owes owed) :
    record.Owes owed := by
  have hstate := mt hsound.idle.mp hheld
  simp only [Record.joined, Record.reopened, if_neg hstate] at howes
  cases owed with
  | subscribe k => exact ⟨howes.1, howes.2.1, hheld⟩
  | unsubscribe k => exact absurd howes.1 hstate

theorem release_of_released {ticket : Ticket} {next : Record} (hfind : r.find? key = some record)
    (hheld : record.subscribers ≠ []) (hresult : record.released r.online ticket = some next)
    (hleft : next.subscribers = []) : (r.release key ticket).1 = .unsubscribe := by
  unfold Record.released at hresult
  simp only [release, hfind]
  split at hresult
  · cases hresult
    exact absurd hleft hheld
  · rename_i hplace
    rw [if_neg hplace]
    split at hresult
    · rename_i hothers
      cases hresult
      exact absurd hleft hothers
    · rename_i hlast
      rw [if_neg hlast]
      split at hresult
      · rename_i hlive
        rw [if_pos hlive]
      · cases hresult

/-- No call makes a registry that is up owe a request that it did not owe, but one whose caller then
wakes the manager. -/
theorem Consistent.owes_perform (h : r.Consistent) {operation : Operation ν}
    (hup : (r.perform operation).2.online = true) (howes : (r.perform operation).2.Owes owed) :
    r.Owes owed ∨ wakes (operation, (r.perform operation).1) = true := by
  obtain ⟨next, hnext, hnow⟩ := howes
  cases hfind : r.find? owed.key with
  | none =>
    obtain ⟨request, rfl, -⟩ := joined_of_find?_none h.distinct hfind hnext
    exact Or.inr ((wakes_acquire r owed.key request).mpr (tickets_of_find?_none hfind))
  | some record =>
    have hsound := h.sound owed.key record hfind
    have hbefore : record.Owes owed → r.Owes owed := fun howes => ⟨record, hfind, howes⟩
    have hrevision := revision h.distinct hfind operation
    rw [hnext] at hrevision
    cases hrevision with
    | same => exact Or.inl (hbefore hnow)
    | acquire request =>
      by_cases hheld : record.subscribers = []
      · refine Or.inr ((wakes_acquire r owed.key request).mpr ?_)
        rw [tickets_of_find? hfind, Record.tickets, hheld]
        rfl
      · exact Or.inl (hbefore (owes_joined hsound hheld hnow))
    | release ticket hresult =>
      rcases Record.released_cases hresult with rfl | ⟨left, hleft, hheld, rfl⟩ |
        ⟨hheld, -, -, rfl⟩
      · exact Or.inl (hbefore hnow)
      · refine Or.inl (hbefore ?_)
        revert hnow
        cases owed with
        | subscribe k => exact fun hnow => ⟨hnow.1, hnow.2.1, hheld⟩
        | unsubscribe k => exact fun hnow => absurd hnow.2.2 hleft
      · refine Or.inr ?_
        change decide ((r.release owed.key ticket).1 = .unsubscribe) = true
        rw [decide_eq_true_eq]
        exact release_of_released hfind hheld hresult rfl
    | activate => exact Or.inl (hbefore (Record.owes_confirmed hnow))
    | unsubscribeAcked hresult =>
      rcases Record.unsubscribed_cases hresult with ⟨rfl, -⟩ | ⟨hheld, rfl⟩
      · exact Or.inl (hbefore hnow)
      · exact Or.inl (hbefore (Record.owes_unmarked hheld hnow))
    | forget hresult =>
      rw [Record.forgotten_cases hresult] at hnow
      exact Or.inl (hbefore hnow)
    | beginSubscribe => exact Or.inl (hbefore (Record.owes_subscribing hnow))
    | beginUnsubscribe now hresult =>
      exact Or.inl (hbefore (Record.owes_unsubscribing hresult hnow))
    | loss => cases hup
    | expire now timeout hresult =>
      rcases Record.swept_cases hresult with rfl | ⟨hheld, rfl⟩
      · exact Or.inl (hbefore hnow)
      · exact Or.inl (hbefore (Record.owes_unmarked hheld hnow))
    | dispatch payload => exact Or.inl (hbefore (Record.owes_fed hnow))

/-- A request whose writing was claimed is not owed any more. -/
theorem Consistent.not_owes_claim (h : r.Consistent) (hup : r.online = true) (owed : Owed)
    (now : Nat) : ¬(r.perform (owed.claim now)).2.Owes owed := by
  rintro ⟨next, hnext, howes⟩
  cases owed with
  | subscribe key =>
    rw [Owed.claim, find?_perform h.distinct, Operation.revise, if_pos (by rfl), hup] at hnext
    obtain ⟨record, -, rfl⟩ := Option.map_eq_some_iff.mp hnext
    exact record.not_owesSubscribe_subscribing howes
  | unsubscribe key =>
    rw [Owed.claim, find?_perform h.distinct, Operation.revise, if_pos (by rfl)] at hnext
    obtain ⟨record, -, hresult⟩ := Option.bind_eq_some_iff.mp hnext
    exact Record.not_owesUnsubscribe_unsubscribing hresult howes

/-- Calls that are made to serve a connection that is up. -/
def Operation.isService : Operation ν → Bool
  | .acquire _ _ | .release _ _ | .setOnline _ => false
  | _ => true

theorem online_service {operation : Operation ν} (hservice : operation.isService = true) :
    (r.perform operation).2.online = r.online := by
  rw [online_perform]
  cases operation with
  | setOnline up => cases hservice
  | _ => rfl

/-- Serving a connection makes nothing due, and what was claimed is not due any more. -/
theorem Consistent.due_service (h : r.Consistent) {operations : List (Operation ν)}
    (hservice : ∀ operation ∈ operations, operation.isService = true)
    (hdue : owed ∈ (r.run operations).2.due.owed) :
    owed ∈ r.due.owed ∧ ∀ now, owed.claim now ∉ operations := by
  induction operations generalizing r with
  | nil => exact ⟨hdue, by simp⟩
  | cons operation rest ih =>
    have hfirst := hservice operation List.mem_cons_self
    obtain ⟨hnext, hlater⟩ := ih (h.perform operation)
      (fun other hmem => hservice other (List.mem_cons_of_mem _ hmem)) hdue
    obtain ⟨hup, howes⟩ := (h.distinct.perform operation).mem_due.mp hnext
    have hbefore : r.Owes owed := by
      refine (h.owes_perform hup howes).resolve_right ?_
      cases operation with
      | acquire key request => cases hfirst
      | release key ticket => cases hfirst
      | _ => simp [wakes]
    rw [online_service hfirst] at hup
    refine ⟨h.distinct.mem_due.mpr ⟨hup, hbefore⟩, fun now hmem => ?_⟩
    rcases List.mem_cons.mp hmem with rfl | hmem
    · exact h.not_owes_claim hup owed now howes
    · exact hlater now hmem

theorem online_caller {operation : Operation ν}
    (hcaller : operation.isAcquisition = true ∨ operation.isRelease = true) :
    (r.perform operation).2.online = r.online := by
  rw [online_perform]
  cases operation with
  | setOnline up => simp [Operation.isAcquisition, Operation.isRelease] at hcaller
  | _ => rfl

/-- Taking and leaving channels makes something due only if the caller wakes the manager for it. -/
theorem Consistent.due_caller (h : r.Consistent) {operation : Operation ν}
    (hcaller : operation.isAcquisition = true ∨ operation.isRelease = true)
    (hdue : owed ∈ (r.perform operation).2.due.owed) :
    owed ∈ r.due.owed ∨ wakes (operation, (r.perform operation).1) = true := by
  obtain ⟨hup, howes⟩ := (h.distinct.perform operation).mem_due.mp hdue
  refine (h.owes_perform hup howes).imp_left fun hbefore => ?_
  rw [online_caller hcaller] at hup
  exact h.distinct.mem_due.mpr ⟨hup, hbefore⟩

/-- When a connection comes up, only subscribes of wanted channels are due. -/
theorem Consistent.due_up (h : r.Consistent) (hdown : r.online = false)
    (hdue : owed ∈ (r.setOnline true).due.owed) :
    owed ∈ (r.setOnline true).wanted.map (fun entry => Owed.subscribe entry.1) := by
  have hup : (r.setOnline true).Consistent := h.perform (.setOnline true)
  obtain ⟨-, record, hfind, howes⟩ := hup.distinct.mem_due.mp hdue
  cases owed with
  | subscribe key =>
    exact List.mem_map.mpr ⟨(key, record.request),
      hup.mem_wanted.mpr ⟨record, hfind, howes.2.2, rfl⟩, rfl⟩
  | unsubscribe key =>
    have hstate := ((h.sound key record hfind).offline hdown).1
    exact absurd howes.1 hstate

theorem due_of_offline (hdown : r.online = false) : r.due.owed = [] := by
  unfold due
  rw [if_neg (by simp [hdown])]
  rfl

end Registry

end ChannelMux
