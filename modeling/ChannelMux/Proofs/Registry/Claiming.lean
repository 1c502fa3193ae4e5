import ChannelMux.Proofs.Registry.Owing
import ChannelMux.Proofs.Registry.Renaming
import ChannelMux.Proofs.Registry.Sharing

/-!
What is due can be claimed. The list of what has to be written and the claim of the right to write
it look at a record each in its own way and come to the same, and a round of claims takes the list
as it stands: no claim spoils a later one, and nothing is due after the last.
-/
namespace ChannelMux

/-- What a claim leaves on the record. -/
def Owed.mark (now : Nat) : Owed → Record → Record
  | .subscribe _, record => { record with subscribeSent := true }
  | .unsubscribe _, record => { record with unsubscribeSent := some now }

theorem Owed.key_mark (owed : Owed) (now : Nat) (record : Record) :
    (owed.mark now record).key = record.key := by
  cases owed <;> rfl

/-- A record after a round of claims, each made when the clock says for its channel. -/
def Record.claimed (record : Record) (round : List Owed) (clock : ChannelKey → Nat) : Record :=
  match round.find? (fun owed => owed.key = record.key) with
  | some owed => owed.mark (clock owed.key) record
  | none => record

theorem Record.claimed_of_not_mem {record : Record} {round : List Owed}
    (h : record.key ∉ round.map Owed.key) (clock : ChannelKey → Nat) :
    record.claimed round clock = record := by
  have hnone : round.find? (fun owed => owed.key = record.key) = none := by
    apply List.find?_eq_none.mpr
    intro owed hmem
    have hne : owed.key ≠ record.key := fun hsame => h (hsame ▸ List.mem_map_of_mem hmem)
    simpa using hne
  rw [claimed, hnone]

/-- A record is marked by the claim of its own channel and by no later one. -/
theorem Record.claimed_cons {owed : Owed} {rest : List Owed} (hnew : owed.key ∉ rest.map Owed.key)
    (clock : ChannelKey → Nat) (record : Record) :
    record.claimed (owed :: rest) clock =
      (if record.key = owed.key then owed.mark (clock owed.key) record else record).claimed
        rest clock := by
  by_cases hkey : record.key = owed.key
  · have hlater : (owed.mark (clock owed.key) record).key ∉ rest.map Owed.key := by
      rw [owed.key_mark, hkey]
      exact hnew
    rw [if_pos hkey, claimed_of_not_mem hlater, claimed, List.find?_cons_of_pos (by simp [hkey])]
  · rw [if_neg hkey, claimed, claimed, List.find?_cons_of_neg (by simpa using Ne.symm hkey)]

theorem Record.claimed_key (record : Record) (round : List Owed) (clock : ChannelKey → Nat) :
    (record.claimed round clock).key = record.key := by
  unfold claimed
  split
  · exact Owed.key_mark _ _ record
  · rfl

theorem Due.keys_owed (due : Due) :
    due.owed.map Owed.key = due.unsubscribe ++ due.subscribe := by
  simp only [Due.owed, List.map_append, List.map_map]
  exact congrArg₂ _ (List.map_id _) (List.map_id _)

theorem Due.eq_of_owed_nil {due : Due} (h : due.owed = []) : due = ⟨[], []⟩ := by
  have hkeys := due.keys_owed
  rw [h] at hkeys
  obtain ⟨hunsubscribe, hsubscribe⟩ := List.append_eq_nil_iff.mp hkeys.symm
  cases due
  cases hunsubscribe
  cases hsubscribe
  rfl

namespace Registry

variable {ν : Type} {r : Registry ν} {key : ChannelKey} {record : Record}

/-- The round of one channel began before that of another. -/
def Precedes (r : Registry ν) (key other : ChannelKey) : Prop :=
  ∃ record later, r.find? key = some record ∧ r.find? other = some later ∧
    record.generation < later.generation

/-- A round of claims, in order. -/
def claims (round : List Owed) (clock : ChannelKey → Nat) : List (Operation ν) :=
  round.map (fun owed => owed.claim (clock owed.key))

/-- The right to write what is owed is given, and the record marked. -/
theorem claim_of_owes (hup : r.online = true) {owed : Owed}
    (hfind : r.find? owed.key = some record) (howes : record.Owes owed) (now : Nat) :
    r.perform (owed.claim now) =
      (.claimed (some record.request), r.update owed.key (owed.mark now)) := by
  cases owed with
  | subscribe key =>
    have hnot : ¬(record.state ≠ .pending ∨ record.subscribeSent ∨ record.subscribers = []) :=
      fun hor => record.not_owesSubscribe.mpr hor howes
    change r.find? key = some record at hfind
    simp only [Owed.claim, perform, beginSubscribe, hfind]
    rw [if_neg (by simp [hup]), if_neg hnot]
    rfl
  | unsubscribe key =>
    have hnot : ¬(record.state ≠ .unsubscribing ∨ record.subscribers ≠ [] ∨
        record.unsubscribeSent.isSome) := fun hor => record.not_owesUnsubscribe.mpr hor howes
    change r.find? key = some record at hfind
    simp only [Owed.claim, perform, beginUnsubscribe, hfind]
    rw [if_neg hnot, if_neg (by simp [hup])]
    rfl

theorem find?_mark_other {owed other : Owed} (hne : other.key ≠ owed.key) (now : Nat) :
    (r.update owed.key (owed.mark now)).find? other.key = r.find? other.key := by
  rw [find?_update _ _ _ (owed.mark now) fun record hkey => (owed.key_mark now record).trans hkey,
    if_neg (Ne.symm hne)]

theorem Owes.mark_other {owed other : Owed} (howes : r.Owes other) (hne : other.key ≠ owed.key)
    (now : Nat) : (r.update owed.key (owed.mark now)).Owes other := by
  obtain ⟨record, hfind, hrecord⟩ := howes
  exact ⟨record, (find?_mark_other hne now).trans hfind, hrecord⟩

/-- A round of claims on channels that owe them: all are granted and leave their marks, and that is
all. By induction on the round, since a claim leaves the other channels owing what they owed. -/
theorem run_claims {round : List Owed} (honce : (round.map Owed.key).Nodup)
    (howes : ∀ owed ∈ round, r.online = true ∧ r.Owes owed) (clock : ChannelKey → Nat) :
    r.run (claims round clock) =
      (round.map (fun owed => .claimed ((r.find? owed.key).map Record.request)),
        { r with records := r.records.map (·.claimed round clock) }) := by
  induction round generalizing r with
  | nil =>
    have hsame : r.records.map (·.claimed [] clock) = r.records := List.map_id _
    change ([], r) = _
    rw [hsame]
    rfl
  | cons owed rest ih =>
    obtain ⟨hnew, honce⟩ := List.nodup_cons.mp honce
    obtain ⟨⟨hup, record, hfind, hrecord⟩, hrest⟩ := List.forall_mem_cons.mp howes
    have hother : ∀ other ∈ rest, other.key ≠ owed.key := by
      intro other hmem hsame
      exact hnew (hsame ▸ List.mem_map_of_mem hmem)
    have hstep := claim_of_owes hup hfind hrecord (clock owed.key)
    have hstill : ∀ other ∈ rest, (r.update owed.key (owed.mark (clock owed.key))).online = true ∧
        (r.update owed.key (owed.mark (clock owed.key))).Owes other := by
      intro other hmem
      exact ⟨hup, (hrest other hmem).2.mark_other (hother other hmem) _⟩
    have hanswers : rest.map (fun other => Answer.claimed
        (((r.update owed.key (owed.mark (clock owed.key))).find? other.key).map Record.request)) =
          rest.map (fun other => .claimed ((r.find? other.key).map Record.request)) := by
      apply List.map_congr_left
      intro other hmem
      rw [find?_mark_other (hother other hmem)]
    have hrecords : (r.update owed.key (owed.mark (clock owed.key))).records.map
        (·.claimed rest clock) = r.records.map (·.claimed (owed :: rest) clock) := by
      simp only [update, List.map_map]
      apply List.map_congr_left
      intro other _
      exact (Record.claimed_cons hnew clock other).symm
    change r.run (owed.claim (clock owed.key) :: claims rest clock) = _
    rw [run_cons, hstep, ih honce hstill, hanswers, hrecords, List.map_cons, hfind]
    rfl

theorem Consistent.precedes (h : r.Consistent) (p : Record → Bool) :
    ((r.records.filter p).map Record.key).Pairwise r.Precedes := by
  rw [List.pairwise_map]
  apply List.Pairwise.imp_of_mem _ (h.numbered.ascending.sublist List.filter_sublist)
  intro record later hrecord hlater hbefore
  have hfind := h.distinct.find?_of_mem (List.mem_filter.mp hrecord).1
  have hfind' := h.distinct.find?_of_mem (List.mem_filter.mp hlater).1
  exact ⟨record, later, hfind, hfind', hbefore⟩

theorem Distinct.nodup_keys (distinct : r.Distinct) (p : Record → Bool) :
    ((r.records.filter p).map Record.key).Nodup :=
  distinct.sublist (List.filter_sublist.map Record.key)

theorem Consistent.due_ordered (h : r.Consistent) :
    r.due.subscribe.Pairwise r.Precedes ∧ r.due.unsubscribe.Pairwise r.Precedes := by
  unfold due
  split
  · exact ⟨h.precedes _, h.precedes _⟩
  · exact ⟨.nil, .nil⟩

theorem Distinct.due_once (distinct : r.Distinct) :
    r.due.subscribe.Nodup ∧ r.due.unsubscribe.Nodup := by
  unfold due
  split
  · exact ⟨distinct.nodup_keys _, distinct.nodup_keys _⟩
  · exact ⟨.nil, .nil⟩

/-- A record is in one state at a time. -/
theorem Distinct.due_disjoint (distinct : r.Distinct) :
    r.due.unsubscribe.Disjoint r.due.subscribe := by
  intro key hunsubscribe hsubscribe
  obtain ⟨-, record, hfind, howes⟩ := distinct.mem_due_unsubscribe.mp hunsubscribe
  obtain ⟨-, record', hfind', howes'⟩ := distinct.mem_due_subscribe.mp hsubscribe
  rw [hfind] at hfind'
  cases hfind'
  have hstate := howes.1.symm.trans howes'.1
  cases hstate

theorem Distinct.owed_once (distinct : r.Distinct) : (r.due.owed.map Owed.key).Nodup := by
  rw [Due.keys_owed]
  exact distinct.due_once.2.append distinct.due_once.1 distinct.due_disjoint

/-- A list of claims is a service of the connection. -/
theorem isService_claims {round : List Owed} {clock : ChannelKey → Nat} {operation : Operation ν}
    (hmem : operation ∈ claims round clock) : operation.isService = true := by
  obtain ⟨owed, -, rfl⟩ := List.mem_map.mp hmem
  cases owed <;> rfl

/-- A round of claims on all that is due. -/
theorem Consistent.run_due (h : r.Consistent) (clock : ChannelKey → Nat) :
    r.run (claims r.due.owed clock) =
      (r.due.owed.map (fun owed => .claimed ((r.find? owed.key).map Record.request)),
        { r with records := r.records.map (·.claimed r.due.owed clock) }) := by
  apply run_claims h.distinct.owed_once
  intro owed hmem
  exact h.distinct.mem_due.mp hmem

/-- Nothing falls due by a claim, and what was claimed is not due any more. -/
theorem Consistent.due_claimed (h : r.Consistent) (clock : ChannelKey → Nat) :
    (r.run (claims r.due.owed clock)).2.due = ⟨[], []⟩ := by
  apply Due.eq_of_owed_nil
  apply List.eq_nil_iff_forall_not_mem.mpr
  intro owed hdue
  obtain ⟨hbefore, hunclaimed⟩ := h.due_service (fun _ => isService_claims) hdue
  exact hunclaimed _ (List.mem_map_of_mem hbefore)

theorem find?_claimed (r : Registry ν) (round : List Owed) (clock : ChannelKey → Nat)
    (key : ChannelKey) :
    ({ r with records := r.records.map (·.claimed round clock) } : Registry ν).find? key =
      (r.find? key).map (·.claimed round clock) := by
  simp only [find?, List.find?_map, Function.comp_def, Record.claimed_key]

/-- What is due, and a round of claims on it, first the unsubscribes and then the subscribes. -/
structure Claimable (r : Registry ν) : Prop where
  /-- While the connection is up, what is due is what the records owe. -/
  owed : ∀ owed, owed ∈ r.due.owed ↔ r.online = true ∧ r.Owes owed
  subscribe : ∀ key, key ∈ r.due.subscribe ↔ (r.beginSubscribe key).1.isSome
  unsubscribe : ∀ key now, key ∈ r.due.unsubscribe ↔ (r.beginUnsubscribe key now).1.isSome
  disjoint : r.due.unsubscribe.Disjoint r.due.subscribe
  once : r.due.subscribe.Nodup ∧ r.due.unsubscribe.Nodup
  ordered : r.due.subscribe.Pairwise r.Precedes ∧ r.due.unsubscribe.Pairwise r.Precedes
  /-- Every claim is granted, with the request of its channel. -/
  granted : ∀ clock, ∀ event ∈ r.events (claims r.due.owed clock), ∃ record,
    event.1.key?.bind r.find? = some record ∧ event.2 = .claimed (some record.request)
  /-- Each leaves its mark on its own record, and nothing else is changed. -/
  marked : ∀ clock, (r.run (claims r.due.owed clock)).2 =
    { r with records := r.records.map (·.claimed r.due.owed clock) }
  others : ∀ clock key, key ∉ r.due.subscribe → key ∉ r.due.unsubscribe →
    (r.run (claims r.due.owed clock)).2.find? key = r.find? key
  settled : ∀ clock, (r.run (claims r.due.owed clock)).2.due = ⟨[], []⟩

theorem Consistent.claimable (h : r.Consistent) : r.Claimable where
  owed _ := h.distinct.mem_due
  subscribe key := by rw [h.distinct.mem_due_subscribe, beginSubscribe_isSome]
  unsubscribe key now := by rw [h.distinct.mem_due_unsubscribe, beginUnsubscribe_isSome]
  disjoint := h.distinct.due_disjoint
  once := h.distinct.due_once
  ordered := h.due_ordered
  granted clock event hevent := by
    rw [events, h.run_due, claims, List.zip_map'] at hevent
    obtain ⟨owed, hmem, rfl⟩ := List.mem_map.mp hevent
    obtain ⟨-, record, hfind, -⟩ := h.distinct.mem_due.mp hmem
    have hkey : (owed.claim (clock owed.key) : Operation ν).key? = some owed.key := by
      cases owed <;> rfl
    refine ⟨record, ?_, ?_⟩
    · rw [hkey, Option.bind_some, hfind]
    · rw [hfind, Option.map_some]
  marked clock := by rw [h.run_due]
  others clock key hsubscribe hunsubscribe := by
    have hother : key ∉ r.due.owed.map Owed.key := by
      rw [Due.keys_owed, List.mem_append]
      exact not_or.mpr ⟨hunsubscribe, hsubscribe⟩
    rw [h.run_due, find?_claimed]
    cases hfind : r.find? key with
    | none => rfl
    | some record =>
      rw [← key_of_find? hfind] at hother
      rw [Option.map_some, Record.claimed_of_not_mem hother]
  settled := h.due_claimed

/-- Whatever was done with a registry: what it reports as due is what can be claimed, and can be
claimed in one go. -/
theorem due_is_claimable (operations : List (Operation ν)) :
    ((empty : Registry ν).run operations).2.Claimable :=
  (consistent_empty.run operations).claimable

end Registry

end ChannelMux
