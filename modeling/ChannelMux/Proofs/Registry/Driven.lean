import ChannelMux.Proofs.Registry.Sound

/-!
Histories as a connection drives them: acquisitions and releases come at any time, but confirmations
and payloads only while the connection is up. Then a registry that is down only holds channels that
are yet to be asked for.
-/
namespace ChannelMux.Registry

variable {ν : Type}

/-- The channel that the exchange confirms by this call, in words or by a payload. -/
def Operation.confirmed? : Operation ν → Option ChannelKey
  | .activate key | .dispatch key _ => some key
  | _ => none

inductive Driven : Registry ν → Prop where
  | empty : Driven Registry.empty
  | perform {r : Registry ν} (operation : Operation ν) : Driven r →
      (operation.confirmed?.isSome → r.online = true) → Driven (r.perform operation).2

theorem Driven.reachable {r : Registry ν} (h : Driven r) : Reachable r := by
  induction h with
  | empty => exact .empty
  | perform operation _ _ ih => exact ih.perform operation

/-- Without the connection no call but a confirmation makes a pending record anything else. -/
theorem pending_perform {r : Registry ν} {key : ChannelKey} (distinct : r.Distinct)
    (hdown : r.online = false)
    (h : ∀ record, r.find? key = some record → record.state = .pending)
    {operation : Operation ν} (hquiet : operation.confirmed? = none)
    {next : Record} (hnext : (r.perform operation).2.find? key = some next) :
    next.state = .pending := by
  cases hfind : r.find? key with
  | none =>
    obtain ⟨request, -, rfl⟩ := joined_of_find?_none distinct hfind hnext
    rfl
  | some record =>
    have hstate := h record hfind
    have hrevision := revision distinct hfind operation
    rw [hnext] at hrevision
    cases hrevision with
    | same => exact hstate
    | acquire request => simp [Record.joined, Record.reopened, hstate]
    | release ticket hresult =>
      rcases Record.released_cases hresult with rfl | ⟨left, -, -, rfl⟩ | ⟨-, hup, -, -⟩
      · exact hstate
      · exact hstate
      · rw [hdown] at hup
        cases hup
    | activate => cases hquiet
    | unsubscribeAcked hresult =>
      rcases Record.unsubscribed_cases hresult with ⟨rfl, -⟩ | ⟨-, rfl⟩
      · exact hstate
      · exact hstate
    | forget hresult => exact Record.forgotten_cases hresult ▸ hstate
    | beginSubscribe =>
      unfold Record.subscribing
      split <;> exact hstate
    | beginUnsubscribe now hresult =>
      rcases Record.unsubscribing_cases hresult with ⟨rfl, -⟩ | ⟨-, -, rfl⟩
      · exact hstate
      · exact hstate
    | loss hresult =>
      obtain ⟨-, rfl⟩ := Record.afterLoss_cases hresult
      rfl
    | expire now timeout hresult =>
      rcases Record.swept_cases hresult with rfl | ⟨-, rfl⟩
      · exact hstate
      · exact hstate
    | dispatch payload => cases hquiet

theorem Driven.pending_of_offline {r : Registry ν} (h : Driven r) (hdown : r.online = false)
    {key : ChannelKey} {record : Record} (hfind : r.find? key = some record) :
    record.state = .pending := by
  induction h generalizing record with
  | empty => cases hfind
  | @perform r operation hr hallowed ih =>
    by_cases hloss : operation = .setOnline false
    · subst hloss
      rw [find?_perform hr.reachable.distinct] at hfind
      obtain ⟨old, -, hkept⟩ := Option.bind_eq_some_iff.mp hfind
      obtain ⟨-, rfl⟩ := Record.afterLoss_cases hkept
      rfl
    · have hbefore : r.online = false := by
        rw [online_perform] at hdown
        cases operation with
        | setOnline up =>
          cases up with
          | true => cases hdown
          | false => exact absurd rfl hloss
        | _ => exact hdown
      have hquiet : operation.confirmed? = none := by
        cases hconfirms : operation.confirmed? with
        | none => rfl
        | some confirmed =>
          rw [hallowed (by simp [hconfirms])] at hbefore
          cases hbefore
      exact pending_perform hr.reachable.distinct hbefore (fun _ => ih hbefore) hquiet hfind

/-- While the connection is down, every record waits for its subscribe to be written. -/
theorem Driven.owes_of_offline {r : Registry ν} (h : Driven r) (hdown : r.online = false)
    {key : ChannelKey} {record : Record} (hfind : r.find? key = some record) :
    record.OwesSubscribe ∧ record.unsubscribeSent = none := by
  have hsound := h.reachable.sound hfind
  obtain ⟨hstate, hsent, hmark⟩ := hsound.offline hdown
  exact ⟨⟨h.pending_of_offline hdown hfind, hsent, mt hsound.idle.mpr hstate⟩, hmark⟩

end ChannelMux.Registry
