import ChannelMux.Proofs.Registry.Slot

/-!
What holds of every record at all times: a record is being unsubscribed exactly while nobody holds
it, an answered subscribe is not outstanding, and a cancelled unsubscribe goes back to a channel
that was asked for.
-/
namespace ChannelMux

/-- A record as some history can leave it, with the connection up or down. -/
structure Record.Sound (record : Record) (online : Bool) : Prop where
  idle : record.state = .unsubscribing ↔ record.subscribers = []
  answered : record.state = .active → record.subscribeSent = false
  resumable : record.state = .unsubscribing →
    record.resumeState = .active ∧ record.subscribeSent = false ∨
      record.resumeState = .pending ∧ record.subscribeSent = true
  offline : online = false → record.state ≠ .unsubscribing ∧
    record.subscribeSent = false ∧ record.unsubscribeSent = none

namespace Record

variable {record kept : Record} {online : Bool}

theorem Sound.joined {slot : Option Record} (h : ∀ old, slot = some old → old.Sound online)
    (key : ChannelKey) (request : ChannelRequest) (generation subscriber : Nat) :
    (joined slot key request generation subscriber).Sound online := by
  cases slot with
  | none => constructor <;> simp [Record.joined, opened]
  | some old =>
    have hold := h old rfl
    simp only [Record.joined, reopened]
    by_cases hstate : old.state = .unsubscribing
    · rw [if_pos hstate]
      have hup : online = true := by
        cases honline : online with
        | true => rfl
        | false => exact absurd hstate (hold.offline honline).1
      split
      · constructor <;> simp [hup]
      · rcases hold.resumable hstate with ⟨hresume, hsent⟩ | ⟨hresume, hsent⟩
        · constructor <;> simp [hresume, hsent, hup]
        · constructor <;> simp [hresume, hup]
    · rw [if_neg hstate]
      constructor
      · simp [hstate]
      · exact hold.answered
      · simp [hstate]
      · exact hold.offline

theorem Sound.released {ticket : Ticket} (h : record.Sound online)
    (hkept : record.released online ticket = some kept) : kept.Sound online := by
  rcases released_cases hkept with rfl | ⟨left, hleft, held, rfl⟩ | ⟨held, hup, hwire, rfl⟩
  · exact h
  · have hnot : record.state ≠ .unsubscribing := mt h.idle.mp held
    exact ⟨by simp [hnot, hleft], h.answered, fun hs => absurd hs hnot, h.offline⟩
  · have hnot : record.state ≠ .unsubscribing := mt h.idle.mp held
    refine ⟨by simp, by simp, fun _ => ?_, by simp [hup]⟩
    cases hstate : record.state with
    | active => exact Or.inl ⟨rfl, h.answered hstate⟩
    | pending => exact Or.inr ⟨rfl, by simpa [liveOnWire, hstate] using hwire⟩
    | unsubscribing => exact absurd hstate hnot

theorem Sound.confirmed (h : record.Sound online) : record.confirmed.Sound online := by
  have hidle := h.idle
  unfold Record.confirmed
  split
  · rename_i hstate
    constructor
    · simpa [hstate] using hidle
    · simp
    · simp
    · intro hdown
      simpa using (h.offline hdown).2.2
  · rename_i hstate
    constructor
    · simpa [hstate] using hidle
    · simp
    · simp
    · intro hdown
      exact absurd hstate (h.offline hdown).1
  · rename_i hstate
    constructor
    · simpa [hstate] using hidle
    · simp
    · simp [hstate]
    · intro hdown
      simpa [hstate] using (h.offline hdown).2.2

/-- Taking the mark of a written unsubscribe away keeps a held record sound. -/
theorem Sound.unmarked (h : record.Sound online) :
    ({ record with unsubscribeSent := none } : Record).Sound online :=
  ⟨h.idle, h.answered, h.resumable, fun hdown => ⟨(h.offline hdown).1, (h.offline hdown).2.1, rfl⟩⟩

theorem Sound.unsubscribed (h : record.Sound online)
    (hkept : record.unsubscribed = some kept) : kept.Sound online := by
  rcases unsubscribed_cases hkept with ⟨rfl, -⟩ | ⟨-, rfl⟩
  · exact h
  · exact h.unmarked

theorem Sound.swept {now timeout : Nat} (h : record.Sound online)
    (hkept : record.swept now timeout = some kept) : kept.Sound online := by
  rcases swept_cases hkept with rfl | ⟨-, rfl⟩
  · exact h
  · exact h.unmarked

theorem Sound.subscribing (h : record.Sound online) : (record.subscribing online).Sound online := by
  unfold Record.subscribing
  split
  · rename_i howes
    obtain ⟨hup, hstate, -, hheld⟩ := howes
    exact ⟨h.idle, by simp [hstate], by simp [hstate], by simp [hup]⟩
  · exact h

theorem Sound.unsubscribing {now : Nat} (h : record.Sound online)
    (hkept : record.unsubscribing online now = some kept) : kept.Sound online := by
  rcases unsubscribing_cases hkept with ⟨rfl, -⟩ | ⟨-, hup, rfl⟩
  · exact h
  · exact ⟨h.idle, h.answered, h.resumable, by simp [hup]⟩

theorem Sound.fed (h : record.Sound online) : record.fed.Sound online := by
  unfold Record.fed
  split
  · rename_i hpending
    obtain ⟨hheld, -⟩ := hpending
    refine ⟨by simpa using hheld, by simp, by simp, fun hdown => ?_⟩
    simpa using (h.offline hdown).2.2
  · exact h

theorem Sound.afterLoss (h : record.Sound online)
    (hkept : Registry.afterLoss record = some kept) : kept.Sound false := by
  obtain ⟨hstate, rfl⟩ := afterLoss_cases hkept
  exact ⟨by simpa [hstate] using h.idle, by simp, by simp, by simp⟩

theorem Sound.up (h : record.Sound online) : record.Sound true :=
  ⟨h.idle, h.answered, h.resumable, by simp⟩

end Record

namespace Registry

variable {ν : Type}

/-- One operation keeps the record of a channel sound. -/
theorem sound_perform {r : Registry ν} {key : ChannelKey} (distinct : r.Distinct)
    (h : ∀ record, r.find? key = some record → record.Sound r.online) (operation : Operation ν)
    {next : Record} (hnext : (r.perform operation).2.find? key = some next) :
    next.Sound (r.perform operation).2.online := by
  rw [online_perform]
  cases hfind : r.find? key with
  | none =>
    obtain ⟨request, rfl, rfl⟩ := joined_of_find?_none distinct hfind hnext
    exact .joined (by simp) key request _ _
  | some record =>
    have hsound := h record hfind
    have hrevision := revision distinct hfind operation
    rw [hnext] at hrevision
    cases hrevision with
    | same hother =>
      cases operation with
      | setOnline up =>
        cases up with
        | true => exact hsound.up
        | false => exact absurd rfl hother
      | _ => exact hsound
    | acquire request => exact .joined (by rintro old ⟨⟩; exact hsound) key request _ _
    | release ticket hkept => exact hsound.released hkept
    | activate => exact hsound.confirmed
    | unsubscribeAcked hkept => exact hsound.unsubscribed hkept
    | forget hkept => exact Record.forgotten_cases hkept ▸ hsound
    | beginSubscribe => exact hsound.subscribing
    | beginUnsubscribe now hkept => exact hsound.unsubscribing hkept
    | loss hkept => exact hsound.afterLoss hkept
    | expire now timeout hkept => exact hsound.swept hkept
    | dispatch payload => exact hsound.fed

theorem Reachable.sound {r : Registry ν} (h : Reachable r) {key : ChannelKey} {record : Record}
    (hfind : r.find? key = some record) : record.Sound r.online := by
  induction h generalizing record with
  | empty => cases hfind
  | perform operation hr ih => exact sound_perform hr.distinct (fun _ => ih) operation hfind

end Registry

end ChannelMux
