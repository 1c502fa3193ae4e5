import ChannelMux.Proofs.Wire.Answers
import Mathlib.Data.List.Induction

/-!
Whether a held channel is subscribed at the exchange. A record that is confirmed, or has asked,
stands for a subscription that the exchange has or is heading for. One thing breaks this: a
confirmation or a payload of an earlier round, taken in for a record that has not asked again yet.
The record is confirmed by it, and so never asks.
-/
namespace ChannelMux

namespace Record

/-- The record relies on a subscription only if there is one, or will be. -/
structure Covered (record : Record) (expected : Bool) : Prop where
  confirmed : record.state = .active → expected = true
  asked : record.state = .pending → record.subscribeSent = true → expected = true
  kept : record.state = .unsubscribing → record.unsubscribeSent = none → expected = true

variable {record next : Record} {expected online : Bool}

theorem Covered.of_expected (record : Record) : record.Covered true :=
  ⟨fun _ => rfl, fun _ _ => rfl, fun _ _ => rfl⟩

theorem Covered.of_owes (howes : record.OwesSubscribe) : record.Covered expected := by
  obtain ⟨hstate, hsent, -⟩ := howes
  constructor <;> simp [hstate, hsent]

theorem Covered.joined {slot : Option Record} (h : ∀ old, slot = some old → old.Covered expected)
    (key : ChannelKey) (request : ChannelRequest) (generation subscriber : Nat) :
    (Record.joined slot key request generation subscriber).Covered expected := by
  cases slot with
  | none => constructor <;> simp [Record.joined, opened]
  | some old =>
    have hold := h old rfl
    simp only [Record.joined, reopened]
    split
    · rename_i hstate
      cases hmark : old.unsubscribeSent with
      | some since => constructor <;> simp
      | none =>
        have hexpected := hold.kept hstate hmark
        subst hexpected
        exact .of_expected _
    · exact ⟨hold.confirmed, hold.asked, hold.kept⟩

theorem Covered.released {ticket : Ticket} (h : record.Covered expected)
    (hsound : record.Sound online) (hnext : record.released online ticket = some next) :
    next.Covered expected := by
  rcases released_cases hnext with rfl | ⟨left, -, -, rfl⟩ | ⟨held, -, hwire, rfl⟩
  · exact h
  · exact ⟨h.confirmed, h.asked, h.kept⟩
  · have hexpected : expected = true := by
      cases hstate : record.state with
      | active => exact h.confirmed hstate
      | pending => exact h.asked hstate (by simpa [liveOnWire, hstate] using hwire)
      | unsubscribing => exact absurd (hsound.idle.mp hstate) held
    subst hexpected
    exact .of_expected _

/-- A confirmation keeps a record covered if the record is not pending for nothing. -/
theorem Covered.confirmed_of (h : record.Covered expected)
    (hasked : record.state = .pending → expected = true) : record.confirmed.Covered expected := by
  unfold Record.confirmed
  split
  · rename_i hstate
    have hexpected := hasked hstate
    subst hexpected
    exact .of_expected _
  · rename_i hstate
    constructor <;> simp [hstate]
    exact h.kept hstate
  · rename_i hstate
    constructor <;> simp [hstate]
    exact h.confirmed hstate

theorem Covered.fed_of (h : record.Covered expected)
    (hasked : record.state = .pending → expected = true) : record.fed.Covered expected := by
  unfold fed
  split
  · rename_i hpending
    have hexpected := hasked hpending.2
    subst hexpected
    exact .of_expected _
  · exact h

/-- Nobody unsubscribes a held record, so it needs no mark. -/
theorem Covered.unmarked (h : record.Covered expected) (hsound : record.Sound online)
    (held : record.subscribers ≠ []) :
    ({ record with unsubscribeSent := none } : Record).Covered expected :=
  ⟨h.confirmed, h.asked, fun hstate => absurd (hsound.idle.mp hstate) held⟩

theorem Covered.afterLoss (hnext : Registry.afterLoss record = some next) :
    next.Covered expected := by
  obtain ⟨-, rfl⟩ := afterLoss_cases hnext
  constructor <;> simp

end Record

namespace Registry

variable {ν : Type} {r : Registry ν} {key : ChannelKey} {expected : Bool}

/-- One call keeps a record covered, unless it hands out a request or confirms what nobody asked
for. -/
theorem covered_perform (h : Reachable r)
    (hcovered : ∀ record, r.find? key = some record → record.Covered expected)
    {operation : Operation ν}
    (hasks : asksFor key (operation, (r.perform operation).1) = false)
    (hconfirms : operation.confirmed? = some key → r.state? key = some .pending →
      expected = true)
    {next : Record} (hnext : (r.perform operation).2.find? key = some next) :
    next.Covered expected := by
  cases hfind : r.find? key with
  | none =>
    obtain ⟨request, -, rfl⟩ := joined_of_find?_none h.distinct hfind hnext
    exact .joined (by simp) key request _ _
  | some record =>
    have hbefore := hcovered record hfind
    have hsound := h.sound hfind
    have hpending : record.state = .pending → r.state? key = some .pending := by
      intro hstate
      rw [state?, hfind, Option.map_some, hstate]
    have hrevision := revision h.distinct hfind operation
    rw [hnext] at hrevision
    cases hrevision with
    | same => exact hbefore
    | acquire request => exact .joined (by rintro old ⟨⟩; exact hbefore) key request _ _
    | release ticket hresult => exact hbefore.released hsound hresult
    | activate => exact hbefore.confirmed_of fun hstate => hconfirms rfl (hpending hstate)
    | dispatch payload => exact hbefore.fed_of fun hstate => hconfirms rfl (hpending hstate)
    | unsubscribeAcked hresult =>
      rcases Record.unsubscribed_cases hresult with ⟨rfl, -⟩ | ⟨held, rfl⟩
      · exact hbefore
      · exact hbefore.unmarked hsound held
    | forget hresult => exact Record.forgotten_cases hresult ▸ hbefore
    | beginSubscribe =>
      unfold Record.subscribing
      split
      · rename_i howes
        rw [(asksFor_iff _).mpr ⟨rfl, howes.1, record, hfind, howes.2⟩] at hasks
        cases hasks
      · exact hbefore
    | beginUnsubscribe now hresult =>
      rcases Record.unsubscribing_cases hresult with ⟨rfl, -⟩ | ⟨howes, -, rfl⟩
      · exact hbefore
      · constructor <;> simp [howes.1]
    | loss hresult => exact .afterLoss hresult
    | expire now timeout hresult =>
      rcases Record.swept_cases hresult with rfl | ⟨held, rfl⟩
      · exact hbefore
      · exact hbefore.unmarked hsound held

/-- A record that an unsubscribe was handed out for relies on nothing. -/
theorem covered_of_givesUp (h : Reachable r) {operation : Operation ν} {next : Record}
    (hnext : (r.perform operation).2.find? key = some next)
    (hgives : givesUp key (operation, (r.perform operation).1) = true) : next.Covered expected := by
  obtain ⟨⟨now, rfl⟩, hup, record, hfind, howes⟩ := (givesUp_iff operation).mp hgives
  rw [find?_perform h.distinct, hfind] at hnext
  simp only [Operation.revise, if_pos, Option.bind_some, Record.unsubscribing, howes, hup] at hnext
  cases hnext
  constructor <;> simp [howes.1]

end Registry

namespace Wire.Period

open Registry

variable {ν : Type} {p : Period ν} {key : ChannelKey}

/-- The reply to be taken in next confirms `key` for a record that waits for it, although the last
request written for `key`, if any, was an unsubscribe. -/
def ConfirmsUnasked (p : Period ν) (key : ChannelKey) : Prop :=
  (∃ reply, p.inbound.head? = some reply ∧ reply.operation.confirmed? = some key) ∧
    p.registry.state? key = some .pending ∧ p.target key = false

/-- Somewhere in the run the registry took in such a reply, and no subscribe was written since. -/
def Misled (p : Period ν) (moves : List (Move ν)) (key : ChannelKey) : Prop :=
  ∃ before after, moves = before ++ .receive :: after ∧ (p.run before).ConfirmsUnasked key ∧
    .subscribe key ∉ ((p.run before).step .receive).writes after

/-- What the registry relies on for `key`, the exchange has or is heading for. -/
def Covered (p : Period ν) (key : ChannelKey) : Prop :=
  ∀ record, p.registry.find? key = some record → record.Covered (p.target key)

theorem covered_opened {r : Registry ν} (h : Driven r) (hdown : r.online = false) :
    (opened r).Covered key :=
  fun _ hfind => .of_owes (h.owes_of_offline hdown hfind).1

theorem Covered.step_of_subscribe {move : Move ν} (h : p.written move = some (.subscribe key)) :
    (p.step move).Covered key := by
  intro record _
  rw [target_of_subscribe h]
  exact .of_expected record

theorem Covered.step_of_unsubscribe (htracked : p.Tracked) {move : Move ν}
    (h : p.written move = some (.unsubscribe key)) : (p.step move).Covered key := by
  intro record hfind
  obtain ⟨operation, hcall, hgives⟩ := written_unsubscribe_iff.mp h
  rw [registry_step_of_call hcall] at hfind
  exact covered_of_givesUp htracked.reachable hfind hgives

/-- One move keeps a channel covered, unless it confirms what was not asked for. -/
theorem Covered.step (htracked : p.Tracked) (h : p.Covered key) {move : Move ν}
    (hconfirms : move = .receive → ¬p.ConfirmsUnasked key) : (p.step move).Covered key := by
  by_cases hsubscribe : p.written move = some (.subscribe key)
  · exact .step_of_subscribe hsubscribe
  by_cases hunsubscribe : p.written move = some (.unsubscribe key)
  · exact .step_of_unsubscribe htracked hunsubscribe
  intro record hfind
  rw [target_unchanged hsubscribe hunsubscribe]
  cases hcall : p.call? move with
  | none =>
    rw [registry_step_of_none hcall] at hfind
    exact h record hfind
  | some operation =>
    rw [registry_step_of_call hcall] at hfind
    have hasks : asksFor key (operation, (p.registry.perform operation).1) = false :=
      Bool.eq_false_iff.mpr fun hasks =>
        hsubscribe (written_subscribe_iff.mpr ⟨operation, hcall, hasks⟩)
    refine covered_perform htracked.reachable h hasks ?_ hfind
    intro hoperation hpending
    cases htarget : p.target key with
    | true => rfl
    | false =>
      cases move with
      | receive =>
        obtain ⟨reply, hhead, rfl⟩ := Option.map_eq_some_iff.mp hcall
        exact absurd ⟨⟨reply, hhead, hoperation⟩, hpending, htarget⟩ (hconfirms rfl)
      | _ => cases hcall <;> cases hoperation

/-- A whole run, by induction on the moves from the last one back: a channel is covered after it, or
the registry was misled about it on the way. -/
theorem covered_or_misled (htracked : p.Tracked) (h : p.Covered key) (moves : List (Move ν)) :
    (p.run moves).Covered key ∨ p.Misled moves key := by
  induction moves using List.reverseRecOn with
  | nil => exact Or.inl h
  | append_singleton moves move ih =>
    rw [run_append]
    by_cases hsubscribe : (p.run moves).written move = some (.subscribe key)
    · exact Or.inl (.step_of_subscribe hsubscribe)
    rcases ih with hcovered | ⟨before, after, rfl, hconfirms, hwrites⟩
    · by_cases hunasked : move = .receive ∧ (p.run moves).ConfirmsUnasked key
      · obtain ⟨rfl, hconfirms⟩ := hunasked
        exact Or.inr ⟨moves, [], rfl, hconfirms, by simp [writes]⟩
      · exact Or.inl (hcovered.step (htracked.run moves) fun hmove hconfirms =>
          hunasked ⟨hmove, hconfirms⟩)
    · refine Or.inr ⟨before, after ++ [move], by simp, hconfirms, ?_⟩
      have hlast : ((p.run before).step .receive).run after = p.run (before ++ .receive :: after) :=
        (run_append p before (.receive :: after)).symm
      rw [writes_append, hlast]
      intro hmem
      rcases List.mem_append.mp hmem with hearlier | hnow
      · exact hwrites hearlier
      · simp only [writes, List.append_nil, Option.mem_toList] at hnow
        exact hsubscribe hnow

/-- Once nothing subscribes a channel, it stays without a subscription. -/
theorem target_of_unwritten {moves : List (Move ν)} (htarget : p.target key = false)
    (hwrites : .subscribe key ∉ p.writes moves) : (p.run moves).target key = false := by
  induction moves generalizing p with
  | nil => exact htarget
  | cons move rest ih =>
    simp only [writes, List.mem_append, not_or, Option.mem_toList] at hwrites
    refine ih ?_ hwrites.2
    by_cases hunsubscribe : p.written move = some (.unsubscribe key)
    · exact target_of_unsubscribe hunsubscribe
    · rw [target_unchanged hwrites.1 hunsubscribe]
      exact htarget

/-- At rest, a channel that somebody holds is subscribed at the exchange, exactly unless a late
reply misled the registry about it. -/
theorem subscribed_iff_not_misled {r : Registry ν} (h : Driven r) (hdown : r.online = false)
    (moves : List (Move ν)) (quiet : ((opened r).run moves).Quiescent)
    (held : 0 < ((opened r).run moves).registry.subscriberCount key) :
    ((opened r).run moves).subscribed key = true ↔ ¬(opened r).Misled moves key := by
  have htracked := tracked_opened h hdown
  rw [subscribed_of_quiescent quiet]
  constructor
  · intro htarget hmisled
    obtain ⟨before, after, rfl, hconfirms, hwrites⟩ := hmisled
    have hbefore : (((opened r).run before).step .receive).target key = false :=
      hconfirms.2.2
    have hafter := target_of_unwritten hbefore hwrites
    rw [run_append] at htarget
    exact Bool.false_ne_true (hafter.symm.trans htarget)
  · intro hmisled
    obtain ⟨record, hfind, -⟩ := subscriberCount_pos.mp held
    have hcovered :=
      (covered_or_misled htracked (covered_opened h hdown) moves).resolve_right hmisled
    exact (hcovered record hfind).confirmed
      (active_of_quiescent (htracked.run moves) quiet hfind).1

/-- A payload is on its way while the last subscriber leaves, the unsubscribe is written and
somebody comes back. It arrives before the new round has asked. -/
def latePayload : List (Move Nat) :=
  [.acquire trades tradesRequest, .writeSubscribe trades, .process, .answer, .receive,
    .push trades 7, .release trades ⟨0, 0⟩, .writeUnsubscribe trades 0,
    .acquire trades tradesRequest, .receive, .process, .answer, .receive]

theorem quiescent_latePayload : ((opened empty).run latePayload).Quiescent := by
  constructor <;> decide

theorem misled_by_latePayload :
    0 < ((opened empty).run latePayload).registry.subscriberCount trades ∧
      (opened empty).Misled latePayload trades := by
  refine ⟨by decide, Classical.byContradiction fun hnot => ?_⟩
  have hsubscribed := (subscribed_iff_not_misled .empty rfl latePayload quiescent_latePayload
    (by decide)).mpr hnot
  revert hsubscribed
  decide

/-- So a channel can be held with nothing on its way, nothing owed and no subscription. -/
theorem held_unsubscribed_at_rest :
    ¬∀ (r : Registry Nat) (moves : List (Move Nat)) (key : ChannelKey), Driven r →
      r.online = false → ((opened r).run moves).Quiescent →
      0 < ((opened r).run moves).registry.subscriberCount key →
      ((opened r).run moves).subscribed key = true := by
  intro law
  have hsubscribed := law empty latePayload trades .empty rfl quiescent_latePayload (by decide)
  revert hsubscribed
  decide

end Wire.Period

end ChannelMux
