import ChannelMux.Proofs.Registry.Owing
import ChannelMux.Proofs.Wire.Period

/-!
What the registry takes for outstanding really is: a subscribe or an unsubscribe that it has not
seen answered is still on its way to the exchange, or its answer is on its way back.
-/
namespace ChannelMux

namespace Registry

variable {ν : Type} {r : Registry ν} {key : ChannelKey}

/-- A subscribe becomes outstanding only by being handed out, and a confirmation ends that. -/
theorem sent_of_perform (distinct : r.Distinct) {operation : Operation ν} {next : Record}
    (hnext : (r.perform operation).2.find? key = some next) (hsent : next.subscribeSent = true)
    (hasks : asksFor key (operation, (r.perform operation).1) = false) :
    operation ≠ .activate key ∧
      ∃ record, r.find? key = some record ∧ record.subscribeSent = true := by
  cases hfind : r.find? key with
  | none =>
    obtain ⟨request, -, rfl⟩ := joined_of_find?_none distinct hfind hnext
    cases hsent
  | some record =>
    suffices h : operation ≠ .activate key ∧ record.subscribeSent = true by
      exact ⟨h.1, record, rfl, h.2⟩
    have hrevision := revision distinct hfind operation
    rw [hnext] at hrevision
    cases hrevision with
    | same hother =>
      refine ⟨?_, hsent⟩
      rintro rfl
      exact hother rfl
    | acquire request =>
      refine ⟨by simp, ?_⟩
      simp only [Record.joined, Record.reopened] at hsent
      repeat' split at hsent
      · cases hsent
      · exact hsent
      · exact hsent
    | release ticket hresult =>
      refine ⟨by simp, ?_⟩
      rcases Record.released_cases hresult with rfl | ⟨left, -, -, rfl⟩ | ⟨-, -, -, rfl⟩
      · exact hsent
      · exact hsent
      · exact hsent
    | activate =>
      simp only [Record.confirmed] at hsent
      split at hsent <;> cases hsent
    | unsubscribeAcked hresult =>
      refine ⟨by simp, ?_⟩
      rcases Record.unsubscribed_cases hresult with ⟨rfl, -⟩ | ⟨-, rfl⟩
      · exact hsent
      · exact hsent
    | forget hresult => exact ⟨by simp, Record.forgotten_cases hresult ▸ hsent⟩
    | beginSubscribe =>
      refine ⟨by simp, ?_⟩
      unfold Record.subscribing at hsent
      split at hsent
      · rename_i howes
        rw [(asksFor_iff _).mpr ⟨rfl, howes.1, record, hfind, howes.2⟩] at hasks
        cases hasks
      · exact hsent
    | beginUnsubscribe now hresult =>
      refine ⟨by simp, ?_⟩
      rcases Record.unsubscribing_cases hresult with ⟨rfl, -⟩ | ⟨-, -, rfl⟩
      · exact hsent
      · exact hsent
    | loss hresult =>
      obtain ⟨-, rfl⟩ := Record.afterLoss_cases hresult
      cases hsent
    | expire now timeout hresult =>
      refine ⟨by simp, ?_⟩
      rcases Record.swept_cases hresult with rfl | ⟨-, rfl⟩
      · exact hsent
      · exact hsent
    | dispatch payload =>
      refine ⟨by simp, ?_⟩
      unfold Record.fed at hsent
      split at hsent
      · cases hsent
      · exact hsent

/-- An unsubscribe becomes outstanding only by being handed out, and its answer ends that. -/
theorem marked_of_perform (distinct : r.Distinct) {operation : Operation ν} {next : Record}
    (hnext : (r.perform operation).2.find? key = some next) (hmark : next.unsubscribeSent ≠ none)
    (hgives : givesUp key (operation, (r.perform operation).1) = false) :
    operation ≠ .unsubscribeAcked key ∧
      ∃ record, r.find? key = some record ∧ record.unsubscribeSent ≠ none := by
  cases hfind : r.find? key with
  | none =>
    obtain ⟨request, -, rfl⟩ := joined_of_find?_none distinct hfind hnext
    exact absurd rfl hmark
  | some record =>
    suffices h : operation ≠ .unsubscribeAcked key ∧ record.unsubscribeSent ≠ none by
      exact ⟨h.1, record, rfl, h.2⟩
    have hrevision := revision distinct hfind operation
    rw [hnext] at hrevision
    cases hrevision with
    | same hother =>
      refine ⟨?_, hmark⟩
      rintro rfl
      exact hother rfl
    | acquire request =>
      refine ⟨by simp, ?_⟩
      simp only [Record.joined, Record.reopened] at hmark
      repeat' split at hmark
      all_goals exact hmark
    | release ticket hresult =>
      refine ⟨by simp, ?_⟩
      rcases Record.released_cases hresult with rfl | ⟨left, -, -, rfl⟩ | ⟨-, -, -, rfl⟩
      · exact hmark
      · exact hmark
      · exact hmark
    | activate =>
      refine ⟨by simp, ?_⟩
      unfold Record.confirmed at hmark
      split at hmark <;> exact hmark
    | unsubscribeAcked hresult =>
      rcases Record.unsubscribed_cases hresult with ⟨rfl, hnone⟩ | ⟨-, rfl⟩
      · exact absurd hnone hmark
      · exact absurd rfl hmark
    | forget hresult => exact ⟨by simp, Record.forgotten_cases hresult ▸ hmark⟩
    | beginSubscribe =>
      refine ⟨by simp, ?_⟩
      unfold Record.subscribing at hmark
      split at hmark <;> exact hmark
    | beginUnsubscribe now hresult =>
      refine ⟨by simp, ?_⟩
      rcases Record.unsubscribing_cases hresult with ⟨rfl, -⟩ | ⟨howes, hup, -⟩
      · exact hmark
      · rw [(givesUp_iff _).mpr ⟨⟨now, rfl⟩, hup, record, hfind, howes⟩] at hgives
        cases hgives
    | loss hresult =>
      obtain ⟨-, rfl⟩ := Record.afterLoss_cases hresult
      exact absurd rfl hmark
    | expire now timeout hresult =>
      refine ⟨by simp, ?_⟩
      rcases Record.swept_cases hresult with rfl | ⟨-, rfl⟩
      · exact hmark
      · exact absurd rfl hmark
    | dispatch payload =>
      refine ⟨by simp, ?_⟩
      unfold Record.fed at hmark
      split at hmark <;> exact hmark

end Registry

namespace Wire.Period

open Registry

variable {ν : Type} {p : Period ν} {key : ChannelKey}

/-- A request has not reached the exchange yet, or its answer has not come back. -/
def Underway (p : Period ν) (request : Request) : Prop :=
  request ∈ p.outbound ∨ request ∈ p.unanswered ∨ request.reply ∈ p.inbound

theorem underway_of_written {move : Move ν} {request : Request}
    (h : p.written move = some request) : (p.step move).Underway request := by
  cases move with
  | writeSubscribe k => exact Or.inl (List.mem_append_right _ (by simp [h]))
  | writeUnsubscribe k now => exact Or.inl (List.mem_append_right _ (by simp [h]))
  | _ => cases h

/-- A request stays under way until its answer is taken in. -/
theorem Underway.step {request : Request} (h : p.Underway request) {move : Move ν}
    (hcall : p.call? move ≠ some request.reply.operation) : (p.step move).Underway request := by
  obtain hout | hwait | hin := h
  · cases move with
    | process =>
      simp only [Period.step]
      split
      · exact Or.inl hout
      · rename_i first rest hfirst
        rw [hfirst] at hout
        rcases List.mem_cons.mp hout with rfl | hrest
        · exact Or.inr (Or.inl (by simp))
        · exact Or.inl hrest
    | answer =>
      simp only [Period.step]
      split <;> exact Or.inl hout
    | push k content =>
      simp only [Period.step]
      split <;> exact Or.inl hout
    | receive => exact Or.inl hout
    | _ => exact Or.inl (List.mem_append_left _ hout)
  · cases move with
    | process =>
      simp only [Period.step]
      split
      · exact Or.inr (Or.inl hwait)
      · exact Or.inr (Or.inl (List.mem_append_left _ hwait))
    | answer =>
      simp only [Period.step]
      split
      · exact Or.inr (Or.inl hwait)
      · rename_i first rest hfirst
        rw [hfirst] at hwait
        rcases List.mem_cons.mp hwait with rfl | hrest
        · exact Or.inr (Or.inr (by simp))
        · exact Or.inr (Or.inl hrest)
    | push k content =>
      simp only [Period.step]
      split <;> exact Or.inr (Or.inl hwait)
    | _ => exact Or.inr (Or.inl hwait)
  · cases move with
    | process =>
      simp only [Period.step]
      split <;> exact Or.inr (Or.inr hin)
    | answer =>
      simp only [Period.step]
      split
      · exact Or.inr (Or.inr hin)
      · exact Or.inr (Or.inr (List.mem_append_left _ hin))
    | push k content =>
      simp only [Period.step]
      split
      · exact Or.inr (Or.inr (List.mem_append_left _ hin))
      · exact Or.inr (Or.inr hin)
    | receive =>
      refine Or.inr (Or.inr ?_)
      cases hqueue : p.inbound with
      | nil => rw [hqueue] at hin; cases hin
      | cons reply rest =>
        rw [hqueue] at hin
        rcases List.mem_cons.mp hin with rfl | hrest
        · exact absurd (by simp [call?, hqueue]) hcall
        · simpa [Period.step, hqueue] using hrest
    | _ => exact Or.inr (Or.inr hin)

theorem written_subscribe_iff {move : Move ν} :
    p.written move = some (.subscribe key) ↔ ∃ operation, p.call? move = some operation ∧
      asksFor key (operation, (p.registry.perform operation).1) = true := by
  simp only [asksFor_iff, ← beginSubscribe_isSome]
  cases move with
  | writeSubscribe k =>
    simp only [written, call?, Option.some.injEq]
    constructor
    · intro h
      split at h
      · rename_i hsome
        cases h
        exact ⟨_, rfl, rfl, hsome⟩
      · cases h
    · intro h
      obtain ⟨_, rfl, hk, hsome⟩ := h
      cases hk
      rw [if_pos hsome]
  | writeUnsubscribe k now =>
    simp only [written, call?, Option.some.injEq]
    constructor
    · intro h
      split at h <;> cases h
    · intro h
      obtain ⟨_, rfl, hk, -⟩ := h
      cases hk
  | receive =>
    simp only [written, call?, Option.map_eq_some_iff, reduceCtorEq, false_iff]
    intro h
    obtain ⟨_, ⟨reply, -, rfl⟩, hreply, -⟩ := h
    cases reply <;> cases hreply
  | _ => simp [written, call?]

theorem written_unsubscribe_iff {move : Move ν} :
    p.written move = some (.unsubscribe key) ↔ ∃ operation, p.call? move = some operation ∧
      givesUp key (operation, (p.registry.perform operation).1) = true := by
  cases move with
  | writeUnsubscribe k now =>
    simp only [written, call?, Option.some.injEq, exists_eq_left', givesUp, perform, Prod.map_fst]
    cases h : (p.registry.beginUnsubscribe k now).1 <;> simp
  | writeSubscribe k =>
    simp only [written, call?, Option.some.injEq, exists_eq_left', givesUp]
    split <;> simp
  | receive =>
    simp only [written, call?, Option.map_eq_some_iff, reduceCtorEq, false_iff]
    intro h
    obtain ⟨_, ⟨reply, -, rfl⟩, hreply⟩ := h
    cases reply <;> cases hreply
  | _ => simp [written, call?, givesUp]

/-- What holds all through an online period: whatever is outstanding for the registry is under
way. -/
structure Tracked (p : Period ν) : Prop where
  reachable : Reachable p.registry
  up : p.registry.online = true
  sent : ∀ key record, p.registry.find? key = some record → record.subscribeSent = true →
    p.Underway (.subscribe key)
  marked : ∀ key record, p.registry.find? key = some record → record.unsubscribeSent ≠ none →
    p.Underway (.unsubscribe key)

theorem tracked_opened {r : Registry ν} (h : Driven r) (hdown : r.online = false) :
    (opened r).Tracked where
  reachable := h.reachable.perform (.setOnline true)
  up := rfl
  sent key record hfind hsent := by
    have howes := (h.owes_of_offline hdown hfind).1
    rw [howes.2.1] at hsent
    cases hsent
  marked key record hfind hmark := absurd (h.owes_of_offline hdown hfind).2 hmark

theorem call_ne_setOnline {move : Move ν} {operation : Operation ν}
    (hcall : p.call? move = some operation) (up : Bool) : operation ≠ .setOnline up := by
  rintro rfl
  cases move with
  | receive =>
    obtain ⟨reply, -, hreply⟩ := Option.map_eq_some_iff.mp hcall
    cases reply <;> cases hreply
  | _ => cases hcall

theorem Tracked.step (h : p.Tracked) (move : Move ν) : (p.step move).Tracked := by
  cases hcall : p.call? move with
  | none =>
    have hregistry := registry_step_of_none hcall
    have hstay : ∀ request, p.Underway request → (p.step move).Underway request :=
      fun request hway => hway.step (by simp [hcall])
    constructor
    · rw [hregistry]; exact h.reachable
    · rw [hregistry]; exact h.up
    · rw [hregistry]
      exact fun key record hfind hsent => hstay _ (h.sent key record hfind hsent)
    · rw [hregistry]
      exact fun key record hfind hmark => hstay _ (h.marked key record hfind hmark)
  | some operation =>
    have hregistry := registry_step_of_call hcall
    constructor
    · rw [hregistry]; exact h.reachable.perform operation
    · rw [hregistry, online_perform]
      cases operation with
      | setOnline up => exact absurd rfl (call_ne_setOnline hcall up)
      | _ => exact h.up
    · intro key next hnext hsent
      rw [hregistry] at hnext
      cases hasks : asksFor key (operation, (p.registry.perform operation).1) with
      | true => exact underway_of_written (written_subscribe_iff.mpr ⟨operation, hcall, hasks⟩)
      | false =>
        obtain ⟨hother, record, hfind, hbefore⟩ :=
          sent_of_perform h.reachable.distinct hnext hsent hasks
        refine (h.sent key record hfind hbefore).step ?_
        rw [hcall]
        exact fun heq => hother (Option.some.inj heq)
    · intro key next hnext hmark
      rw [hregistry] at hnext
      cases hgives : givesUp key (operation, (p.registry.perform operation).1) with
      | true => exact underway_of_written (written_unsubscribe_iff.mpr ⟨operation, hcall, hgives⟩)
      | false =>
        obtain ⟨hother, record, hfind, hbefore⟩ :=
          marked_of_perform h.reachable.distinct hnext hmark hgives
        refine (h.marked key record hfind hbefore).step ?_
        rw [hcall]
        exact fun heq => hother (Option.some.inj heq)

theorem Tracked.run (h : p.Tracked) (moves : List (Move ν)) : (p.run moves).Tracked := by
  induction moves generalizing p with
  | nil => exact h
  | cons move rest ih => exact ih (h.step move)

/-- At rest every record is held, confirmed, and has nothing outstanding. -/
theorem active_of_quiescent (h : p.Tracked) (quiet : p.Quiescent) {record : Record}
    (hfind : p.registry.find? key = some record) :
    record.state = .active ∧ record.subscribers ≠ [] := by
  have hnone : ∀ request, ¬p.Underway request := by
    intro request hway
    simp [Underway, quiet.outbound, quiet.unanswered, quiet.inbound] at hway
  have hsent : record.subscribeSent = false :=
    Bool.eq_false_iff.mpr fun hsent => hnone _ (h.sent key record hfind hsent)
  have hmark : record.unsubscribeSent = none :=
    Classical.byContradiction fun hmark => hnone _ (h.marked key record hfind hmark)
  obtain ⟨hsubscribe, hunsubscribe⟩ :
      p.registry.due.subscribe = [] ∧ p.registry.due.unsubscribe = [] := by
    simpa [Due.isEmpty] using quiet.due
  have hidle := (h.reachable.sound hfind).idle
  cases hstate : record.state with
  | active =>
    refine ⟨rfl, fun hleft => ?_⟩
    rw [hidle.mpr hleft] at hstate
    cases hstate
  | pending =>
    have held : record.subscribers ≠ [] := fun hleft => by
      rw [hidle.mpr hleft] at hstate
      cases hstate
    have hdue := h.reachable.distinct.mem_due_subscribe.mpr
      ⟨h.up, record, hfind, hstate, hsent, held⟩
    rw [hsubscribe] at hdue
    cases hdue
  | unsubscribing =>
    have hdue := h.reachable.distinct.mem_due_unsubscribe.mpr
      ⟨h.up, record, hfind, hstate, hmark, hidle.mp hstate⟩
    rw [hunsubscribe] at hdue
    cases hdue

end Wire.Period

end ChannelMux
