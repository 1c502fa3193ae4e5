import ChannelMux.Codec.Plain
import ChannelMux.Proofs.Connection.Course

/-!
No wake-up is lost. Callers wake the manager through one stored permit that carries no data, some
time after their calls on the registry, and what the manager set out to write may be out of date by
the time it is written. Still nothing is due that nobody will see to.
-/
namespace ChannelMux

theorem Due.isEmpty_of_owed {due : Due} (h : due.owed = []) : due.isEmpty = true := by
  obtain ⟨hunsubscribe, hsubscribe⟩ := List.append_eq_nil_iff.mp h
  simp only [List.map_eq_nil_iff] at hunsubscribe hsubscribe
  simp [Due.isEmpty, hunsubscribe, hsubscribe]

namespace Course

open Registry

variable {κ ν : Type} {c : Course κ ν}

/-- The manager is about to see to a request, or to be woken, or there is somebody who will wake
it. -/
def Expects (c : Course κ ν) (owed : Owed) : Prop :=
  owed ∈ c.manager.phase.todo ∨ c.hub.permit = true ∨ 0 < c.waking

/-- Somebody will see to everything that is due. -/
structure Heeded (c : Course κ ν) : Prop where
  kept : c.Kept
  expected : ∀ owed ∈ c.registry.due.owed, c.Expects owed

theorem Kept.nothing_due (h : c.Kept) (hphase : c.manager.phase.inService = false) :
    c.registry.due.owed = [] :=
  due_of_offline (Hub.Kept.offline h hphase)

/-- A call makes a request due only if its caller will wake the manager. -/
theorem Heeded.called (h : c.Heeded) (operation : Operation ν)
    (hcaller : operation.isAcquisition = true ∨ operation.isRelease = true) :
    (c.called operation).Heeded := by
  refine ⟨Hub.Kept.called h.kept operation hcaller, fun owed hdue => ?_⟩
  rw [registry_called] at hdue
  by_cases hwakes : wakes (operation, (c.registry.perform operation).1) = true
  · refine Or.inr (Or.inr ?_)
    simp only [Course.called, if_pos hwakes]
    exact Nat.succ_pos _
  · have hbefore := (h.kept.consistent.due_caller hcaller hdue).resolve_right hwakes
    rcases h.expected owed hbefore with htodo | hpermit | hwaking
    · exact Or.inl htodo
    · exact Or.inr (Or.inl hpermit)
    · refine Or.inr (Or.inr ?_)
      simp only [Course.called, if_neg hwakes]
      exact hwaking

/-- A registry that is down needs nobody. -/
theorem Kept.heeded (h : c.Kept) (hdown : c.registry.online = false) : c.Heeded := by
  refine ⟨h, fun owed hdue => ?_⟩
  rw [due_of_offline hdown] at hdue
  cases hdue

theorem Heeded.parked (h : c.Heeded) {timers : Timers} (hphase : c.manager.phase = .serving timers)
    (hpermit : c.hub.permit = false) (hwaking : c.waking = 0) : c.registry.due.isEmpty = true := by
  refine Due.isEmpty_of_owed (List.eq_nil_iff_forall_not_mem.mpr fun owed hdue => ?_)
  rcases h.expected owed hdue with htodo | hstored | hsomebody
  · rw [hphase] at htodo
    cases htodo
  · rw [hpermit] at hstored
    cases hstored
  · exact absurd hwaking (Nat.ne_of_gt hsomebody)

variable [Codec κ ν]

/-- The manager leaves no request out, whatever it does. -/
theorem Heeded.turned (h : c.Heeded) {moment : Moment} {cue : Cue} {turn : Turn κ ν}
    (upshot : Manager.Upshot moment c.hub c.manager.phase cue turn)
    (kept : (c.turned moment cue turn).Kept) : (c.turned moment cue turn).Heeded := by
  refine ⟨kept, fun owed hdue => ?_⟩
  have hserving : turn.manager.phase.inService = true := by
    rw [← manager_turned (c := c)]
    by_contra hnot
    rw [kept.nothing_due (Bool.not_eq_true _ ▸ hnot)] at hdue
    cases hdue
  rw [Expects, manager_turned, hub_turned, waking_turned]
  rw [registry_turned] at hdue
  cases upshot with
  | established hready hbefore hafter hup =>
    rw [hup] at hdue
    rw [hafter]
    exact Or.inl (h.kept.consistent.due_up (Hub.Kept.offline h.kept hbefore) hdue)
  | worked hbefore hafter serves hpermit =>
    obtain ⟨operations, hserved, hservice, hleft⟩ := serves
    rw [hserved] at hdue
    obtain ⟨hdue, hunclaimed⟩ := h.kept.consistent.due_service hservice hdue
    rcases h.expected owed hdue with htodo | hexpected
    · refine Or.inl ((hleft owed htodo).resolve_right ?_)
      rintro ⟨now, hclaimed⟩
      exact hunclaimed now hclaimed
    · rw [hpermit]
      exact Or.inr hexpected
  | woken hbefore hafter hsame =>
    rw [hsame] at hdue
    rw [hafter]
    exact Or.inl hdue
  | away hbefore hafter =>
    rw [Phase.inService_of_isAway hafter] at hserving
    cases hserving
  | lost hbefore hafter =>
    rw [Phase.inService_of_isAway hafter] at hserving
    cases hserving
  | ended hafter =>
    rw [hafter] at hserving
    cases hserving
  | asked hcue hbefore hafter =>
    obtain ⟨deadline, hphase⟩ := hafter
    rw [hphase] at hserving
    cases hserving
  | listened hcue hbefore hafter =>
    obtain ⟨deadline, hphase⟩ := hbefore
    rw [hafter, hphase] at hserving
    cases hserving

theorem Heeded.step (h : c.Heeded) (settings : Settings) (endpoint : String) (move : Move ν) :
    (c.step settings endpoint move).Heeded := by
  have hkept := h.kept.step settings endpoint move
  cases move with
  | step moment cue =>
    simp only [Course.step] at hkept ⊢
    split
    · exact h
    · rename_i turn hstep
      rw [hstep] at hkept
      exact h.turned (Manager.upshot hstep) hkept
  | acquire key request => exact h.called (.acquire key request) (Or.inl rfl)
  | release key ticket => exact h.called (.release key ticket) (Or.inr rfl)
  | wake =>
    simp only [Course.step] at hkept ⊢
    split
    · rename_i hwaking
      rw [if_pos hwaking] at hkept
      exact ⟨hkept, fun _ _ => Or.inr (Or.inl rfl)⟩
    · exact h
  | read subscriber => exact ⟨hkept, h.expected⟩
  | close subscriber => exact ⟨hkept, h.expected⟩
  | stop => exact ⟨hkept, h.expected⟩
  | disconnect => exact hkept.heeded rfl
  | connect now =>
    simp only [Course.step] at hkept ⊢
    split
    · rename_i hfinished
      rw [if_pos hfinished] at hkept
      exact hkept.heeded (Hub.Kept.offline hkept rfl)
    · exact h

theorem heeded_run (settings : Settings) (endpoint : String) (codec : κ) (moves : List (Move ν)) :
    ((start settings codec : Course κ ν).run settings endpoint moves).Heeded := by
  have hstart : (start settings codec : Course κ ν).Heeded := (kept_start settings codec).heeded rfl
  exact run_induction (fun _ move h => h.step settings endpoint move) hstart moves

/-- While the manager has nothing in hand, no wake-up is stored and nobody has yet to wake it,
nothing is due. Before that, whatever is due is in hand, or somebody will be woken for it. -/
theorem nothing_due_while_parked (settings : Settings) (endpoint : String) (codec : κ)
    (moves : List (Move ν)) :
    let c : Course κ ν := (start settings codec).run settings endpoint moves
    (∀ owed ∈ c.registry.due.owed, c.Expects owed) ∧
      ∀ timers, c.manager.phase = .serving timers → c.hub.permit = false → c.waking = 0 →
        c.registry.due.isEmpty = true := by
  intro c
  have h : c.Heeded := heeded_run settings endpoint codec moves
  exact ⟨h.expected, fun timers hphase hpermit hwaking => h.parked hphase hpermit hwaking⟩

/-- Somebody subscribes while the manager has nothing in hand, and it is seen to. -/
def subscribedLate : List (Move PlainEvent) :=
  [.connect 0, .step atOnce .proceed, .step atOnce .opened, .step atOnce .proceed,
    .acquire trades tradesRequest, .wake, .step atOnce .nudged, .step atOnce .proceed,
    .step atOnce .proceed]

theorem nothing_due_after_subscribing :
    let codec : PlainCodec := ⟨false, none, 0⟩
    let c := (start Settings.standard codec).run Settings.standard "wss://example" subscribedLate
    (∃ timers, c.manager.phase = .serving timers) ∧ c.hub.permit = false ∧ c.waking = 0 ∧
      c.registry.due.isEmpty = true := by
  refine ⟨⟨_, rfl⟩, rfl, rfl, ?_⟩
  exact (nothing_due_while_parked Settings.standard "wss://example" _ subscribedLate).2 _ rfl rfl
    rfl

end Course

end ChannelMux
