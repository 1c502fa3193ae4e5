import ChannelMux.Frame
import ChannelMux.Proofs.Registry.Inboxes

/-!
What a registry is left with when the subscribes of several channels were claimed, one after the
other, and each was either encoded or found to have no wire form.
-/
namespace ChannelMux.Registry

variable {ν : Type} {r : Registry ν} {key : ChannelKey}

/-- What became of the subscribe of a channel: its frame, or why there is none. -/
abbrev Outcome : Type := ChannelKey × Except Error Frame

/-- How a channel's subscribers hear that its subscribe has no wire form. -/
def refusal (key : ChannelKey) (cause : Error) : Error := .subscribe key cause.message

/-- A subscribe is claimed; if it has no wire form, its channel fails. -/
def attempt (r : Registry ν) : Outcome → Registry ν
  | (key, .ok _) => (r.beginSubscribe key).2
  | (key, .error cause) => ((r.beginSubscribe key).2.fail key (refusal key cause)).2

def attempts (r : Registry ν) (outcomes : List Outcome) : Registry ν := outcomes.foldl attempt r

/-- A channel that owes a subscribe hands out its request. -/
theorem beginSubscribe_of_owes (hup : r.online = true) {record : Record}
    (hfind : r.find? key = some record) (howes : record.OwesSubscribe) :
    r.beginSubscribe key = (some record.request, (r.beginSubscribe key).2) := by
  have hnot := mt record.not_owesSubscribe.mpr (not_not_intro howes)
  refine Prod.ext ?_ rfl
  simp [beginSubscribe, hup, hfind, hnot]

theorem Consistent.attempt (h : r.Consistent) (outcome : Outcome) :
    (r.attempt outcome).Consistent := by
  obtain ⟨key, cause | frame⟩ := outcome
  · exact (h.perform (.beginSubscribe key)).perform (.fail key _)
  · exact h.perform (.beginSubscribe key)

theorem online_attempt (r : Registry ν) (outcome : Outcome) :
    (r.attempt outcome).online = r.online := by
  obtain ⟨key, cause | frame⟩ := outcome
  · exact (online_perform _ (.fail key _)).trans (online_perform r (.beginSubscribe key))
  · exact online_perform r (.beginSubscribe key)

/-- What an attempt leaves of the channel's record. -/
def attempted (online : Bool) (slot : Option Record) : Except Error Frame → Option Record
  | .ok _ => slot.map (·.subscribing online)
  | .error _ => none

theorem find?_attempt (r : Registry ν) (outcome : Outcome) (key : ChannelKey) :
    (r.attempt outcome).find? key =
      if outcome.1 = key then attempted r.online (r.find? key) outcome.2 else r.find? key := by
  obtain ⟨k, cause | frame⟩ := outcome
  · rw [attempt, find?_fail, find?_beginSubscribe]
    by_cases hk : k = key <;> simp [hk, attempted]
  · rw [attempt, find?_beginSubscribe]
    rfl

theorem tickets_attempt {outcome : Outcome} (hother : outcome.1 ≠ key) :
    (r.attempt outcome).tickets key = r.tickets key := by
  rw [tickets, tickets, find?_attempt, if_neg hother]

theorem inboxes_beginSubscribe (r : Registry ν) (key : ChannelKey) :
    (r.beginSubscribe key).2.inboxes = r.inboxes := by
  unfold beginSubscribe
  repeat' split
  all_goals rfl

/-- An attempt that fails tells the holders of its channel, each once and nobody else. -/
theorem Consistent.inbox_attempt (h : r.Consistent) (outcome : Outcome) (s : Nat) :
    (r.attempt outcome).inboxes[s]? = (r.inboxes[s]?).map (fun inbox =>
      match outcome.2 with
      | .ok _ => inbox
      | .error cause =>
        if ∃ held ∈ r.tickets outcome.1, held.subscriber = s then
          inbox.post (.error (refusal outcome.1 cause))
        else inbox) := by
  obtain ⟨key, cause | frame⟩ := outcome
  · have htickets : (r.perform (.beginSubscribe key)).2.tickets key = r.tickets key :=
      h.tickets_other (by simp) (by simp) (by simp)
    change ((r.perform (.beginSubscribe key)).2.fail key _).2.inboxes[s]? = _
    rw [inbox_fail, htickets]
    exact congrArg (fun inboxes => Option.map _ (inboxes[s]?)) (inboxes_beginSubscribe r key)
  · change (r.beginSubscribe key).2.inboxes[s]? = _
    simp [inboxes_beginSubscribe]

theorem Consistent.inbox_attempt_other (h : r.Consistent) {outcome : Outcome} {s : Nat}
    (hother : ∀ cause, outcome.2 = .error cause →
      ∀ held ∈ r.tickets outcome.1, held.subscriber ≠ s) :
    (r.attempt outcome).inboxes[s]? = r.inboxes[s]? := by
  rw [h.inbox_attempt]
  cases hresult : outcome.2 with
  | ok frame => simp
  | error cause =>
    have hnot : ¬∃ held ∈ r.tickets outcome.1, held.subscriber = s := by
      rintro ⟨held, hheld, hs⟩
      exact hother cause hresult held hheld hs
    simp only [if_neg hnot, Option.map_id']

theorem ne_of_later {outcome : Outcome} {rest : List Outcome}
    (hnew : outcome.1 ∉ rest.map Prod.fst) {result : Except Error Frame}
    (hlater : (key, result) ∈ rest) : outcome.1 ≠ key :=
  fun hsame => hnew (List.mem_map.mpr ⟨(key, result), hlater, hsame.symm⟩)

theorem find?_attempts_other {outcomes : List Outcome} (hother : key ∉ outcomes.map Prod.fst) :
    (r.attempts outcomes).find? key = r.find? key := by
  induction outcomes generalizing r with
  | nil => rfl
  | cons outcome rest ih =>
    rw [List.map_cons, List.mem_cons, not_or] at hother
    refine (ih hother.2).trans ?_
    rw [find?_attempt, if_neg (Ne.symm hother.1)]

/-- Each channel is left as its own attempt leaves it. By induction on the attempts. -/
theorem find?_attempts {outcomes : List Outcome} (honce : (outcomes.map Prod.fst).Nodup)
    {result : Except Error Frame} (hmem : (key, result) ∈ outcomes) :
    (r.attempts outcomes).find? key = attempted r.online (r.find? key) result := by
  induction outcomes generalizing r with
  | nil => cases hmem
  | cons outcome rest ih =>
    obtain ⟨hnew, hrest⟩ := List.nodup_cons.mp honce
    rcases List.mem_cons.mp hmem with rfl | hlater
    · refine (find?_attempts_other hnew).trans ?_
      rw [find?_attempt, if_pos rfl]
    · refine (ih hrest hlater).trans ?_
      rw [online_attempt, find?_attempt, if_neg (ne_of_later hnew hlater)]

/-- Who holds none of the channels that fail is told nothing. -/
theorem Consistent.inbox_attempts_other (h : r.Consistent) {outcomes : List Outcome}
    (honce : (outcomes.map Prod.fst).Nodup) {s : Nat}
    (hother : ∀ key cause, (key, .error cause) ∈ outcomes →
      ∀ held ∈ r.tickets key, held.subscriber ≠ s) :
    (r.attempts outcomes).inboxes[s]? = r.inboxes[s]? := by
  induction outcomes generalizing r with
  | nil => rfl
  | cons outcome rest ih =>
    obtain ⟨hnew, hrest⟩ := List.nodup_cons.mp honce
    have hkeeps : (r.attempt outcome).inboxes[s]? = r.inboxes[s]? :=
      h.inbox_attempt_other fun cause hresult =>
        hother outcome.1 cause (hresult ▸ List.mem_cons_self)
    refine (ih (h.attempt outcome) hrest fun key cause hlater held hheld => ?_).trans hkeeps
    rw [tickets_attempt (ne_of_later hnew hlater)] at hheld
    exact hother key cause (List.mem_cons_of_mem _ hlater) held hheld

/-- Who holds a channel that fails is told so once. -/
theorem Consistent.inbox_attempts_failed (h : r.Consistent) {outcomes : List Outcome}
    (honce : (outcomes.map Prod.fst).Nodup) {cause : Error}
    (hfailed : (key, .error cause) ∈ outcomes) {ticket : Ticket} (hlive : ticket ∈ r.tickets key) :
    (r.attempts outcomes).inboxes[ticket.subscriber]? =
      (r.inboxes[ticket.subscriber]?).map (·.post (.error (refusal key cause))) := by
  induction outcomes generalizing r with
  | nil => cases hfailed
  | cons outcome rest ih =>
    obtain ⟨hnew, hrest⟩ := List.nodup_cons.mp honce
    rcases List.mem_cons.mp hfailed with rfl | hlater
    · refine ((h.attempt _).inbox_attempts_other hrest ?_).trans ?_
      · intro k other hlater held hheld hsame
        have hdiffers : key ≠ k := ne_of_later hnew hlater
        rw [tickets_attempt hdiffers] at hheld
        exact hdiffers (h.ticket_unique hlive hheld hsame).1.symm
      · have howner : ∃ held ∈ r.tickets key, held.subscriber = ticket.subscriber :=
          ⟨ticket, hlive, rfl⟩
        rw [h.inbox_attempt]
        simp only [if_pos howner]
    · have hdiffers := ne_of_later hnew hlater
      have hkeeps : (r.attempt outcome).inboxes[ticket.subscriber]? =
          r.inboxes[ticket.subscriber]? :=
        h.inbox_attempt_other fun _ _ held hheld hsame =>
          hdiffers (h.ticket_unique hlive hheld hsame).1
      refine (ih (h.attempt outcome) hrest hlater ?_).trans (by rw [hkeeps])
      rw [tickets_attempt hdiffers]
      exact hlive

end ChannelMux.Registry
