import ChannelMux.Proofs.Wire.Answers
import Mathlib.Data.List.Induction

/-!
Subscriptions that nobody holds. The exchange is subscribed to a channel without a record only if
the record went while the last request written for the channel was a subscribe. That happens when an
unsubscribe of an earlier round is still marked: its answer takes the record of the new round along,
or the new round is started over and left before it asks again.
-/
namespace ChannelMux

namespace Registry

variable {ν : Type} {r : Registry ν} {key : ChannelKey}

theorem release_removed (ticket : Ticket) : (r.release key ticket).1 = .removed ↔
    ∃ record, r.find? key = some record ∧ record.released r.online ticket = none := by
  unfold release
  cases r.find? key with
  | none => simp
  | some record =>
    simp only [Option.some.injEq, exists_eq_left', Record.released]
    repeat' split
    all_goals simp

theorem unsubscribeAcked_drops :
    (r.unsubscribeAcked key).1 = true ∧ r.subscriberCount key = 0 ↔
      ∃ record, r.find? key = some record ∧ record.unsubscribed = none := by
  unfold unsubscribeAcked subscriberCount
  cases r.find? key with
  | none => simp
  | some record =>
    simp only [Option.some.injEq, exists_eq_left', Record.unsubscribed]
    by_cases hmark : record.unsubscribeSent = none <;> by_cases hleft : record.subscribers = [] <;>
      simp [hmark, hleft]

/-- How the record of a channel can go while the connection is up. -/
theorem gone_perform (distinct : r.Distinct) (hup : r.online = true) {record : Record}
    (hfind : r.find? key = some record) {operation : Operation ν}
    (hgone : (r.perform operation).2.find? key = none) :
    match operation with
    | .release k ticket => k = key ∧ (r.release key ticket).1 = .removed
    | .unsubscribeAcked k =>
      k = key ∧ (r.unsubscribeAcked key).1 = true ∧ r.subscriberCount key = 0
    | .fail k _ => k = key
    | .forget k => k = key
    | .expire _ _ => True
    | .setOnline up => up = false
    | _ => False := by
  have hrevision := revision distinct hfind operation
  rw [hgone] at hrevision
  cases hrevision with
  | release ticket hresult => exact ⟨rfl, (release_removed ticket).mpr ⟨record, hfind, hresult⟩⟩
  | unsubscribeAcked hresult =>
    exact ⟨rfl, unsubscribeAcked_drops.mpr ⟨record, hfind, hresult⟩⟩
  | beginUnsubscribe now hresult =>
    rw [Record.unsubscribing, if_pos hup] at hresult
    split at hresult <;> cases hresult
  | fail error => rfl
  | forget hresult => rfl
  | loss hresult => rfl
  | expire now timeout hresult => exact trivial

/-- A channel without a record gets one by an acquisition and by nothing else. -/
theorem absent_perform (distinct : r.Distinct) (hfind : r.find? key = none)
    {operation : Operation ν} (hacquire : ∀ request, operation ≠ .acquire key request) :
    (r.perform operation).2.find? key = none := by
  cases hnext : (r.perform operation).2.find? key with
  | none => rfl
  | some next =>
    obtain ⟨request, hop, -⟩ := joined_of_find?_none distinct hfind hnext
    exact absurd hop (hacquire request)

end Registry

namespace Wire

open Registry

variable {ν : Type} {key : ChannelKey}

/-- The exchange ends up subscribed exactly if the last request for the channel subscribes it. -/
theorem foldl_apply_iff {subscribed : ChannelKey → Bool} (hnone : subscribed key = false)
    (requests : List Request) :
    requests.foldl (fun subscribed request => request.apply subscribed) subscribed key = true ↔
      ∃ earlier later, requests = earlier ++ .subscribe key :: later ∧
        .unsubscribe key ∉ later := by
  induction requests using List.reverseRecOn with
  | nil => simp [hnone]
  | append_singleton requests last ih =>
    rw [List.foldl_append, List.foldl_cons, List.foldl_nil]
    by_cases hsubscribe : last = .subscribe key
    · subst hsubscribe
      exact iff_of_true (if_pos rfl) ⟨requests, [], rfl, by simp⟩
    constructor
    · intro hlast
      have hunsubscribe : last ≠ .unsubscribe key := by
        rintro rfl
        exact Bool.false_ne_true ((if_pos rfl : _ = false).symm.trans hlast)
      rw [last.apply_other hsubscribe hunsubscribe] at hlast
      obtain ⟨earlier, later, rfl, hlater⟩ := ih.mp hlast
      exact ⟨earlier, later ++ [last], by simp, by simp [hlater, Ne.symm hunsubscribe]⟩
    · intro hlast
      obtain ⟨earlier, later, hsplit, hlater⟩ := hlast
      rcases List.eq_nil_or_concat later with rfl | ⟨front, final, rfl⟩
      · exact absurd (List.append_inj_right' hsplit rfl) (by simpa using hsubscribe)
      · rw [List.concat_eq_append] at hsplit hlater
        rw [← List.cons_append, ← List.append_assoc] at hsplit
        obtain ⟨hfront, hfinal⟩ := List.append_inj' hsplit rfl
        have hlast : last = final := List.singleton_inj.mp hfinal
        subst hlast
        simp only [List.mem_append, List.mem_singleton, not_or] at hlater
        rw [last.apply_other hsubscribe (Ne.symm hlater.2)]
        exact ih.mpr ⟨earlier, front, hfront, hlater.1⟩

namespace Period

variable {p : Period ν}

/-- The move takes the record of `key` away, although the last request written for `key` is a
subscribe: the last subscriber leaves a round that has not asked yet, or an unsubscribe of an
earlier round is answered while nobody holds the channel. -/
def DropsLive (p : Period ν) (key : ChannelKey) : Move ν → Prop
  | .release k ticket =>
    k = key ∧ p.target key = true ∧ (p.registry.release key ticket).1 = .removed
  | .receive =>
    p.inbound.head? = some (.unsubscribed key) ∧ p.target key = true ∧
      (p.registry.unsubscribeAcked key).1 = true ∧ p.registry.subscriberCount key = 0
  | _ => False

/-- Somewhere in the run the record was dropped like that, and nobody came back since. -/
def Orphaned (p : Period ν) (moves : List (Move ν)) (key : ChannelKey) : Prop :=
  ∃ before move after, moves = before ++ move :: after ∧ (p.run before).DropsLive key move ∧
    ∀ request, .acquire key request ∉ after

/-- Whatever the exchange is heading for has a record. -/
def Kept (p : Period ν) (key : ChannelKey) : Prop :=
  p.target key = true → (p.registry.find? key).isSome

theorem kept_opened (r : Registry ν) : (opened r).Kept key := by
  intro htarget
  cases htarget

theorem Kept.step_of_acquire (p : Period ν) (request : ChannelRequest) :
    (p.step (.acquire key request)).Kept key := by
  intro _
  change ((p.registry.acquire key request).2.find? key).isSome
  rw [find?_acquire, if_pos rfl]
  rfl

theorem not_written_of_absent (hfind : p.registry.find? key = none) (move : Move ν) :
    p.written move ≠ some (.subscribe key) ∧ p.written move ≠ some (.unsubscribe key) := by
  constructor
  · intro hwritten
    obtain ⟨operation, -, hasks⟩ := written_subscribe_iff.mp hwritten
    obtain ⟨-, -, record, hrecord, -⟩ := (asksFor_iff operation).mp hasks
    rw [hfind] at hrecord
    cases hrecord
  · intro hwritten
    obtain ⟨operation, -, hgives⟩ := written_unsubscribe_iff.mp hwritten
    obtain ⟨-, -, record, hrecord, -⟩ := (givesUp_iff operation).mp hgives
    rw [hfind] at hrecord
    cases hrecord

/-- Writing a subscribe keeps the record that it is written for. -/
theorem found_of_subscribe (htracked : p.Tracked) {move : Move ν}
    (h : p.written move = some (.subscribe key)) :
    ((p.step move).registry.find? key).isSome := by
  obtain ⟨operation, hcall, hasks⟩ := written_subscribe_iff.mp h
  obtain ⟨rfl, -, record, hfind, -⟩ := (asksFor_iff operation).mp hasks
  rw [registry_step_of_call hcall, find?_perform htracked.reachable.distinct, hfind]
  simp [Operation.revise]

/-- One move keeps the record of whatever the exchange is heading for, unless it drops it live. -/
theorem Kept.step (htracked : p.Tracked) (h : p.Kept key) {move : Move ν}
    (hdrops : ¬p.DropsLive key move) : (p.step move).Kept key := by
  intro htarget
  by_cases hsubscribe : p.written move = some (.subscribe key)
  · exact found_of_subscribe htracked hsubscribe
  have hunsubscribe : p.written move ≠ some (.unsubscribe key) := by
    intro hwritten
    rw [target_of_unsubscribe hwritten] at htarget
    cases htarget
  rw [target_unchanged hsubscribe hunsubscribe] at htarget
  obtain ⟨record, hfind⟩ := Option.isSome_iff_exists.mp (h htarget)
  cases hcall : p.call? move with
  | none => rw [registry_step_of_none hcall, hfind]; rfl
  | some operation =>
    rw [registry_step_of_call hcall]
    cases hnext : (p.registry.perform operation).2.find? key with
    | some next => rfl
    | none =>
      have hgone := gone_perform htracked.reachable.distinct htracked.up hfind hnext
      cases move with
      | release k ticket =>
        cases hcall
        exact absurd ⟨hgone.1, htarget, hgone.2⟩ hdrops
      | receive =>
        obtain ⟨reply, hhead, rfl⟩ := Option.map_eq_some_iff.mp hcall
        cases reply with
        | unsubscribed k =>
          obtain ⟨rfl, hanswered⟩ := hgone
          exact absurd ⟨hhead, htarget, hanswered⟩ hdrops
        | _ => exact hgone.elim
      | _ => cases hcall <;> exact hgone.elim

/-- A whole run, by induction on the moves from the last one back. -/
theorem kept_or_orphaned (htracked : p.Tracked) (h : p.Kept key) (moves : List (Move ν)) :
    (p.run moves).Kept key ∨ p.Orphaned moves key := by
  induction moves using List.reverseRecOn with
  | nil => exact Or.inl h
  | append_singleton moves move ih =>
    rw [run_append]
    rcases ih with hkept | ⟨before, dropping, after, rfl, hdrops, hacquire⟩
    · by_cases hdrops : (p.run moves).DropsLive key move
      · exact Or.inr ⟨moves, move, [], rfl, hdrops, by simp⟩
      · exact Or.inl (hkept.step (htracked.run moves) hdrops)
    · by_cases hback : ∃ request, move = .acquire key request
      · obtain ⟨request, rfl⟩ := hback
        exact Or.inl (.step_of_acquire _ request)
      · refine Or.inr ⟨before, dropping, after ++ [move], by simp, hdrops, ?_⟩
        intro request hmem
        rcases List.mem_append.mp hmem with hearlier | hnow
        · exact hacquire request hearlier
        · exact hback ⟨request, (List.mem_singleton.mp hnow).symm⟩

theorem DropsLive.gone {move : Move ν} (h : p.DropsLive key move) :
    (p.step move).registry.find? key = none ∧ (p.step move).target key = true := by
  cases move with
  | release k ticket =>
    obtain ⟨rfl, htarget, hremoved⟩ := h
    obtain ⟨record, hfind, hnone⟩ := (release_removed ticket).mp hremoved
    refine ⟨?_, ?_⟩
    · change (p.registry.release k ticket).2.find? k = none
      rw [find?_release, if_pos rfl, hfind]
      exact hnone
    · rw [target_unchanged (by simp [written]) (by simp [written])]
      exact htarget
  | receive =>
    obtain ⟨hhead, htarget, hanswered⟩ := h
    obtain ⟨record, hfind, hnone⟩ := unsubscribeAcked_drops.mp hanswered
    refine ⟨?_, htarget⟩
    have hcall : p.call? .receive = some (.unsubscribeAcked key) := by simp [call?, hhead,
      Reply.operation]
    rw [registry_step_of_call hcall]
    change (p.registry.unsubscribeAcked key).2.find? key = none
    rw [find?_unsubscribeAcked, if_pos rfl, hfind]
    exact hnone
  | _ => exact h.elim

/-- While nobody comes back, a channel without a record stays as it is at the exchange. -/
theorem absent_run (htracked : p.Tracked) (hfind : p.registry.find? key = none)
    {moves : List (Move ν)} (hacquire : ∀ request, .acquire key request ∉ moves) :
    (p.run moves).registry.find? key = none ∧ (p.run moves).target key = p.target key := by
  induction moves generalizing p with
  | nil => exact ⟨hfind, rfl⟩
  | cons move rest ih =>
    simp only [List.mem_cons, not_or] at hacquire
    obtain ⟨hsubscribe, hunsubscribe⟩ := not_written_of_absent hfind move
    have hnext : (p.step move).registry.find? key = none := by
      cases hcall : p.call? move with
      | none => rw [registry_step_of_none hcall]; exact hfind
      | some operation =>
        rw [registry_step_of_call hcall]
        refine absent_perform htracked.reachable.distinct hfind ?_
        rintro request rfl
        refine (hacquire request).1 ?_
        cases move with
        | acquire k other => cases hcall; rfl
        | receive =>
          obtain ⟨reply, -, hreply⟩ := Option.map_eq_some_iff.mp hcall
          cases reply <;> cases hreply
        | _ => cases hcall
    obtain ⟨hlast, htarget⟩ := ih (htracked.step move) hnext fun request => (hacquire request).2
    exact ⟨hlast, htarget.trans (target_unchanged hsubscribe hunsubscribe)⟩

/-- A channel whose record was dropped live ends up subscribed, with nobody to hold it. -/
theorem Orphaned.leaks {moves : List (Move ν)} (h : p.Orphaned moves key) (htracked : p.Tracked) :
    (p.run moves).target key = true ∧ (p.run moves).registry.subscriberCount key = 0 := by
  obtain ⟨before, move, after, rfl, hdrops, hacquire⟩ := h
  obtain ⟨hgone, htarget⟩ := hdrops.gone
  obtain ⟨hfind, hlast⟩ := absent_run ((htracked.run before).step move) hgone hacquire
  have hrun : p.run (before ++ move :: after) = ((p.run before).step move).run after :=
    run_append p before (move :: after)
  rw [hrun, subscriberCount, hfind]
  exact ⟨hlast.trans htarget, rfl⟩

theorem held_of_not_orphaned (htracked : p.Tracked) (h : p.Kept key) {moves : List (Move ν)}
    (quiet : (p.run moves).Quiescent) (hnot : ¬p.Orphaned moves key)
    (htarget : (p.run moves).target key = true) :
    0 < (p.run moves).registry.subscriberCount key := by
  have hkept := (kept_or_orphaned htracked h moves).resolve_right hnot
  obtain ⟨record, hfind⟩ := Option.isSome_iff_exists.mp (hkept htarget)
  exact subscriberCount_pos.mpr
    ⟨record, hfind, (active_of_quiescent (htracked.run moves) quiet hfind).2⟩

/-- At rest, what the exchange is subscribed to is held, and what nobody holds has been unsubscribed
after the last subscribe, exactly unless the record was dropped live and nobody came back. -/
theorem held_iff_not_orphaned {r : Registry ν} (h : Driven r) (hdown : r.online = false)
    (moves : List (Move ν)) (quiet : ((opened r).run moves).Quiescent) (key : ChannelKey) :
    ((((opened r).run moves).subscribed key = true →
        0 < ((opened r).run moves).registry.subscriberCount key) ↔
      ¬(opened r).Orphaned moves key) ∧
    ((((opened r).run moves).registry.subscriberCount key = 0 →
        ∀ earlier later, (opened r).writes moves = earlier ++ .subscribe key :: later →
          .unsubscribe key ∈ later) ↔
      ¬(opened r).Orphaned moves key) := by
  have htracked := tracked_opened h hdown
  have hwritten : ((opened r).run moves).target key = true ↔ ∃ earlier later,
      (opened r).writes moves = earlier ++ .subscribe key :: later ∧
        .unsubscribe key ∉ later := by
    rw [target_run]
    exact foldl_apply_iff rfl _
  have hkept : (opened r).Kept key := kept_opened r
  have hheld := held_of_not_orphaned htracked hkept quiet
  rw [subscribed_of_quiescent quiet]
  refine ⟨⟨?_, hheld⟩, ?_, ?_⟩
  · intro hlaw hleak
    obtain ⟨htarget, hnone⟩ := hleak.leaks htracked
    have hpos := hlaw htarget
    omega
  · intro hlaw hleak
    obtain ⟨htarget, hnone⟩ := hleak.leaks htracked
    obtain ⟨earlier, later, hwrites, hlater⟩ := hwritten.mp htarget
    exact hlater (hlaw hnone earlier later hwrites)
  · intro hnot hnone earlier later hwrites
    apply Classical.byContradiction
    intro hlater
    have hpos := hheld hnot (hwritten.mpr ⟨earlier, later, hwrites, hlater⟩)
    omega

/-- The channel is left, joined, asked for and left again before the first unsubscribe is answered.
The answer takes the record away, and the second subscribe is processed after that. -/
def overlappingRounds : List (Move Nat) :=
  [.acquire trades tradesRequest, .writeSubscribe trades, .process, .answer, .receive,
    .release trades ⟨0, 0⟩, .writeUnsubscribe trades 0, .acquire trades tradesRequest,
    .writeSubscribe trades, .release trades ⟨1, 1⟩, .writeUnsubscribe trades 1, .process, .answer,
    .receive, .process, .answer, .receive]

theorem quiescent_overlappingRounds : ((opened empty).run overlappingRounds).Quiescent := by
  constructor <;> decide

theorem orphaned_by_overlappingRounds :
    ((opened empty).run overlappingRounds).subscribed trades = true ∧
      (opened empty).Orphaned overlappingRounds trades := by
  refine ⟨by decide, Classical.byContradiction fun hnot => ?_⟩
  have hheld := (held_iff_not_orphaned .empty rfl overlappingRounds quiescent_overlappingRounds
    trades).1.mpr hnot
  revert hheld
  decide

/-- So the exchange can stay subscribed to a channel that nobody holds, with nothing on its way and
nothing owed. -/
theorem subscribed_unheld_at_rest :
    ¬∀ (r : Registry Nat) (moves : List (Move Nat)) (key : ChannelKey), Driven r →
      r.online = false → ((opened r).run moves).Quiescent →
      ((opened r).run moves).subscribed key = true →
      0 < ((opened r).run moves).registry.subscriberCount key := by
  intro law
  have hheld := law empty overlappingRounds trades .empty rfl quiescent_overlappingRounds
    (by decide)
  revert hheld
  decide

end Period

end Wire

end ChannelMux
