import ChannelMux.Proofs.Client.Delivery

/-!
A client takes all that a stream holds at once. That is polling the stream until it has nothing to
yield.
-/
namespace ChannelMux

open Registry

variable {ν : Type}

namespace Registry

/-- In every inbox an error is last, and nobody sends to that inbox any more. -/
def ErrorsLast (r : Registry ν) : Prop :=
  ∀ s before error after, r.unread s = before ++ .error error :: after →
    after = [] ∧ r.isLinked s = false

variable {r : Registry ν}

theorem errorsLast_empty : (empty : Registry ν).ErrorsLast := by
  intro s before error after hsplit
  simp [unread, empty] at hsplit

/-- A call leaves every inbox as it is, or puts one item last into it. -/
theorem Consistent.unread_perform (h : r.Consistent) (operation : Operation ν) (s : Nat) :
    (r.perform operation).2.unread s = r.unread s ∨
      ∃ key ticket item, ticket ∈ r.tickets key ∧ ticket.subscriber = s ∧
        operation.posts? key = some item ∧
        (r.perform operation).2.unread s = r.unread s ++ [item] := by
  by_cases hknown : s < r.inboxes.length
  · cases hlinked : r.isLinked s with
    | false =>
      have hsame := h.inbox_of_unlinked hknown hlinked operation
      exact Or.inl (congrArg (fun inbox => (inbox.map Inbox.items).getD []) hsame)
    | true =>
      obtain ⟨key, ticket, hlive, rfl⟩ := (h.isLinked_iff s).mp hlinked
      have hinbox := h.inbox_of_live hlive operation
      obtain ⟨inbox, hold⟩ : ∃ inbox, r.inboxes[ticket.subscriber]? = some inbox :=
        ⟨_, List.getElem?_eq_getElem hknown⟩
      rw [hold, Option.map_some] at hinbox
      rw [unread_of_getElem? hinbox, unread_of_getElem? hold]
      cases hposts : operation.posts? key with
      | none => exact Or.inl rfl
      | some item =>
        rw [Option.elim_some, Inbox.post]
        split
        · exact Or.inr ⟨key, ticket, item, hlive, rfl, hposts, rfl⟩
        · exact Or.inl rfl
  · have hnone : r.inboxes[s]? = none := List.getElem?_eq_none (Nat.le_of_not_lt hknown)
    refine Or.inl ?_
    rw [unread, unread, hnone]
    cases operation with
    | acquire key request =>
      change (((r.inboxes ++ [Inbox.empty])[s]?).map Inbox.items).getD [] = []
      rw [List.getElem?_append_right (Nat.le_of_not_lt hknown)]
      cases s - r.inboxes.length <;> rfl
    | _ =>
      rw [List.getElem?_eq_none]
      rw [length_inboxes_perform]
      exact Nat.le_of_not_lt hknown

theorem Consistent.errorsLast_perform (h : r.Consistent) (hlast : r.ErrorsLast)
    (operation : Operation ν) : (r.perform operation).2.ErrorsLast := by
  intro s before error after hsplit
  rcases h.unread_perform operation s with hsame | ⟨key, ticket, item, hlive, rfl, hposts, hnew⟩
  · rw [hsame] at hsplit
    obtain ⟨hafter, hlost⟩ := hlast s before error after hsplit
    have hknown : s < r.inboxes.length := by
      refine Nat.lt_of_not_le fun hle => ?_
      rw [unread, List.getElem?_eq_none hle] at hsplit
      simp at hsplit
    exact ⟨hafter, h.unlinked_perform hknown hlost operation⟩
  · have hlinked := (h.isLinked_iff ticket.subscriber).mpr ⟨key, ticket, hlive, rfl⟩
    rw [hnew] at hsplit
    rcases List.eq_nil_or_concat after with rfl | ⟨middle, last, rfl⟩
    · -- the error was put last just now, so a refusal put it there
      obtain ⟨-, hitem⟩ := List.append_inj' hsplit rfl
      obtain rfl : item = .error error := (List.cons.inj hitem).1
      refine ⟨rfl, h.unlinked_of_ends hlive ?_⟩
      cases operation with
      | fail k cause =>
        have hk : k = key ∧ cause = error := by simpa [Operation.posts?] using hposts
        simpa [Operation.ends] using hk.1
      | dispatch k payload => simp [Operation.posts?] at hposts
      | _ => cases hposts
    · -- the error was there before, where nobody sends any more
      rw [List.concat_eq_append, ← List.cons_append, ← List.append_assoc] at hsplit
      obtain ⟨hold, -⟩ := List.append_inj' hsplit rfl
      obtain ⟨-, hlost⟩ := hlast ticket.subscriber before error middle hold
      rw [hlinked] at hlost
      cases hlost

theorem unread_dropOldest (r : Registry ν) (m s : Nat) :
    (r.dropOldest m).unread s = if m = s then (r.unread s).tail else r.unread s := by
  rw [unread, unread, getElem?_dropOldest]
  cases r.inboxes[s]? with
  | none => simp
  | some inbox => by_cases hm : m = s <;> simp [hm]

theorem ErrorsLast.dropOldest (hlast : r.ErrorsLast) (m : Nat) : (r.dropOldest m).ErrorsLast := by
  intro s before error after hsplit
  rw [unread_dropOldest] at hsplit
  split at hsplit
  · cases hold : r.unread s with
    | nil => simp [hold] at hsplit
    | cons first rest =>
      rw [hold, List.tail_cons] at hsplit
      exact hlast s (first :: before) error after (by rw [hold, hsplit, List.cons_append])
  · exact hlast s before error after hsplit

theorem getElem?_receive (r : Registry ν) (s m : Nat) :
    (r.receive s).2.inboxes[m]? = (r.inboxes[m]?).map (fun inbox =>
      if s = m then { inbox with items := [] } else inbox) := by
  simp only [receive, List.getElem?_modify]
  split <;> simp

theorem receive_of_unread_nil {s : Nat} (hnone : r.unread s = []) : (r.receive s).2 = r := by
  have hinboxes : (r.receive s).2.inboxes = r.inboxes := by
    refine List.ext_getElem? fun m => ?_
    rw [getElem?_receive]
    cases hinbox : r.inboxes[m]? with
    | none => rfl
    | some inbox =>
      by_cases hm : s = m
      · subst hm
        rw [unread_of_getElem? hinbox] at hnone
        simp [← hnone]
      · simp [hm]
  exact congrArg (fun inboxes => { r with inboxes }) hinboxes

theorem receive_dropOldest (r : Registry ν) (s : Nat) :
    ((r.dropOldest s).receive s).2 = (r.receive s).2 := by
  have hinboxes : ((r.dropOldest s).receive s).2.inboxes = (r.receive s).2.inboxes := by
    refine List.ext_getElem? fun m => ?_
    rw [getElem?_receive, getElem?_receive, getElem?_dropOldest, Option.map_map]
    congr 1
    funext inbox
    by_cases hm : s = m <;> simp [hm]
  exact congrArg (fun inboxes => { r with inboxes }) hinboxes

end Registry

/-- However calls and polls have come so far. -/
theorem Audience.errorsLast_run (moves : List (Move ν)) :
    ((start.run moves).registry).ErrorsLast := by
  induction moves using List.reverseRecOn with
  | nil => exact errorsLast_empty
  | append_singleton moves move ih =>
    have horderly : (start.run moves).Orderly := orderly_start.run moves
    rw [run_concat]
    cases move with
    | call operation => exact horderly.consistent.errorsLast_perform ih operation
    | poll n =>
      rw [Audience.step, Audience.poll]
      cases (start.run moves).streams[n]? with
      | none => exact ih
      | some stream =>
        rcases poll_registry stream (start.run moves).registry with hsame | htaken
        · simpa only [hsame] using ih
        · simpa only [htaken] using ih.dropOldest _

/-- Polls a stream so many times. -/
def ChannelStream.polls : Nat → ChannelStream → Registry ν →
    List (Polled ν) × ChannelStream × Registry ν
  | 0, stream, r => ([], stream, r)
  | n + 1, stream, r =>
    let (polled, stream, r) := stream.poll r
    let (rest, stream, r) := polls n stream r
    (polled :: rest, stream, r)

variable {r : Registry ν} {stream : ChannelStream}

/-- Polled once more than it has items, a stream yields them all and then nothing. By induction on
what is unread. -/
theorem polls_eq {items : List (Except Error ν)}
    (hunread : r.unread stream.ticket.subscriber = items) (hlast : r.ErrorsLast)
    (hopen : stream.terminated = false) :
    stream.polls (items.length + 1) r =
      (items.map Polled.item ++
          [if r.isLinked stream.ticket.subscriber then .pending else .ended],
        { stream with terminated := !r.isLinked stream.ticket.subscriber },
        (r.receive stream.ticket.subscriber).2) := by
  induction items generalizing r with
  | nil =>
    have hsame : { stream with terminated := false } = stream := by
      rw [← hopen]
    rw [receive_of_unread_nil hunread]
    cases hlinked : r.isLinked stream.ticket.subscriber <;>
      simp [ChannelStream.polls, ChannelStream.poll, hopen, hunread, hlinked, hsame]
  | cons item rest ih =>
    have hrest : (r.dropOldest stream.ticket.subscriber).unread stream.ticket.subscriber =
        rest := by
      rw [unread_dropOldest, if_pos rfl, hunread, List.tail_cons]
    rw [List.length_cons, ChannelStream.polls]
    cases item with
    | ok payload =>
      have hnext := ih hrest (hlast.dropOldest _)
      rw [receive_dropOldest] at hnext
      simp only [ChannelStream.poll, hopen, hunread]
      simp only [Bool.false_eq_true, if_false, hnext]
      rfl
    | error cause =>
      obtain ⟨rfl, hlost⟩ := hlast stream.ticket.subscriber [] cause rest hunread
      rw [← receive_dropOldest, receive_of_unread_nil hrest]
      simp [ChannelStream.polls, ChannelStream.poll, hopen, hunread, hlost]

theorem polls_of_terminated (hclosed : stream.terminated = true) (n : Nat) :
    stream.polls n r = (List.replicate n .ended, stream, r) := by
  induction n with
  | zero => rfl
  | succ n ih => simp [ChannelStream.polls, ChannelStream.poll, hclosed, ih, List.replicate_succ]

/-- What a client takes from a stream at once is what polling it until it has nothing to yield
gives. -/
theorem Client.receive_eq_polls {κ : Type} [Codec κ ν] (c : Client κ ν) (stream : ChannelStream)
    (hlast : c.registry.ErrorsLast) :
    c.receive stream =
      match stream.polls ((c.registry.unread stream.ticket.subscriber).length + 1) c.registry with
      | (polled, stream, registry) =>
        (polled.filterMap Polled.yield?, stream, c.withRegistry registry) := by
  cases hclosed : stream.terminated with
  | true =>
    rw [polls_of_terminated hclosed, Client.receive, if_pos hclosed]
    refine Prod.ext ?_ rfl
    simp [Polled.yield?]
  | false =>
    have hyields : ((c.registry.unread stream.ticket.subscriber).map Polled.item ++
        [if c.registry.isLinked stream.ticket.subscriber then Polled.pending
          else Polled.ended]).filterMap Polled.yield? =
        c.registry.unread stream.ticket.subscriber := by
      cases c.registry.isLinked stream.ticket.subscriber <;>
        simp [List.filterMap_map, Function.comp_def, Polled.yield?]
    rw [polls_eq rfl hlast hclosed, Client.receive, if_neg (by simp [hclosed])]
    simp only [hyields]
    rfl

end ChannelMux
