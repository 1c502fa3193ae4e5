import ChannelMux.Proofs.Client.Audience
import Mathlib.Data.List.Induction

/-!
What a subscriber reads. A stream yields what its channel is sent while its place lasts, each item
once and in order, and ends with the refusal of the channel, if that is what ended the place.
-/
namespace ChannelMux

open Registry

variable {ν : Type}

namespace Audience

/-- The streams are numbered like the inboxes. -/
structure Orderly (a : Audience ν) : Prop where
  consistent : a.registry.Consistent
  seated : ∀ (m : Nat) (stream : ChannelStream), a.streams[m]? = some stream →
    stream.ticket.subscriber = m
  full : a.streams.length = a.registry.inboxes.length

variable {a : Audience ν} {key : ChannelKey} {ticket : Ticket}

theorem orderly_start : (start : Audience ν).Orderly :=
  ⟨consistent_empty, by simp [start], rfl⟩

theorem Orderly.call (h : a.Orderly) (operation : Operation ν) : (a.call operation).Orderly := by
  have hlength := length_inboxes_perform a.registry operation
  refine ⟨h.consistent.perform operation, ?_, ?_⟩
  · intro m stream hstream
    simp only [Audience.call, List.getElem?_append] at hstream
    split at hstream
    · exact h.seated m stream hstream
    · rename_i hm
      obtain ⟨hnew, -⟩ := List.getElem?_eq_some_iff.mp hstream
      cases hgiven : given? (operation, (a.registry.perform operation).1) with
      | none => simp [hgiven] at hnew
      | some pair =>
        obtain ⟨k, given⟩ := pair
        simp only [hgiven, Option.toList_some, List.map_singleton, List.length_singleton] at hnew
        have hlast : m = a.streams.length := by omega
        simp only [hgiven, hlast, Nat.sub_self, Option.toList_some, List.map_singleton,
          List.getElem?_cons_zero, Option.some.injEq] at hstream
        rw [← hstream, hlast, h.full]
        exact subscriber_of_given hgiven
  · cases operation with
    | acquire k request =>
      change (a.streams ++ [_]).length = _
      rw [List.length_append, h.full]
      exact hlength.symm
    | _ =>
      change (a.streams ++ []).length = _
      rw [List.append_nil, h.full]
      exact hlength.symm

/-- What a poll does to the registry: nothing, or it takes an item out. -/
theorem poll_registry (stream : ChannelStream) (r : Registry ν) :
    (stream.poll r).2.2 = r ∨ (stream.poll r).2.2 = r.dropOldest stream.ticket.subscriber := by
  unfold ChannelStream.poll
  repeat' split
  all_goals first
    | exact Or.inl rfl
    | exact Or.inr rfl

theorem poll_ticket (stream : ChannelStream) (r : Registry ν) :
    (stream.poll r).2.1.ticket = stream.ticket := by
  unfold ChannelStream.poll
  repeat' split
  all_goals rfl

theorem Orderly.poll (h : a.Orderly) (n : Nat) : (a.poll n).2.Orderly := by
  unfold Audience.poll
  cases hstream : a.streams[n]? with
  | none => exact h
  | some stream =>
    have hregistry := poll_registry stream a.registry
    refine ⟨?_, ?_, ?_⟩
    · change (stream.poll a.registry).2.2.Consistent
      rcases hregistry with hsame | htaken
      · rw [hsame]
        exact h.consistent
      · rw [htaken]
        exact h.consistent.dropOldest _
    · intro m other hother
      simp only [List.getElem?_set] at hother
      split at hother
      · rename_i hm
        split at hother
        · cases hother
          rw [poll_ticket, h.seated n stream hstream, hm]
        · cases hother
      · exact h.seated m other hother
    · rw [List.length_set, h.full]
      rcases hregistry with hsame | htaken
      · exact congrArg (fun r => r.inboxes.length) hsame.symm
      · simp [htaken, Registry.dropOldest]

theorem Orderly.step (h : a.Orderly) (move : Move ν) : (a.step move).Orderly := by
  cases move with
  | call operation => exact h.call operation
  | poll n => exact h.poll n

theorem Orderly.run (h : a.Orderly) (moves : List (Move ν)) : (a.run moves).Orderly := by
  induction moves generalizing a with
  | nil => exact h
  | cons move rest ih => exact ih (h.step move)

/-- The stream of `ticket` has yielded `got` of `items`, and the rest is unread; `closed` says
whether its place was ended. -/
structure Follows (a : Audience ν) (key : ChannelKey) (ticket : Ticket)
    (got items : List (Except Error ν)) (closed : Bool) : Prop where
  stream : ∃ stream, a.streams[ticket.subscriber]? = some stream ∧ stream.ticket = ticket ∧
    (stream.terminated = true → closed = true ∧ a.registry.unread ticket.subscriber = [])
  inbox : ∃ inbox, a.registry.inboxes[ticket.subscriber]? = some inbox ∧
    inbox.accepting = true ∧ got ++ inbox.items = items
  live : closed = false → ticket ∈ a.registry.tickets key
  lost : closed = true → a.registry.isLinked ticket.subscriber = false

variable {got items : List (Except Error ν)} {closed : Bool}

theorem Follows.known (h : a.Follows key ticket got items closed) :
    ticket.subscriber < a.registry.inboxes.length := by
  obtain ⟨inbox, hinbox, -⟩ := h.inbox
  exact (List.getElem?_eq_some_iff.mp hinbox).1

theorem Follows.read (h : a.Follows key ticket got items closed) : got <+: items := by
  obtain ⟨inbox, -, -, hitems⟩ := h.inbox
  exact ⟨inbox.items, hitems⟩

theorem Follows.call_of_over (h : a.Follows key ticket got items true) (ho : a.Orderly)
    (operation : Operation ν) : (a.call operation).Follows key ticket got items true := by
  have hlost := h.lost rfl
  have hinbox := ho.consistent.inbox_of_unlinked h.known hlost operation
  obtain ⟨stream, hstream, hticket, hended⟩ := h.stream
  refine ⟨⟨stream, ?_, hticket, fun ht => ⟨rfl, ?_⟩⟩, ?_, by simp, fun _ => ?_⟩
  · exact List.getElem?_append_left (ho.full ▸ h.known) |>.trans hstream
  · rw [← (hended ht).2]
    exact congrArg (fun inbox => (inbox.map Inbox.items).getD []) hinbox
  · obtain ⟨inbox, hold, haccepting, hitems⟩ := h.inbox
    exact ⟨inbox, hinbox.trans hold, haccepting, hitems⟩
  · exact ho.consistent.unlinked_perform h.known hlost operation

theorem Follows.call_of_open (h : a.Follows key ticket got items false) (ho : a.Orderly)
    (operation : Operation ν) : (a.call operation).Follows key ticket got
      (items ++ (operation.posts? key).toList) (operation.ends key ticket) := by
  have hlive := h.live rfl
  obtain ⟨stream, hstream, hticket, hended⟩ := h.stream
  obtain ⟨inbox, hold, haccepting, hitems⟩ := h.inbox
  refine ⟨⟨stream, ?_, hticket, fun ht => ?_⟩, ?_, ?_, ?_⟩
  · exact List.getElem?_append_left (ho.full ▸ h.known) |>.trans hstream
  · cases (hended ht).1
  · have hnext := ho.consistent.inbox_of_live hlive operation
    rw [hold, Option.map_some] at hnext
    refine ⟨_, hnext, ?_, ?_⟩
    · cases operation.posts? key <;> simp [Inbox.post, haccepting]
    · rw [← hitems, List.append_assoc]
      cases operation.posts? key <;> simp [Inbox.post, haccepting]
  · intro hkept
    exact ho.consistent.live_perform hlive hkept
  · intro hends
    exact ho.consistent.unlinked_of_ends hlive hends

theorem Follows.poll_other (h : a.Follows key ticket got items closed) (ho : a.Orderly) {m : Nat}
    (hm : m ≠ ticket.subscriber) : (a.poll m).2.Follows key ticket got items closed := by
  unfold Audience.poll
  cases hother : a.streams[m]? with
  | none => exact h
  | some other =>
    have hseat := ho.seated m other hother
    have hinbox : (other.poll a.registry).2.2.inboxes[ticket.subscriber]? =
        a.registry.inboxes[ticket.subscriber]? := by
      rcases poll_registry other a.registry with hsame | htaken
      · rw [hsame]
      · rw [htaken, getElem?_dropOldest, hseat]
        simp [hm]
    have hrecords : (other.poll a.registry).2.2.records = a.registry.records := by
      rcases poll_registry other a.registry with hsame | htaken
      · rw [hsame]
      · rw [htaken, Registry.dropOldest]
    obtain ⟨stream, hstream, hticket, hended⟩ := h.stream
    refine ⟨⟨stream, ?_, hticket, fun ht => ⟨(hended ht).1, ?_⟩⟩, ?_, ?_, ?_⟩
    · exact (List.getElem?_set_ne hm).trans hstream
    · rw [← (hended ht).2]
      exact congrArg (fun inbox => (inbox.map Inbox.items).getD []) hinbox
    · obtain ⟨inbox, hold, haccepting, hitems⟩ := h.inbox
      exact ⟨inbox, hinbox.trans hold, haccepting, hitems⟩
    · intro hopen
      simpa only [tickets, find?, hrecords] using h.live hopen
    · intro hover
      simpa only [isLinked, hrecords] using h.lost hover

/-- What the next poll of a stream answers: the next item if there is one. -/
def expected (got items : List (Except Error ν)) (closed : Bool) : Polled ν :=
  match items[got.length]? with
  | some item => .item item
  | none => if closed then .ended else .pending

/-- Once a stream has yielded an error, it has ended. -/
theorem expected_of_error {calls : List (Operation ν)} {error : Error}
    (hread : got <+: itemsFor key ticket calls) (hmem : .error error ∈ got) :
    expected got (itemsFor key ticket calls) (isOver key ticket calls) = .ended := by
  obtain ⟨before, after, rfl⟩ := List.append_of_mem hmem
  obtain ⟨rest, hitems⟩ := hread
  have hsplit := hitems.symm
  rw [List.append_assoc, List.cons_append] at hsplit
  obtain ⟨hnothing, hover⟩ := error_last hsplit
  obtain ⟨rfl, rfl⟩ := List.append_eq_nil_iff.mp hnothing
  rw [List.append_nil] at hitems
  rw [expected, ← hitems, List.getElem?_eq_none (Nat.le_refl _), hover]
  rfl

/-- A poll that yields nothing changes the stream at most. -/
theorem Follows.reseat (h : a.Follows key ticket got items closed) (ho : a.Orderly)
    {stream : ChannelStream} (hticket : stream.ticket = ticket)
    (hended : stream.terminated = true →
      closed = true ∧ a.registry.unread ticket.subscriber = []) :
    (⟨a.registry, a.streams.set ticket.subscriber stream⟩ : Audience ν).Follows key ticket got
      items closed := by
  have hseat : ticket.subscriber < a.streams.length := ho.full ▸ h.known
  exact ⟨⟨stream, List.getElem?_set_self hseat, hticket, hended⟩, h.inbox, h.live, h.lost⟩

/-- A poll that yields an item takes it out of what is unread. -/
theorem Follows.taken (h : a.Follows key ticket got items closed) (ho : a.Orderly)
    {item : Except Error ν} {rest : List (Except Error ν)}
    (hunread : a.registry.unread ticket.subscriber = item :: rest) {stream : ChannelStream}
    (hticket : stream.ticket = ticket)
    (hended : stream.terminated = true → closed = true ∧ rest = []) :
    (⟨a.registry.dropOldest ticket.subscriber, a.streams.set ticket.subscriber stream⟩ :
      Audience ν).Follows key ticket (got ++ [item]) items closed := by
  have hseat : ticket.subscriber < a.streams.length := ho.full ▸ h.known
  obtain ⟨inbox, hinbox, haccepting, hitems⟩ := h.inbox
  rw [unread_of_getElem? hinbox] at hunread
  have hnext : (a.registry.dropOldest ticket.subscriber).inboxes[ticket.subscriber]? =
      some { inbox with items := rest } := by
    rw [getElem?_dropOldest, hinbox]
    simp [hunread]
  refine ⟨⟨stream, List.getElem?_set_self hseat, hticket, fun ht => ?_⟩, ⟨_, hnext, haccepting, ?_⟩,
    h.live, h.lost⟩
  · rw [unread_of_getElem? hnext]
    exact hended ht
  · rw [← hitems, hunread, List.append_assoc]
    rfl

theorem Follows.expected_eq (h : a.Follows key ticket got items closed) :
    expected got items closed = match a.registry.unread ticket.subscriber with
      | item :: _ => .item item
      | [] => if closed then .ended else .pending := by
  obtain ⟨inbox, hinbox, -, hitems⟩ := h.inbox
  rw [expected, unread_of_getElem? hinbox, ← hitems,
    List.getElem?_append_right (Nat.le_refl _), Nat.sub_self, ← List.head?_eq_getElem?]
  cases inbox.items <;> rfl

theorem Follows.isLinked_eq (h : a.Follows key ticket got items closed) (ho : a.Orderly) :
    a.registry.isLinked ticket.subscriber = !closed := by
  cases hover : closed with
  | true => exact h.lost hover
  | false => exact (ho.consistent.isLinked_iff _).mpr ⟨key, ticket, h.live hover, rfl⟩

/-- A poll answers what is expected, and an item that it yields counts as got. -/
theorem Follows.poll (h : a.Follows key ticket got items closed) (ho : a.Orderly)
    (hlast : ∀ before error after, items = before ++ .error error :: after →
      after = [] ∧ closed = true) :
    (a.poll ticket.subscriber).1 = some (expected got items closed) ∧
      (a.poll ticket.subscriber).2.Follows key ticket
        (got ++ (expected got items closed).yield?.toList) items closed := by
  obtain ⟨stream, hstream, rfl, hended⟩ := h.stream
  simp only [Audience.poll, hstream, ChannelStream.poll, h.isLinked_eq ho, h.expected_eq]
  by_cases hterminated : stream.terminated = true
  · obtain ⟨rfl, hnone⟩ := hended hterminated
    rw [if_pos hterminated, hnone]
    simpa [Polled.yield?] using h.reseat ho rfl hended
  · rw [if_neg hterminated]
    cases hunread : a.registry.unread stream.ticket.subscriber with
    | nil =>
      cases closed with
      | true =>
        have hseated : (⟨a.registry, a.streams.set stream.ticket.subscriber
            { stream with terminated := true }⟩ : Audience ν).Follows key stream.ticket got items
              true :=
          h.reseat ho rfl fun _ => ⟨rfl, hunread⟩
        simpa [Polled.yield?] using hseated
      | false => simpa [Polled.yield?] using h.reseat ho rfl hended
    | cons item rest =>
      cases item with
      | ok payload =>
        exact ⟨rfl, h.taken ho hunread rfl fun ht => absurd ht hterminated⟩
      | error cause =>
        obtain ⟨inbox, hinbox, -, hitems⟩ := h.inbox
        rw [unread_of_getElem? hinbox] at hunread
        obtain ⟨hnone, hover⟩ := hlast got cause rest (by rw [← hitems, hunread])
        exact ⟨rfl, h.taken ho ((unread_of_getElem? hinbox).trans hunread) rfl
          fun _ => ⟨hover, hnone⟩⟩

/-- An acquisition gives out a stream that has everything before it. -/
theorem Orderly.follows_acquire (h : a.Orderly) (key : ChannelKey) (request : ChannelRequest) :
    (a.call (.acquire key request)).Follows key (a.registry.acquire key request).1.ticket [] []
      false := by
  have hlive : (a.registry.acquire key request).1.ticket ∈
      (a.registry.acquire key request).2.tickets key := by
    rw [h.consistent.tickets_acquire, if_pos rfl]
    exact List.mem_append_right _ (List.mem_singleton.mpr rfl)
  refine ⟨⟨⟨key, (a.registry.acquire key request).1.ticket, false⟩, ?_, rfl, nofun⟩,
    ⟨Inbox.empty, ?_, rfl, rfl⟩, fun _ => hlive, nofun⟩
  · have hseat : ∀ stream, (a.streams ++ [stream])[a.registry.inboxes.length]? = some stream := by
      intro stream
      rw [← h.full, List.getElem?_concat_length]
    exact hseat _
  · change (a.registry.inboxes ++ [_])[a.registry.inboxes.length]? = _
    rw [List.getElem?_concat_length]

/-- The calls among the moves, in order. -/
def callsOf (moves : List (Move ν)) : List (Operation ν) := moves.filterMap Move.call?

/-- Whatever was called and polled, what a stream has yielded and what it has not is together what
the calls sent to it. By induction on the moves, the last one first. -/
theorem Follows.run (h : a.Follows key ticket [] [] false) (ho : a.Orderly)
    (moves : List (Move ν)) :
    (a.run moves).Follows key ticket
      ((heard ticket.subscriber a moves).filterMap Polled.yield?)
      (itemsFor key ticket (callsOf moves)) (isOver key ticket (callsOf moves)) := by
  induction moves using List.reverseRecOn with
  | nil => exact h
  | append_singleton moves move ih =>
    have hbefore := ho.run moves
    rw [run_concat, heard_concat, List.filterMap_append]
    cases move with
    | call operation =>
      have hcalls : callsOf (moves ++ [.call operation]) = callsOf moves ++ [operation] := by
        simp [callsOf, Move.call?]
      rw [hcalls, isOver_concat]
      simp only [answer, Option.toList_none, List.filterMap_nil, List.append_nil]
      cases hover : isOver key ticket (callsOf moves) with
      | true =>
        rw [itemsFor_concat_of_over hover]
        rw [hover] at ih
        exact ih.call_of_over hbefore operation
      | false =>
        rw [itemsFor_concat_of_not_over hover]
        rw [hover] at ih
        exact ih.call_of_open hbefore operation
    | poll m =>
      have hcalls : callsOf (moves ++ [.poll m]) = callsOf moves := by
        simp [callsOf, Move.call?]
      rw [hcalls]
      by_cases hm : m = ticket.subscriber
      · obtain ⟨hanswer, hnext⟩ := ih.poll hbefore fun _ _ _ => error_last
        subst hm
        rw [answer, if_pos rfl, hanswer, Option.toList_some, Polled.yields_singleton]
        exact hnext
      · rw [answer, if_neg hm, Option.toList_none, List.filterMap_nil, List.append_nil]
        exact ih.poll_other hbefore hm

/-- A stream answers to polls of it alone, and with what is expected. -/
theorem Follows.answered (h : a.Follows key ticket [] [] false) (ho : a.Orderly)
    {moves : List (Move ν)} {move : Move ν} {polled : Polled ν}
    (hanswer : (a.run moves).answer ticket.subscriber move = some polled) :
    callsOf (moves ++ [move]) = callsOf moves ∧
      polled = expected ((heard ticket.subscriber a moves).filterMap Polled.yield?)
        (itemsFor key ticket (callsOf moves)) (isOver key ticket (callsOf moves)) := by
  cases move with
  | call operation => cases hanswer
  | poll m =>
    rw [answer] at hanswer
    split at hanswer
    · obtain ⟨hexpected, -⟩ := (h.run ho moves).poll (ho.run moves) fun _ _ _ => error_last
      rw [hexpected] at hanswer
      exact ⟨by simp [callsOf, Move.call?], (Option.some.inj hanswer).symm⟩
    · cases hanswer

theorem isOver_of_concat {moves : List (Move ν)} {move : Move ν}
    (hopen : isOver key ticket (callsOf (moves ++ [move])) = false) :
    isOver key ticket (callsOf moves) = false := by
  rw [callsOf, List.filterMap_append, isOver, List.any_append, Bool.or_eq_false_iff] at hopen
  exact hopen.1

/-- A stream does not end while its place lasts. -/
theorem Follows.lasting (h : a.Follows key ticket [] [] false) (ho : a.Orderly)
    {moves : List (Move ν)} (hopen : isOver key ticket (callsOf moves) = false) :
    .ended ∉ heard ticket.subscriber a moves := by
  induction moves using List.reverseRecOn with
  | nil => simp [heard]
  | append_singleton moves move ih =>
    have hbefore := isOver_of_concat hopen
    rw [heard_concat, List.mem_append, not_or]
    refine ⟨ih hbefore, fun hmem => ?_⟩
    obtain ⟨-, hended⟩ := h.answered ho (Option.mem_toList.mp hmem)
    unfold expected at hended
    rw [hbefore] at hended
    split at hended <;> cases hended

/-- After an error a stream has ended. -/
theorem Follows.final (h : a.Follows key ticket [] [] false) (ho : a.Orderly)
    {moves : List (Move ν)} {earlier later : List (Polled ν)} {error : Error}
    (hsplit : heard ticket.subscriber a moves = earlier ++ .item (.error error) :: later) :
    ∀ polled ∈ later, polled = .ended := by
  induction moves using List.reverseRecOn generalizing later with
  | nil => simp [heard] at hsplit
  | append_singleton moves move ih =>
    rw [heard_concat] at hsplit
    cases hanswer : (a.run moves).answer ticket.subscriber move with
    | none =>
      rw [hanswer, Option.toList_none, List.append_nil] at hsplit
      exact ih hsplit
    | some last =>
      rw [hanswer, Option.toList_some] at hsplit
      obtain ⟨-, hlast⟩ := h.answered ho hanswer
      rcases List.eq_nil_or_concat later with rfl | ⟨middle, polled, rfl⟩
      · simp
      · rw [List.concat_eq_append, ← List.cons_append, ← List.append_assoc] at hsplit
        obtain ⟨hheard, hpolled⟩ := List.append_inj' hsplit rfl
        have hgot : .error error ∈ (heard ticket.subscriber a moves).filterMap Polled.yield? := by
          rw [hheard]
          simp [Polled.yield?]
        rw [expected_of_error (h.run ho moves).read hgot] at hlast
        intro other hother
        rw [List.concat_eq_append, List.mem_append, List.mem_singleton] at hother
        rcases hother with hold | rfl
        · exact ih hheard other hold
        · rw [← (List.cons.inj hpolled).1, hlast]

/-- What the holder of `ticket` on `key` is owed from `a` on, and gets. -/
structure Delivers (a : Audience ν) (key : ChannelKey) (ticket : Ticket) (moves : List (Move ν)) :
    Prop where
  /-- What was yielded is what was sent, in order, as far as it was read. -/
  read : (heard ticket.subscriber a moves).filterMap Polled.yield? <+:
    itemsFor key ticket (callsOf moves)
  /-- One poll more yields what was sent next; if nothing was, the stream ends if its place did. -/
  next : ((a.run moves).poll ticket.subscriber).1 = some (expected
    ((heard ticket.subscriber a moves).filterMap Polled.yield?)
    (itemsFor key ticket (callsOf moves)) (isOver key ticket (callsOf moves)))
  /-- An error is sent exactly if a refusal of the channel ended the place. -/
  refused : ∀ error, .error error ∈ itemsFor key ticket (callsOf moves) ↔
    (callsOf moves).find? (Operation.ends key ticket) = some (.fail key error)
  /-- A stream whose place was never ended does not end. -/
  lasting : isOver key ticket (callsOf moves) = false →
    .ended ∉ heard ticket.subscriber a moves
  /-- After an error a stream has ended for good. -/
  final : ∀ earlier error later,
    heard ticket.subscriber a moves = earlier ++ .item (.error error) :: later →
      ∀ polled ∈ later, polled = .ended

/-- Exact delivery: whatever happens before and after an acquisition, and however often the stream
that it gave out is polled in between. -/
theorem delivers_after_acquire (before after : List (Move ν)) (key : ChannelKey)
    (request : ChannelRequest) :
    ((start.run before).call (.acquire key request)).Delivers key
      ((start.run before).registry.acquire key request).1.ticket after := by
  have hbefore : (start.run before).Orderly := orderly_start.run before
  have horderly := hbefore.call (.acquire key request)
  have hfollows := hbefore.follows_acquire key request
  have hnow := hfollows.run horderly after
  obtain ⟨hnext, -⟩ := hnow.poll (horderly.run after) fun _ _ _ => error_last
  exact ⟨hnow.read, hnext, error_mem_itemsFor, hfollows.lasting horderly,
    fun _ _ _ => hfollows.final horderly⟩

end Audience

end ChannelMux
