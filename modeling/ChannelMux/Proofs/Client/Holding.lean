import ChannelMux.Proofs.Client.Course

/-!
Who holds what through a client. A reader holds its place from the moment it is attached until it
lets go of it or has read its stream to the end; nobody else takes a place or gives it up.
-/
namespace ChannelMux

open Registry

/-- Every place in a channel is held by one of these readers. -/
structure Client.Held {κ ν : Type} (c : Client κ ν) (present : List Nat) : Prop where
  consistent : c.registry.Consistent
  /-- Whoever comes to the end of a stream leaves it at once. -/
  lasting : ∀ reader ∈ c.readers, reader.stream.terminated = false
  held : ∀ key ticket, ticket ∈ c.registry.tickets key → ∃ n ∈ present, ∃ reader,
    c.readers[n]? = some reader ∧ reader.active = true ∧ reader.stream.key = key ∧
      reader.stream.ticket = ticket

/-- Its calls and its managers are as they were, and so is what they find. -/
structure Client.SameWork {κ ν : Type} (c c' : Client κ ν) : Prop where
  settings : c'.settings = c.settings
  endpoint : c'.endpoint = c.endpoint
  managers : c'.managers = c.managers
  running : c'.running = c.running
  calls : c'.calls = c.calls
  state : c'.hub.state = c.hub.state
  codec : c'.hub.router.codec = c.hub.router.codec

/-- A step of a manager serves the registry, and takes it up or down. It acquires nothing, and
releases nothing. -/
theorem Manager.exists_operations {κ ν : Type} [Codec κ ν] {settings : Settings}
    {endpoint : String} {moment : Moment} {hub : Hub κ ν} {cue : Cue} {manager : Manager}
    {turn : Turn κ ν} (hstep : manager.step settings endpoint moment hub cue = some turn) :
    ∃ operations : List (Operation ν),
      turn.hub.router.registry = (hub.router.registry.run operations).2 ∧
      ∀ operation ∈ operations, operation.isAcquisition = false ∧ operation.isRelease = false := by
  have hservice : ∀ operations : List (Operation ν),
      (∀ operation ∈ operations, operation.isService = true) →
      ∀ operation ∈ operations, operation.isAcquisition = false ∧
        operation.isRelease = false := by
    intro operations hall operation hmem
    have hserves := hall operation hmem
    cases operation with
    | acquire key request => cases hserves
    | release key ticket => cases hserves
    | _ => exact ⟨rfl, rfl⟩
  have hsetOnline : ∀ online, ∀ operation ∈ [(.setOnline online : Operation ν)],
      operation.isAcquisition = false ∧ operation.isRelease = false := by
    intro online operation hmem
    rw [List.mem_singleton.mp hmem]
    exact ⟨rfl, rfl⟩
  cases upshot hstep with
  | away hbefore hafter quiet hstate hreply => exact ⟨[], quiet.registry, by simp⟩
  | ended hafter hregistry hstate hpermit hwrote hreply =>
    exact ⟨[.setOnline false], hregistry, hsetOnline false⟩
  | asked hcue hbefore hafter hlogin hregistry hstate hpermit hwrote =>
    exact ⟨[], hregistry, by simp⟩
  | listened hcue hbefore hafter hregistry hstate hpermit hwrote hreply =>
    exact ⟨[], hregistry, by simp⟩
  | established hready hbefore hafter hregistry hstate hpermit hwrote =>
    exact ⟨[.setOnline true], hregistry, hsetOnline true⟩
  | worked hbefore hafter serves hpermit =>
    obtain ⟨operations, hregistry, hall, -⟩ := serves
    exact ⟨operations, hregistry, hservice operations hall⟩
  | woken hbefore hafter hregistry hpermit => exact ⟨[], hregistry, by simp⟩
  | lost hbefore hafter hregistry hstate hpermit hwrote =>
    obtain ⟨registry, ⟨operations, rfl, hall, -⟩, hdown⟩ := hregistry
    refine ⟨operations ++ [.setOnline false], ?_, fun operation hmem => ?_⟩
    · rw [hdown, run_append]
      rfl
    · rcases List.mem_append.mp hmem with hserved | hlast
      · exact hservice operations hall operation hserved
      · exact hsetOnline false operation hlast

/-- Without an acquisition nobody gets a place. -/
theorem Registry.Consistent.mem_tickets_of_run {ν : Type} {r : Registry ν} (h : r.Consistent)
    {operations : List (Operation ν)}
    (hall : ∀ operation ∈ operations, operation.isAcquisition = false) {key : ChannelKey}
    {ticket : Ticket} (hlive : ticket ∈ (r.run operations).2.tickets key) :
    ticket ∈ r.tickets key := by
  induction operations generalizing r with
  | nil => exact hlive
  | cons operation rest ih =>
    have hbefore := ih (h.perform operation)
      (fun other hmem => hall other (List.mem_cons_of_mem _ hmem)) hlive
    refine ((h.mem_tickets_perform operation).mp hbefore).elim And.left fun hgiven => ?_
    have hfirst := hall operation List.mem_cons_self
    cases operation with
    | acquire key request => cases hfirst
    | _ => cases hgiven

/-- A place that is gone cannot be given up again. -/
theorem Registry.release_of_unlinked {ν : Type} {r : Registry ν} {ticket : Ticket}
    (h : r.isLinked ticket.subscriber = false) (key : ChannelKey) :
    r.release key ticket = (.stale, r) := by
  unfold release
  cases hfind : r.find? key with
  | none => rfl
  | some record =>
    have hgone : ticket.subscriber ∉ record.subscribers := by
      intro hheld
      have hlinked : r.isLinked ticket.subscriber = true :=
        List.any_eq_true.mpr ⟨record, mem_of_find? hfind, List.contains_iff_mem.mpr hheld⟩
      rw [h] at hlinked
      cases hlinked
    simp only [hgone, not_false_eq_true, or_true, if_true]

/-- It ends what others began. -/
def Call.disconnects : Call → Bool
  | disconnect | stopping _ => true
  | _ => false

namespace Client

variable {κ ν : Type} {c : Client κ ν}

/-- A subscriber has taken all there was for it. -/
def emptied (c : Client κ ν) (s : Nat) : Client κ ν :=
  c.withRegistry (c.registry.editInbox s fun inbox => { inbox with items := [] })

/-- What reading comes to: the reader goes on, or it has come to the end of its stream and
leaves. -/
inductive Reads (c : Client κ ν) (n : Nat) : Client κ ν → Prop
  | nothing : Reads c n c
  | took {reader : Reader} (hreader : c.readers[n]? = some reader)
    (hactive : reader.active = true) : Reads c n (c.emptied reader.stream.ticket.subscriber)
  | left {reader : Reader} (hreader : c.readers[n]? = some reader) (hactive : reader.active = true)
    (hlost : c.registry.isLinked reader.stream.ticket.subscriber = false) :
    Reads c n ((c.emptied reader.stream.ticket.subscriber).detach n)
  | spent {reader : Reader} (hreader : c.readers[n]? = some reader) (hactive : reader.active = true)
    (hspent : reader.stream.terminated = true) : Reads c n (c.detach n)

theorem reads (c : Client κ ν) (n : Nat) : c.Reads n (c.read n).2 := by
  unfold Client.read
  cases hreader : c.readers[n]? with
  | none => exact .nothing
  | some reader =>
    by_cases hactive : reader.active = true
    · simp only [hactive, if_true]
      unfold Client.receive
      by_cases hspent : reader.stream.terminated = true
      · simp only [hspent, if_true]
        exact .spent hreader hactive hspent
      · simp only [hspent]
        have hafter : (c.registry.receive reader.stream.ticket.subscriber).2.isLinked
            reader.stream.ticket.subscriber =
              c.registry.isLinked reader.stream.ticket.subscriber := rfl
        cases hlinked : c.registry.isLinked reader.stream.ticket.subscriber with
        | true =>
          simp only [hafter, hlinked, Bool.not_true, Bool.false_eq_true, if_false]
          exact .took hreader hactive
        | false =>
          simp only [hafter, hlinked, Bool.not_false, Bool.false_eq_true, if_true, if_false]
          exact .left hreader hactive hlinked
    · simp only [hactive]
      exact .nothing

theorem SameWork.refl (c : Client κ ν) : c.SameWork c := ⟨rfl, rfl, rfl, rfl, rfl, rfl, rfl⟩

theorem SameWork.trans {c' c'' : Client κ ν} (h : c.SameWork c') (h' : c'.SameWork c'') :
    c.SameWork c'' :=
  ⟨h'.settings.trans h.settings, h'.endpoint.trans h.endpoint, h'.managers.trans h.managers,
    h'.running.trans h.running, h'.calls.trans h.calls, h'.state.trans h.state,
    h'.codec.trans h.codec⟩

theorem sameWork_detach (c : Client κ ν) (n : Nat) : c.SameWork (c.detach n) := by
  unfold Client.detach
  split
  · exact .refl c
  · split
    · rw [unsubscribe_eq]
      exact ⟨rfl, rfl, rfl, rfl, rfl, rfl, rfl⟩
    · exact .refl c

theorem sameWork_emptied (c : Client κ ν) (s : Nat) : c.SameWork (c.emptied s) :=
  ⟨rfl, rfl, rfl, rfl, rfl, rfl, rfl⟩

theorem Reads.sameWork {n : Nat} {c' : Client κ ν} (h : c.Reads n c') : c.SameWork c' := by
  cases h with
  | nothing => exact .refl c
  | took hreader hactive => exact sameWork_emptied c _
  | left hreader hactive hlost => exact (sameWork_emptied c _).trans (sameWork_detach _ n)
  | spent hreader hactive hspent => exact sameWork_detach c n

section
variable [Codec κ ν]

theorem registry_attach (c : Client κ ν) (request : ChannelRequest) :
    (c.attach request).registry = (c.registry.acquire (c.keyFor request) request).2 := by
  change (c.subscribe request).2.registry = _
  rw [subscribe_eq]
  rfl

theorem readers_attach (c : Client κ ν) (request : ChannelRequest) :
    (c.attach request).readers = c.readers ++
      [⟨⟨c.keyFor request, (c.registry.acquire (c.keyFor request) request).1.ticket, false⟩,
        true⟩] := by
  change (c.subscribe request).2.readers ++ _ = _
  rw [subscribe_eq]
  rfl

theorem sameWork_attach (c : Client κ ν) (request : ChannelRequest) :
    c.SameWork (c.attach request) := by
  have hasked : c.SameWork (c.subscribe request).2 := by
    rw [subscribe_eq]
    exact ⟨rfl, rfl, rfl, rfl, rfl, rfl, rfl⟩
  exact hasked.trans ⟨rfl, rfl, rfl, rfl, rfl, rfl, rfl⟩

theorem sameWork_attach_all (c : Client κ ν) (requests : List ChannelRequest) :
    c.SameWork (requests.foldl Client.attach c) := by
  induction requests generalizing c with
  | nil => exact .refl c
  | cons request rest ih => exact (sameWork_attach c request).trans (ih _)

end

/-- Only a call that is under way gets on. -/
theorem Progress.isPending {now n : Nat} {c' : Client κ ν} (h : c.Progress now n c') :
    ∃ call, c.calls[n]? = some call ∧ call.isPending = true := by
  cases h with
  | joined hcall => exact ⟨_, hcall, rfl⟩
  | started hcall hidle => exact ⟨_, hcall, rfl⟩
  | answered hcall result => exact ⟨_, hcall, rfl⟩
  | idle hcall hrunning => exact ⟨_, hcall, rfl⟩
  | letGo hcall hrunning => exact ⟨_, hcall, rfl⟩
  | ended hwaits hfinished => exact ⟨_, hwaits, rfl⟩

/-- A connect that gets on waits for the connection, or it is over. -/
theorem Progress.connects {now n : Nat} {c' : Client κ ν} {before after : Call}
    (h : c.Progress now n c') (hbefore : c.calls[n]? = some before)
    (hconnects : before.disconnects = false) (hafter : c'.calls[n]? = some after) :
    after = .connecting ∨ after.isPending = false := by
  cases h with
  | joined hcall =>
    rw [setCall, List.getElem?_set_self (lt_of_call hcall)] at hafter
    exact .inl (Option.some.inj hafter).symm
  | started hcall hidle =>
    rw [setCall, List.getElem?_set_self (lt_of_call (c := c.spawn now) hcall)] at hafter
    exact .inl (Option.some.inj hafter).symm
  | answered hcall result =>
    rw [setCall, List.getElem?_set_self (lt_of_call hcall)] at hafter
    cases hafter
    exact .inr rfl
  | idle hcall hrunning =>
    cases hbefore.symm.trans hcall
    cases hconnects
  | letGo hcall hrunning =>
    cases hbefore.symm.trans hcall
    cases hconnects
  | ended hwaits hfinished =>
    cases hbefore.symm.trans hwaits
    cases hconnects

/-- A call that gets on is no other call. -/
theorem Progress.calls_of_ne {now n m : Nat} {c' : Client κ ν} (h : c.Progress now n c')
    (hne : n ≠ m) : c'.calls[m]? = c.calls[m]? := by
  cases h with
  | _ => exact List.getElem?_set_ne hne

end Client

namespace Client.Held

variable {κ ν : Type} {c c' : Client κ ν} {present present' : List Nat}

theorem mono (h : c.Held present) (hsub : present ⊆ present') : c.Held present' := by
  refine ⟨h.consistent, h.lasting, fun key ticket hlive => ?_⟩
  obtain ⟨n, hn, hreader⟩ := h.held key ticket hlive
  exact ⟨n, hsub hn, hreader⟩

/-- The readers are the same, and nobody got a place. -/
theorem of_registry (h : c.Held present) (hreaders : c'.readers = c.readers)
    (consistent : c'.registry.Consistent) (hlive : ∀ key ticket,
      ticket ∈ c'.registry.tickets key → ticket ∈ c.registry.tickets key) : c'.Held present := by
  refine ⟨consistent, hreaders ▸ h.lasting, fun key ticket hmem => ?_⟩
  rw [hreaders]
  exact h.held key ticket (hlive key ticket hmem)

theorem run (h : c.Held present) (hreaders : c'.readers = c.readers)
    {operations : List (Operation ν)} (hregistry : c'.registry = (c.registry.run operations).2)
    (hall : ∀ operation ∈ operations, operation.isAcquisition = false) : c'.Held present := by
  refine h.of_registry hreaders ?_ fun key ticket hmem => ?_
  · rw [hregistry]
    exact h.consistent.run operations
  · rw [hregistry] at hmem
    exact h.consistent.mem_tickets_of_run hall hmem

theorem disconnected (h : c.Held present) : c.disconnected.Held present := by
  have hloss : ∀ operation ∈ [(.setOnline false : Operation ν)],
      operation.isAcquisition = false := by
    simp [Operation.isAcquisition]
  exact h.run rfl rfl hloss

/-- Where nothing is held, a loss of the connection leaves no record. -/
theorem records_disconnected (h : c.Held []) : c.disconnected.registry.records = [] := by
  refine List.eq_nil_iff_forall_not_mem.mpr fun record hmem => ?_
  have hafter := h.disconnected
  have hpending := pending_of_setOnline record hmem
  have hsound := hafter.consistent.sound_of_mem hmem
  have hheld : record.subscribers ≠ [] := by
    intro hnobody
    rw [hsound.idle.mpr hnobody] at hpending
    cases hpending
  obtain ⟨s, hs⟩ := List.exists_mem_of_ne_nil _ hheld
  have hlive : ⟨record.generation, s⟩ ∈ c.disconnected.registry.tickets record.key :=
    mem_tickets.mpr ⟨record, hafter.consistent.distinct.find?_of_mem hmem, rfl, hs⟩
  obtain ⟨n, hn, -⟩ := hafter.held _ _ hlive
  cases hn

section
variable [Codec κ ν]

theorem attach (h : c.Held present) (request : ChannelRequest) :
    (c.attach request).Held (present ++ [c.readers.length]) := by
  refine ⟨?_, ?_, fun key ticket hlive => ?_⟩
  · rw [registry_attach]
    exact h.consistent.perform (.acquire (c.keyFor request) request)
  · rw [readers_attach]
    intro reader hmem
    rcases List.mem_append.mp hmem with hold | hnew
    · exact h.lasting reader hold
    · rw [List.mem_singleton.mp hnew]
  · rw [registry_attach] at hlive
    rw [readers_attach]
    rcases (h.consistent.mem_tickets_perform (.acquire (c.keyFor request) request)).mp hlive with
      ⟨hbefore, -⟩ | hgiven
    · obtain ⟨n, hn, reader, hreader, hactive, hplace⟩ := h.held key ticket hbefore
      refine ⟨n, List.mem_append_left _ hn, reader, ?_, hactive, hplace⟩
      rw [List.getElem?_append_left (List.getElem?_eq_some_iff.mp hreader).1]
      exact hreader
    · cases hgiven
      exact ⟨c.readers.length, by simp, _, List.getElem?_concat_length, rfl, rfl, rfl⟩

theorem attach_all (h : c.Held present) (requests : List ChannelRequest) :
    (requests.foldl Client.attach c).Held
      (present ++ List.range' c.readers.length requests.length) := by
  induction requests generalizing c present with
  | nil => simpa using h
  | cons request rest ih =>
    have hrest := ih (h.attach request)
    rw [readers_attach, List.length_append, List.append_assoc] at hrest
    exact hrest

end

/-- A reader that lets go gives its own place up and no other. -/
theorem detach (h : c.Held present) (n : Nat) :
    (c.detach n).Held (present.filter (· ≠ n)) := by
  unfold Client.detach
  cases hreader : c.readers[n]? with
  | none =>
    refine ⟨h.consistent, h.lasting, fun key ticket hlive => ?_⟩
    obtain ⟨m, hm, reader, hheld, hactive, hplace⟩ := h.held key ticket hlive
    refine ⟨m, List.mem_filter.mpr ⟨hm, ?_⟩, reader, hheld, hactive, hplace⟩
    rw [decide_eq_true_eq]
    rintro rfl
    rw [hreader] at hheld
    cases hheld
  | some reader =>
    simp only
    by_cases hactive : reader.active = true
    · rw [if_pos hactive, unsubscribe_eq]
      refine ⟨h.consistent.perform (.release reader.stream.key reader.stream.ticket), ?_,
        fun key ticket hlive => ?_⟩
      · intro other hmem
        rcases List.mem_or_eq_of_mem_set hmem with hold | rfl
        · exact h.lasting other hold
        · exact h.lasting reader (List.mem_of_getElem? hreader)
      have hsplit := (h.consistent.mem_tickets_perform
        (.release reader.stream.key reader.stream.ticket)).mp hlive
      obtain ⟨hbefore, hkept⟩ := hsplit.resolve_right (by rintro ⟨⟩)
      obtain ⟨m, hm, other, hother, hheld, hkey, hticket⟩ := h.held key ticket hbefore
      have hne : m ≠ n := by
        rintro rfl
        rw [hreader] at hother
        cases hother
        simp [Operation.ends, hkey, hticket] at hkept
      refine ⟨m, List.mem_filter.mpr ⟨hm, by simpa using hne⟩, other, ?_, hheld, hkey, hticket⟩
      rw [List.getElem?_set_ne hne.symm]
      exact hother
    · rw [if_neg hactive]
      refine ⟨h.consistent, h.lasting, fun key ticket hlive => ?_⟩
      obtain ⟨m, hm, other, hother, hheld, hplace⟩ := h.held key ticket hlive
      refine ⟨m, List.mem_filter.mpr ⟨hm, ?_⟩, other, hother, hheld, hplace⟩
      rw [decide_eq_true_eq]
      rintro rfl
      rw [hreader] at hother
      cases hother
      exact hactive hheld

theorem emptied (h : c.Held present) (s : Nat) : (c.emptied s).Held present :=
  h.of_registry rfl (h.consistent.editInbox s _) fun _ _ hlive => hlive

theorem reads (h : c.Held present) {n : Nat} (hreads : c.Reads n c') : c'.Held present := by
  cases hreads with
  | nothing => exact h
  | took hreader hactive => exact h.emptied _
  | left hreader hactive hlost => exact ((h.emptied _).detach n).mono (List.filter_subset_self _)
  | spent hreader hactive hspent => exact (h.detach n).mono (List.filter_subset_self _)

/-- Reading takes payloads, and nothing from what is wanted. -/
theorem registry_reads (h : c.Held present) {n : Nat} (hreads : c.Reads n c') :
    c'.registry.records = c.registry.records ∧ c'.registry.online = c.registry.online := by
  cases hreads with
  | nothing => exact ⟨rfl, rfl⟩
  | took hreader hactive => exact ⟨rfl, rfl⟩
  | @left reader hreader hactive hlost =>
    have hkept : ((c.emptied reader.stream.ticket.subscriber).detach n).registry =
        (c.emptied reader.stream.ticket.subscriber).registry := by
      have hgone : (c.emptied reader.stream.ticket.subscriber).registry.isLinked
          reader.stream.ticket.subscriber = false := hlost
      have hsame : (c.emptied reader.stream.ticket.subscriber).readers[n]? = some reader := hreader
      simp only [Client.detach, hsame, hactive, if_true, unsubscribe_eq]
      exact congrArg Prod.snd (release_of_unlinked hgone reader.stream.key)
    rw [hkept]
    exact ⟨rfl, rfl⟩
  | spent hreader hactive hspent =>
    rw [h.lasting _ (List.mem_of_getElem? hreader)] at hspent
    cases hspent

theorem callStep (h : c.Held present) {now n : Nat} (hstep : c.callStep now n = some c') :
    c'.Held present := by
  cases progress_of_callStep hstep with
  | idle hcall hrunning =>
    exact h.disconnected.of_registry rfl h.disconnected.consistent fun _ _ => id
  | ended hwaits hfinished =>
    exact h.disconnected.of_registry rfl h.disconnected.consistent fun _ _ => id
  | _ => exact h.of_registry rfl h.consistent fun _ _ => id

theorem turned [Codec κ ν] (h : c.Held present) {n : Nat} {manager : Manager} {moment : Moment}
    {cue : Cue} {turn : Turn κ ν}
    (hturn : manager.step c.settings c.endpoint moment c.hub cue = some turn) :
    ({ c with managers := c.managers.set n turn.manager, hub := turn.hub } : Client κ ν).Held
      present := by
  obtain ⟨operations, hregistry, hall⟩ := Manager.exists_operations hturn
  exact h.run rfl hregistry fun operation hmem => (hall operation hmem).1

end Client.Held

end ChannelMux
