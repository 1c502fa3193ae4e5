import ChannelMux.Codec.Plain
import ChannelMux.Connection.Manager
import ChannelMux.Proofs.Registry.Attempts
import ChannelMux.Proofs.Registry.Listing

/-!
What a manager does first on a connection that came up. It sees to the channels that are wanted
then, one after the other: it writes the subscribe of each that has a wire form, whether or not the
throttle makes it wait, and fails each other alone.
-/
namespace ChannelMux

open Registry

def Phase.isReplaying : Phase → Bool
  | .requesting (.replay _) _ | .holding (.replay _) _ _ _ => true
  | _ => false

namespace Replay

/-- Where a replay stands: the frame that waits for the throttle, how many subscribes are written,
and the channels that are yet to be seen to. -/
inductive Stands (manager : Manager) : Option Frame → Nat → List ChannelKey → Prop
  | requesting {sent : Nat} {keys : List ChannelKey} :
      manager.phase = .requesting (.replay sent) (keys.map .subscribe) →
      Stands manager none sent keys
  | holding {sent release : Nat} {frame : Frame} {keys : List ChannelKey} :
      manager.phase = .holding (.replay sent) release frame (keys.map .subscribe) →
      Stands manager (some frame) sent keys

/-- What others see of a replay, from the point where so many subscribes are written. -/
def transcript (sent : Nat) (written : List Frame) : List Action :=
  written.map Action.write ++ [.announce (.replayed (sent + written.length)), .publish .connected]

theorem transcript_append (sent : Nat) (first second : List Frame) :
    transcript sent (first ++ second) =
      first.map Action.write ++ transcript (sent + first.length) second := by
  simp [transcript, Nat.add_assoc]

variable {κ ν : Type} {settings : Settings} {endpoint : String} {moment : Moment} {cue : Cue}
  {manager manager' : Manager} {hub hub' : Hub κ ν} {turn : Turn κ ν} {held : Option Frame}
  {sent : Nat} {key : ChannelKey} {keys : List ChannelKey}

theorem Stands.isReplaying (h : Stands manager held sent keys) :
    manager.phase.isReplaying = true := by
  cases h with
  | requesting hphase => rw [hphase]; rfl
  | holding hphase => rw [hphase]; rfl

theorem transmit_eq (hwriting : moment.writing = .ok ()) (t : Turn κ ν) (sent : Nat)
    (frame : Frame) (todo : List Owed) :
    Manager.transmit moment t (.replay sent) frame todo =
      (t.act (.write frame)).enter (.requesting (.replay (sent + 1)) todo) := by
  simp [Manager.transmit, Turn.write, hwriting, Except.map]

/-- A frame that is submitted is written now, or it waits to be written next. -/
theorem submit_eq (hwriting : moment.writing = .ok ()) (t : Turn κ ν) (sent : Nat)
    (frame : Frame) (keys : List ChannelKey) :
    ∃ written held next,
      Manager.submit moment t (.replay sent) frame (keys.map .subscribe) = next ∧
      next.hub = t.hub ∧ next.actions = t.actions ++ written.map .write ∧
      Stands next.manager held (sent + written.length) keys ∧ written ++ held.toList = [frame] := by
  unfold Manager.submit
  cases t.manager.throttle with
  | none =>
    simp only [transmit_eq hwriting]
    exact ⟨[frame], none, _, rfl, rfl, rfl, .requesting rfl, rfl⟩
  | some throttle =>
    simp only
    cases (throttle.reserve moment.now).1 with
    | none =>
      simp only [transmit_eq hwriting]
      exact ⟨[frame], none, _, rfl, rfl, rfl, .requesting rfl, rfl⟩
    | some release =>
      exact ⟨[], some frame, _, rfl, rfl, (List.append_nil _).symm, .holding rfl, rfl⟩

variable [Codec κ ν]

/-- A replay never waits for anything but the throttle. -/
theorem Stands.ready (h : Stands manager held sent keys) (hub : Hub κ ν) :
    ∃ moment cue turn, moment.writing = .ok () ∧
      manager.step settings endpoint moment hub cue = some turn := by
  cases h with
  | requesting hphase =>
    refine ⟨⟨0, 0, .ok ()⟩, .proceed, ?_⟩
    simp [Manager.step, hphase]
  | @holding _ release _ _ hphase =>
    refine ⟨⟨release, 0, .ok ()⟩, .elapsed, ?_⟩
    simp [Manager.step, hphase]

theorem step_holding {frame : Frame} {release : Nat} {todo : List Owed}
    (hphase : manager.phase = .holding (.replay sent) release frame todo)
    (hwriting : moment.writing = .ok ())
    (hstep : manager.step settings endpoint moment hub cue = some turn) :
    turn.actions = [.write frame] ∧ turn.hub = hub ∧
      turn.manager.phase = .requesting (.replay (sent + 1)) todo := by
  cases cue <;> simp only [Manager.step, hphase, reduceCtorEq] at hstep
  split at hstep
  · cases hstep
    rw [transmit_eq hwriting]
    exact ⟨rfl, rfl, rfl⟩
  · cases hstep

theorem step_requesting {todo : List Owed}
    (hphase : manager.phase = .requesting (.replay sent) todo)
    (hstep : manager.step settings endpoint moment hub cue = some turn) :
    turn = Manager.request settings moment ⟨manager, hub, []⟩ (.replay sent) todo := by
  cases cue <;> simp only [Manager.step, hphase, reduceCtorEq] at hstep
  exact (Option.some.inj hstep).symm

/-- The channels of a list wait for their subscribes, and the connection is up. -/
structure Awaits (r : Registry ν) (entries : List (ChannelKey × ChannelRequest)) : Prop where
  online : r.online = true
  once : (entries.map Prod.fst).Nodup
  owes : ∀ e ∈ entries, ∃ record, r.find? e.1 = some record ∧ record.OwesSubscribe ∧
    record.request = e.2

theorem Awaits.attempt {r : Registry ν} {e : ChannelKey × ChannelRequest}
    {entries : List (ChannelKey × ChannelRequest)} (h : Awaits r (e :: entries))
    (result : Except Error Frame) : Awaits (r.attempt (e.1, result)) entries := by
  obtain ⟨hnew, hrest⟩ := List.nodup_cons.mp h.once
  refine ⟨(online_attempt r _).trans h.online, hrest, fun other hmem => ?_⟩
  have hother : e.1 ≠ other.1 := fun hsame => hnew (hsame ▸ List.mem_map_of_mem hmem)
  obtain ⟨record, hfind, howes, hrequest⟩ := h.owes other (List.mem_cons_of_mem _ hmem)
  refine ⟨record, ?_, howes, hrequest⟩
  rw [find?_attempt, if_neg hother, hfind]

/-- A channel whose subscribe has no wire form fails. -/
theorem request_refused {e : ChannelKey × ChannelRequest}
    {entries : List (ChannelKey × ChannelRequest)} {t : Turn κ ν}
    (h : Awaits t.hub.router.registry (e :: entries)) {cause : Error}
    (hencoded : Codec.encodeSubscribe t.hub.router.codec e.2 = .error cause) (todo : List Owed) :
    Manager.request settings moment t (.replay sent) (.subscribe e.1 :: todo) =
      (t.withRegistry (t.hub.router.registry.attempt (e.1, .error cause))).enter
        (.requesting (.replay sent) todo) := by
  obtain ⟨record, hfind, howes, hrequest⟩ := h.owes e List.mem_cons_self
  rw [Manager.request, beginSubscribe_of_owes h.online hfind howes, hrequest]
  simp only [hencoded]
  rfl

/-- Any other is submitted. -/
theorem request_submitted {e : ChannelKey × ChannelRequest}
    {entries : List (ChannelKey × ChannelRequest)} {t : Turn κ ν}
    (h : Awaits t.hub.router.registry (e :: entries)) {frame : Frame} {codec : κ}
    (hencoded : Codec.encodeSubscribe t.hub.router.codec e.2 = .ok (frame, codec))
    (todo : List Owed) :
    Manager.request settings moment t (.replay sent) (.subscribe e.1 :: todo) =
      Manager.submit moment
        ((t.withRegistry (t.hub.router.registry.attempt (e.1, .ok frame))).withCodec codec)
        (.replay sent) frame todo := by
  obtain ⟨record, hfind, howes, hrequest⟩ := h.owes e List.mem_cons_self
  rw [Manager.request, beginSubscribe_of_owes h.online hfind howes, hrequest]
  simp only [hencoded]
  rfl

/-- What comes of the subscribes of a list that a codec encodes one after the other. -/
def encodings (codec : κ) : List (ChannelKey × ChannelRequest) → List Outcome
  | [] => []
  | (key, request) :: rest =>
    match Codec.encodeSubscribe codec request with
    | .error cause => (key, .error cause) :: encodings codec rest
    | .ok (frame, codec) => (key, .ok frame) :: encodings codec rest

theorem encodings_refused {codec : κ} {e : ChannelKey × ChannelRequest} {cause : Error}
    (hencoded : Codec.encodeSubscribe codec e.2 = .error cause)
    (entries : List (ChannelKey × ChannelRequest)) :
    encodings codec (e :: entries) = (e.1, .error cause) :: encodings codec entries := by
  rw [encodings, hencoded]

theorem encodings_submitted {codec next : κ} {e : ChannelKey × ChannelRequest} {frame : Frame}
    (hencoded : Codec.encodeSubscribe codec e.2 = .ok (frame, next))
    (entries : List (ChannelKey × ChannelRequest)) :
    encodings codec (e :: entries) = (e.1, .ok frame) :: encodings next entries := by
  rw [encodings, hencoded]

def frames (outcomes : List Outcome) : List Frame :=
  outcomes.filterMap (fun outcome => outcome.2.toOption)

/-- A replay that has `rest` still to show and leaves the registry `final`, in at most `n` steps. -/
def Unfinished (manager : Manager) (hub : Hub κ ν) (rest : List Action) (final : Registry ν)
    (n : Nat) : Prop :=
  ∃ held sent entries, Stands manager held sent (entries.map Prod.fst) ∧
    Awaits hub.router.registry entries ∧
    rest = transcript sent (held.toList ++ frames (encodings hub.router.codec entries)) ∧
    final = hub.router.registry.attempts (encodings hub.router.codec entries) ∧
    n = 2 * entries.length + held.toList.length

variable {rest : List Action} {final : Registry ν} {n : Nat}

/-- A turn shows what is next of a replay and brings its end nearer. -/
def Advances (turn : Turn κ ν) (rest : List Action) (final : Registry ν) (n : Nat) : Prop :=
  ∃ later m, rest = turn.actions ++ later ∧ m < n ∧
    Unfinished turn.manager turn.hub later final m

theorem advances_holding {entries : List (ChannelKey × ChannelRequest)} {frame : Frame}
    {release : Nat} (hawaits : Awaits hub.router.registry entries)
    (hphase : manager.phase =
      .holding (.replay sent) release frame ((entries.map Prod.fst).map .subscribe))
    (hwriting : moment.writing = .ok ())
    (hstep : manager.step settings endpoint moment hub cue = some turn) :
    Advances turn (transcript sent (frame :: frames (encodings hub.router.codec entries)))
      (hub.router.registry.attempts (encodings hub.router.codec entries))
      (2 * entries.length + 1) := by
  obtain ⟨hactions, hhub, hnext⟩ := step_holding hphase hwriting hstep
  refine ⟨_, 2 * entries.length, ?_, Nat.lt_succ_self _, none, sent + 1, entries,
    .requesting hnext, ?_, rfl, ?_, rfl⟩
  · rw [hactions, hhub]
    exact transcript_append sent [frame] _
  · rw [hhub]
    exact hawaits
  · rw [hhub]

theorem advances_refused {e : ChannelKey × ChannelRequest}
    {entries : List (ChannelKey × ChannelRequest)}
    (hawaits : Awaits hub.router.registry (e :: entries)) {cause : Error}
    (hencoded : Codec.encodeSubscribe hub.router.codec e.2 = .error cause) :
    Advances (Manager.request settings moment ⟨manager, hub, []⟩ (.replay sent)
        (.subscribe e.1 :: (entries.map Prod.fst).map .subscribe))
      (transcript sent (frames (encodings hub.router.codec (e :: entries))))
      (hub.router.registry.attempts (encodings hub.router.codec (e :: entries)))
      (2 * (e :: entries).length) := by
  rw [encodings_refused hencoded, request_refused hawaits hencoded, List.length_cons]
  refine ⟨_, 2 * entries.length, rfl, ?_, none, sent, entries, .requesting rfl,
    hawaits.attempt (.error cause), rfl, rfl, rfl⟩
  omega

theorem advances_submitted {e : ChannelKey × ChannelRequest}
    {entries : List (ChannelKey × ChannelRequest)}
    (hawaits : Awaits hub.router.registry (e :: entries)) {frame : Frame} {codec : κ}
    (hencoded : Codec.encodeSubscribe hub.router.codec e.2 = .ok (frame, codec))
    (hwriting : moment.writing = .ok ()) :
    Advances (Manager.request settings moment ⟨manager, hub, []⟩ (.replay sent)
        (.subscribe e.1 :: (entries.map Prod.fst).map .subscribe))
      (transcript sent (frames (encodings hub.router.codec (e :: entries))))
      (hub.router.registry.attempts (encodings hub.router.codec (e :: entries)))
      (2 * (e :: entries).length) := by
  rw [encodings_submitted hencoded, request_submitted hawaits hencoded, List.length_cons]
  obtain ⟨written, waiting, next, hnext, hhub, hactions, hstands, hframe⟩ :=
    submit_eq hwriting (((⟨manager, hub, []⟩ : Turn κ ν).withRegistry
      (hub.router.registry.attempt (e.1, .ok frame))).withCodec codec) sent frame
      (entries.map Prod.fst)
  rw [hnext]
  refine ⟨_, _, ?_, ?_, waiting, sent + written.length, entries, hstands, ?_, rfl, ?_, rfl⟩
  · have hshown : frames ((e.1, .ok frame) :: encodings codec entries) =
        written ++ (waiting.toList ++ frames (encodings codec entries)) := by
      rw [← List.append_assoc, hframe]
      rfl
    rw [hhub, hactions, hshown]
    exact transcript_append sent written _
  · have hwaiting := congrArg List.length hframe
    rw [List.length_append, List.length_singleton] at hwaiting
    omega
  · rw [hhub]
    exact hawaits.attempt (.ok frame)
  · rw [hhub]
    rfl

/-- A step gets on with a replay, or it is the last one. -/
theorem Unfinished.step (h : Unfinished manager hub rest final n)
    (hwriting : moment.writing = .ok ())
    (hstep : manager.step settings endpoint moment hub cue = some turn) :
    Advances turn rest final n ∨
    (rest = turn.actions ∧ turn.hub.router.registry = final ∧
      ∃ timers, turn.manager.phase = .serving timers) := by
  obtain ⟨held, sent, entries, hstands, hawaits, rfl, rfl, rfl⟩ := h
  cases hstands with
  | holding hphase => exact Or.inl (advances_holding hawaits hphase hwriting hstep)
  | requesting hphase =>
    obtain rfl := step_requesting hphase hstep
    cases entries with
    | nil => exact Or.inr ⟨rfl, rfl, _, rfl⟩
    | cons e entries =>
      cases hencoded : Codec.encodeSubscribe hub.router.codec e.2 with
      | error cause => exact Or.inl (advances_refused hawaits hencoded)
      | ok encoded => exact Or.inl (advances_submitted hawaits hencoded hwriting)

theorem Unfinished.isReplaying (h : Unfinished manager hub rest final n) :
    manager.phase.isReplaying = true := by
  obtain ⟨held, sent, entries, hstands, -⟩ := h
  exact hstands.isReplaying

/-- A manager gets on with a replay. Nobody else does anything, and what it writes goes out. -/
inductive Proceeds (settings : Settings) (endpoint : String) :
    Manager → Hub κ ν → List Action → Manager → Hub κ ν → Prop
  | here {manager : Manager} {hub : Hub κ ν} : Proceeds settings endpoint manager hub [] manager hub
  | step {manager manager' : Manager} {hub hub' : Hub κ ν} {moment : Moment} {cue : Cue}
      {turn : Turn κ ν} {actions : List Action} :
      manager.phase.isReplaying = true → moment.writing = .ok () →
      manager.step settings endpoint moment hub cue = some turn →
      Proceeds settings endpoint turn.manager turn.hub actions manager' hub' →
      Proceeds settings endpoint manager hub (turn.actions ++ actions) manager' hub'

variable {actions : List Action}

theorem Proceeds.eq_of_finished (h : Proceeds settings endpoint manager hub actions manager' hub')
    (hover : manager.phase.isReplaying = false) :
    actions = [] ∧ manager' = manager ∧ hub' = hub := by
  cases h with
  | here => exact ⟨rfl, rfl, rfl⟩
  | step hreplaying => rw [hover] at hreplaying; cases hreplaying

/-- However far a replay has got, it showed the first part of its transcript, and it is unfinished
still or has left the registry that it was to leave. By induction on its steps. -/
theorem Proceeds.progress (h : Proceeds settings endpoint manager hub actions manager' hub')
    (hbegun : Unfinished manager hub rest final n) :
    (∃ later m, rest = actions ++ later ∧ Unfinished manager' hub' later final m) ∨
    (rest = actions ∧ hub'.router.registry = final ∧
      ∃ timers, manager'.phase = .serving timers) := by
  induction h generalizing rest n with
  | here => exact Or.inl ⟨rest, n, rfl, hbegun⟩
  | step hreplaying hwriting hstep hnext ih =>
    rcases hbegun.step hwriting hstep with
      ⟨later, m, hrest, -, hunfinished⟩ | ⟨hrest, hfinal, timers, hserving⟩
    · rcases ih hunfinished with ⟨last, k, hlater, hlast⟩ | ⟨hlater, hdone⟩
      · exact Or.inl ⟨last, k, by rw [hrest, hlater, List.append_assoc], hlast⟩
      · exact Or.inr ⟨by rw [hrest, hlater], hdone⟩
    · obtain ⟨hnothing, hmanager, hhub⟩ := hnext.eq_of_finished (by rw [hserving]; rfl)
      rw [hnothing, List.append_nil, hmanager, hhub]
      exact Or.inr ⟨hrest, hfinal, timers, hserving⟩

/-- A replay can be brought to its end from wherever it stands. By induction on the steps left. -/
theorem Unfinished.finishes (h : Unfinished manager hub rest final n) :
    ∃ actions manager' hub', Proceeds settings endpoint manager hub actions manager' hub' ∧
      manager'.phase.isReplaying = false := by
  induction n using Nat.strongRecOn generalizing manager hub rest with
  | ind n ih =>
    obtain ⟨held, sent, entries, hstands, -⟩ := id h
    obtain ⟨moment, cue, turn, hwriting, hstep⟩ := hstands.ready hub
    rcases h.step hwriting hstep with ⟨later, m, -, hm, hnext⟩ | ⟨-, -, timers, hserving⟩
    · obtain ⟨actions, manager', hub', hproceeds, hover⟩ := ih m hm hnext
      exact ⟨_, _, _, .step hstands.isReplaying hwriting hstep hproceeds, hover⟩
    · exact ⟨_, _, _, .step hstands.isReplaying hwriting hstep .here, by rw [hserving]; rfl⟩

theorem encodings_keys (codec : κ) (entries : List (ChannelKey × ChannelRequest)) :
    (encodings codec entries).map Prod.fst = entries.map Prod.fst := by
  induction entries generalizing codec with
  | nil => rfl
  | cons e entries ih =>
    cases hencoded : Codec.encodeSubscribe codec e.2 with
    | error cause => rw [encodings_refused hencoded, List.map_cons, ih, List.map_cons]
    | ok encoded => rw [encodings_submitted hencoded, List.map_cons, ih, List.map_cons]

/-- What a replay of the channels that are wanted in `r` shows, and what it leaves. -/
structure Restores (codec : κ) (r : Registry ν) (actions : List Action) (final : Registry ν) :
    Prop where
  /-- One subscribe is written for each channel whose request has a wire form, and counted. -/
  shown : actions = transcript 0 (frames (encodings codec r.wanted))
  /-- Every channel is seen to once, in the order of the list. -/
  order : (encodings codec r.wanted).map Prod.fst = r.wanted.map Prod.fst
  written : ∀ key frame, (key, .ok frame) ∈ encodings codec r.wanted →
    ∃ record, r.find? key = some record ∧
      final.find? key = some { record with subscribeSent := true }
  removed : ∀ key cause, (key, .error cause) ∈ encodings codec r.wanted → final.find? key = none
  /-- Whoever held a channel that failed is told why, once. -/
  told : ∀ key cause, (key, .error cause) ∈ encodings codec r.wanted →
    ∀ ticket ∈ r.tickets key, final.inboxes[ticket.subscriber]? =
      (r.inboxes[ticket.subscriber]?).map (·.post (.error (.subscribe key cause.message)))
  /-- Nobody else is told anything. -/
  spared : ∀ s, (∀ key cause, (key, .error cause) ∈ encodings codec r.wanted →
    ∀ ticket ∈ r.tickets key, ticket.subscriber ≠ s) → final.inboxes[s]? = r.inboxes[s]?

theorem restores_attempts {r : Registry ν} (consistent : r.Consistent) (h : Awaits r r.wanted)
    (codec : κ) : Restores codec r (transcript 0 (frames (encodings codec r.wanted)))
      (r.attempts (encodings codec r.wanted)) := by
  have honce : ((encodings codec r.wanted).map Prod.fst).Nodup := by
    rw [encodings_keys]
    exact h.once
  refine ⟨rfl, encodings_keys codec r.wanted, ?_, ?_, ?_, ?_⟩
  · intro key frame hmem
    have hlisted : key ∈ r.wanted.map Prod.fst := by
      rw [← encodings_keys codec]
      exact List.mem_map_of_mem hmem
    obtain ⟨e, he, rfl⟩ := List.mem_map.mp hlisted
    obtain ⟨record, hfind, howes, -⟩ := h.owes e he
    refine ⟨record, hfind, ?_⟩
    rw [find?_attempts honce hmem, hfind, attempted, Option.map_some, Record.subscribing,
      if_pos ⟨h.online, howes⟩]
  · intro key cause hmem
    rw [find?_attempts honce hmem, attempted]
  · intro key cause hmem ticket hlive
    exact consistent.inbox_attempts_failed honce hmem hlive
  · intro s hother
    exact consistent.inbox_attempts_other honce hother

variable {before offline : List (Operation ν)}

theorem awaits_of_relists (h : Relists before offline) :
    Awaits (after (before ++ outage offline)) (after (before ++ outage offline)).wanted := by
  refine ⟨?_, h.once, fun e he => ?_⟩
  · rw [after_outage]
    rfl
  · obtain ⟨record, hfind, hrequest, hstate, hsent, -⟩ := h.pending e he
    obtain ⟨holder, hholder, hheld⟩ :=
      subscriberCount_pos.mp ((h.held e.1).mp (List.mem_map_of_mem he))
    rw [hfind] at hholder
    cases hholder
    exact ⟨record, hfind, ⟨hstate, hsent, hheld⟩, hrequest⟩

/-- A manager finds its connection up again. -/
abbrev comeback (t : Turn κ ν) (before offline : List (Operation ν)) : Turn κ ν :=
  Manager.established (t.withRegistry (down before offline))

theorem comeback_unfinished (t : Turn κ ν) (h : Relists before offline) :
    Unfinished (comeback t before offline).manager (comeback t before offline).hub
      (transcript 0 (frames (encodings t.hub.router.codec
        (after (before ++ outage offline)).wanted)))
      ((after (before ++ outage offline)).attempts (encodings t.hub.router.codec
        (after (before ++ outage offline)).wanted))
      (2 * (after (before ++ outage offline)).wanted.length) := by
  have hregistry : (comeback t before offline).hub.router.registry =
      after (before ++ outage offline) := (after_outage before offline).symm
  refine ⟨none, 0, (after (before ++ outage offline)).wanted, .requesting ?_, ?_, rfl, ?_, rfl⟩
  · rw [← hregistry, List.map_map]
    rfl
  · rw [hregistry]
    exact awaits_of_relists h
  · rw [hregistry]
    rfl

/-- A connection that comes back has every wanted channel requested on it, in the order in which
they were acquired, and a channel whose request has no wire form fails alone. -/
theorem restores_every_channel (hdriven : IsDriven empty before)
    (hlocal : ∀ operation ∈ offline, operation.isAcquisition ∨ operation.isRelease)
    (settings : Settings) (endpoint : String) (t : Turn κ ν) :
    Relists before offline ∧
    ∀ actions manager hub, Proceeds settings endpoint (comeback t before offline).manager
        (comeback t before offline).hub actions manager hub →
      (∃ more last world, Proceeds settings endpoint manager hub more last world ∧
        last.phase.isReplaying = false) ∧
      (manager.phase.isReplaying = false →
        (∃ timers, manager.phase = .serving timers) ∧
        Restores t.hub.router.codec (after (before ++ outage offline)) actions
          hub.router.registry) := by
  have hrelists := relists hdriven hlocal
  refine ⟨hrelists, fun actions manager hub hproceeds => ?_⟩
  rcases hproceeds.progress (comeback_unfinished t hrelists) with
    ⟨later, m, -, hunfinished⟩ | ⟨hactions, hfinal, timers, hserving⟩
  · refine ⟨hunfinished.finishes, fun hover => ?_⟩
    rw [hunfinished.isReplaying] at hover
    cases hover
  · refine ⟨⟨[], manager, hub, .here, by rw [hserving]; rfl⟩, fun _ => ⟨⟨timers, hserving⟩, ?_⟩⟩
    rw [← hactions, hfinal]
    exact restores_attempts (consistent_empty.run _) (awaits_of_relists hrelists) _

def ticker : ChannelKey := ⟨"ticker:BTC"⟩

def books : ChannelKey := ⟨"books:BTC"⟩

/-- The ticker is let go of and taken again, so that it comes behind the trades; acknowledgements
come in the other order. -/
def untilLost : List (Operation PlainEvent) :=
  [.setOnline true, .acquire ticker ⟨"ticker", ["BTC"]⟩, .beginSubscribe ticker, .activate ticker,
    .acquire trades tradesRequest, .beginSubscribe trades, .release ticker ⟨0, 0⟩,
    .beginUnsubscribe ticker 5, .acquire ticker ⟨"ticker", ["BTC"]⟩, .beginSubscribe ticker,
    .activate ticker, .activate trades]

def whileDown : List (Operation PlainEvent) :=
  [.acquire books ⟨"books", ["BTC"]⟩, .acquire trades tradesRequest, .release trades ⟨1, 1⟩]

/-- A manager whose codec can write no subscribe for the ticker. -/
def withoutTicker : Turn PlainCodec PlainEvent where
  manager := Manager.start Settings.standard 0
  hub := ⟨Router.start ⟨false, some ticker.text, 0⟩, .connecting, none, false⟩
  actions := []

/-- Trades and books are requested again, although the ticker between them fails. -/
theorem restores_around_failure :
    (after (untilLost ++ outage whileDown)).wanted.map Prod.fst = [trades, ticker, books] ∧
    Relists untilLost whileDown ∧
    ∀ actions manager hub, Proceeds Settings.standard "wss://example" (comeback withoutTicker
        untilLost whileDown).manager (comeback withoutTicker untilLost whileDown).hub actions
        manager hub →
      (∃ more last world, Proceeds Settings.standard "wss://example" manager hub more last world ∧
        last.phase.isReplaying = false) ∧
      (manager.phase.isReplaying = false →
        (∃ timers, manager.phase = .serving timers) ∧
        Restores withoutTicker.hub.router.codec (after (untilLost ++ outage whileDown)) actions
          hub.router.registry) :=
  ⟨by decide, restores_every_channel (by decide) (by decide) Settings.standard "wss://example"
    withoutTicker⟩

end Replay

end ChannelMux
