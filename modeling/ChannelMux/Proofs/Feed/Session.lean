import ChannelMux.Feed.Basic
import ChannelMux.Proofs.Client.Holding
import ChannelMux.Proofs.Connection.Replay

/-!
A feed in the course of its starts and stops, with a client that nobody else subscribes through.
Every place in a channel is held by a reader of the feed, and a stop lets go of the readers one
after the other before it disconnects, so that nothing is held any more when it does.
-/
namespace ChannelMux

open Registry

namespace Feed

/-- How far a feed has come in starting or stopping. -/
inductive Stage where
  | idle
  | running
  /-- These readers are to be let go of yet. -/
  | leaving (readers : List Nat)
  /-- The readers are gone, and the client disconnects in this call. -/
  | disconnecting (call : Nat)
deriving DecidableEq

/-- What was seen of the first replay since the feed was started. -/
inductive FirstReplay (κ : Type) where
  | awaited
  /-- These frames are written of a replay that began with this codec. -/
  | underway (codec : κ) (written : List Frame)
  | complete (codec : κ) (written : List Frame)
  /-- There is none to be seen: the feed was not started, or told to stop, or the connection was
  lost before it was complete. -/
  | unseen

namespace FirstReplay

variable {κ ν : Type}

/-- A manager took a step. -/
def observe (turn : Turn κ ν) : FirstReplay κ → FirstReplay κ
  | awaited =>
    if turn.manager.phase.isReplaying then underway turn.hub.router.codec turn.wrote else awaited
  | underway codec written =>
    if turn.manager.phase.isReplaying then underway codec (written ++ turn.wrote)
    else if turn.manager.phase.inService then complete codec (written ++ turn.wrote)
    else unseen
  | seen => seen

/-- The feed was told to stop. -/
def stopped : FirstReplay κ → FirstReplay κ
  | complete codec written => complete codec written
  | _ => unseen

end FirstReplay

/-- A feed with its client. -/
structure Session (κ ν : Type) where
  feed : Feed
  client : Client κ ν
  stage : Stage
  replay : FirstReplay κ

/-- What can happen to it. Whoever else has the client may connect and disconnect it, but does not
subscribe. -/
inductive Move where
  | start
  | stop
  /-- A stop lets go of the next reader, or turns to the client when all are gone. -/
  | leave
  /-- A connect or a disconnect gets on. -/
  | call (now n : Nat)
  | manager (n : Nat) (moment : Moment) (cue : Cue)
  /-- A reader takes what its stream holds. -/
  | read (n : Nat)
  | connectToo
  | disconnectToo

/-- Nobody else is needed for it. -/
def Move.isOwn : Move → Bool
  | connectToo | disconnectToo => false
  | _ => true

namespace Session

variable {κ ν : Type}

/-- The readers that are not let go of. -/
def present (s : Session κ ν) : List Nat :=
  match s.stage with
  | .running => s.feed.readers
  | .leaving readers => readers
  | .idle | .disconnecting _ => []

/-- The call in which the client was to disconnect is over. -/
def hasDisconnected (s : Session κ ν) : Bool :=
  match s.stage with
  | .disconnecting n => !(s.client.calls[n]?).any Call.isPending
  | _ => false

/-- A stop returns as soon as the client has disconnected. -/
def settle (s : Session κ ν) : Session κ ν :=
  if s.hasDisconnected then { s with feed := s.feed.stopped, stage := .idle } else s

variable [Codec κ ν]

def begin (settings : Settings) (endpoint : String) (codec : κ) (name : String)
    (channels : List ChannelRequest) : Session κ ν where
  feed := ofChannels name channels
  client := Client.start settings endpoint codec
  stage := .idle
  replay := .unseen

/-- A move that is not possible changes nothing. -/
def advance (s : Session κ ν) : Move → Session κ ν
  | .start =>
    match s.stage with
    | .idle =>
      { feed := (s.feed.start s.client).1
        client := (s.feed.start s.client).2
        stage := .running
        replay := .awaited }
    | .running =>
      { s with feed := (s.feed.start s.client).1, client := (s.feed.start s.client).2 }
    | _ => s
  | .stop =>
    match s.stage with
    | .idle | .running => { s with stage := .leaving s.feed.readers, replay := s.replay.stopped }
    | _ => s
  | .leave =>
    match s.stage with
    | .leaving (n :: rest) => { s with client := s.client.detach n, stage := .leaving rest }
    | .leaving [] =>
      { s with
        client := (s.feed.abandonConnect s.client).begin .disconnect
        stage := .disconnecting s.client.calls.length }
    | _ => s
  | .call now n =>
    match s.client.callStep now n with
    | some client => settle { s with client }
    | none => s
  | .manager n moment cue =>
    match s.client.managers[n]? with
    | some manager =>
      match manager.step s.client.settings s.client.endpoint moment s.client.hub cue with
      | some turn =>
        { s with
          client := { s.client with
            managers := s.client.managers.set n turn.manager, hub := turn.hub }
          replay := s.replay.observe turn }
      | none => s
    | none => s
  | .read n => { s with client := (s.client.read n).2 }
  | .connectToo => { s with client := s.client.begin .connect }
  | .disconnectToo => { s with client := s.client.begin .disconnect }

def play (s : Session κ ν) (moves : List Move) : Session κ ν := moves.foldl advance s

/-- Nothing is left of an earlier start. -/
structure Clean (s : Session κ ν) : Prop where
  tasks : s.feed.tasks = none
  state : s.client.hub.state = .disconnected
  offline : s.client.registry.online = false
  records : s.client.registry.records = []

/-- The feed knows what it has to let go of when it is told to stop. -/
structure Kept (s : Session κ ν) : Prop where
  held : s.client.Held s.present
  stopped : s.stage = .idle → s.feed.tasks = none
  started : s.stage = .running → s.feed.tasks.isSome = true
  parting : ∀ n, s.stage = .disconnecting n →
    s.client.calls[n]? = some .disconnect ∨ ∃ m, s.client.calls[n]? = some (.stopping m)

variable {s : Session κ ν} {settings : Settings} {endpoint name : String} {codec : κ}
  {channels : List ChannelRequest}

omit [Codec κ ν] in
theorem settle_of_pending {n : Nat} {call : Call} (hstage : s.stage = .disconnecting n)
    (hcall : s.client.calls[n]? = some call) (hpending : call.isPending = true) :
    s.settle = s := by
  simp [settle, hasDisconnected, hstage, hcall, hpending]

omit [Codec κ ν] in
theorem settle_of_finished {n : Nat} {result : Except Error Unit}
    (hstage : s.stage = .disconnecting n)
    (hcall : s.client.calls[n]? = some (.finished result)) :
    s.settle = { s with feed := s.feed.stopped, stage := .idle } := by
  simp [settle, hasDisconnected, hstage, hcall, Call.isPending]

omit [Codec κ ν] in
theorem settle_of_stage (hstage : ∀ n, s.stage ≠ .disconnecting n) : s.settle = s := by
  have hnot : s.hasDisconnected = false := by
    unfold hasDisconnected
    split
    · exact absurd ‹_› (hstage _)
    · rfl
  rw [settle, hnot, if_neg Bool.false_ne_true]

/-- A feed that runs is not started again. -/
theorem start_of_started {feed : Feed} {client : Client κ ν} (h : feed.tasks.isSome = true) :
    feed.start client = (feed, client) := by
  obtain ⟨tasks, htasks⟩ := Option.isSome_iff_exists.mp h
  rw [Feed.start, htasks]

theorem start_of_stopped {feed : Feed} {client : Client κ ν} (h : feed.tasks = none) :
    feed.start client =
      (⟨feed.name, feed.channels,
          some ⟨List.range' client.readers.length feed.channels.length, client.calls.length⟩⟩,
        (feed.channels.foldl Client.attach client).begin .connect) := by
  rw [Feed.start, h]

omit [Codec κ ν] in
/-- The feed's connect is given up if anybody waits for it; nothing else changes. -/
theorem abandonConnect_eq (feed : Feed) (client : Client κ ν) :
    (feed.abandonConnect client = client ∧ ∀ tasks call, feed.tasks = some tasks →
      client.calls[tasks.connect]? = some call → call.isPending = false) ∨
    ∃ tasks call, feed.tasks = some tasks ∧ client.calls[tasks.connect]? = some call ∧
      call.isPending = true ∧
      feed.abandonConnect client = client.setCall tasks.connect .abandoned := by
  unfold abandonConnect
  cases htasks : feed.tasks with
  | none => exact .inl ⟨rfl, by simp⟩
  | some tasks =>
    cases hcall : client.calls[tasks.connect]? with
    | none =>
      refine .inl ⟨by simp [hcall], ?_⟩
      rintro _ call ⟨⟩ hother
      rw [hcall] at hother
      cases hother
    | some call =>
      by_cases hpending : call.isPending = true
      · exact .inr ⟨tasks, call, rfl, hcall, hpending, by simp [hcall, hpending]⟩
      · refine .inl ⟨by simp [hcall, hpending], ?_⟩
        rintro _ other ⟨⟩ hother
        cases hcall.symm.trans hother
        simpa using hpending

theorem stage_manager (s : Session κ ν) (n : Nat) (moment : Moment) (cue : Cue) :
    (s.advance (.manager n moment cue)).stage = s.stage := by
  simp only [advance]
  split
  · split <;> rfl
  · rfl

namespace Kept

omit [Codec κ ν] in
theorem begin : (begin settings endpoint codec name channels : Session κ ν).Kept := by
  refine ⟨⟨consistent_empty, ?_, ?_⟩, fun _ => rfl, ?_, ?_⟩
  · rintro reader ⟨⟩
  · rintro key ticket ⟨⟩
  · rintro ⟨⟩
  · rintro n ⟨⟩

theorem start (h : s.Kept) : (s.advance .start).Kept := by
  unfold advance
  cases hstage : s.stage with
  | idle =>
    simp only [start_of_stopped (h.stopped hstage)]
    have hnobody : s.client.Held [] := by
      have hheld := h.held
      rwa [present, hstage] at hheld
    refine ⟨?_, ?_, fun _ => rfl, ?_⟩
    · exact (hnobody.attach_all s.feed.channels).of_registry rfl
        (hnobody.attach_all s.feed.channels).consistent fun _ _ => id
    · rintro ⟨⟩
    · rintro n ⟨⟩
  | running =>
    simp only [start_of_started (h.started hstage), ← hstage]
    exact h
  | leaving readers => exact h
  | disconnecting n => exact h

theorem stop (h : s.Kept) : (s.advance .stop).Kept := by
  unfold advance
  have hleaving : s.stage = .idle ∨ s.stage = .running →
      ({ s with stage := .leaving s.feed.readers, replay := s.replay.stopped } :
        Session κ ν).Kept := by
    intro hstage
    refine ⟨h.held.mono ?_, ?_, ?_, ?_⟩
    · rcases hstage with hstage | hstage <;> simp [present, hstage]
    · rintro ⟨⟩
    · rintro ⟨⟩
    · rintro n ⟨⟩
  cases hstage : s.stage with
  | idle => exact hleaving (.inl hstage)
  | running => exact hleaving (.inr hstage)
  | leaving readers => exact h
  | disconnecting n => exact h

theorem leave (h : s.Kept) : (s.advance .leave).Kept := by
  unfold advance
  cases hstage : s.stage with
  | idle => exact h
  | running => exact h
  | disconnecting n => exact h
  | leaving readers =>
    have hheld := h.held
    rw [present, hstage] at hheld
    cases readers with
    | nil =>
      -- giving the connect up takes no call away, so that the disconnect is the last one
      have hcalls : (s.feed.abandonConnect s.client).calls.length = s.client.calls.length := by
        rcases abandonConnect_eq s.feed s.client with ⟨hsame, -⟩ | ⟨tasks, call, -, -, -, hsame⟩
        · rw [hsame]
        · rw [hsame]
          exact List.length_set
      have hgivenUp : (s.feed.abandonConnect s.client).Held [] := by
        rcases abandonConnect_eq s.feed s.client with ⟨hsame, -⟩ | ⟨tasks, call, -, -, -, hsame⟩
        · rwa [hsame]
        · rw [hsame]
          exact hheld.of_registry rfl hheld.consistent fun _ _ => id
      refine ⟨hgivenUp.of_registry rfl hgivenUp.consistent fun _ _ => id, ?_, ?_, ?_⟩
      · rintro ⟨⟩
      · rintro ⟨⟩
      · rintro n ⟨⟩
        refine .inl ?_
        change ((s.feed.abandonConnect s.client).calls ++ [.disconnect])[_]? = _
        rw [← hcalls, List.getElem?_concat_length]
    | cons n rest =>
      refine ⟨(hheld.detach n).mono ?_, ?_, ?_, ?_⟩
      · intro m hm
        obtain ⟨hmem, hne⟩ := List.mem_filter.mp hm
        exact (List.mem_cons.mp hmem).resolve_left (by simpa using hne)
      · rintro ⟨⟩
      · rintro ⟨⟩
      · rintro m ⟨⟩

omit [Codec κ ν] in
/-- The calls that a stop waits for are still the same. -/
theorem of_client (h : s.Kept) {client : Client κ ν} (hheld : client.Held s.present)
    (hcalls : ∀ n, s.stage = .disconnecting n → client.calls[n]? = s.client.calls[n]?)
    (replay : FirstReplay κ) : ({ s with client, replay } : Session κ ν).Kept := by
  refine ⟨hheld, h.stopped, h.started, fun n hstage => ?_⟩
  change client.calls[n]? = _ ∨ ∃ m, client.calls[n]? = _
  rw [hcalls n hstage]
  exact h.parting n hstage

omit [Codec κ ν] in
theorem begun (h : s.Kept) (call : Call) :
    ({ s with client := s.client.begin call } : Session κ ν).Kept := by
  have hheld : (s.client.begin call).Held s.present :=
    h.held.of_registry rfl h.held.consistent fun _ _ => id
  refine h.of_client hheld (fun n hstage => ?_) s.replay
  have hlt : n < s.client.calls.length := by
    rcases h.parting n hstage with hcall | ⟨m, hcall⟩ <;>
      exact (List.getElem?_eq_some_iff.mp hcall).1
  exact List.getElem?_append_left hlt

theorem read (h : s.Kept) (n : Nat) : (s.advance (.read n)).Kept := by
  have hreads := s.client.reads n
  refine h.of_client (h.held.reads hreads) (fun m _ => ?_) s.replay
  rw [hreads.sameWork.calls]

theorem manager (h : s.Kept) (n : Nat) (moment : Moment) (cue : Cue) :
    (s.advance (.manager n moment cue)).Kept := by
  cases hmanager : s.client.managers[n]? with
  | none =>
    simp only [Session.advance, hmanager]
    exact h
  | some manager =>
    cases hturn : manager.step s.client.settings s.client.endpoint moment s.client.hub cue with
    | none =>
      simp only [Session.advance, hmanager, hturn]
      exact h
    | some turn =>
      simp only [Session.advance, hmanager, hturn]
      exact h.of_client (h.held.turned hturn) (fun _ _ => rfl) (s.replay.observe turn)

omit [Codec κ ν] in
/-- By a step of the call in which the client was to disconnect, a stop returns or begins to wait.
Other calls are nothing to it. -/
theorem callStep (h : s.Kept) {now n : Nat} {client : Client κ ν}
    (hstep : s.client.callStep now n = some client) :
    (s.stage = .disconnecting n ∧ (s.client.running = none ∨ ∃ m, s.client.Waits n m) ∧
      client = s.client.disconnected.setCall n (.finished (.ok ())) ∧
      ({ s with client } : Session κ ν).settle = ⟨s.feed.stopped, client, .idle, s.replay⟩) ∨
    (s.stage = .disconnecting n ∧
      (∃ m, client = ({ s.client with running := none }.stop m).setCall n (.stopping m) ∧
        client.calls[n]? = some (.stopping m)) ∧
      ({ s with client } : Session κ ν).settle = { s with client }) ∨
    (s.stage ≠ .disconnecting n ∧
      ({ s with client } : Session κ ν).settle = { s with client }) := by
  have hprogress := Client.progress_of_callStep hstep
  by_cases hown : s.stage = .disconnecting n
  · have hover : client = s.client.disconnected.setCall n (.finished (.ok ())) →
        ({ s with client } : Session κ ν).settle = ⟨s.feed.stopped, client, .idle, s.replay⟩ := by
      rintro rfl
      refine settle_of_finished hown (List.getElem?_set_self ?_)
      rcases h.parting n hown with hcall | ⟨k, hcall⟩
      · exact Client.lt_of_call hcall
      · exact Client.lt_of_call hcall
    cases hprogress with
    | joined hcall => rcases h.parting n hown with hother | ⟨k, hother⟩ <;> simp [hcall] at hother
    | started hcall hidle =>
      rcases h.parting n hown with hother | ⟨k, hother⟩ <;> simp [hcall] at hother
    | answered hcall result =>
      rcases h.parting n hown with hother | ⟨k, hother⟩ <;> simp [hcall] at hother
    | idle hcall hrunning => exact .inl ⟨hown, .inl hrunning, rfl, hover rfl⟩
    | @ended m hwaiting hfinished => exact .inl ⟨hown, .inr ⟨m, hwaiting⟩, rfl, hover rfl⟩
    | @letGo m hcall hrunning =>
      have hwaits : (({ s.client with running := none }.stop m).setCall n
          (.stopping m)).calls[n]? = some (.stopping m) :=
        List.getElem?_set_self (Client.lt_of_call hcall)
      exact .inr (.inl ⟨hown, ⟨m, rfl, hwaits⟩, settle_of_pending hown hwaits rfl⟩)
  · refine .inr (.inr ⟨hown, ?_⟩)
    by_cases hstage : ∃ m, s.stage = .disconnecting m
    · obtain ⟨m, hstage⟩ := hstage
      have hsame : client.calls[m]? = s.client.calls[m]? :=
        hprogress.calls_of_ne (by rintro rfl; exact hown hstage)
      rcases h.parting m hstage with hcall | ⟨k, hcall⟩
      · exact settle_of_pending hstage (hsame.trans hcall) rfl
      · exact settle_of_pending hstage (hsame.trans hcall) rfl
    · exact settle_of_stage fun m hm => hstage ⟨m, hm⟩

omit [Codec κ ν] in
theorem called (h : s.Kept) {now n : Nat} {client : Client κ ν}
    (hstep : s.client.callStep now n = some client) :
    ({ s with client } : Session κ ν).settle.Kept := by
  have hheld := h.held.callStep hstep
  rcases h.callStep hstep with
    ⟨hstage, -, -, hsettle⟩ | ⟨hstage, ⟨m, -, hwaits⟩, hsettle⟩ | ⟨hstage, hsettle⟩
  · rw [hsettle]
    rw [present, hstage] at hheld
    refine ⟨hheld, fun _ => rfl, ?_, ?_⟩
    · rintro ⟨⟩
    · rintro m ⟨⟩
  · rw [hsettle]
    refine ⟨hheld, h.stopped, h.started, fun k hk => ?_⟩
    cases hstage.symm.trans hk
    exact .inr ⟨m, hwaits⟩
  · rw [hsettle]
    refine h.of_client hheld (fun k hk => ?_) s.replay
    exact (Client.progress_of_callStep hstep).calls_of_ne (by rintro rfl; exact hstage hk)

theorem advance (h : s.Kept) (move : Move) : (s.advance move).Kept := by
  cases move with
  | start => exact h.start
  | stop => exact h.stop
  | leave => exact h.leave
  | call now n =>
    cases hstep : s.client.callStep now n with
    | none =>
      simp only [Session.advance, hstep]
      exact h
    | some client =>
      simp only [Session.advance, hstep]
      exact h.called hstep
  | manager n moment cue => exact h.manager n moment cue
  | read n => exact h.read n
  | connectToo => exact h.begun .connect
  | disconnectToo => exact h.begun .disconnect

theorem play (h : s.Kept) (moves : List Move) : (s.play moves).Kept := by
  induction moves generalizing s with
  | nil => exact h
  | cons move rest ih => exact ih (h.advance move)

omit [Codec κ ν] in
theorem clean_of_returned (h : s.Kept) {now n : Nat} {client : Client κ ν}
    (hstep : s.client.callStep now n = some client) (hstage : s.stage ≠ .idle)
    (hidle : ({ s with client } : Session κ ν).settle.stage = .idle) :
    ({ s with client } : Session κ ν).settle.Clean := by
  rcases h.callStep hstep with
    ⟨hdisconnecting, -, rfl, hsettle⟩ | ⟨-, -, hsettle⟩ | ⟨-, hsettle⟩
  · have hnobody := h.held
    rw [present, hdisconnecting] at hnobody
    rw [hsettle]
    exact ⟨rfl, rfl, rfl, hnobody.records_disconnected⟩
  · rw [hsettle] at hidle
    exact absurd hidle hstage
  · rw [hsettle] at hidle
    exact absurd hidle hstage

/-- A stop that returns leaves nothing behind. -/
theorem clean (h : s.Kept) {move : Move} (hstage : s.stage ≠ .idle)
    (hidle : (s.advance move).stage = .idle) : (s.advance move).Clean := by
  cases move with
  | call now n =>
    cases hstep : s.client.callStep now n with
    | none =>
      simp only [Session.advance, hstep] at hidle
      exact absurd hidle hstage
    | some client =>
      simp only [Session.advance, hstep] at hidle ⊢
      exact h.clean_of_returned hstep hstage hidle
  | manager n moment cue =>
    refine absurd ?_ hstage
    rw [← hidle, stage_manager]
  | read n => exact absurd hidle hstage
  | connectToo => exact absurd hidle hstage
  | disconnectToo => exact absurd hidle hstage
  | start =>
    cases hbefore : s.stage with
    | idle => exact absurd hbefore hstage
    | _ => simp [Session.advance, hbefore] at hidle
  | stop =>
    cases hbefore : s.stage with
    | idle => exact absurd hbefore hstage
    | _ => simp [Session.advance, hbefore] at hidle
  | leave =>
    cases hbefore : s.stage with
    | idle => exact absurd hbefore hstage
    | leaving readers => cases readers <;> simp [Session.advance, hbefore] at hidle
    | _ => simp [Session.advance, hbefore] at hidle

end Kept

end Session

end Feed

end ChannelMux
