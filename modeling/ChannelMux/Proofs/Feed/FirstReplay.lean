import ChannelMux.Proofs.Feed.Undisturbed
import ChannelMux.Proofs.Registry.Gathering

/-!
The first replay after a feed was started. Its channels are asked for before there is a connection,
so that the first connection requests every one of them, in their order; whoever reads in the
meantime takes nothing away from that.
-/
namespace ChannelMux

open Registry

namespace Replay

variable {κ ν : Type}

/-- The frames that are written in the course of some actions. -/
def writes (actions : List Action) : List Frame :=
  actions.filterMap fun
    | .write frame => some frame
    | _ => none

theorem writes_append (first second : List Action) :
    writes (first ++ second) = writes first ++ writes second :=
  List.filterMap_append

theorem wrote_eq (t : Turn κ ν) : t.wrote = writes t.actions := rfl

theorem writes_transcript (sent : Nat) (written : List Frame) :
    writes (transcript sent written) = written := by
  have hwrites : writes (written.map Action.write) = written := by
    rw [writes, List.filterMap_map]
    exact List.filterMap_some
  rw [transcript, writes_append, hwrites]
  exact List.append_nil _

variable [Codec κ ν] {settings : Settings} {endpoint : String} {moment : Moment} {cue : Cue}
  {manager : Manager} {hub hub' : Hub κ ν} {turn : Turn κ ν} {rest : List Action}
  {final : Registry ν} {n : Nat}

/-- A replay goes on as before if its channels are still to be requested. -/
theorem Unfinished.of_records (h : Unfinished manager hub rest final n)
    (hcodec : hub'.router.codec = hub.router.codec)
    (hrecords : hub'.router.registry.records = hub.router.registry.records)
    (honline : hub'.router.registry.online = hub.router.registry.online) :
    ∃ final', Unfinished manager hub' rest final' n := by
  obtain ⟨held, sent, entries, hstands, hawaits, rfl, -, rfl⟩ := h
  have hfind : ∀ key, hub'.router.registry.find? key = hub.router.registry.find? key := by
    intro key
    rw [Registry.find?, hrecords]
    rfl
  refine ⟨_, held, sent, entries, hstands, ⟨honline.trans hawaits.online, hawaits.once, ?_⟩, ?_,
    rfl, rfl⟩
  · intro e hmem
    rw [hfind]
    exact hawaits.owes e hmem
  · rw [hcodec]

theorem inService_of_isReplaying {phase : Phase} (h : phase.isReplaying = true) :
    phase.inService = true := by
  cases phase with
  | requesting purpose todo => rfl
  | holding purpose release frame todo => rfl
  | _ => cases h

/-- The same moment with a connection that takes what is written. -/
abbrev sound (moment : Moment) : Moment := { moment with writing := .ok () }

omit [Codec κ ν] in
theorem transmit_failed {cause : Error} (hwriting : moment.writing = .error cause) (t : Turn κ ν)
    (purpose : Purpose) (frame : Frame) (todo : List Owed) :
    (Manager.transmit moment t purpose frame todo).manager.phase.inService = false := by
  unfold Manager.transmit
  rw [Turn.write, hwriting]
  cases purpose <;> rfl

omit [Codec κ ν] in
theorem submit_failed {cause : Error} (hwriting : moment.writing = .error cause) (t : Turn κ ν)
    (purpose : Purpose) (frame : Frame) (todo : List Owed) :
    (Manager.submit moment t purpose frame todo).manager.phase.inService = false ∨
      Manager.submit (sound moment) t purpose frame todo =
        Manager.submit moment t purpose frame todo := by
  unfold Manager.submit
  cases t.manager.throttle with
  | none => exact .inl (transmit_failed hwriting t purpose frame todo)
  | some throttle =>
    simp only
    split
    · exact .inl (transmit_failed hwriting _ purpose frame todo)
    · exact .inr rfl

theorem request_failed {cause : Error} (hwriting : moment.writing = .error cause) (t : Turn κ ν)
    (purpose : Purpose) (todo : List Owed) :
    (Manager.request settings moment t purpose todo).manager.phase.inService = false ∨
      Manager.request settings (sound moment) t purpose todo =
        Manager.request settings moment t purpose todo := by
  unfold Manager.request
  split
  · exact .inr (by cases purpose <;> rfl)
  · split
    · exact .inr rfl
    · split
      · exact .inr rfl
      · exact submit_failed hwriting _ purpose _ _
  · simp only [sound]
    split
    · exact .inr rfl
    · split
      · exact .inr rfl
      · exact submit_failed hwriting _ purpose _ _

/-- A write that fails loses the connection; no other step of a replay depends on it. -/
theorem lost_or_written (hreplaying : manager.phase.isReplaying = true)
    (hstep : manager.step settings endpoint moment hub cue = some turn) :
    turn.manager.phase.inService = false ∨
      manager.step settings endpoint (sound moment) hub cue = some turn := by
  cases hwriting : moment.writing with
  | ok done =>
    right
    rw [← hstep, sound, ← hwriting]
  | error cause =>
    cases hphase : manager.phase with
    | requesting purpose todo =>
      cases cue <;> simp only [Manager.step, hphase, reduceCtorEq, Option.some.injEq] at hstep ⊢
      rw [← hstep]
      exact request_failed hwriting _ purpose todo
    | holding purpose release frame todo =>
      cases cue <;> simp only [Manager.step, hphase, reduceCtorEq] at hstep
      split at hstep
      · cases hstep
        exact .inl (transmit_failed hwriting _ purpose frame todo)
      · cases hstep
    | _ => simp [hphase, Phase.isReplaying] at hreplaying

/-- A replay is lost in a step, or the step brings it on or to its end. -/
theorem Unfinished.stepped (h : Unfinished manager hub rest final n)
    (hstep : manager.step settings endpoint moment hub cue = some turn) :
    turn.manager.phase.inService = false ∨
    (∃ later m, rest = turn.actions ++ later ∧ m < n ∧
      Unfinished turn.manager turn.hub later final m) ∨
    rest = turn.actions ∧ ∃ timers, turn.manager.phase = .serving timers := by
  refine (lost_or_written h.isReplaying hstep).imp_right fun hsound => ?_
  rcases h.step rfl hsound with hadvances | ⟨hrest, -, hserving⟩
  · exact .inl hadvances
  · exact .inr ⟨hrest, hserving⟩

/-- A connection that comes up has everything requested that was gathered. -/
theorem unfinished_of_gathers {entries : List (ChannelKey × ChannelRequest)}
    (h : hub.router.registry.Gathers entries)
    (hphase : manager.phase = .requesting (.replay 0)
      ((hub.router.registry.setOnline true).wanted.map (fun entry => .subscribe entry.1)))
    (hregistry : hub'.router.registry = hub.router.registry.setOnline true) :
    ∃ final n, Unfinished manager hub'
      (transcript 0 (frames (encodings hub'.router.codec entries))) final n := by
  refine ⟨_, _, none, 0, entries, .requesting ?_, ⟨?_, h.once, ?_⟩, rfl, rfl, rfl⟩
  · rw [hphase, h.wanted, List.map_map]
    rfl
  · rw [hregistry]
    rfl
  · rw [hregistry]
    exact fun e hmem => h.find? hmem

end Replay

namespace Client

variable {κ ν : Type} [Codec κ ν]

theorem keyFor_eq {c c' : Client κ ν} (hwork : c.SameWork c') : c'.keyFor = c.keyFor := by
  funext request
  rw [keyFor, hwork.codec, keyFor]

/-- Readers that are attached before there is a connection have their channels asked for. -/
theorem registry_attach_all (c : Client κ ν) (requests : List ChannelRequest) :
    (requests.foldl Client.attach c).registry =
      requests.foldl (fun r request => (r.acquire (c.keyFor request) request).2) c.registry := by
  induction requests generalizing c with
  | nil => rfl
  | cons request rest ih =>
    rw [List.foldl_cons, ih, keyFor_eq (c.sameWork_attach request), registry_attach,
      List.foldl_cons]

end Client

namespace Feed

variable {κ ν : Type}

open Replay

namespace FirstReplay

variable {turn : Turn κ ν} {codec : κ} {written : List Frame}

theorem observe_awaited (h : turn.manager.phase.inService = false) :
    (awaited : FirstReplay κ).observe turn = awaited := by
  have hnot : ¬turn.manager.phase.isReplaying = true := by
    intro hreplaying
    rw [inService_of_isReplaying hreplaying] at h
    cases h
  rw [observe, if_neg hnot]

theorem observe_begun (h : turn.manager.phase.isReplaying = true) :
    (awaited : FirstReplay κ).observe turn = underway turn.hub.router.codec turn.wrote := by
  rw [observe, if_pos h]

theorem observe_underway (h : turn.manager.phase.isReplaying = true) :
    (underway codec written).observe turn = underway codec (written ++ turn.wrote) := by
  rw [observe, if_pos h]

theorem observe_lost (h : turn.manager.phase.inService = false) :
    (underway codec written).observe turn = unseen := by
  have hnot : ¬turn.manager.phase.isReplaying = true := by
    intro hreplaying
    rw [inService_of_isReplaying hreplaying] at h
    cases h
  rw [observe, if_neg hnot, h, if_neg Bool.false_ne_true]

theorem observe_complete {timers : Timers} (h : turn.manager.phase = .serving timers) :
    (underway codec written).observe turn = complete codec (written ++ turn.wrote) := by
  rw [observe, h]
  rfl

variable [Codec κ ν]

/-- A client from which the first replay of these channels is to be seen, after what was seen. -/
def Shows (c : Client κ ν) (entries : List (ChannelKey × ChannelRequest)) :
    FirstReplay κ → Prop
  | awaited => c.registry.Gathers entries ∧ ∀ n, ¬c.InService n
  | underway codec written => ∃ (n : Nat) (manager : Manager) (rest : List Action)
      (final : Registry ν) (m : Nat), c.managers[n]? = some manager ∧
      Unfinished manager c.hub rest final m ∧
      frames (encodings codec entries) = written ++ writes rest
  | complete codec written => written = frames (encodings codec entries)
  | unseen => True

variable {c c' : Client κ ν} {entries : List (ChannelKey × ChannelRequest)}
  {replay : FirstReplay κ}

/-- It makes no difference to a replay who waits for the connection, or who reads. -/
theorem Shows.of_records (h : replay.Shows c entries) (consistent : c'.registry.Consistent)
    (hmanagers : c'.managers = c.managers) (hcodec : c'.hub.router.codec = c.hub.router.codec)
    (hrecords : c'.registry.records = c.registry.records)
    (honline : c'.registry.online = c.registry.online) : replay.Shows c' entries := by
  cases replay with
  | awaited =>
    refine ⟨h.1.of_records consistent hrecords honline, fun n hn => h.2 n ?_⟩
    rwa [Client.inService_iff, hmanagers, ← Client.inService_iff] at hn
  | underway codec written =>
    obtain ⟨n, manager, rest, final, m, hmanager, hunfinished, hframes⟩ := h
    obtain ⟨final', hsame⟩ := hunfinished.of_records hcodec hrecords honline
    refine ⟨n, manager, rest, final', m, ?_, hsame, hframes⟩
    rw [hmanagers]
    exact hmanager
  | complete codec written => exact h
  | unseen => exact h

/-- A manager that is started has no connection yet. -/
theorem Shows.spawn (h : replay.Shows c entries) (now : Nat) :
    replay.Shows (c.spawn now) entries := by
  cases replay with
  | awaited =>
    refine ⟨h.1, fun n hn => ?_⟩
    obtain ⟨manager, hmanager, hserving⟩ := hn
    rw [Client.spawn, List.getElem?_append] at hmanager
    split at hmanager
    · exact h.2 n ⟨manager, hmanager, hserving⟩
    · obtain rfl := List.mem_singleton.mp (List.mem_of_getElem? hmanager)
      cases hserving
  | underway codec written =>
    obtain ⟨n, manager, rest, final, m, hmanager, hunfinished, hframes⟩ := h
    refine ⟨n, manager, rest, final, m, ?_, hunfinished, hframes⟩
    exact (List.getElem?_append_left (List.getElem?_eq_some_iff.mp hmanager).1).trans hmanager
  | complete codec written => exact h
  | unseen => exact h

variable {n : Nat} {manager : Manager} {moment : Moment} {cue : Cue}

/-- A manager goes on without a connection. -/
theorem Shows.detached (h : (awaited : FirstReplay κ).Shows c entries)
    (hafter : turn.manager.phase.inService = false)
    (hregistry : turn.hub.router.registry = c.registry) :
    ((awaited : FirstReplay κ).observe turn).Shows
      { c with managers := c.managers.set n turn.manager, hub := turn.hub } entries := by
  rw [observe_awaited hafter]
  refine ⟨?_, fun m hm => ?_⟩
  · change turn.hub.router.registry.Gathers entries
    rw [hregistry]
    exact h.1
  · obtain ⟨other, hother, hserving⟩ := hm
    rw [List.getElem?_set] at hother
    split at hother
    · split at hother
      · cases hother
        rw [hafter] at hserving
        cases hserving
      · cases hother
    · exact h.2 m ⟨other, hother, hserving⟩

/-- Until a connection is established, nothing is replayed; then everything is to be. -/
theorem Shows.awaited_turned (h : (awaited : FirstReplay κ).Shows c entries)
    (hmanager : c.managers[n]? = some manager)
    (hturn : manager.step c.settings c.endpoint moment c.hub cue = some turn) :
    ((awaited : FirstReplay κ).observe turn).Shows
      { c with managers := c.managers.set n turn.manager, hub := turn.hub } entries := by
  have hdetached : manager.phase.inService = false := by
    by_contra hserving
    exact h.2 n ⟨manager, hmanager, by simpa using hserving⟩
  have hpresent : n < c.managers.length := (List.getElem?_eq_some_iff.mp hmanager).1
  cases Manager.upshot hturn with
  | away hbefore hafter quiet hstate hreply =>
    exact h.detached (Phase.inService_of_isAway hafter) quiet.registry
  | ended hafter hregistry hstate hpermit hwrote hreply =>
    exact h.detached (by rw [hafter]; rfl) (hregistry.trans h.1.setOnline)
  | asked hcue hbefore hafter hlogin hregistry hstate hpermit hwrote =>
    obtain ⟨deadline, hafter⟩ := hafter
    exact h.detached (by rw [hafter]; rfl) hregistry
  | listened hcue hbefore hafter hregistry hstate hpermit hwrote hreply =>
    exact h.detached (hafter ▸ hdetached) hregistry
  | established hready hbefore hafter hregistry hstate hpermit hwrote =>
    obtain ⟨final, m, hunfinished⟩ := unfinished_of_gathers h.1 hafter hregistry
    rw [observe_begun hunfinished.isReplaying, hwrote]
    refine ⟨n, turn.manager, _, final, m, List.getElem?_set_self hpresent, hunfinished, ?_⟩
    rw [writes_transcript]
    rfl
  | worked hbefore hafter serves hpermit =>
    rw [hdetached] at hbefore
    cases hbefore
  | woken hbefore hafter hregistry hpermit =>
    rw [hbefore] at hdetached
    cases hdetached
  | lost hbefore hafter hregistry hstate hpermit hwrote =>
    rw [hdetached] at hbefore
    cases hbefore

/-- A replay is lost, or it goes on with what is left to be written, or nothing is left. -/
theorem shows_replayed (hmanager : c.managers[n]? = some manager) {rest : List Action}
    {final : Registry ν} {m : Nat} (hunfinished : Unfinished manager c.hub rest final m)
    (hframes : frames (encodings codec entries) = written ++ writes rest)
    (hturn : manager.step c.settings c.endpoint moment c.hub cue = some turn) :
    ((underway codec written).observe turn).Shows
      { c with managers := c.managers.set n turn.manager, hub := turn.hub } entries := by
  have hpresent : n < c.managers.length := (List.getElem?_eq_some_iff.mp hmanager).1
  rcases hunfinished.stepped hturn with
    hlost | ⟨later, k, rfl, -, hnext⟩ | ⟨rfl, timers, hserving⟩
  · rw [observe_lost hlost]
    exact trivial
  · rw [observe_underway hnext.isReplaying]
    refine ⟨n, turn.manager, later, final, k, List.getElem?_set_self hpresent, hnext, ?_⟩
    rw [hframes, writes_append, ← wrote_eq, List.append_assoc]
  · rw [observe_complete hserving]
    exact hframes.symm

end FirstReplay

/-- By this move the feed is not told to stop and its client not to disconnect. -/
def Move.goesOn : Move → Bool
  | stop | disconnectToo => false
  | _ => true

namespace Session

variable [Codec κ ν] {s : Session κ ν} {entries : List (ChannelKey × ChannelRequest)}

/-- A feed that was started, whose client nobody disconnects. It has one manager at most at work,
and the first replay of these channels is to be seen. -/
structure Started (s : Session κ ν) (entries : List (ChannelKey × ChannelRequest)) : Prop where
  kept : s.Kept
  running : s.stage = .running
  calls : ∀ call ∈ s.client.calls, call.disconnects = false
  alone : ∀ n, s.client.Unfinished n → s.client.running = some n
  replay : s.replay.Shows s.client entries

namespace Started

/-- The feed starts with every channel asked for and nobody at work. -/
theorem start (kept : s.Kept) (hidle : s.stage = .idle) (clean : s.Clean) (free : s.Free) :
    (s.advance .start).Started (firsts s.client.keyFor s.feed.channels) := by
  have hkept := kept.start
  have hwork := s.client.sameWork_attach_all s.feed.channels
  simp only [Session.advance, hidle, start_of_stopped clean.tasks] at hkept ⊢
  have hunfinished : ∀ n, ¬((s.feed.channels.foldl Client.attach s.client).begin
      .connect).Unfinished n := by
    intro n hn
    refine free.managers n ?_
    rw [Client.unfinished_iff] at hn ⊢
    rw [← hwork.managers]
    exact hn
  have hempty : s.client.registry.Gathers [] := by
    have huntried : s.client.registry.Untried := by
      intro key record hfind
      have hmem := mem_of_find? hfind
      rw [clean.records] at hmem
      cases hmem
    refine ⟨kept.held.consistent, clean.offline, huntried, ?_⟩
    rw [clean.records]
    rfl
  refine ⟨hkept, rfl, fun call hmem => ?_, fun n hn => absurd hn (hunfinished n), ?_,
    fun n hn => ?_⟩
  · rcases List.mem_append.mp hmem with hold | hnew
    · rw [hwork.calls] at hold
      exact free.calls call hold
    · rw [List.mem_singleton.mp hnew]
      rfl
  · have hgathered := hempty.acquire_all s.client.keyFor s.feed.channels
    rw [← Client.registry_attach_all] at hgathered
    simp only [List.map_nil, List.not_mem_nil, not_false_eq_true, decide_true, List.filter_true,
      List.nil_append] at hgathered
    exact hgathered
  · exact hunfinished n (Client.unfinished_of_inService hn)

/-- Its managers are as they were, and so is what they find. -/
theorem aside (h : s.Started entries) {client : Client κ ν}
    (kept : ({ s with client } : Session κ ν).Kept)
    (hcalls : ∀ call ∈ client.calls, call.disconnects = false)
    (hmanagers : client.managers = s.client.managers) (hrunning : client.running = s.client.running)
    (hcodec : client.hub.router.codec = s.client.hub.router.codec)
    (hrecords : client.registry.records = s.client.registry.records)
    (honline : client.registry.online = s.client.registry.online) :
    ({ s with client } : Session κ ν).Started entries := by
  refine ⟨kept, h.running, hcalls, fun n hn => ?_,
    h.replay.of_records kept.held.consistent hmanagers hcodec hrecords honline⟩
  change client.running = some n
  rw [hrunning]
  refine h.alone n ?_
  rwa [Client.unfinished_iff, hmanagers, ← Client.unfinished_iff] at hn

theorem turned (h : s.Started entries) (n : Nat) (moment : Moment) (cue : Cue) :
    (s.advance (.manager n moment cue)).Started entries := by
  have hkept := h.kept.manager n moment cue
  cases hmanager : s.client.managers[n]? with
  | none =>
    simp only [Session.advance, hmanager]
    exact h
  | some manager =>
    cases hturn : manager.step s.client.settings s.client.endpoint moment s.client.hub cue with
    | none =>
      simp only [Session.advance, hmanager, hturn]
      exact h
    | some turn =>
      simp only [Session.advance, hmanager, hturn] at hkept ⊢
      obtain ⟨hworks, hothers⟩ :=
        Client.unfinished_of_managerStep (Client.managerStep_of_turn hmanager hturn)
      refine ⟨hkept, h.running, h.calls, fun m hm => h.alone m (hothers m hm), ?_⟩
      have hreplay := h.replay
      cases hseen : s.replay with
      | awaited =>
        rw [hseen] at hreplay
        exact hreplay.awaited_turned hmanager hturn
      | underway codec written =>
        rw [hseen] at hreplay
        obtain ⟨m, other, rest, final, k, hother, hunfinished, hframes⟩ := hreplay
        -- the manager that took the step is the one that replays
        have hserving : s.client.InService m :=
          ⟨other, hother, inService_of_isReplaying hunfinished.isReplaying⟩
        have hsame := (h.alone m (Client.unfinished_of_inService hserving)).symm.trans
          (h.alone n hworks)
        cases hsame
        cases hmanager.symm.trans hother
        exact FirstReplay.shows_replayed hmanager hunfinished hframes hturn
      | complete codec written =>
        rw [hseen] at hreplay
        exact hreplay
      | unseen => exact trivial

theorem called (h : s.Started entries) {now n : Nat} {client : Client κ ν}
    (hstep : s.client.callStep now n = some client) :
    ({ s with client } : Session κ ν).settle.Started entries := by
  have hkept := h.kept.called hstep
  have hsettle : ({ s with client } : Session κ ν).settle = { s with client } :=
    settle_of_stage fun m hm => by
      have hrunning := h.running
      rw [show s.stage = .disconnecting m from hm] at hrunning
      cases hrunning
  rw [hsettle] at hkept ⊢
  have hcalls : ∀ {calls : List Call} {next : Call}, (∀ call ∈ calls, call.disconnects = false) →
      next.disconnects = false → ∀ call ∈ calls.set n next, call.disconnects = false := by
    intro calls next hbefore hnext call hmem
    rcases List.mem_or_eq_of_mem_set hmem with hold | rfl
    · exact hbefore call hold
    · exact hnext
  have hnobody : ∀ {call : Call}, s.client.calls[n]? = some call → call.disconnects = false :=
    fun hcall => h.calls _ (List.mem_of_getElem? hcall)
  cases Client.progress_of_callStep hstep with
  | joined hcall => exact h.aside hkept (hcalls h.calls rfl) rfl rfl rfl rfl rfl
  | answered hcall result => exact h.aside hkept (hcalls h.calls rfl) rfl rfl rfl rfl rfl
  | started hcall hidle =>
    have hspawned := h.replay.spawn now
    refine ⟨hkept, h.running, hcalls h.calls rfl, fun m hm => ?_,
      hspawned.of_records hkept.held.consistent rfl rfl rfl rfl⟩
    rcases Client.unfinished_spawn.mp hm with hold | rfl
    · rw [Client.isRunning_of_unfinished hold (h.alone m hold)] at hidle
      cases hidle
    · rfl
  | idle hcall hrunning => cases hnobody hcall
  | letGo hcall hrunning => cases hnobody hcall
  | ended hwaits hfinished => cases hnobody hwaits

theorem advance (h : s.Started entries) {move : Move} (hgoes : move.goesOn = true) :
    (s.advance move).Started entries := by
  cases move with
  | start =>
    simp only [Session.advance, h.running, start_of_started (h.kept.started h.running)]
    rw [← h.running]
    exact h
  | stop => cases hgoes
  | leave =>
    simp only [Session.advance, h.running]
    exact h
  | call now n =>
    cases hstep : s.client.callStep now n with
    | none =>
      simp only [Session.advance, hstep]
      exact h
    | some client =>
      simp only [Session.advance, hstep]
      exact h.called hstep
  | manager n moment cue => exact h.turned n moment cue
  | read n =>
    have hwork := (s.client.reads n).sameWork
    obtain ⟨hrecords, honline⟩ := h.kept.held.registry_reads (s.client.reads n)
    refine h.aside (h.kept.read n) ?_ hwork.managers hwork.running hwork.codec hrecords honline
    rw [hwork.calls]
    exact h.calls
  | connectToo =>
    refine h.aside (h.kept.begun .connect) (fun call hmem => ?_) rfl rfl rfl rfl rfl
    rcases List.mem_append.mp hmem with hold | hnew
    · exact h.calls call hold
    · rw [List.mem_singleton.mp hnew]
      rfl
  | disconnectToo => cases hgoes

theorem play (h : s.Started entries) {moves : List Move}
    (hgoes : ∀ move ∈ moves, move.goesOn = true) : (s.play moves).Started entries := by
  induction moves generalizing s with
  | nil => exact h
  | cons move rest ih =>
    exact ih (h.advance (hgoes move List.mem_cons_self)) fun other hmem =>
      hgoes other (List.mem_cons_of_mem _ hmem)

end Started

theorem advance_turned {n : Nat} {manager : Manager} {moment : Moment} {cue : Cue} {turn : Turn κ ν}
    (hmanager : s.client.managers[n]? = some manager)
    (hturn : manager.step s.client.settings s.client.endpoint moment s.client.hub cue = some turn) :
    s.advance (.manager n moment cue) =
      { s with
        client := { s.client with
          managers := s.client.managers.set n turn.manager, hub := turn.hub }
        replay := s.replay.observe turn } := by
  simp only [Session.advance, hmanager, hturn]

/-- A replay comes to its end if nobody but its manager does anything and what it writes goes out.
By induction on what is left to be done. -/
theorem finishes {n m : Nat} {manager : Manager} {rest : List Action} {final : Registry ν}
    {codec : κ} {written : List Frame} (hmanager : s.client.managers[n]? = some manager)
    (hunfinished : Unfinished manager s.client.hub rest final m)
    (hseen : s.replay = .underway codec written) :
    ∃ moves, (∀ move ∈ moves, move.goesOn = true) ∧
      ∃ all, (s.play moves).replay = .complete codec all := by
  induction m using Nat.strongRecOn generalizing s manager rest written with
  | ind m ih =>
    obtain ⟨held, sent, left, hstands, -⟩ := id hunfinished
    obtain ⟨moment, cue, turn, hwriting, hturn⟩ : ∃ moment cue turn, moment.writing = .ok () ∧
        manager.step s.client.settings s.client.endpoint moment s.client.hub cue = some turn :=
      hstands.ready s.client.hub
    have hadvance := advance_turned hmanager hturn
    have hpresent : n < s.client.managers.length := (List.getElem?_eq_some_iff.mp hmanager).1
    rcases hunfinished.step hwriting hturn with
      ⟨later, k, -, hk, hnext⟩ | ⟨-, -, timers, hserving⟩
    · have hmoved : (s.advance (.manager n moment cue)).client.managers[n]? =
          some turn.manager := by
        rw [hadvance]
        exact List.getElem?_set_self hpresent
      obtain ⟨moves, hgoes, all, hall⟩ := ih k hk hmoved (by rw [hadvance]; exact hnext)
        (by rw [hadvance, hseen]; exact FirstReplay.observe_underway hnext.isReplaying)
      refine ⟨.manager n moment cue :: moves, fun move hmem => ?_, all, hall⟩
      rcases List.mem_cons.mp hmem with rfl | hrest
      · rfl
      · exact hgoes move hrest
    · refine ⟨[.manager n moment cue], fun move hmem => ?_, written ++ turn.wrote, ?_⟩
      · rw [List.mem_singleton.mp hmem]
        rfl
      · change (s.advance (.manager n moment cue)).replay = _
        rw [hadvance, hseen]
        exact FirstReplay.observe_complete hserving

/-- The first replay since the feed was started writes one subscribe for each of these channels that
has a wire form, in their order, and nothing else. -/
structure ReplaysOnce (s : Session κ ν) (entries : List (ChannelKey × ChannelRequest)) : Prop where
  underway : ∀ codec written, s.replay = .underway codec written →
    written <+: frames (encodings codec entries) ∧
    ∃ moves, (∀ move ∈ moves, move.goesOn = true) ∧
      (s.play moves).replay = .complete codec (frames (encodings codec entries))
  complete : ∀ codec written, s.replay = .complete codec written →
    written = frames (encodings codec entries)

theorem Started.replaysOnce (h : s.Started entries) : s.ReplaysOnce entries := by
  have hcomplete : ∀ {s : Session κ ν}, s.Started entries → ∀ codec written,
      s.replay = .complete codec written → written = frames (encodings codec entries) := by
    intro s h codec written hseen
    have hreplay := h.replay
    rw [hseen] at hreplay
    exact hreplay
  refine ⟨fun codec written hseen => ?_, hcomplete h⟩
  have hreplay := h.replay
  rw [hseen] at hreplay
  obtain ⟨n, manager, rest, final, m, hmanager, hunfinished, hframes⟩ := hreplay
  obtain ⟨moves, hgoes, all, hall⟩ := finishes hmanager hunfinished hseen
  refine ⟨⟨_, hframes.symm⟩, moves, hgoes, ?_⟩
  rw [hall, hcomplete (h.play hgoes) codec all hall]

theorem channels_advance (s : Session κ ν) (move : Move) :
    (s.advance move).feed.channels = s.feed.channels := by
  have hstart : (s.feed.start s.client).1.channels = s.feed.channels := by
    unfold Feed.start
    split <;> rfl
  have hsettle : ∀ s : Session κ ν, s.settle.feed.channels = s.feed.channels := by
    intro s
    unfold settle
    split <;> rfl
  cases move with
  | start =>
    simp only [Session.advance]
    split
    · exact hstart
    · exact hstart
    · rfl
  | call now n =>
    simp only [Session.advance]
    split
    · exact hsettle _
    · rfl
  | _ =>
    simp only [Session.advance]
    repeat' split
    all_goals rfl

theorem channels_play (s : Session κ ν) (moves : List Move) :
    (s.play moves).feed.channels = s.feed.channels := by
  induction moves generalizing s with
  | nil => rfl
  | cons move rest ih => exact (ih _).trans (s.channels_advance move)

/-- A stop leaves nothing behind, whatever the connection was in the midst of and whoever else
connects or disconnects the client, if nobody else subscribes through it. Once the feed is started
again, and the client is not disconnected, each of its channels is requested once. -/
theorem stop_leaves_nothing (settings : Settings) (endpoint : String) (codec : κ) (name : String)
    (channels : List ChannelRequest) (moves : List Move) :
    let s : Session κ ν := (begin settings endpoint codec name channels).play moves
    (∀ move, s.stage ≠ .idle → (s.advance move).stage = .idle → (s.advance move).Clean) ∧
    ((∀ move ∈ moves, move.isOwn = true) → s.stage = .idle → s.Clean ∧ s.Free) ∧
    (s.stage = .idle → s.Clean → s.Free → ∀ more, (∀ move ∈ more, move.goesOn = true) →
      ((s.advance .start).play more).ReplaysOnce (firsts s.client.keyFor channels)) := by
  intro s
  have kept : s.Kept := Kept.begin.play moves
  refine ⟨fun move hstage hidle => kept.clean hstage hidle, fun hown hidle => ?_,
    fun hidle clean free more hgoes => ?_⟩
  · have hundisturbed : s.Undisturbed := Undisturbed.begin.play hown
    exact ⟨(hundisturbed.idle hidle).1, hundisturbed.free hidle⟩
  · have hchannels : s.feed.channels = channels := channels_play _ moves
    have hstarted := Started.start kept hidle clean free
    rw [hchannels] at hstarted
    exact (hstarted.play hgoes).replaysOnce

/-- The trades are listed twice and requested once, before the books; the ticker between them has no
wire form. -/
example :
    let s : Session PlainCodec PlainEvent :=
      (begin Settings.standard "wss://example" ⟨false, some "ticker:BTC", 0⟩ "feed"
        [tradesRequest, ⟨"ticker", ["BTC"]⟩, ⟨"books", ["BTC"]⟩, tradesRequest]).play
      ([.start, .call 0 0, .manager 0 ⟨0, 0, .ok ()⟩ .proceed, .manager 0 ⟨0, 0, .ok ()⟩ .opened] ++
        List.replicate 4 (.manager 0 ⟨0, 0, .ok ()⟩ .proceed))
    (match s.replay with
      | .complete _ written => written
      | _ => []) =
      [PlainCodec.operation "subscribe" tradesRequest,
        PlainCodec.operation "subscribe" ⟨"books", ["BTC"]⟩] := by
  decide +kernel

end Session

end Feed

end ChannelMux
