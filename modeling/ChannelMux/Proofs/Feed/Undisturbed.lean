import ChannelMux.Proofs.Feed.Session

/-!
A feed whose client nobody else connects or disconnects. While it runs there is its own connect and
nothing else; when a stop returns there is nobody at work for it any more.
-/
namespace ChannelMux

namespace Client

variable {κ ν : Type} {c c' : Client κ ν}

theorem call_of_begin {n : Nat} {call other : Call} (h : (c.begin call).calls[n]? = some other) :
    c.calls[n]? = some other ∨ n = c.calls.length ∧ other = call := by
  rw [Client.begin, List.getElem?_append] at h
  split at h
  · exact .inl h
  · rename_i hge
    obtain ⟨hzero, hsame⟩ := List.getElem?_eq_some_iff.mp h
    rw [List.length_singleton] at hzero
    exact .inr ⟨by omega, by simpa using hsame.symm⟩

/-- Where nothing but one connect is under way, nothing but that gets on. -/
theorem Progress.only_connect {now n m : Nat} {own : Option Nat} {call : Call}
    (h : c.Progress now n c')
    (hcalls : ∀ k before, c.calls[k]? = some before → before.isPending = true →
      own = some k ∧ (before = .connect ∨ before = .connecting))
    (hcall : c'.calls[m]? = some call) (hpending : call.isPending = true) :
    own = some m ∧ (call = .connect ∨ call = .connecting) := by
  obtain ⟨before, hbefore, hunder⟩ := h.isPending
  by_cases hm : n = m
  · subst hm
    obtain ⟨hown, hconnect⟩ := hcalls n before hbefore hunder
    have hconnects : before.disconnects = false := by
      rcases hconnect with rfl | rfl <;> rfl
    rcases h.connects hbefore hconnects hcall with rfl | hover
    · exact ⟨hown, .inr rfl⟩
    · rw [hover] at hpending
      cases hpending
  · rw [h.calls_of_ne hm] at hcall
    exact hcalls m call hcall hpending

theorem Accounted.sameWork (h : c.Accounted) (hwork : c.SameWork c') : c'.Accounted := by
  refine h.of_settled hwork.running (congrArg _ hwork.managers) ?_ ?_ ?_
  · intro n hn
    rwa [unfinished_iff, hwork.managers, ← unfinished_iff] at hn
  · intro i m hwaits
    rwa [Waits, hwork.calls] at hwaits
  · intro i m hwaits _
    rwa [Waits, hwork.calls]

theorem managerStep_of_turn [Codec κ ν] {n : Nat} {manager : Manager} {moment : Moment}
    {cue : Cue} {turn : Turn κ ν} (hmanager : c.managers[n]? = some manager)
    (hturn : manager.step c.settings c.endpoint moment c.hub cue = some turn) :
    c.managerStep n moment cue = some (turn.actions,
      { c with managers := c.managers.set n turn.manager, hub := turn.hub }) := by
  simp [managerStep, hmanager, hturn]

end Client

namespace Feed

variable {κ ν : Type}

/-- The calls that may be under way while a feed with these tasks is in this stage. -/
def Stage.Allows (tasks : Option FeedTasks) (running : Option Nat) (n : Nat) (call : Call) :
    Stage → Prop
  | idle => False
  | .running | leaving _ =>
    tasks.map FeedTasks.connect = some n ∧ (call = .connect ∨ call = .connecting)
  | disconnecting m => n = m ∧ (call = .disconnect ∨ running = none ∧ ∃ k, call = .stopping k)

/-- What may be under way may get on, if it does not end the connection. -/
theorem Stage.allows_progress {c c' : Client κ ν} {now n : Nat} (progress : c.Progress now n c')
    {stage : Stage} {tasks : Option FeedTasks}
    (hcalls : ∀ m call, c.calls[m]? = some call → call.isPending = true →
      stage.Allows tasks c.running m call) (hstage : stage ≠ .disconnecting n) {m : Nat}
    {call : Call} (hcall : c'.calls[m]? = some call) (hpending : call.isPending = true) :
    stage.Allows tasks c'.running m call := by
  obtain ⟨before, hbefore, hunder⟩ := progress.isPending
  have hallows := hcalls n before hbefore hunder
  cases stage with
  | idle => exact hallows
  | running => exact progress.only_connect hcalls hcall hpending
  | leaving readers => exact progress.only_connect hcalls hcall hpending
  | disconnecting k => exact absurd (congrArg Stage.disconnecting hallows.1.symm) hstage

namespace Session

/-- Nobody disconnects the client, and no manager of it is at work. -/
structure Free (s : Session κ ν) : Prop where
  calls : ∀ call ∈ s.client.calls, call.disconnects = false
  managers : ∀ n, ¬s.client.Unfinished n

/-- Nobody but the feed has connected the client or disconnected it. -/
structure Undisturbed [Codec κ ν] (s : Session κ ν) : Prop where
  kept : s.Kept
  accounted : s.client.Accounted
  calls : ∀ n call, s.client.calls[n]? = some call → call.isPending = true →
    s.stage.Allows s.feed.tasks s.client.running n call
  idle : s.stage = .idle → s.Clean ∧ s.client.running = none

variable [Codec κ ν] {s : Session κ ν} {settings : Settings} {endpoint name : String} {codec : κ}
  {channels : List ChannelRequest}

namespace Undisturbed

theorem free (h : s.Undisturbed) (hidle : s.stage = .idle) : s.Free := by
  have hnone : ∀ (n : Nat) (call : Call), s.client.calls[n]? = some call →
      call.isPending = false := by
    intro n call hcall
    by_contra hpending
    have hallows := h.calls n call hcall (by simpa using hpending)
    rw [hidle] at hallows
    exact hallows
  refine ⟨fun call hmem => ?_, fun n hn => ?_⟩
  · obtain ⟨n, hcall⟩ := List.mem_iff_getElem?.mp hmem
    have hover := hnone n call hcall
    cases call with
    | disconnect => cases hover
    | stopping m => cases hover
    | _ => rfl
  · rcases h.accounted.waited n hn with hrunning | ⟨i, hwaits⟩
    · rw [(h.idle hidle).2] at hrunning
      cases hrunning
    · cases hnone i _ hwaits

theorem begin : (begin settings endpoint codec name channels : Session κ ν).Undisturbed := by
  refine ⟨Kept.begin, Client.accounted_start, ?_, fun _ => ⟨⟨rfl, rfl, rfl, rfl⟩, rfl⟩⟩
  intro n call hcall
  simp [Session.begin, Client.start] at hcall

/-- What becomes of the client is no matter of its calls and its managers. -/
theorem of_sameWork (h : s.Undisturbed) {s' : Session κ ν} (kept : s'.Kept)
    (hwork : s.client.SameWork s'.client)
    (hallows : ∀ n call, s.stage.Allows s.feed.tasks s.client.running n call →
      s'.stage.Allows s'.feed.tasks s.client.running n call)
    (hidle : s'.stage = .idle → s'.Clean ∧ s'.client.running = none) : s'.Undisturbed := by
  refine ⟨kept, h.accounted.sameWork hwork, fun n call hcall hpending => ?_, hidle⟩
  rw [hwork.calls] at hcall
  rw [hwork.running]
  exact hallows n call (h.calls n call hcall hpending)

theorem start (h : s.Undisturbed) : (s.advance .start).Undisturbed := by
  have hkept := h.kept.start
  cases hstage : s.stage with
  | idle =>
    have hwork := s.client.sameWork_attach_all s.feed.channels
    simp only [advance, hstage, start_of_stopped (h.kept.stopped hstage)] at hkept ⊢
    refine ⟨hkept, (h.accounted.sameWork hwork).advance .connect, fun n call hcall hpending => ?_,
      by rintro ⟨⟩⟩
    rcases Client.call_of_begin hcall with hold | ⟨rfl, rfl⟩
    · rw [hwork.calls] at hold
      have hallows := h.calls n call hold hpending
      rw [hstage] at hallows
      exact hallows.elim
    · rw [hwork.calls]
      exact ⟨rfl, .inl rfl⟩
  | running =>
    simp only [advance, hstage, start_of_started (h.kept.started hstage)]
    rw [← hstage]
    exact h
  | leaving readers =>
    simp only [advance, hstage]
    exact h
  | disconnecting n =>
    simp only [advance, hstage]
    exact h

theorem stop (h : s.Undisturbed) : (s.advance .stop).Undisturbed := by
  have hkept := h.kept.stop
  cases hstage : s.stage with
  | idle =>
    simp only [advance, hstage] at hkept ⊢
    refine ⟨hkept, h.accounted, fun n call hcall hpending => ?_, by rintro ⟨⟩⟩
    have hallows := h.calls n call hcall hpending
    rw [hstage] at hallows
    exact hallows.elim
  | running =>
    simp only [advance, hstage] at hkept ⊢
    refine ⟨hkept, h.accounted, fun n call hcall hpending => ?_, by rintro ⟨⟩⟩
    have hallows := h.calls n call hcall hpending
    rw [hstage] at hallows
    exact hallows
  | leaving readers =>
    simp only [advance, hstage]
    exact h
  | disconnecting n =>
    simp only [advance, hstage]
    exact h

/-- A feed that gives its connect up has nothing under way any more. -/
theorem abandoned (h : s.Undisturbed) (hstage : s.stage = .leaving []) :
    (s.feed.abandonConnect s.client).Accounted ∧
    ∀ (n : Nat) (call : Call), (s.feed.abandonConnect s.client).calls[n]? = some call →
      call.isPending = false := by
  have hallowed : ∀ (n : Nat) (call : Call), s.client.calls[n]? = some call →
      call.isPending = true →
      s.feed.tasks.map FeedTasks.connect = some n ∧ (call = .connect ∨ call = .connecting) := by
    intro n call hcall hpending
    have hallows := h.calls n call hcall hpending
    rwa [hstage] at hallows
  rcases abandonConnect_eq s.feed s.client with
    ⟨hsame, hover⟩ | ⟨tasks, before, htasks, hcall, hpending, hsame⟩
  · rw [hsame]
    refine ⟨h.accounted, fun n call hcall => ?_⟩
    by_contra hpending
    obtain ⟨tasks, htasks, rfl⟩ := Option.map_eq_some_iff.mp
      (hallowed n call hcall (by simpa using hpending)).1
    exact hpending (hover tasks call htasks hcall)
  · rw [hsame]
    refine ⟨h.accounted.setCall hcall (fun m hm => ?_) (by simp), fun n call hother => ?_⟩
    · have hconnects := (hallowed _ _ hcall hpending).2
      simp [hm] at hconnects
    · by_contra hunder
      by_cases hn : tasks.connect = n
      · subst hn
        rw [Client.setCall, List.getElem?_set_self (Client.lt_of_call hcall)] at hother
        cases hother
        exact hunder rfl
      · rw [Client.setCall, List.getElem?_set_ne hn] at hother
        have htask := (hallowed n call hother (by simpa using hunder)).1
        rw [htasks] at htask
        exact hn (Option.some.inj htask)

theorem leave (h : s.Undisturbed) : (s.advance .leave).Undisturbed := by
  have hkept := h.kept.leave
  cases hstage : s.stage with
  | idle =>
    simp only [advance, hstage]
    exact h
  | running =>
    simp only [advance, hstage]
    exact h
  | disconnecting n =>
    simp only [advance, hstage]
    exact h
  | leaving readers =>
    cases readers with
    | cons n rest =>
      simp only [advance, hstage] at hkept ⊢
      refine h.of_sameWork hkept (s.client.sameWork_detach n) (fun m call hallows => ?_)
        (by rintro ⟨⟩)
      rwa [hstage] at hallows
    | nil =>
      obtain ⟨haccounted, hover⟩ := h.abandoned hstage
      simp only [advance, hstage] at hkept ⊢
      refine ⟨hkept, haccounted.advance .disconnect, fun n call hcall hpending => ?_,
        by rintro ⟨⟩⟩
      rcases Client.call_of_begin hcall with hold | ⟨rfl, rfl⟩
      · rw [hover n call hold] at hpending
        cases hpending
      · refine ⟨?_, .inl rfl⟩
        rcases abandonConnect_eq s.feed s.client with
          ⟨hsame, -⟩ | ⟨tasks, before, -, -, -, hsame⟩
        · rw [hsame]
        · rw [hsame]
          exact List.length_set

theorem read (h : s.Undisturbed) (n : Nat) : (s.advance (.read n)).Undisturbed := by
  have hreads := s.client.reads n
  have hregistry := h.kept.held.registry_reads hreads
  refine h.of_sameWork (h.kept.read n) hreads.sameWork (fun m call hallows => ?_) fun hidle => ?_
  · exact hallows
  · obtain ⟨clean, hrunning⟩ := h.idle hidle
    refine ⟨⟨clean.tasks, hreads.sameWork.state.trans clean.state,
      hregistry.2.trans clean.offline, hregistry.1.trans clean.records⟩, ?_⟩
    exact hreads.sameWork.running.trans hrunning

theorem turned (h : s.Undisturbed) (n : Nat) (moment : Moment) (cue : Cue) :
    (s.advance (.manager n moment cue)).Undisturbed := by
  have hkept := h.kept.manager n moment cue
  cases hmanager : s.client.managers[n]? with
  | none =>
    simp only [advance, hmanager]
    exact h
  | some manager =>
    cases hturn : manager.step s.client.settings s.client.endpoint moment s.client.hub cue with
    | none =>
      simp only [advance, hmanager, hturn]
      exact h
    | some turn =>
      simp only [advance, hmanager, hturn] at hkept ⊢
      refine ⟨hkept, h.accounted.managerStep (Client.managerStep_of_turn hmanager hturn), h.calls,
        fun hidle => ?_⟩
      exact absurd ⟨manager, hmanager, Manager.unfinished_of_step hturn⟩
        ((h.free hidle).managers n)

/-- While the client is to disconnect, nothing but that is under way. -/
theorem only_disconnect (h : s.Undisturbed) {n m : Nat} (hstage : s.stage = .disconnecting n)
    {call : Call} (hcall : s.client.calls[m]? = some call) (hpending : call.isPending = true) :
    m = n ∧ (call = .disconnect ∨ s.client.running = none ∧ ∃ k, call = .stopping k) := by
  have hallows := h.calls m call hcall hpending
  rwa [hstage] at hallows

theorem called (h : s.Undisturbed) {now n : Nat} {client : Client κ ν}
    (hstep : s.client.callStep now n = some client) :
    ({ s with client } : Session κ ν).settle.Undisturbed := by
  have hkept := h.kept.called hstep
  have hprogress := Client.progress_of_callStep hstep
  have haccounted := h.accounted.progress hprogress
  rcases h.kept.callStep hstep with
    ⟨hstage, hwaits, hclient, hsettle⟩ | ⟨hstage, ⟨k, hclient, hcall⟩, hsettle⟩ | ⟨hstage, hsettle⟩
  · have hclean := h.kept.clean_of_returned hstep (by simp [hstage]) (by rw [hsettle])
    rw [hsettle] at hkept hclean ⊢
    refine ⟨hkept, haccounted, fun m call hcall hpending => ?_, fun _ => ⟨hclean, ?_⟩⟩
    · by_cases hm : n = m
      · subst hm
        obtain ⟨before, hbefore, -⟩ := hprogress.isPending
        rw [hclient, Client.setCall,
          List.getElem?_set_self (Client.lt_of_call (c := s.client.disconnected) hbefore)] at hcall
        cases hcall
        cases hpending
      · rw [hprogress.calls_of_ne hm] at hcall
        exact absurd (h.only_disconnect hstage hcall hpending).1 (Ne.symm hm)
    · rw [hclient]
      rcases hwaits with hrunning | ⟨m, hwaits⟩
      · exact hrunning
      · exact ((h.only_disconnect hstage hwaits rfl).2.resolve_left (by simp)).1
  · rw [hsettle] at hkept ⊢
    refine ⟨hkept, haccounted, fun m call hother hpending => ?_, fun hidle => ?_⟩
    · rw [hstage]
      by_cases hm : n = m
      · subst hm
        refine ⟨rfl, .inr ⟨?_, k, ?_⟩⟩
        · rw [hclient]
          rfl
        · exact Option.some.inj (hother.symm.trans hcall)
      · rw [hprogress.calls_of_ne hm] at hother
        exact absurd (h.only_disconnect hstage hother hpending).1 (Ne.symm hm)
    · rw [hstage] at hidle
      cases hidle
  · rw [hsettle] at hkept ⊢
    refine ⟨hkept, haccounted, fun m call hcall hpending => ?_, fun hidle => ?_⟩
    · exact Stage.allows_progress hprogress h.calls hstage hcall hpending
    · obtain ⟨before, hbefore, hunder⟩ := hprogress.isPending
      have hallows := h.calls n before hbefore hunder
      have hidle : s.stage = .idle := hidle
      rw [hidle] at hallows
      exact hallows.elim

theorem advance (h : s.Undisturbed) {move : Move} (hown : move.isOwn = true) :
    (s.advance move).Undisturbed := by
  cases move with
  | start => exact h.start
  | stop => exact h.stop
  | leave => exact h.leave
  | call now n =>
    cases hstep : s.client.callStep now n with
    | none =>
      simp only [Session.advance, hstep]
      exact h
    | some client =>
      simp only [Session.advance, hstep]
      exact h.called hstep
  | manager n moment cue => exact h.turned n moment cue
  | read n => exact h.read n
  | connectToo => cases hown
  | disconnectToo => cases hown

theorem play (h : s.Undisturbed) {moves : List Move} (hown : ∀ move ∈ moves, move.isOwn = true) :
    (s.play moves).Undisturbed := by
  induction moves generalizing s with
  | nil => exact h
  | cons move rest ih =>
    exact ih (h.advance (hown move List.mem_cons_self)) fun other hmem =>
      hown other (List.mem_cons_of_mem _ hmem)

end Undisturbed

end Session

end Feed

end ChannelMux
