import ChannelMux.Client.Basic
import ChannelMux.Codec.Plain
import ChannelMux.Proofs.Connection.Course
import Mathlib.Data.List.Induction

/-!
How many managers a client has at work. A disconnect lets go of the manager that it stops before it
has ended, and sees to the registry afterwards; a connect only looks at the manager that nobody let
go of. So there is one manager at a time only if no connect comes in between.
-/
namespace ChannelMux.Client

variable {κ ν : Type}

/-- What can happen to a client none of whose calls is given up. Every part of a connect or a
disconnect between two points where it has to wait is one move, and so is every step of a
manager. -/
inductive Move (ν : Type) where
  | connect
  | disconnect
  /-- A connect or a disconnect gets on. -/
  | call (now n : Nat)
  /-- A manager gets on. -/
  | manager (n : Nat) (moment : Moment) (cue : Cue)
  | subscribe (request : ChannelRequest)
  | unsubscribe (stream : ChannelStream)
  | receive (stream : ChannelStream)

/-- A disconnect waits for a manager to stop. -/
def Waits (c : Client κ ν) (n m : Nat) : Prop := c.calls[n]? = some (.stopping m)

def Unfinished (c : Client κ ν) (n : Nat) : Prop :=
  ∃ manager, c.managers[n]? = some manager ∧ manager.isFinished = false

/-- A manager has a connection in service. -/
def InService (c : Client κ ν) (n : Nat) : Prop :=
  ∃ manager, c.managers[n]? = some manager ∧ manager.phase.inService = true

/-- At most one manager has not finished. -/
def Alone (c : Client κ ν) : Prop := ∀ n m, c.Unfinished n → c.Unfinished m → n = m

/-- A connect finds no manager that it could share, and starts one. -/
def Starts (c : Client κ ν) (move : Move ν) : Prop :=
  ∃ now n, move = .call now n ∧ c.calls[n]? = some .connect ∧ c.isRunning = false

/-- A connect starts a manager while a disconnect waits for one that has not finished. -/
def Crowds (c : Client κ ν) (move : Move ν) : Prop :=
  c.Starts move ∧ ∃ i m, c.Waits i m ∧ c.Unfinished m

/-- A disconnect has waited for its manager and ends while a manager started since is in service. -/
def Lags (c : Client κ ν) (move : Move ν) : Prop :=
  ∃ now n m, move = .call now n ∧ c.Waits n m ∧ ¬c.Unfinished m ∧
    ∃ later, m < later ∧ c.InService later

/-- Whoever has not finished can be stopped, or is being waited for. -/
structure Accounted (c : Client κ ν) : Prop where
  newest : ∀ n, c.running = some n → n + 1 = c.managers.length
  known : ∀ i m, c.Waits i m → m < c.managers.length
  waited : ∀ n, c.Unfinished n → c.running = some n ∨ ∃ i, c.Waits i n

/-- What a call comes to in one step. -/
inductive Progress (c : Client κ ν) (now n : Nat) : Client κ ν → Prop
  /-- A connect shares the manager there is. -/
  | joined (hcall : c.calls[n]? = some .connect) : Progress c now n (c.setCall n .connecting)
  | started (hcall : c.calls[n]? = some .connect) (hidle : c.isRunning = false) :
    Progress c now n ((c.spawn now).setCall n .connecting)
  | answered (hcall : c.calls[n]? = some .connecting) (result : Except Error Unit) :
    Progress c now n (c.setCall n (.finished result))
  /-- A disconnect found nothing to stop. -/
  | idle (hcall : c.calls[n]? = some .disconnect) (hrunning : c.running = none) :
    Progress c now n (c.disconnected.setCall n (.finished (.ok ())))
  | letGo {m : Nat} (hcall : c.calls[n]? = some .disconnect) (hrunning : c.running = some m) :
    Progress c now n (({ c with running := none }.stop m).setCall n (.stopping m))
  /-- The manager that a disconnect waited for has finished. -/
  | ended {m : Nat} (hwaits : c.Waits n m) (hfinished : ¬c.Unfinished m) :
    Progress c now n (c.disconnected.setCall n (.finished (.ok ())))

variable {c c' : Client κ ν} {settings : Settings} {endpoint : String} {codec : κ} {n m : Nat}

theorem lt_of_call {call : Call} (h : c.calls[n]? = some call) : n < c.calls.length :=
  (List.getElem?_eq_some_iff.mp h).1

theorem unfinished_iff :
    c.Unfinished n ↔ (c.managers.map Manager.isFinished)[n]? = some false := by
  simp [Unfinished]

theorem inService_iff :
    c.InService n ↔ (c.managers.map (·.phase.inService))[n]? = some true := by
  simp [InService]

theorem lt_of_unfinished (h : c.Unfinished n) : n < c.managers.length := by
  obtain ⟨manager, hmanager, -⟩ := h
  exact (List.getElem?_eq_some_iff.mp hmanager).1

theorem unfinished_of_inService (h : c.InService n) : c.Unfinished n := by
  obtain ⟨manager, hmanager, hphase⟩ := h
  refine ⟨manager, hmanager, ?_⟩
  by_contra hfinished
  rw [Manager.phase_of_isFinished (by simpa using hfinished)] at hphase
  cases hphase

theorem not_unfinished : ¬c.Unfinished n ↔ (c.managers[n]?).all Manager.isFinished = true := by
  unfold Unfinished
  cases c.managers[n]? with
  | none => simp
  | some manager => simp

theorem isRunning_of_unfinished (h : c.Unfinished n) (hrunning : c.running = some n) :
    c.isRunning = true := by
  obtain ⟨manager, hmanager, hphase⟩ := h
  simp [isRunning, hrunning, hmanager, hphase]

theorem accounted_start : (start settings endpoint codec : Client κ ν).Accounted := by
  refine ⟨?_, ?_, ?_⟩
  · rintro n ⟨⟩
  · intro i m hwaits
    simp [Waits, start] at hwaits
  · rintro n ⟨manager, hmanager, -⟩
    simp [start] at hmanager

/-- Nobody was started or let go of, and whoever waits for an unfinished manager still does. -/
theorem Accounted.of_settled (h : c.Accounted) (hrunning : c'.running = c.running)
    (hlength : c'.managers.length = c.managers.length)
    (hunfinished : ∀ n, c'.Unfinished n → c.Unfinished n)
    (hknown : ∀ i m, c'.Waits i m → c.Waits i m)
    (hwaited : ∀ i m, c.Waits i m → c'.Unfinished m → c'.Waits i m) : c'.Accounted := by
  refine ⟨?_, ?_, fun n hn => ?_⟩
  · rw [hrunning, hlength]
    exact h.newest
  · rw [hlength]
    exact fun i m hwaits => h.known i m (hknown i m hwaits)
  · rw [hrunning]
    refine (h.waited n (hunfinished n hn)).imp_right ?_
    rintro ⟨i, hwaits⟩
    exact ⟨i, hwaited i n hwaits hn⟩

theorem waits_setCall {call : Call} (hlt : n < c.calls.length) (i m : Nat) :
    (c.setCall n call).Waits i m ↔ i = n ∧ call = .stopping m ∨ i ≠ n ∧ c.Waits i m := by
  simp only [Waits, setCall, List.getElem?_set]
  by_cases hi : n = i
  · subst hi
    simp [hlt]
  · simp [hi, Ne.symm hi]

theorem waits_begin {call : Call} (hcall : ∀ m, call ≠ .stopping m) (i m : Nat) :
    (c.begin call).Waits i m ↔ c.Waits i m := by
  simp only [Waits, begin, List.getElem?_append]
  split
  · rfl
  · rename_i hlt
    rw [List.getElem?_eq_none (Nat.le_of_not_lt hlt)]
    cases hsub : i - c.calls.length with
    | zero => simp [hcall m]
    | succ k => simp

theorem unfinished_stop : (c.stop m).Unfinished n ↔ c.Unfinished n := by
  simp only [Unfinished, stop, List.getElem?_modify]
  constructor
  · rintro ⟨manager, hmanager, hphase⟩
    obtain ⟨before, hbefore, rfl⟩ := Option.map_eq_some_iff.mp hmanager
    refine ⟨before, hbefore, ?_⟩
    split at hphase <;> exact hphase
  · rintro ⟨manager, hmanager, hphase⟩
    rw [hmanager]
    refine ⟨_, rfl, ?_⟩
    split <;> exact hphase

theorem unfinished_spawn {now : Nat} :
    (c.spawn now).Unfinished n ↔ c.Unfinished n ∨ n = c.managers.length := by
  simp only [Unfinished, spawn, List.getElem?_append]
  split
  · rename_i hlt
    simp [Nat.ne_of_lt hlt]
  · rename_i hlt
    rw [List.getElem?_eq_none (Nat.le_of_not_lt hlt)]
    have hself : n - c.managers.length = 0 ↔ n = c.managers.length := by omega
    cases hsub : n - c.managers.length with
    | zero => simp [hself.mp hsub, Manager.start, Manager.isFinished]
    | succ k => simp [show n ≠ c.managers.length by omega]

/-- A connect that starts a manager found none that it could share. -/
theorem Accounted.spawn (h : c.Accounted) (hrunning : c.isRunning = false) (now : Nat) :
    (c.spawn now).Accounted := by
  have hlength : (c.spawn now).managers.length = c.managers.length + 1 := by simp [Client.spawn]
  refine ⟨?_, ?_, fun n hn => ?_⟩
  · rintro n ⟨⟩
    exact hlength.symm
  · intro i m hwaits
    rw [hlength]
    exact Nat.lt_succ_of_lt (h.known i m hwaits)
  · rcases unfinished_spawn.mp hn with hold | rfl
    · refine Or.inr ((h.waited n hold).resolve_left fun hsome => ?_)
      rw [isRunning_of_unfinished hold hsome] at hrunning
      cases hrunning
    · exact Or.inl rfl

/-- A call that waits for no unfinished manager may go on to anything but waiting. -/
theorem Accounted.setCall (h : c.Accounted) {before after : Call}
    (hcall : c.calls[n]? = some before) (hbefore : ∀ m, before = .stopping m → ¬c.Unfinished m)
    (hafter : ∀ m, after ≠ .stopping m) : (c.setCall n after).Accounted := by
  have hlt := lt_of_call hcall
  refine h.of_settled rfl rfl (fun _ hn => hn) (fun i m hwaits => ?_) fun i m hwaits hm => ?_
  · rcases (waits_setCall hlt i m).mp hwaits with ⟨-, hstopping⟩ | ⟨-, hsame⟩
    · exact absurd hstopping (hafter m)
    · exact hsame
  · refine (waits_setCall hlt i m).mpr (Or.inr ⟨?_, hwaits⟩)
    rintro rfl
    exact hbefore m (Option.some.inj (hcall.symm.trans hwaits)) hm

/-- A disconnect begins to wait for the manager that it stops. -/
theorem Accounted.letGo (h : c.Accounted) (hcall : c.calls[n]? = some .disconnect)
    (hrunning : c.running = some m) :
    (({ c with running := none }.stop m).setCall n (.stopping m)).Accounted := by
  have hwaits : ∀ i k, (({ c with running := none }.stop m).setCall n (.stopping m)).Waits i k ↔
      i = n ∧ Call.stopping m = .stopping k ∨ i ≠ n ∧ c.Waits i k :=
    fun i k => waits_setCall (c := { c with running := none }.stop m) (lt_of_call hcall) i k
  have hlength : ({ c with running := none }.stop m).managers.length = c.managers.length :=
    List.length_modify _ _ _
  refine ⟨?_, fun i k hk => ?_, fun k hk => ?_⟩
  · rintro k ⟨⟩
  · change k < ({ c with running := none }.stop m).managers.length
    rw [hlength]
    rcases (hwaits i k).mp hk with ⟨-, ⟨⟩⟩ | ⟨-, hbefore⟩
    · rw [← h.newest m hrunning]
      exact Nat.lt_succ_self m
    · exact h.known i k hbefore
  · have hbefore : c.Unfinished k := (unfinished_stop (c := { c with running := none })).mp hk
    refine Or.inr ?_
    rcases h.waited k hbefore with hsome | ⟨i, hi⟩
    · rw [hrunning] at hsome
      cases hsome
      exact ⟨n, (hwaits n m).mpr (Or.inl ⟨rfl, rfl⟩)⟩
    · refine ⟨i, (hwaits i k).mpr (Or.inr ⟨?_, hi⟩)⟩
      rintro rfl
      rw [Waits, hcall] at hi
      cases hi

/-- Where a connect starts a manager that is not in the way of another, nobody is left over. -/
theorem Accounted.nobody_of_starts (h : c.Accounted) {move : Move ν} (hstarts : c.Starts move)
    (hcrowds : ¬c.Crowds move) (n : Nat) : ¬c.Unfinished n := by
  intro hn
  rcases h.waited n hn with hrunning | ⟨i, hwaits⟩
  · obtain ⟨now, i, -, -, hidle⟩ := hstarts
    rw [isRunning_of_unfinished hn hrunning] at hidle
    cases hidle
  · exact hcrowds ⟨hstarts, i, n, hwaits, hn⟩

theorem progress_of_callStep {now : Nat} (hstep : c.callStep now n = some c') :
    c.Progress now n c' := by
  unfold callStep at hstep
  split at hstep
  · rename_i hcall
    cases hstep
    split
    · exact .joined hcall
    · rename_i hidle
      exact .started hcall (by simpa using hidle)
  · rename_i hcall
    split at hstep <;> cases hstep
    · exact .answered hcall _
    · exact .answered hcall _
  · rename_i hcall
    split at hstep <;> cases hstep
    · rename_i hrunning
      exact .idle hcall hrunning
    · rename_i m hrunning
      exact .letGo hcall hrunning
  · rename_i m hcall
    split at hstep
    · rename_i hfinished
      cases hstep
      exact .ended hcall (not_unfinished.mpr hfinished)
    · cases hstep
  · cases hstep

theorem Accounted.disconnected (h : c.Accounted) : c.disconnected.Accounted :=
  ⟨h.newest, h.known, h.waited⟩

theorem Accounted.progress (h : c.Accounted) {now : Nat} (progress : c.Progress now n c') :
    c'.Accounted := by
  cases progress with
  | joined hcall => exact h.setCall hcall (by simp) (by simp)
  | started hcall hidle => exact (h.spawn hidle now).setCall hcall (by simp) (by simp)
  | answered hcall result => exact h.setCall hcall (by simp) (by simp)
  | idle hcall hrunning => exact h.disconnected.setCall hcall (by simp) (by simp)
  | letGo hcall hrunning => exact h.letGo hcall hrunning
  | @ended m hwaits hfinished =>
    refine h.disconnected.setCall hwaits (fun k hk => ?_) (by simp)
    cases hk
    exact hfinished

/-- But for a connect that starts one, no call adds to the managers that have not finished. -/
theorem Progress.unfinished {now k : Nat} (progress : c.Progress now n c')
    (hstarts : c.calls[n]? = some .connect → c.isRunning = true) (h : c'.Unfinished k) :
    c.Unfinished k := by
  cases progress with
  | joined hcall => exact h
  | started hcall hidle =>
    rw [hstarts hcall] at hidle
    cases hidle
  | answered hcall result => exact h
  | idle hcall hrunning => exact h
  | letGo hcall hrunning => exact (unfinished_stop (c := { c with running := none })).mp h
  | ended hwaits hfinished => exact h

variable [Codec κ ν]

theorem managerStep_eq {moment : Moment} {cue : Cue} {actions : List Action}
    (hstep : c.managerStep n moment cue = some (actions, c')) : ∃ manager turn,
      c.managers[n]? = some manager ∧
      manager.step c.settings c.endpoint moment c.hub cue = some turn ∧
      c' = { c with managers := c.managers.set n turn.manager, hub := turn.hub } := by
  simp only [managerStep, Option.bind_eq_bind, Option.bind_eq_some_iff, Option.some.injEq,
    Prod.mk.injEq] at hstep
  obtain ⟨manager, hmanager, turn, hturn, -, rfl⟩ := hstep
  exact ⟨manager, turn, hmanager, hturn, rfl⟩

/-- Only a manager that has not finished takes a step, and no step starts another. -/
theorem unfinished_of_managerStep {moment : Moment} {cue : Cue} {actions : List Action}
    (hstep : c.managerStep n moment cue = some (actions, c')) :
    c.Unfinished n ∧ ∀ m, c'.Unfinished m → c.Unfinished m := by
  obtain ⟨manager, turn, hmanager, hturn, rfl⟩ := managerStep_eq hstep
  have hn : c.Unfinished n := ⟨manager, hmanager, Manager.unfinished_of_step hturn⟩
  refine ⟨hn, ?_⟩
  rintro m ⟨next, hnext, hphase⟩
  by_cases hm : n = m
  · exact hm ▸ hn
  · rw [List.getElem?_set_ne hm] at hnext
    exact ⟨next, hnext, hphase⟩

/-- A move that is not possible changes nothing. -/
def advance (c : Client κ ν) : Move ν → Client κ ν
  | .connect => c.begin .connect
  | .disconnect => c.begin .disconnect
  | .call now n => (c.callStep now n).getD c
  | .manager n moment cue => ((c.managerStep n moment cue).map Prod.snd).getD c
  | .subscribe request => (c.subscribe request).2
  | .unsubscribe stream => c.unsubscribe stream
  | .receive stream => (c.receive stream).2.2

def play (c : Client κ ν) (moves : List (Move ν)) : Client κ ν := moves.foldl advance c

/-- By this move a disconnect or a manager takes the registry down for good and publishes that
there is no connection. So many managers had been started when it set out to. -/
inductive Ends (c : Client κ ν) : Move ν → Nat → Prop
  | idle {now n : Nat} (hcall : c.calls[n]? = some .disconnect) (hrunning : c.running = none) :
    Ends c (.call now n) c.managers.length
  | waited {now n m : Nat} (hwaits : c.Waits n m) (hfinished : ¬c.Unfinished m) :
    Ends c (.call now n) (m + 1)
  | finished {m : Nat} {moment : Moment} {cue : Cue} {actions : List Action} {next : Client κ ν}
    (hstep : c.managerStep m moment cue = some (actions, next)) (hfinished : ¬next.Unfinished m) :
    Ends c (.manager m moment cue) (m + 1)

/-- There is one manager at a time, and none is disturbed by those before it. -/
structure OneAtATime (c : Client κ ν) (moves : List (Move ν)) : Prop where
  alone : ∀ before, before <+: moves → (c.play before).Alone
  undisturbed : ∀ before move, before ++ [move] <+: moves →
    ∀ started, (c.play before).Ends move started →
      ∀ n, started ≤ n → ¬(c.play before).InService n

theorem Accounted.managerStep (h : c.Accounted) {moment : Moment} {cue : Cue}
    {actions : List Action} (hstep : c.managerStep n moment cue = some (actions, c')) :
    c'.Accounted := by
  have hunfinished := (unfinished_of_managerStep hstep).2
  obtain ⟨manager, turn, -, -, rfl⟩ := managerStep_eq hstep
  exact h.of_settled rfl List.length_set hunfinished (fun _ _ hwaits => hwaits)
    fun _ _ hwaits _ => hwaits

theorem Accounted.advance (h : c.Accounted) (move : Move ν) : (c.advance move).Accounted := by
  cases move with
  | connect =>
    exact h.of_settled rfl rfl (fun _ hn => hn) (fun i m => (waits_begin (by simp) i m).mp)
      fun i m hwaits _ => (waits_begin (by simp) i m).mpr hwaits
  | disconnect =>
    exact h.of_settled rfl rfl (fun _ hn => hn) (fun i m => (waits_begin (by simp) i m).mp)
      fun i m hwaits _ => (waits_begin (by simp) i m).mpr hwaits
  | call now n =>
    simp only [Client.advance]
    cases hstep : c.callStep now n with
    | none => exact h
    | some next => exact h.progress (progress_of_callStep hstep)
  | manager n moment cue =>
    simp only [Client.advance]
    cases hstep : c.managerStep n moment cue with
    | none => exact h
    | some result =>
      obtain ⟨actions, next⟩ := result
      exact h.managerStep hstep
  | subscribe request =>
    simp only [Client.advance, Client.subscribe]
    split <;> exact ⟨h.newest, h.known, h.waited⟩
  | unsubscribe stream =>
    simp only [Client.advance, Client.unsubscribe]
    split <;> exact ⟨h.newest, h.known, h.waited⟩
  | receive stream =>
    simp only [Client.advance, Client.receive]
    split <;> exact ⟨h.newest, h.known, h.waited⟩

theorem Accounted.play (h : c.Accounted) (moves : List (Move ν)) : (c.play moves).Accounted := by
  induction moves generalizing c with
  | nil => exact h
  | cons move moves ih => exact ih (h.advance move)

theorem play_append (c : Client κ ν) (before after : List (Move ν)) :
    c.play (before ++ after) = (c.play before).play after :=
  List.foldl_append

theorem unfinished_of_starts {move : Move ν} (hstarts : c.Starts move) :
    (c.advance move).Unfinished n ↔ c.Unfinished n ∨ n = c.managers.length := by
  obtain ⟨now, i, rfl, hcall, hrunning⟩ := hstarts
  have hadvance : c.advance (.call now i) = (c.spawn now).setCall i .connecting := by
    simp [Client.advance, callStep, hcall, hrunning]
  rw [hadvance]
  exact unfinished_spawn

/-- But for a connect that starts one, no move adds to the managers that have not finished. -/
theorem unfinished_of_advance {move : Move ν} (hstarts : ¬c.Starts move)
    (h : (c.advance move).Unfinished n) : c.Unfinished n := by
  cases move with
  | connect => exact h
  | disconnect => exact h
  | call now i =>
    simp only [Client.advance] at h
    cases hstep : c.callStep now i with
    | none =>
      rw [hstep] at h
      exact h
    | some next =>
      rw [hstep] at h
      refine (progress_of_callStep hstep).unfinished (fun hcall => ?_) h
      by_contra hidle
      exact hstarts ⟨now, i, rfl, hcall, by simpa using hidle⟩
  | manager i moment cue =>
    simp only [Client.advance] at h
    cases hstep : c.managerStep i moment cue with
    | none =>
      rw [hstep] at h
      exact h
    | some result =>
      rw [hstep] at h
      exact (unfinished_of_managerStep hstep).2 n h
  | subscribe request =>
    simp only [Client.advance, Client.subscribe] at h
    split at h <;> exact h
  | unsubscribe stream =>
    simp only [Client.advance, Client.unsubscribe] at h
    split at h <;> exact h
  | receive stream =>
    simp only [Client.advance, Client.receive] at h
    split at h <;> exact h

theorem Alone.advance (halone : c.Alone) (h : c.Accounted) {move : Move ν}
    (hcrowds : ¬c.Crowds move) : (c.advance move).Alone := by
  by_cases hstarts : c.Starts move
  · have hstarted : ∀ n, (c.advance move).Unfinished n → n = c.managers.length :=
      fun n hn => ((unfinished_of_starts hstarts).mp hn).resolve_left
        (h.nobody_of_starts hstarts hcrowds n)
    exact fun n m hn hm => (hstarted n hn).trans (hstarted m hm).symm
  · exact fun n m hn hm =>
      halone n m (unfinished_of_advance hstarts hn) (unfinished_of_advance hstarts hm)

theorem not_alone_of_crowds (h : c.Accounted) {move : Move ν} (hcrowds : c.Crowds move) :
    ¬(c.advance move).Alone := by
  obtain ⟨hstarts, i, m, hwaits, hm⟩ := hcrowds
  intro halone
  have hsame : m = c.managers.length :=
    halone m c.managers.length ((unfinished_of_starts hstarts).mpr (Or.inl hm))
      ((unfinished_of_starts hstarts).mpr (Or.inr rfl))
  exact absurd (h.known i m hwaits) (by omega)

/-- Whoever ends takes the registry down and publishes that there is no connection. -/
theorem Ends.offline {move : Move ν} {started : Nat} (h : c.Ends move started) :
    (c.advance move).registry.online = false ∧ (c.advance move).hub.state = .disconnected := by
  cases h with
  | idle hcall hrunning =>
    simp only [Client.advance, callStep, hcall, hrunning]
    exact ⟨rfl, rfl⟩
  | waited hwaits hfinished =>
    rw [Waits] at hwaits
    simp only [Client.advance, callStep, hwaits, not_unfinished.mp hfinished]
    exact ⟨rfl, rfl⟩
  | finished hstep hfinished =>
    simp only [Client.advance, hstep]
    obtain ⟨manager, turn, hmanager, hturn, rfl⟩ := managerStep_eq hstep
    have hphase : turn.manager.phase = .finished := by
      simpa [Unfinished, (List.getElem?_eq_some_iff.mp hmanager).1, Manager.isFinished]
        using hfinished
    exact Manager.offline_of_finished hturn hphase

/-- While one manager is left at most, nobody ends under the connection of a later one but a
disconnect that lags behind. -/
theorem Alone.undisturbed (halone : c.Alone) {move : Move ν} (hlags : ¬c.Lags move)
    {started : Nat} (hends : c.Ends move started) (hlater : started ≤ n) : ¬c.InService n := by
  intro hn
  cases hends with
  | idle hcall hrunning =>
    exact Nat.not_lt_of_le hlater (lt_of_unfinished (unfinished_of_inService hn))
  | waited hwaits hfinished => exact hlags ⟨_, _, _, rfl, hwaits, hfinished, n, hlater, hn⟩
  | @finished m _ _ _ _ hstep hfinished =>
    have hsame : n = m :=
      halone n m (unfinished_of_inService hn) (unfinished_of_managerStep hstep).1
    exact absurd hlater (by omega)

/-- There is one manager at a time exactly if no connect starts one while a disconnect waits for
another to finish, and none that was started behind a disconnect's back is in service when it
ends. -/
theorem one_at_a_time_iff (settings : Settings) (endpoint : String) (codec : κ)
    (moves : List (Move ν)) :
    let c : Client κ ν := start settings endpoint codec
    c.OneAtATime moves ↔ ∀ before move, before ++ [move] <+: moves →
      ¬(c.play before).Crowds move ∧ ¬(c.play before).Lags move := by
  intro c
  have haccounted : ∀ before, (c.play before).Accounted := accounted_start.play
  constructor
  · intro h before move hmoves
    refine ⟨fun hcrowds => ?_, ?_⟩
    · refine not_alone_of_crowds (haccounted before) hcrowds ?_
      have halone := h.alone (before ++ [move]) hmoves
      rwa [play_append] at halone
    · rintro ⟨now, n, m, rfl, hwaits, hfinished, later, hlater, hservice⟩
      exact h.undisturbed before (.call now n) hmoves (m + 1) (.waited hwaits hfinished) later
        hlater hservice
  · intro h
    have halone : ∀ before, before <+: moves → (c.play before).Alone := by
      intro before
      induction before using List.reverseRecOn with
      | nil =>
        rintro - n m ⟨manager, hmanager, -⟩
        simp [c, play, start] at hmanager
      | append_singleton before move ih =>
        intro hmoves
        rw [play_append]
        have hbefore := ih ((List.prefix_append before [move]).trans hmoves)
        exact hbefore.advance (haccounted before) (h before move hmoves).1
    refine ⟨halone, fun before move hmoves started hends n hlater => ?_⟩
    have hbefore := halone before ((List.prefix_append before [move]).trans hmoves)
    exact hbefore.undisturbed (h before move hmoves).2 hends hlater

open Course (atOnce)

/-- A connect follows while a disconnect still waits. -/
def overlapping : List (Move PlainEvent) :=
  [.connect, .call 0 0, .manager 0 atOnce .proceed, .manager 0 atOnce .opened,
    .manager 0 atOnce .proceed, .call 0 0, .disconnect, .connect, .call 0 1, .call 0 2,
    .manager 0 atOnce .shutdown, .manager 1 atOnce .proceed, .manager 1 atOnce .opened,
    .manager 1 atOnce .proceed, .call 0 2, .call 0 1]

theorem cut_off_by_overlapping :
    let c : Client PlainCodec PlainEvent :=
      start Settings.standard "wss://example" ⟨false, none, 0⟩
    ¬c.OneAtATime overlapping ∧ (c.play overlapping).InService 1 ∧
      (c.play overlapping).registry.online = false ∧
      (c.play overlapping).hub.state = .disconnected := by
  intro c
  have hboth : (c.play (overlapping.take 10)).managers.map Manager.isFinished = [false, false] := by
    decide +kernel
  have hservice : (c.play overlapping).managers.map (·.phase.inService) = [false, true] := by
    decide +kernel
  refine ⟨fun h => ?_, ?_, by decide +kernel, by decide +kernel⟩
  · have halone := h.alone (overlapping.take 10) (List.take_prefix 10 overlapping)
    have hsame : 0 = 1 := by
      apply halone <;> rw [unfinished_iff, hboth] <;> rfl
    cases hsame
  · rw [inService_iff, hservice]
    rfl

end ChannelMux.Client
