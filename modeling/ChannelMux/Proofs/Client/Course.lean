import ChannelMux.Proofs.Client.Managers
import ChannelMux.Proofs.Connection.WakeUps

/-!
The course of a client. As long as no connect starts a manager while a disconnect waits for another
to finish, the same becomes of a client as of a course whose manager is the one that was started
last. So what is known of courses is known of clients.
-/
namespace ChannelMux

namespace Course

open Registry

variable {κ ν : Type} [Codec κ ν] {k : Course κ ν}

/-- A caller who wakes the manager right after its call leaves a permit if it had to. -/
theorem called_wake (operation : Operation ν) (settings : Settings) (endpoint : String)
    (hwaking : k.waking = 0) : (k.called operation).step settings endpoint .wake =
      { k with hub := { k.hub.withRegistry (k.registry.perform operation).2 with
        permit := k.hub.permit || wakes (operation, (k.registry.perform operation).1) } } := by
  cases hwakes : wakes (operation, (k.registry.perform operation).1) with
  | true => simp [Course.step, Course.called, hwakes, Course.withRegistry, hwaking]
  | false =>
    simp [Course.step, Course.called, hwakes, hwaking, Course.withRegistry, Hub.withRegistry]

end Course

namespace Client

open Registry

variable {κ ν : Type} {settings : Settings} {endpoint : String} {c c' : Client κ ν}
  {k k' : Course κ ν} {n m : Nat}

/-- A call on the registry, after which the manager is woken if it has to be. -/
def asked (c : Client κ ν) (operation : Operation ν) : Client κ ν :=
  { c with hub := { c.hub.withRegistry (c.registry.perform operation).2 with
    permit := c.hub.permit || wakes (operation, (c.registry.perform operation).1) } }

theorem subscribe_eq [Codec κ ν] (c : Client κ ν) (request : ChannelRequest) :
    (c.subscribe request).2 = c.asked (.acquire (c.keyFor request) request) := by
  have hwakes : wakes ((.acquire (c.keyFor request) request : Operation ν),
      (c.registry.perform (.acquire (c.keyFor request) request)).1) =
        (c.registry.acquire (c.keyFor request) request).1.first := rfl
  rw [asked, hwakes]
  simp only [Client.subscribe]
  cases (c.registry.acquire (c.keyFor request) request).1.first with
  | true => simp [Client.nudge, Client.withRegistry, Registry.perform]
  | false => simp [Client.withRegistry, Registry.perform, Hub.withRegistry]

theorem unsubscribe_eq (c : Client κ ν) (stream : ChannelStream) :
    c.unsubscribe stream = c.asked (.release stream.key stream.ticket) := by
  have hwakes : wakes ((.release stream.key stream.ticket : Operation ν),
      (c.registry.perform (.release stream.key stream.ticket)).1) =
        decide ((c.registry.release stream.key stream.ticket).1 = .unsubscribe) := rfl
  rw [asked, hwakes]
  simp only [Client.unsubscribe]
  split
  · rename_i hrelease
    simp [Client.nudge, Client.withRegistry, Registry.perform, hrelease]
  · rename_i hrelease
    simp [Client.withRegistry, Registry.perform, Hub.withRegistry, hrelease]

/-- The same has become of a course as of a client, whose last manager is the manager of it. -/
structure Follows (settings : Settings) (endpoint : String) (c : Client κ ν) (k : Course κ ν) :
    Prop where
  settings : c.settings = settings
  endpoint : c.endpoint = endpoint
  hub : k.hub = c.hub
  manager : ∀ n manager, n + 1 = c.managers.length → c.managers[n]? = some manager →
    k.manager = manager
  idle : c.managers = [] → k.manager.isFinished = true
  last : ∀ n, c.Unfinished n → n + 1 = c.managers.length
  settled : k.waking = 0

theorem follows_start (settings : Settings) (endpoint : String) (codec : κ) :
    Follows settings endpoint (start settings endpoint codec : Client κ ν)
      (Course.start settings codec) := by
  refine ⟨rfl, rfl, rfl, ?_, fun _ => rfl, ?_, rfl⟩
  · intro n manager hn
    cases hn
  · rintro n ⟨manager, hmanager, -⟩
    simp [start] at hmanager

/-- Nothing happened to the managers. -/
theorem Follows.aside (h : Follows settings endpoint c k) (hsettings : c'.settings = c.settings)
    (hendpoint : c'.endpoint = c.endpoint) (hmanagers : c'.managers = c.managers)
    (hhub : k'.hub = c'.hub) (hmanager : k'.manager = k.manager) (hsettled : k'.waking = 0) :
    Follows settings endpoint c' k' := by
  refine ⟨hsettings.trans h.settings, hendpoint.trans h.endpoint, hhub, ?_, ?_, ?_, hsettled⟩
  · rw [hmanagers, hmanager]
    exact h.manager
  · rw [hmanagers, hmanager]
    exact h.idle
  · intro n hn
    rw [unfinished_iff, hmanagers, ← unfinished_iff] at hn
    rw [hmanagers]
    exact h.last n hn

/-- If no manager of the client is at work, that of the course is not either. -/
theorem Follows.isFinished (h : Follows settings endpoint c k)
    (hnobody : ∀ n, ¬c.Unfinished n) : k.manager.isFinished = true := by
  cases hlength : c.managers.length with
  | zero => exact h.idle (List.length_eq_zero_iff.mp hlength)
  | succ n =>
    have hlt : n < c.managers.length := by omega
    have hlast := h.manager n c.managers[n] hlength.symm (List.getElem?_eq_getElem hlt)
    by_contra hworks
    exact hnobody n ⟨c.managers[n], List.getElem?_eq_getElem hlt, by simpa [← hlast] using hworks⟩

/-- The registry of a client is up only while one of its managers has a connection in service. -/
theorem Follows.inService_of_online (h : Follows settings endpoint c k) (kept : k.Kept)
    (hup : c.registry.online = true) : ∃ n, c.InService n := by
  have hserving : k.manager.phase.inService = true := by
    rw [Client.registry, ← h.hub] at hup
    exact kept.online hup
  cases hlength : c.managers.length with
  | zero =>
    have hidle := h.idle (List.length_eq_zero_iff.mp hlength)
    rw [Manager.phase_of_isFinished hidle] at hserving
    cases hserving
  | succ n =>
    have hlt : n < c.managers.length := by omega
    have hlast := h.manager n c.managers[n] hlength.symm (List.getElem?_eq_getElem hlt)
    exact ⟨n, c.managers[n], List.getElem?_eq_getElem hlt, hlast ▸ hserving⟩

/-- Nothing is due while a manager has nothing in hand and no wake-up is stored. -/
theorem Follows.nothing_due (h : Follows settings endpoint c k) (heeded : k.Heeded)
    {manager : Manager} {timers : Timers} (hmanager : c.managers[n]? = some manager)
    (hphase : manager.phase = .serving timers) (hpermit : c.hub.permit = false) :
    c.registry.due.isEmpty = true := by
  have hservice : c.InService n := ⟨manager, hmanager, by rw [hphase]; rfl⟩
  have hlast := h.manager n manager (h.last n (unfinished_of_inService hservice)) hmanager
  rw [Client.registry, ← h.hub]
  exact heeded.parked (hlast ▸ hphase) (h.hub ▸ hpermit) h.settled

variable [Codec κ ν]

theorem Follows.spawn (h : Follows settings endpoint c k) (hnobody : ∀ n, ¬c.Unfinished n)
    (now : Nat) :
    Follows settings endpoint (c.spawn now) (k.step settings endpoint (.connect now)) := by
  have hlength : (c.spawn now).managers.length = c.managers.length + 1 := by simp [Client.spawn]
  rw [Course.step, if_pos (h.isFinished hnobody)]
  refine ⟨h.settings, h.endpoint, ?_, fun n manager hn hmanager => ?_, fun hnone => ?_,
    fun n hn => ?_, h.settled⟩
  · rw [h.hub]
    rfl
  · have hself : n = c.managers.length := by omega
    simp only [Client.spawn, hself, List.getElem?_concat_length, Option.some.injEq] at hmanager
    rw [← hmanager, h.settings]
  · rw [hnone] at hlength
    cases hlength
  · rw [hlength, (unfinished_spawn.mp hn).resolve_left (hnobody n)]

theorem Follows.stop (h : Follows settings endpoint c k) (hm : m + 1 = c.managers.length) :
    Follows settings endpoint (c.stop m) (k.step settings endpoint .stop) := by
  have hlength : (c.stop m).managers.length = c.managers.length := List.length_modify _ _ _
  refine ⟨h.settings, h.endpoint, h.hub, fun n manager hn hmanager => ?_, fun hnone => ?_,
    fun n hn => ?_, h.settled⟩
  · have hself : n = m := by omega
    subst hself
    rw [Client.stop, List.getElem?_modify_eq] at hmanager
    obtain ⟨before, hbefore, rfl⟩ := Option.map_eq_some_iff.mp hmanager
    simp only [Course.step]
    rw [h.manager n before hm hbefore]
  · rw [hnone] at hlength
    rw [← hlength] at hm
    cases hm
  · rw [hlength]
    exact h.last n (unfinished_stop.mp hn)

/-- One step of a call is one move of the course, or none. -/
theorem Follows.progress (h : Follows settings endpoint c k) (haccounted : c.Accounted)
    {now : Nat} (hcrowds : ¬c.Crowds (.call now n)) (progress : c.Progress now n c') :
    ∃ moves, Follows settings endpoint c' (k.run settings endpoint moves) := by
  cases progress with
  | joined hcall => exact ⟨[], h.aside rfl rfl rfl h.hub rfl h.settled⟩
  | started hcall hidle =>
    have hnobody := haccounted.nobody_of_starts ⟨now, n, rfl, hcall, hidle⟩ hcrowds
    have hspawned := h.spawn hnobody now
    exact ⟨[.connect now], hspawned.aside rfl rfl rfl hspawned.hub rfl hspawned.settled⟩
  | answered hcall result => exact ⟨[], h.aside rfl rfl rfl h.hub rfl h.settled⟩
  | idle hcall hrunning =>
    refine ⟨[.disconnect], h.aside rfl rfl rfl ?_ rfl h.settled⟩
    change { k.hub.setOnline false with state := .disconnected } = c.disconnected.hub
    rw [h.hub]
    rfl
  | @letGo m hcall hrunning =>
    have hstopped := Follows.stop (c := { c with running := none })
      (h.aside rfl rfl rfl h.hub rfl h.settled) (haccounted.newest m hrunning)
    exact ⟨[.stop], hstopped.aside rfl rfl rfl hstopped.hub rfl hstopped.settled⟩
  | ended hwaits hfinished =>
    refine ⟨[.disconnect], h.aside rfl rfl rfl ?_ rfl h.settled⟩
    change { k.hub.setOnline false with state := .disconnected } = c.disconnected.hub
    rw [h.hub]
    rfl

/-- A manager that takes a step is the manager of the course. -/
theorem Follows.managerStep (h : Follows settings endpoint c k) {moment : Moment} {cue : Cue}
    {actions : List Action} (hstep : c.managerStep n moment cue = some (actions, c')) :
    Follows settings endpoint c' (k.step settings endpoint (.step moment cue)) := by
  obtain ⟨hn, hunfinished⟩ := unfinished_of_managerStep hstep
  obtain ⟨manager, turn, hmanager, hturn, rfl⟩ := managerStep_eq hstep
  have hlast := h.last n hn
  have hstepped : k.step settings endpoint (.step moment cue) = k.turned moment cue turn := by
    rw [h.settings, h.endpoint, ← h.hub, ← h.manager n manager hlast hmanager] at hturn
    rw [Course.step, hturn]
  rw [hstepped]
  refine ⟨h.settings, h.endpoint, Course.hub_turned, fun i next hi hnext => ?_, fun hnone => ?_,
    fun i hi => ?_, ?_⟩
  · rw [List.length_set] at hi
    have hself : i = n := by omega
    rw [hself, List.getElem?_set_self (by omega)] at hnext
    rw [Course.manager_turned, Option.some.inj hnext]
  · rw [List.set_eq_nil_iff] at hnone
    rw [hnone] at hlast
    cases hlast
  · rw [List.length_set]
    exact h.last i (hunfinished i hi)
  · rw [Course.waking_turned, h.settled]

theorem Follows.asked (h : Follows settings endpoint c k) (operation : Operation ν) :
    Follows settings endpoint (c.asked operation)
      ((k.called operation).step settings endpoint .wake) := by
  rw [Course.called_wake operation settings endpoint h.settled, Course.registry, h.hub]
  exact h.aside rfl rfl rfl rfl rfl h.settled

theorem Follows.advance (h : Follows settings endpoint c k) (haccounted : c.Accounted)
    {move : Move ν} (hcrowds : ¬c.Crowds move) :
    ∃ moves, Follows settings endpoint (c.advance move) (k.run settings endpoint moves) := by
  cases move with
  | connect => exact ⟨[], h.aside rfl rfl rfl h.hub rfl h.settled⟩
  | disconnect => exact ⟨[], h.aside rfl rfl rfl h.hub rfl h.settled⟩
  | call now i =>
    simp only [Client.advance]
    cases hstep : c.callStep now i with
    | none => exact ⟨[], h⟩
    | some next => exact h.progress haccounted hcrowds (progress_of_callStep hstep)
  | manager i moment cue =>
    simp only [Client.advance]
    cases hstep : c.managerStep i moment cue with
    | none => exact ⟨[], h⟩
    | some result =>
      obtain ⟨actions, next⟩ := result
      exact ⟨[.step moment cue], h.managerStep hstep⟩
  | subscribe request =>
    simp only [Client.advance, subscribe_eq]
    exact ⟨[.acquire (c.keyFor request) request, .wake], h.asked _⟩
  | unsubscribe stream =>
    simp only [Client.advance, unsubscribe_eq]
    exact ⟨[.release stream.key stream.ticket, .wake], h.asked _⟩
  | receive stream =>
    simp only [Client.advance, Client.receive]
    split
    · exact ⟨[], h⟩
    · refine ⟨[.read stream.ticket.subscriber], h.aside rfl rfl rfl ?_ rfl h.settled⟩
      simp only [Course.run, List.foldl_cons, List.foldl_nil, Course.step, Course.withRegistry,
        Client.withRegistry, Course.registry, Client.registry, h.hub]

/-- No connect starts a manager while a disconnect waits for another to finish. -/
def Uncrowded (c : Client κ ν) (moves : List (Move ν)) : Prop :=
  ∀ before move, before ++ [move] <+: moves → ¬(c.play before).Crowds move

/-- By induction on the moves, from the last one. -/
theorem exists_course (settings : Settings) (endpoint : String) (codec : κ)
    {moves : List (Move ν)} (h : (start settings endpoint codec).Uncrowded moves) :
    ∃ moves', Follows settings endpoint ((start settings endpoint codec).play moves)
      ((Course.start settings codec).run settings endpoint moves') := by
  induction moves using List.reverseRecOn with
  | nil => exact ⟨[], follows_start settings endpoint codec⟩
  | append_singleton moves move ih =>
    have hbefore : (start settings endpoint codec).Uncrowded moves :=
      fun before move hmoves => h before move (hmoves.trans (List.prefix_append _ _))
    obtain ⟨first, hfirst⟩ := ih hbefore
    obtain ⟨second, hnext⟩ := hfirst.advance (accounted_start.play moves)
      (h moves move (List.prefix_refl _))
    rw [play_append]
    refine ⟨first ++ second, ?_⟩
    rw [Course.run, List.foldl_append]
    exact hnext

/-- The registry of such a client is up only while a manager has a connection in service, and
nothing is due while that manager has nothing in hand and no wake-up is stored. -/
theorem serves_of_uncrowded (settings : Settings) (endpoint : String) (codec : κ)
    {moves : List (Move ν)} (h : (start settings endpoint codec).Uncrowded moves) :
    let c := (start settings endpoint codec).play moves
    (c.registry.online = true → ∃ n, c.InService n) ∧
      ∀ (n : Nat) (manager : Manager) timers, c.managers[n]? = some manager →
        manager.phase = .serving timers → c.hub.permit = false → c.registry.due.isEmpty = true := by
  obtain ⟨moves', hfollows⟩ := exists_course settings endpoint codec h
  have heeded := Course.heeded_run (ν := ν) settings endpoint codec moves'
  exact ⟨hfollows.inService_of_online heeded.kept, fun _ _ _ => hfollows.nothing_due heeded⟩

end Client

end ChannelMux
