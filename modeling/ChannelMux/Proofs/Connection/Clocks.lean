import ChannelMux.Proofs.Connection.Upshot

/-!
What a step does to the clock by which a connection in service is found idle. It is set when the
connection comes into service and when something is taken from it, and only that it has run out ends
a session for being idle.
-/
namespace ChannelMux

namespace Phase

/-- When something came in last, as far as the manager knows. -/
def lastInbound? : Phase → Option Nat
  | serving timers | requesting (.upkeep timers) _ | holding (.upkeep timers) _ _ _ =>
    some timers.lastInbound
  | _ => none

/-- A frame waits for the throttle. -/
def isHolding : Phase → Bool
  | holding _ _ _ _ => true
  | _ => false

end Phase

def Purpose.lastInbound? : Purpose → Option Nat
  | replay _ => none
  | upkeep timers => some timers.lastInbound

namespace Phase

theorem lastInbound?_requesting (purpose : Purpose) (todo : List Owed) :
    (requesting purpose todo).lastInbound? = purpose.lastInbound? := by
  cases purpose <;> rfl

theorem lastInbound?_holding (purpose : Purpose) (release : Nat) (frame : Frame)
    (todo : List Owed) :
    (holding purpose release frame todo).lastInbound? = purpose.lastInbound? := by
  cases purpose <;> rfl

end Phase

/-- The session is ended because nothing came in for too long. -/
abbrev Action.idled : Action := .announce (.disconnected "idle timeout")

/-- What came of a step that ended no session for being idle. The clock ran from `last` on, or it
did not run. -/
structure Turn.Goes {κ ν : Type} (now : Nat) (last : Option Nat) (throttle : Option Throttle)
    (t : Turn κ ν) : Prop where
  clock : t.manager.phase.lastInbound? = none ∨ t.manager.phase.lastInbound? = some now ∨
    t.manager.phase.lastInbound? = last
  busy : Action.idled ∉ t.actions
  unthrottled : throttle = none →
    t.manager.throttle = none ∧ t.manager.phase.isHolding = false

theorem Turn.Goes.of_throttled {κ ν : Type} {now : Nat} {last : Option Nat}
    {throttle other : Option Throttle} {t : Turn κ ν} (h : t.Goes now last other)
    (hcapped : throttle ≠ none) : t.Goes now last throttle :=
  ⟨h.clock, h.busy, fun hnone => absurd hnone hcapped⟩

namespace Manager

variable {κ ν : Type} {settings : Settings} {endpoint : String} {moment : Moment} {hub : Hub κ ν}
  {manager : Manager} {cue : Cue} {t : Turn κ ν} {now : Nat} {last : Option Nat}
  {throttle : Option Throttle}

theorem prefixed_ne {label : String} (h : label.toList.head?.isSome = true)
    (hne : label.toList.head? ≠ "idle timeout".toList.head?) (message : String) :
    label ++ message ≠ "idle timeout" := by
  intro hsame
  refine hne ?_
  rw [← hsame, String.toList_append, List.head?_append]
  obtain ⟨c, hc⟩ := Option.isSome_iff_exists.mp h
  rw [hc]
  rfl

theorem busy_act (hbusy : Action.idled ∉ t.actions) {action : Action} (h : action ≠ .idled) :
    Action.idled ∉ (t.act action).actions := by
  intro hmem
  rcases List.mem_append.mp hmem with hold | hnew
  · exact hbusy hold
  · exact h (List.mem_singleton.mp hnew).symm

theorem goes_finish (hbusy : Action.idled ∉ t.actions) (hthrottle : t.manager.throttle = throttle)
    (cause : Error) : (t.finish cause).Goes now last throttle :=
  ⟨.inl rfl, busy_act (t := { t with hub := _ }) hbusy (by simp),
    fun hnone => ⟨hthrottle.trans hnone, rfl⟩⟩

theorem goes_retreat (hbusy : Action.idled ∉ t.actions) (hthrottle : t.manager.throttle = throttle)
    (moment : Moment) : (t.retreat moment).Goes now last throttle :=
  ⟨.inl rfl, busy_act (t := ⟨_, _, t.actions⟩) hbusy (by simp),
    fun hnone => ⟨hthrottle.trans hnone, rfl⟩⟩

theorem goes_lose (hbusy : Action.idled ∉ t.actions) (hthrottle : t.manager.throttle = throttle)
    {reason : String} (hreason : reason ≠ "idle timeout") (moment : Moment) :
    (t.lose moment reason).Goes now last throttle := by
  have hclosed : Action.idled ∉ ((t.setOnline false).act .close).actions :=
    busy_act (t := t.setOnline false) hbusy (by simp)
  exact goes_retreat (busy_act hclosed (by simpa using hreason)) hthrottle moment

theorem goes_enter (hbusy : Action.idled ∉ t.actions) (hthrottle : t.manager.throttle = throttle)
    {phase : Phase} (hclock : phase.lastInbound? = none ∨ phase.lastInbound? = some now ∨
      phase.lastInbound? = last) (hphase : phase.isHolding = false) :
    (t.enter phase).Goes now last throttle :=
  ⟨hclock, hbusy, fun hnone => ⟨hthrottle.trans hnone, hphase⟩⟩

/-- A step of which something was written goes on as if nothing was. -/
theorem busy_write {next : Turn κ ν} {frame : Frame} (hbusy : Action.idled ∉ t.actions)
    (h : t.write moment frame = .ok next) : Action.idled ∉ next.actions := by
  rw [Turn.write_ok t h]
  exact busy_act hbusy (by simp)

theorem goes_attemptFailed (hbusy : Action.idled ∉ t.actions)
    (hthrottle : t.manager.throttle = throttle) (cause : Error) :
    (attemptFailed settings moment t cause).Goes now last throttle := by
  have hcounted : Action.idled ∉ (({ t with manager :=
      { t.manager with failures := t.manager.failures + 1 } } : Turn κ ν).announce
        (.reconnectFailed (t.manager.failures + 1) cause)).actions :=
    busy_act (t := { t with manager := _ }) hbusy (by simp)
  unfold attemptFailed
  simp only
  split
  · exact goes_finish (busy_act hcounted (by simp)) hthrottle _
  · exact goes_retreat hcounted hthrottle moment

theorem goes_loginFailed (hbusy : Action.idled ∉ t.actions)
    (hthrottle : t.manager.throttle = throttle) (cause : Error) :
    (loginFailed settings moment t cause).Goes now last throttle :=
  goes_attemptFailed (t := t.act .close) (busy_act hbusy (by simp)) hthrottle cause

theorem goes_established (hbusy : Action.idled ∉ t.actions)
    (hthrottle : t.manager.throttle = throttle) : (established t).Goes now last throttle :=
  ⟨.inl rfl, hbusy, fun hnone => ⟨hthrottle.trans hnone, rfl⟩⟩

theorem goes_transmit (hbusy : Action.idled ∉ t.actions)
    (hthrottle : t.manager.throttle = throttle) {purpose : Purpose}
    (hclock : purpose.lastInbound? = none ∨ purpose.lastInbound? = last) (frame : Frame)
    (todo : List Owed) : (transmit moment t purpose frame todo).Goes now last throttle := by
  unfold transmit
  cases hwrite : t.write moment frame with
  | error cause =>
    cases purpose with
    | replay sent => exact goes_lose hbusy hthrottle (prefixed_ne rfl (by decide) _) moment
    | upkeep timers => exact goes_lose hbusy hthrottle (prefixed_ne rfl (by decide) _) moment
  | ok next =>
    have hnext := busy_write hbusy hwrite
    have hsame : next.manager.throttle = throttle := by
      rw [Turn.write_ok t hwrite]
      exact hthrottle
    cases purpose with
    | replay sent => exact goes_enter hnext hsame (.inl rfl) rfl
    | upkeep timers => exact goes_enter hnext hsame (hclock.imp_right .inr) rfl

theorem goes_submit (hbusy : Action.idled ∉ t.actions)
    (hthrottle : t.manager.throttle = throttle) {purpose : Purpose}
    (hclock : purpose.lastInbound? = none ∨ purpose.lastInbound? = last) (frame : Frame)
    (todo : List Owed) : (submit moment t purpose frame todo).Goes now last throttle := by
  unfold submit
  cases hcap : t.manager.throttle with
  | none => exact goes_transmit hbusy hthrottle hclock frame todo
  | some cap =>
    have hcapped : throttle ≠ none := by
      rw [← hthrottle, hcap]
      simp
    simp only
    split
    · refine Turn.Goes.of_throttled (goes_transmit ?_ rfl hclock frame todo) hcapped
      exact hbusy
    · refine ⟨?_, hbusy, fun hnone => absurd hnone hcapped⟩
      exact (Phase.lastInbound?_holding purpose _ frame todo ▸ hclock).imp_right .inr

theorem goes_requested (hbusy : Action.idled ∉ t.actions)
    (hthrottle : t.manager.throttle = throttle) {purpose : Purpose}
    (hclock : purpose.lastInbound? = none ∨ purpose.lastInbound? = last) :
    (requested settings moment t purpose).Goes moment.now last throttle := by
  cases purpose with
  | replay sent =>
    have hreplayed : Action.idled ∉ ((t.announce (.replayed sent)).publish .connected).actions :=
      busy_act (t := ⟨_, _, (t.announce (.replayed sent)).actions⟩) (busy_act hbusy (by simp))
        (by simp)
    exact goes_enter hreplayed hthrottle (.inr (.inl rfl)) rfl
  | upkeep timers => exact goes_enter hbusy hthrottle (hclock.imp_right .inr) rfl

theorem goes_ping (hbusy : Action.idled ∉ t.actions) (hthrottle : t.manager.throttle = throttle)
    {timers : Timers} (hclock : last = some timers.lastInbound) (p : Ping) (due : Nat) :
    (ping moment t timers p due).Goes now last throttle := by
  unfold ping
  simp only
  split
  · exact goes_lose hbusy hthrottle (prefixed_ne rfl (by decide) _) moment
  · rename_i next hwrite
    refine goes_enter (busy_write hbusy hwrite) ?_ (.inr (.inr hclock.symm)) rfl
    rw [Turn.write_ok t hwrite]
    exact hthrottle

variable [Codec κ ν]

theorem goes_request (hbusy : Action.idled ∉ t.actions)
    (hthrottle : t.manager.throttle = throttle) {purpose : Purpose}
    (hclock : purpose.lastInbound? = none ∨ purpose.lastInbound? = last) (todo : List Owed) :
    (request settings moment t purpose todo).Goes moment.now last throttle := by
  have hpassed : ∀ registry todo,
      ((t.withRegistry registry).enter (.requesting purpose todo)).Goes moment.now last throttle :=
    fun registry todo => goes_enter (t := t.withRegistry registry) hbusy hthrottle
      ((Phase.lastInbound?_requesting purpose todo ▸ hclock).imp_right .inr) rfl
  unfold request
  split
  · exact goes_requested hbusy hthrottle hclock
  · split
    · exact hpassed _ _
    · split
      · exact hpassed _ _
      · refine goes_submit ?_ ?_ hclock _ _
        · exact hbusy
        · exact hthrottle
  · split
    · exact hpassed _ _
    · split
      · exact hpassed _ _
      · refine goes_submit ?_ ?_ hclock _ _
        · exact hbusy
        · exact hthrottle

/-- Whatever comes in sets the clock, unless it ends the session. -/
theorem goes_serveArrival (hbusy : Action.idled ∉ t.actions)
    (hthrottle : t.manager.throttle = throttle) (timers : Timers) (arrival : Arrival) :
    (serveArrival moment t timers arrival).Goes moment.now none throttle := by
  have hset : ∀ next : Turn κ ν, Action.idled ∉ next.actions →
      next.manager.throttle = throttle →
      (next.enter (.serving { timers with lastInbound := moment.now })).Goes moment.now none
        throttle :=
    fun next hnext hsame => goes_enter hnext hsame (.inr (.inl rfl)) rfl
  cases arrival with
  | ended => exact goes_lose hbusy hthrottle (by decide) moment
  | fault cause => exact goes_lose hbusy hthrottle (prefixed_ne rfl (by decide) _) moment
  | frame frame =>
    cases frame with
    | close => exact goes_lose hbusy hthrottle (by decide) moment
    | pong bytes => exact hset t hbusy hthrottle
    | ping bytes =>
      simp only [serveArrival]
      split
      · exact goes_lose hbusy hthrottle (prefixed_ne rfl (by decide) _) moment
      · rename_i next hwrite
        refine hset next (busy_write hbusy hwrite) ?_
        rw [Turn.write_ok t hwrite]
        exact hthrottle
    | _ => exact hset (t.withRouter _) hbusy hthrottle

theorem goes_opened (hbusy : Action.idled ∉ t.actions) (hthrottle : t.manager.throttle = throttle) :
    (opened settings endpoint moment t).Goes now last throttle := by
  have hconnected : ∀ codec,
      Action.idled ∉ ((t.withCodec codec).announce (.connected endpoint)).actions :=
    fun codec => busy_act (t := t.withCodec codec) hbusy (by simp)
  have hasking : ∀ codec, Action.idled ∉ ((((t.withCodec (Codec.reset
      t.hub.router.codec)).announce (.connected endpoint)).withCodec codec).publish
        .authenticating).actions :=
    fun codec => busy_act (t := ⟨_, _, _⟩) (hconnected (Codec.reset t.hub.router.codec)) (by simp)
  unfold opened
  simp only
  split
  · refine goes_loginFailed ?_ ?_ _
    · exact hconnected _
    · exact hthrottle
  · refine goes_established ?_ ?_
    · exact hconnected (Codec.reset t.hub.router.codec)
    · exact hthrottle
  · split
    · refine goes_loginFailed ?_ ?_ _
      · exact hasking _
      · exact hthrottle
    · rename_i next hwrite
      refine goes_enter (busy_write ?_ hwrite) ?_ (.inl rfl) rfl
      · exact hasking _
      · rw [Turn.write_ok _ hwrite]
        exact hthrottle

omit [Codec κ ν] in
theorem goes_loggingIn {next : Turn κ ν} {deadline : Nat} (hbusy : Action.idled ∉ next.actions)
    (hthrottle : next.manager.throttle = throttle)
    (hphase : next.manager.phase = .loggingIn deadline) : next.Goes now none throttle := by
  refine ⟨.inl ?_, hbusy, fun hnone => ⟨hthrottle.trans hnone, ?_⟩⟩
  · rw [hphase]
    rfl
  · rw [hphase]
    rfl

theorem goes_routeLogin (hbusy : Action.idled ∉ t.actions)
    (hthrottle : t.manager.throttle = throttle) {deadline : Nat}
    (hphase : t.manager.phase = .loggingIn deadline) (frame : Frame) :
    (match t.hub.router.routeLogin frame with
      | (.ack, router) => established ((t.withRouter router).announce .authenticated)
      | (.rejected reason, router) =>
        loginFailed settings moment (t.withRouter router) (.auth reason)
      | (.ignored, router) => t.withRouter router).Goes now none throttle := by
  generalize t.hub.router.routeLogin frame = answer
  obtain ⟨reply, router⟩ := answer
  cases reply with
  | ack =>
    refine goes_established (busy_act (t := t.withRouter router) hbusy (by simp)) ?_
    exact hthrottle
  | rejected reason => exact goes_loginFailed (t := t.withRouter router) hbusy hthrottle _
  | ignored =>
    refine goes_loggingIn ?_ ?_ hphase
    · exact hbusy
    · exact hthrottle

theorem goes_loginArrival (hbusy : Action.idled ∉ t.actions)
    (hthrottle : t.manager.throttle = throttle) {deadline : Nat}
    (hphase : t.manager.phase = .loggingIn deadline) (arrival : Arrival) :
    (loginArrival settings moment t arrival).Goes now none throttle := by
  cases arrival with
  | ended => exact goes_loginFailed hbusy hthrottle _
  | fault cause => exact goes_loginFailed hbusy hthrottle _
  | frame frame =>
    cases frame with
    | close => exact goes_loginFailed hbusy hthrottle _
    | pong bytes => exact goes_loggingIn hbusy hthrottle hphase
    | ping bytes =>
      simp only [loginArrival]
      split
      · exact goes_loginFailed hbusy hthrottle _
      · rename_i next hwrite
        have hsame : next.manager = t.manager := by
          rw [Turn.write_ok t hwrite]
          rfl
        rw [← hsame] at hthrottle hphase
        exact goes_loggingIn (busy_write hbusy hwrite) hthrottle hphase
    | text content => exact goes_routeLogin hbusy hthrottle hphase (.text content)
    | binary bytes => exact goes_routeLogin hbusy hthrottle hphase (.binary bytes)

/-- What a step comes to that was taken in `phase` on `cue`: it goes on, or nothing came in for as
long as is allowed. -/
inductive Clocked (settings : Settings) (moment : Moment) (manager : Manager) (cue : Cue)
    (t : Turn κ ν) : Prop
  | went (last : Option Nat) (hlast : last = none ∨ last = manager.phase.lastInbound?)
      (harrival : ∀ arrival, cue = .arrival arrival → last = none)
      (goes : t.Goes moment.now last manager.throttle)
  | idled {timers : Timers} {idle : Nat} (hphase : manager.phase = .serving timers)
      (hcue : cue = .elapsed) (hidle : settings.idleTimeout = some idle)
      (hdue : timers.lastInbound + idle ≤ moment.now)
      (hafter : t.manager.phase.lastInbound? = none) (hfree : t.manager.phase.isHolding = false)
      (hthrottle : t.manager.throttle = manager.throttle)

namespace Clocked

omit [Codec κ ν] in
/-- A clock that runs after a step was set by it, or ran before and nothing was taken. -/
theorem lastInbound?_eq (h : Clocked settings moment manager cue t) {set : Nat}
    (hset : t.manager.phase.lastInbound? = some set) :
    set = moment.now ∨
      (∀ arrival, cue ≠ .arrival arrival) ∧ manager.phase.lastInbound? = some set := by
  cases h with
  | idled hphase hcue hidle hdue hafter =>
    rw [hafter] at hset
    cases hset
  | went last hlast harrival goes =>
    rcases goes.clock with hnone | hnow | hsame
    · rw [hnone] at hset
      cases hset
    · rw [hnow] at hset
      exact .inl (Option.some.inj hset).symm
    · have hran : last = some set := hsame.symm.trans hset
      refine .inr ⟨fun arrival hcue => ?_, ?_⟩
      · rw [harrival arrival hcue] at hran
        cases hran
      · rcases hlast with hnone | hbefore
        · rw [hnone] at hran
          cases hran
        · exact hbefore.symm.trans hran

omit [Codec κ ν] in
theorem unthrottled (h : Clocked settings moment manager cue t) (hnone : manager.throttle = none) :
    t.manager.throttle = none ∧ t.manager.phase.isHolding = false := by
  cases h with
  | idled hphase hcue hidle hdue hafter hfree hthrottle => exact ⟨hthrottle.trans hnone, hfree⟩
  | went last hlast harrival goes => exact goes.unthrottled hnone

end Clocked

omit [Codec κ ν] in
/-- No clock runs, or it is set anew. -/
theorem clocked_of_goes (goes : t.Goes moment.now none manager.throttle) :
    Clocked settings moment manager cue t :=
  .went none (.inl rfl) (fun _ _ => rfl) goes

omit [Codec κ ν] in
theorem clocked_serving {timers : Timers} (hphase : manager.phase = .serving timers)
    (hcue : ∀ arrival, cue ≠ .arrival arrival)
    (goes : t.Goes moment.now (some timers.lastInbound) manager.throttle) :
    Clocked settings moment manager cue t := by
  refine .went (some timers.lastInbound) (.inr ?_) (fun arrival h => absurd h (hcue arrival)) goes
  rw [hphase]
  rfl

omit [Codec κ ν] in
theorem clocked_enter {timers : Timers} {phase : Phase} (hphase : manager.phase = .serving timers)
    (hcue : ∀ arrival, cue ≠ .arrival arrival)
    (hclock : phase.lastInbound? = some timers.lastInbound) (hfree : phase.isHolding = false) :
    Clocked settings moment manager cue ((⟨manager, hub, []⟩ : Turn κ ν).enter phase) := by
  refine clocked_serving hphase hcue (goes_enter ?_ ?_ (.inr (.inr hclock)) hfree)
  · exact List.not_mem_nil
  · rfl

theorem clocked_proceed (hstep : manager.step settings endpoint moment hub .proceed = some t) :
    Clocked settings moment manager .proceed t := by
  have hnothing : Action.idled ∉ (⟨manager, hub, []⟩ : Turn κ ν).actions := List.not_mem_nil
  cases hphase : manager.phase with
  | starting =>
    simp only [step, hphase, Option.ite_none_left_eq_some, Option.some.injEq] at hstep
    obtain ⟨-, rfl⟩ := hstep
    have hdialled : Action.idled ∉ [Action.publish (if manager.firstAttempt then .connecting
        else .reconnecting), .dial] := by
      simp
    exact clocked_of_goes ⟨.inl rfl, hdialled, fun hnone => ⟨hnone, rfl⟩⟩
  | requesting purpose todo =>
    simp only [step, hphase] at hstep
    cases hstep
    refine .went purpose.lastInbound? (.inr ?_) (by simp)
      (goes_request hnothing rfl (.inr rfl) todo)
    rw [hphase, Phase.lastInbound?_requesting]
  | _ => simp [step, hphase] at hstep

theorem clocked_elapsed (hstep : manager.step settings endpoint moment hub .elapsed = some t) :
    Clocked settings moment manager .elapsed t := by
  have hnothing : Action.idled ∉ (⟨manager, hub, []⟩ : Turn κ ν).actions := List.not_mem_nil
  cases hphase : manager.phase with
  | opening deadline =>
    simp only [step, hphase, Option.ite_none_right_eq_some, Option.some.injEq] at hstep
    obtain ⟨-, rfl⟩ := hstep
    exact clocked_of_goes (goes_attemptFailed hnothing rfl _)
  | loggingIn deadline =>
    simp only [step, hphase, Option.ite_none_right_eq_some, Option.some.injEq] at hstep
    obtain ⟨-, rfl⟩ := hstep
    exact clocked_of_goes (goes_loginFailed hnothing rfl _)
  | holding purpose release frame todo =>
    simp only [step, hphase, Option.ite_none_right_eq_some, Option.some.injEq] at hstep
    obtain ⟨-, rfl⟩ := hstep
    refine .went purpose.lastInbound? (.inr ?_) (by simp)
      (goes_transmit hnothing rfl (.inr rfl) frame todo)
    rw [hphase, Phase.lastInbound?_holding]
  | serving timers =>
    simp only [step, hphase, Option.ite_none_right_eq_some, Option.some.injEq] at hstep
    obtain ⟨hdue, rfl⟩ := hstep
    obtain ⟨idle, hidle, hpassed⟩ := (Option.any_eq_true _ _).mp hdue
    exact .idled hphase rfl hidle (of_decide_eq_true hpassed) rfl rfl rfl
  | waiting release =>
    simp only [step, hphase, Option.ite_none_right_eq_some, Option.some.injEq] at hstep
    obtain ⟨-, rfl⟩ := hstep
    exact clocked_of_goes (goes_enter hnothing rfl (.inl rfl) rfl)
  | _ => simp [step, hphase] at hstep

theorem clocked_shutdown (hstep : manager.step settings endpoint moment hub .shutdown = some t) :
    Clocked settings moment manager .shutdown t := by
  have hnothing : Action.idled ∉ (⟨manager, hub, []⟩ : Turn κ ν).actions := List.not_mem_nil
  have hfinished : t = (⟨manager, hub, []⟩ : Turn κ ν).finish .closed ∨
      t = ((⟨manager, hub, []⟩ : Turn κ ν).act .close).finish .closed := by
    cases hphase : manager.phase <;>
      simp only [step, hphase, Option.ite_none_right_eq_some, Option.some.injEq, reduceCtorEq]
        at hstep
    all_goals simp [← hstep.2]
  rcases hfinished with rfl | rfl
  · exact clocked_of_goes (goes_finish hnothing rfl _)
  · exact clocked_of_goes (goes_finish (busy_act hnothing (by simp)) rfl _)

/-- Every step goes on from the clock there is, or the clock has run out. -/
theorem clocked (hstep : manager.step settings endpoint moment hub cue = some t) :
    Clocked settings moment manager cue t := by
  have hnothing : Action.idled ∉ (⟨manager, hub, []⟩ : Turn κ ν).actions := List.not_mem_nil
  cases cue with
  | elapsed => exact clocked_elapsed hstep
  | shutdown => exact clocked_shutdown hstep
  | proceed => exact clocked_proceed hstep
  | opened =>
    cases hphase : manager.phase with
    | opening deadline =>
      simp only [step, hphase] at hstep
      cases hstep
      exact clocked_of_goes (goes_opened hnothing rfl)
    | _ => simp [step, hphase] at hstep
  | refused cause =>
    cases hphase : manager.phase with
    | opening deadline =>
      simp only [step, hphase] at hstep
      cases hstep
      exact clocked_of_goes (goes_attemptFailed hnothing rfl _)
    | _ => simp [step, hphase] at hstep
  | arrival arrival =>
    cases hphase : manager.phase with
    | loggingIn deadline =>
      simp only [step, hphase] at hstep
      cases hstep
      exact clocked_of_goes (goes_loginArrival hnothing rfl hphase arrival)
    | serving timers =>
      simp only [step, hphase] at hstep
      cases hstep
      exact clocked_of_goes (goes_serveArrival hnothing rfl timers arrival)
    | _ => simp [step, hphase] at hstep
  | nudged =>
    cases hphase : manager.phase with
    | serving timers =>
      simp only [step, hphase, Option.ite_none_right_eq_some, Option.some.injEq] at hstep
      obtain ⟨-, rfl⟩ := hstep
      exact clocked_enter hphase (by simp) rfl rfl
    | _ => simp [step, hphase] at hstep
  | pingDue =>
    cases hphase : manager.phase with
    | serving timers =>
      simp only [step, hphase] at hstep
      split at hstep
      · split at hstep
        · cases hstep
          exact clocked_serving hphase (by simp) (goes_ping hnothing rfl rfl _ _)
        · cases hstep
      · cases hstep
    | _ => simp [step, hphase] at hstep
  | sweepDue =>
    cases hphase : manager.phase with
    | serving timers =>
      simp only [step, hphase, Option.ite_none_right_eq_some, Option.some.injEq] at hstep
      obtain ⟨-, rfl⟩ := hstep
      exact clocked_enter hphase (by simp) rfl rfl
    | _ => simp [step, hphase] at hstep

end Manager

end ChannelMux
