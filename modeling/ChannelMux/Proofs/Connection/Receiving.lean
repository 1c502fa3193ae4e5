import ChannelMux.Proofs.Connection.Upshot
import ChannelMux.Proofs.Router.Dropped

/-!
What a step does with an item that came in, and that no other step does anything of the kind. A ping
is answered at once, a data frame is shown to the router once, and all else does not reach it.
-/
namespace ChannelMux

/-- The frame, if it carries application data. -/
def Arrival.data? : Arrival → Option Frame
  | .frame content => if content.isData then some content else none
  | .fault _ | .ended => none

/-- Nothing can be taken after it, unless it is a ping whose answer goes out. -/
def Arrival.isLast (sendable : Bool) : Arrival → Bool
  | .frame (.ping _) => !sendable
  | .frame .close | .fault _ | .ended => true
  | .frame _ => false

/-- Items are taken from the connection. -/
def Phase.listens : Phase → Bool
  | .loggingIn _ | .serving _ => true
  | _ => false

theorem Phase.not_isAway {phase : Phase} (hattached : phase.isDetached = false) :
    ¬phase.isAway = true := by
  intro haway
  rw [isDetached_of_isAway haway] at hattached
  cases hattached

namespace Router

variable {κ ν : Type}

/-- At most the registry went up or down. -/
def Switched (r next : Router κ ν) : Prop :=
  next = r ∨ ∃ online, next = { r with registry := r.registry.setOnline online }

theorem Switched.frames_eq {r next : Router κ ν} (h : r.Switched next) :
    next.counters.frames = r.counters.frames := by
  rcases h with rfl | ⟨online, rfl⟩
  · rfl
  · rfl

variable [Codec κ ν]

/-- What comes in is shown to a router once, if it is a data frame, and early if the login is not
answered. -/
def receive (r : Router κ ν) (early : Bool) (arrival : Arrival) : Router κ ν :=
  match arrival.data? with
  | none => r
  | some frame => if early then (r.routeLogin frame).2 else (r.route frame).2

/-- What comes in would acknowledge a login. -/
def acknowledges (r : Router κ ν) (arrival : Arrival) : Bool :=
  arrival.data?.any (fun frame => (r.routeLogin frame).1 = .ack)

theorem frames_route (r : Router κ ν) (frame : Frame) :
    (r.route frame).2.counters.frames = r.counters.frames + 1 := by
  rw [counters_route, Counters.frames_add]
  cases (r.route frame).1 <;> rfl

theorem frames_routeLogin (r : Router κ ν) (frame : Frame) :
    (r.routeLogin frame).2.counters.frames = r.counters.frames + 1 := by
  rw [counters_routeLogin, Counters.frames_add, loginCounted]
  split <;> rfl

theorem frames_receive (r : Router κ ν) (early : Bool) (arrival : Arrival) :
    (r.receive early arrival).counters.frames =
      r.counters.frames + if arrival.data?.isSome then 1 else 0 := by
  unfold receive
  cases arrival.data? with
  | none => rfl
  | some frame =>
    cases early with
    | true => exact frames_routeLogin r frame
    | false => exact frames_route r frame

/-- The call shows the router a frame. -/
def Call.shows : Call κ ν → Bool
  | .route _ | .login _ => true
  | .perform _ | .read _ _ | .write _ => false

theorem frames_run_shown (r : Router κ ν) (calls : List (Call κ ν)) :
    (r.run calls).2.counters.frames = r.counters.frames + calls.countP Call.shows := by
  induction calls generalizing r with
  | nil => rfl
  | cons call rest ih =>
    have hcall : (r.serve call).2.counters.frames =
        r.counters.frames + if call.shows then 1 else 0 := by
      cases call with
      | route frame => exact frames_route r frame
      | login frame => exact frames_routeLogin r frame
      | perform operation | read subscriber edit | write edit => rfl
    rw [run, ih, hcall, List.countP_cons]
    omega

end Router

namespace Manager

variable {κ ν : Type} {settings : Settings} {endpoint : String} {moment : Moment}
  {hub : Hub κ ν} {manager : Manager} {cue : Cue} {arrival : Arrival} {t : Turn κ ν}

/-- The connection is given up, with nothing more written and no frame shown to the router. -/
structure GivesUp (t next : Turn κ ν) : Prop where
  wrote : next.wrote = t.wrote
  switched : t.hub.router.Switched next.hub.router
  detached : next.manager.phase.isDetached = true

theorem givesUp_finish (t : Turn κ ν) (cause : Error) : GivesUp t (t.finish cause) :=
  ⟨t.wrote_finish cause, Or.inr ⟨false, rfl⟩, rfl⟩

theorem givesUp_retreat (t : Turn κ ν) (moment : Moment) : GivesUp t (t.retreat moment) :=
  ⟨t.wrote_retreat moment, Or.inl rfl, rfl⟩

theorem givesUp_lose (t : Turn κ ν) (moment : Moment) (reason : String) :
    GivesUp t (t.lose moment reason) :=
  ⟨t.wrote_lose moment reason, Or.inr ⟨false, rfl⟩, rfl⟩

theorem GivesUp.announced {next : Turn κ ν} {event : LifecycleEvent}
    (h : GivesUp (t.announce event) next) : GivesUp t next :=
  ⟨h.wrote.trans (t.wrote_announce event), h.switched, h.detached⟩

theorem givesUp_attemptFailed (t : Turn κ ν) (cause : Error) :
    GivesUp t (attemptFailed settings moment t cause) := by
  let counted : Turn κ ν :=
    { t with manager := { t.manager with failures := t.manager.failures + 1 } }
  have hgiven : GivesUp counted (attemptFailed settings moment t cause) := by
    unfold attemptFailed
    simp only
    split
    · exact (givesUp_finish _ _).announced.announced
    · exact (givesUp_retreat _ moment).announced
  exact ⟨hgiven.wrote, hgiven.switched, hgiven.detached⟩

theorem givesUp_loginFailed (t : Turn κ ν) (cause : Error) :
    GivesUp t (loginFailed settings moment t cause) := by
  have h : GivesUp (t.act .close) (attemptFailed settings moment (t.act .close) cause) :=
    givesUp_attemptFailed _ cause
  exact ⟨h.wrote.trans (t.wrote_act (by simp)), h.switched, h.detached⟩

theorem counters_transmit (t : Turn κ ν) (purpose : Purpose) (frame : Frame) (todo : List Owed) :
    (transmit moment t purpose frame todo).hub.router.counters = t.hub.router.counters := by
  unfold transmit
  cases hwrite : t.write moment frame with
  | error cause => cases purpose <;> rfl
  | ok next =>
    obtain rfl := Turn.write_ok _ hwrite
    cases purpose <;> rfl

theorem counters_submit (t : Turn κ ν) (purpose : Purpose) (frame : Frame) (todo : List Owed) :
    (submit moment t purpose frame todo).hub.router.counters = t.hub.router.counters := by
  unfold submit
  cases t.manager.throttle with
  | none => exact counters_transmit t purpose frame todo
  | some throttle =>
    simp only
    cases (throttle.reserve moment.now).1 with
    | none => exact counters_transmit _ purpose frame todo
    | some release => rfl

theorem counters_ping (t : Turn κ ν) (timers : Timers) (p : Ping) (due : Nat) :
    (ping moment t timers p due).hub.router.counters = t.hub.router.counters := by
  unfold ping
  simp only
  split
  · rfl
  · rename_i next hwrite
    obtain rfl := Turn.write_ok _ hwrite
    rfl

variable [Codec κ ν]

/-- What a step does that is taken on something that came in. -/
structure Receives (moment : Moment) (hub : Hub κ ν) (early : Bool) (arrival : Arrival)
    (t : Turn κ ν) : Prop where
  wrote : t.wrote = if moment.writing.isOk then echoes arrival else []
  routed : (hub.router.receive early arrival).Switched t.hub.router
  lasts : arrival.isLast moment.writing.isOk = true → t.manager.phase.isDetached = true

theorem GivesUp.receives {early : Bool} {next : Turn κ ν} (h : GivesUp t next)
    (hwrote : t.wrote = []) (hsilent : moment.writing.isOk = true → echoes arrival = [])
    (hrouted : t.hub.router = hub.router.receive early arrival) :
    Receives moment hub early arrival next := by
  refine ⟨?_, ?_, fun _ => h.detached⟩
  · rw [h.wrote, hwrote]
    split
    · rename_i hok
      exact (hsilent hok).symm
    · rfl
  · rw [← hrouted]
    exact h.switched

/-- Nothing but a ping is answered. -/
theorem echoes_of_isData {frame : Frame} (hdata : frame.isData = true) :
    echoes (.frame frame) = [] := by
  cases frame with
  | ping bytes => cases hdata
  | _ => rfl

theorem receive_of_isData (r : Router κ ν) (early : Bool) {frame : Frame}
    (hdata : frame.isData = true) : r.receive early (.frame frame) =
      if early then (r.routeLogin frame).2 else (r.route frame).2 := by
  rw [Router.receive, Arrival.data?, if_pos hdata]

/-- Nothing is due to be answered. -/
theorem receives_silently {early : Bool} (hwrote : t.wrote = []) (hechoes : echoes arrival = [])
    (hrouted : (hub.router.receive early arrival).Switched t.hub.router)
    (hlasts : arrival.isLast moment.writing.isOk = true → t.manager.phase.isDetached = true) :
    Receives moment hub early arrival t := by
  refine ⟨?_, hrouted, hlasts⟩
  rw [hwrote, hechoes, ite_self]

theorem isLast_of_isData {frame : Frame} (hdata : frame.isData = true) (sendable : Bool) :
    Arrival.isLast sendable (.frame frame) = false := by
  cases frame with
  | text content | binary bytes => rfl
  | _ => cases hdata

/-- The answer to a ping goes out, or the connection is given up. -/
theorem receives_ping {early : Bool} {bytes : List UInt8} {failed : Error → Turn κ ν}
    (next : Turn κ ν → Turn κ ν) (hfailed : ∀ cause, GivesUp ⟨manager, hub, []⟩ (failed cause))
    (hwrote : ∀ t, (next t).wrote = t.wrote) (hhub : ∀ t, (next t).hub = t.hub) :
    Receives moment hub early (.frame (.ping bytes))
      (match (⟨manager, hub, []⟩ : Turn κ ν).write moment (.pong bytes) with
      | .error cause => failed cause
      | .ok t => next t) := by
  cases hwriting : moment.writing with
  | error cause =>
    simp only [Turn.write, hwriting, Except.map]
    exact (hfailed cause).receives rfl (by simp [hwriting, Except.isOk, Except.toBool]) rfl
  | ok _ =>
    simp only [Turn.write, hwriting, Except.map]
    refine ⟨?_, Or.inl ?_, ?_⟩
    · rw [hwrote, hwriting]
      rfl
    · rw [hhub]
      rfl
    · rw [hwriting]
      intro hlast
      cases hlast

theorem receives_routeLogin {frame : Frame} (hdata : frame.isData = true) :
    Receives moment hub true (.frame frame)
      (match hub.router.routeLogin frame with
      | (.ack, router) =>
        established (((⟨manager, hub, []⟩ : Turn κ ν).withRouter router).announce .authenticated)
      | (.rejected reason, router) =>
        loginFailed settings moment ((⟨manager, hub, []⟩ : Turn κ ν).withRouter router)
          (.auth reason)
      | (.ignored, router) => (⟨manager, hub, []⟩ : Turn κ ν).withRouter router) := by
  have hshown : hub.router.receive true (.frame frame) = (hub.router.routeLogin frame).2 :=
    receive_of_isData hub.router true hdata
  have hechoes := echoes_of_isData hdata
  have hnotLast : ∀ t : Turn κ ν, Arrival.isLast moment.writing.isOk (.frame frame) = true →
      t.manager.phase.isDetached = true := by
    intro t hlast
    rw [isLast_of_isData hdata] at hlast
    cases hlast
  generalize hub.router.routeLogin frame = answer at hshown
  obtain ⟨reply, router⟩ := answer
  cases reply with
  | ack => exact receives_silently rfl hechoes (hshown ▸ Or.inr ⟨true, rfl⟩) (hnotLast _)
  | rejected reason =>
    exact (givesUp_loginFailed _ _).receives rfl (fun _ => hechoes) hshown.symm
  | ignored => exact receives_silently rfl hechoes (hshown ▸ Or.inl rfl) (hnotLast _)

theorem receives_loginArrival (manager : Manager) (arrival : Arrival) :
    Receives moment hub true arrival
      (loginArrival settings moment (⟨manager, hub, []⟩ : Turn κ ν) arrival) := by
  cases arrival with
  | ended => exact (givesUp_loginFailed _ _).receives rfl (fun _ => rfl) rfl
  | fault cause => exact (givesUp_loginFailed _ _).receives rfl (fun _ => rfl) rfl
  | frame frame =>
    cases frame with
    | close => exact (givesUp_loginFailed _ _).receives rfl (fun _ => rfl) rfl
    | pong bytes => exact receives_silently rfl rfl (Or.inl rfl) (by simp [Arrival.isLast])
    | ping bytes =>
      exact receives_ping id (givesUp_loginFailed _) (fun _ => rfl) (fun _ => rfl)
    | text content => exact receives_routeLogin rfl
    | binary bytes => exact receives_routeLogin rfl

theorem receives_serveArrival (manager : Manager) (timers : Timers) (arrival : Arrival) :
    Receives moment hub false arrival
      (serveArrival moment (⟨manager, hub, []⟩ : Turn κ ν) timers arrival) := by
  cases arrival with
  | ended => exact (givesUp_lose _ _ _).receives rfl (fun _ => rfl) rfl
  | fault cause => exact (givesUp_lose _ _ _).receives rfl (fun _ => rfl) rfl
  | frame frame =>
    cases frame with
    | close => exact (givesUp_lose _ _ _).receives rfl (fun _ => rfl) rfl
    | pong bytes => exact receives_silently rfl rfl (Or.inl rfl) (by simp [Arrival.isLast])
    | ping bytes =>
      exact receives_ping (·.enter (.serving { timers with lastInbound := moment.now }))
        (fun _ => givesUp_lose _ _ _) (fun _ => rfl) (fun _ => rfl)
    | text content => exact receives_silently rfl rfl (Or.inl rfl) (by simp [Arrival.isLast])
    | binary bytes => exact receives_silently rfl rfl (Or.inl rfl) (by simp [Arrival.isLast])

/-- Something that came in is taken as it should be, whichever of the two loops takes it. -/
theorem receives (hstep : manager.step settings endpoint moment hub (.arrival arrival) = some t) :
    Receives moment hub (!manager.phase.inService) arrival t := by
  cases hphase : manager.phase with
  | loggingIn deadline =>
    simp only [step, hphase] at hstep
    cases hstep
    exact receives_loginArrival manager arrival
  | serving timers =>
    simp only [step, hphase] at hstep
    cases hstep
    exact receives_serveArrival manager timers arrival
  | _ => simp [step, hphase] at hstep

theorem frames_opened (manager : Manager) :
    (opened settings endpoint moment (⟨manager, hub, []⟩ : Turn κ ν)).hub.router.counters.frames =
      hub.router.counters.frames := by
  unfold opened
  simp only
  split
  · exact (givesUp_loginFailed _ _).switched.frames_eq
  · rfl
  · split
    · exact (givesUp_loginFailed _ _).switched.frames_eq
    · rename_i next hwrite
      obtain rfl := Turn.write_ok _ hwrite
      rfl

theorem counters_request (t : Turn κ ν) (purpose : Purpose) (todo : List Owed) :
    (request settings moment t purpose todo).hub.router.counters = t.hub.router.counters := by
  cases todo with
  | nil => cases purpose <;> rfl
  | cons owed todo =>
    cases owed with
    | subscribe key | unsubscribe key =>
      simp only [request]
      split
      · rfl
      · split
        · rfl
        · exact counters_submit _ purpose _ todo

theorem frames_of_elapsed
    (hstep : manager.step settings endpoint moment hub .elapsed = some t) :
    t.hub.router.counters.frames = hub.router.counters.frames := by
  cases hphase : manager.phase with
  | opening deadline =>
    simp only [step, hphase, Option.ite_none_right_eq_some, Option.some.injEq] at hstep
    obtain ⟨-, rfl⟩ := hstep
    exact (givesUp_attemptFailed _ _).switched.frames_eq
  | loggingIn deadline =>
    simp only [step, hphase, Option.ite_none_right_eq_some, Option.some.injEq] at hstep
    obtain ⟨-, rfl⟩ := hstep
    exact (givesUp_loginFailed _ _).switched.frames_eq
  | holding purpose release frame todo =>
    simp only [step, hphase, Option.ite_none_right_eq_some, Option.some.injEq] at hstep
    obtain ⟨-, rfl⟩ := hstep
    exact congrArg Counters.frames (counters_transmit _ purpose frame todo)
  | serving timers =>
    simp only [step, hphase, Option.ite_none_right_eq_some, Option.some.injEq] at hstep
    obtain ⟨-, rfl⟩ := hstep
    rfl
  | waiting release =>
    simp only [step, hphase, Option.ite_none_right_eq_some, Option.some.injEq] at hstep
    obtain ⟨-, rfl⟩ := hstep
    rfl
  | _ => simp [step, hphase] at hstep

/-- A manager that is told to stop gives up whatever connection it has. -/
theorem givesUp_of_shutdown
    (hstep : manager.step settings endpoint moment hub .shutdown = some t) :
    GivesUp ⟨manager, hub, []⟩ t := by
  have hclosed : GivesUp (⟨manager, hub, []⟩ : Turn κ ν)
      (((⟨manager, hub, []⟩ : Turn κ ν).act .close).finish .closed) :=
    ⟨rfl, Or.inr ⟨false, rfl⟩, rfl⟩
  cases hphase : manager.phase with
  | starting | opening deadline | loggingIn deadline | waiting release =>
    simp only [step, hphase, Option.ite_none_right_eq_some, Option.some.injEq] at hstep
    obtain ⟨-, rfl⟩ := hstep
    exact givesUp_finish _ _
  | serving timers =>
    simp only [step, hphase, Option.ite_none_right_eq_some, Option.some.injEq] at hstep
    obtain ⟨-, rfl⟩ := hstep
    exact hclosed
  | _ => simp [step, hphase] at hstep

/-- Only what came in is counted. -/
theorem frames_of_step (hstep : manager.step settings endpoint moment hub cue = some t)
    (hcue : ∀ arrival, cue ≠ .arrival arrival) :
    t.hub.router.counters.frames = hub.router.counters.frames := by
  cases cue with
  | arrival arrival => exact absurd rfl (hcue arrival)
  | elapsed => exact frames_of_elapsed hstep
  | shutdown => exact (givesUp_of_shutdown hstep).switched.frames_eq
  | proceed =>
    cases hphase : manager.phase with
    | starting =>
      simp only [step, hphase] at hstep
      split at hstep
      · cases hstep
      · cases hstep
        rfl
    | requesting purpose todo =>
      simp only [step, hphase] at hstep
      cases hstep
      exact congrArg Counters.frames (counters_request _ purpose todo)
    | _ => simp [step, hphase] at hstep
  | opened =>
    cases hphase : manager.phase with
    | opening deadline =>
      simp only [step, hphase] at hstep
      cases hstep
      exact frames_opened manager
    | _ => simp [step, hphase] at hstep
  | refused cause =>
    cases hphase : manager.phase with
    | opening deadline =>
      simp only [step, hphase] at hstep
      cases hstep
      exact (givesUp_attemptFailed _ cause).switched.frames_eq
    | _ => simp [step, hphase] at hstep
  | nudged =>
    cases hphase : manager.phase with
    | serving timers =>
      simp only [step, hphase] at hstep
      split at hstep
      · cases hstep
        rfl
      · cases hstep
    | _ => simp [step, hphase] at hstep
  | pingDue =>
    cases hphase : manager.phase with
    | serving timers =>
      simp only [step, hphase] at hstep
      split at hstep
      · split at hstep
        · cases hstep
          exact congrArg Counters.frames (counters_ping _ timers _ _)
        · cases hstep
      · cases hstep
    | _ => simp [step, hphase] at hstep
  | sweepDue =>
    cases hphase : manager.phase with
    | serving timers =>
      simp only [step, hphase] at hstep
      split at hstep
      · cases hstep
        rfl
      · cases hstep
    | _ => simp [step, hphase] at hstep

/-- Whoever listens takes whatever comes, and nobody else takes anything. -/
theorem step_arrival_isSome_iff (arrival : Arrival) :
    (manager.step settings endpoint moment hub (.arrival arrival)).isSome = true ↔
      manager.phase.listens = true := by
  cases hphase : manager.phase <;> simp [step, hphase, Phase.listens]

theorem loginReply?_eq_ack_iff (router : Router κ ν) (deadline : Nat) (arrival : Arrival) :
    loginReply? router (.loggingIn deadline) (.arrival arrival) = some .ack ↔
      router.acknowledges arrival = true := by
  cases arrival with
  | ended | fault cause => simp [loginReply?, Router.acknowledges, Arrival.data?]
  | frame frame =>
    simp only [loginReply?, Router.acknowledges, Arrival.data?]
    split
    · simp
    · simp

/-- An answer to the login only comes in. -/
theorem exists_arrival_of_loginReply? {router : Router κ ν} {phase : Phase}
    (h : loginReply? router phase cue = some .ack) : ∃ arrival, cue = .arrival arrival := by
  cases cue with
  | arrival arrival => exact ⟨arrival, rfl⟩
  | _ => simp [loginReply?] at h

/-- Unless something comes in, an open connection stays as it is, or is given up. -/
theorem attached_of_step (hstep : manager.step settings endpoint moment hub cue = some t)
    (hcue : ∀ arrival, cue ≠ .arrival arrival) (hopened : cue ≠ .opened)
    (hafter : t.manager.phase.isDetached = false) :
    manager.phase.isDetached = false ∧
      t.manager.phase.inService = manager.phase.inService := by
  cases upshot hstep with
  | away hbefore haway => exact absurd haway (Phase.not_isAway hafter)
  | ended hfinished =>
    rw [hfinished] at hafter
    cases hafter
  | asked hasked => exact absurd hasked hopened
  | listened harrival => exact absurd harrival (hcue _)
  | established hready =>
    rcases hready with ⟨hready, -⟩ | ⟨-, hack⟩
    · exact absurd hready hopened
    · obtain ⟨arrival, harrival⟩ := exists_arrival_of_loginReply? hack
      exact absurd harrival (hcue arrival)
  | worked hbefore hserving =>
    exact ⟨Phase.isDetached_of_inService hbefore, hserving.trans hbefore.symm⟩
  | woken hbefore hrequesting =>
    rw [hbefore, hrequesting]
    exact ⟨rfl, rfl⟩
  | lost hbefore haway => exact absurd haway (Phase.not_isAway hafter)

/-- Without a connection there is none afterwards, unless one is opened. -/
theorem detached_of_step (hstep : manager.step settings endpoint moment hub cue = some t)
    (hcue : ∀ arrival, cue ≠ .arrival arrival) (hopened : cue ≠ .opened)
    (hdetached : manager.phase.isDetached = true) : t.manager.phase.isDetached = true := by
  by_contra hafter
  obtain ⟨hbefore, -⟩ := attached_of_step hstep hcue hopened (Bool.eq_false_iff.mpr hafter)
  rw [hdetached] at hbefore
  cases hbefore

/-- A connection comes into service by an acknowledgement. -/
theorem inService_of_arrival
    (hstep : manager.step settings endpoint moment hub (.arrival arrival) = some t)
    (hafter : t.manager.phase.isDetached = false) :
    t.manager.phase.inService =
      (manager.phase.inService || hub.router.acknowledges arrival) := by
  cases upshot hstep with
  | away hbefore haway => exact absurd haway (Phase.not_isAway hafter)
  | ended hfinished =>
    rw [hfinished] at hafter
    cases hafter
  | asked hopened => cases hopened
  | listened hcue hbefore hsame hregistry hstate hpermit hwrote hreply =>
    obtain ⟨deadline, hlogging⟩ := hbefore
    rw [hlogging, ne_eq, loginReply?_eq_ack_iff, Bool.not_eq_true] at hreply
    rw [hsame, hlogging, hreply]
    rfl
  | established hready hbefore hrequesting =>
    rcases hready with ⟨hopened, -⟩ | ⟨⟨deadline, hlogging⟩, hack⟩
    · cases hopened
    · rw [hlogging, loginReply?_eq_ack_iff] at hack
      rw [hrequesting, hlogging, hack]
      rfl
  | worked hbefore hserving => rw [hserving, hbefore, Bool.true_or]
  | woken hbefore hrequesting =>
    rw [hbefore, hrequesting]
    rfl
  | lost hbefore haway => exact absurd haway (Phase.not_isAway hafter)

/-- The codec has something to log in with on a new connection. -/
def asksLogin (codec : κ) (wall : Nat) : Bool :=
  match Codec.encodeLogin (Codec.reset codec) wall with
  | .ok (some _, _) => true
  | .ok (none, _) | .error _ => false

/-- A new connection is in service at once unless it has to log in. -/
theorem inService_of_opened
    (hstep : manager.step settings endpoint moment hub .opened = some t)
    (hafter : t.manager.phase.isDetached = false) :
    t.manager.phase.inService = !asksLogin hub.router.codec moment.wall := by
  have hdetached := detached_of_opened hstep
  cases upshot hstep with
  | away hbefore haway => exact absurd haway (Phase.not_isAway hafter)
  | ended hfinished =>
    rw [hfinished] at hafter
    cases hafter
  | asked hcue hbefore hlogging hlogin =>
    obtain ⟨deadline, hlogging⟩ := hlogging
    rw [hlogging, asksLogin, hlogin]
    rfl
  | listened hcue => cases hcue
  | established hready hbefore hrequesting =>
    rcases hready with ⟨-, codec, hlogin⟩ | ⟨⟨deadline, hlogging⟩, -⟩
    · rw [hrequesting, asksLogin, hlogin]
      rfl
    · rw [hlogging] at hdetached
      cases hdetached
  | worked hbefore =>
    rw [Phase.isDetached_of_inService hbefore] at hdetached
    cases hdetached
  | woken hbefore =>
    rw [hbefore] at hdetached
    cases hdetached
  | lost hbefore haway => exact absurd haway (Phase.not_isAway hafter)

end Manager

end ChannelMux
