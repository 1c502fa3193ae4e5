import ChannelMux.Connection.Manager
import ChannelMux.Proofs.Registry.Owing

/-!
What one step of a manager can come to, whatever it was waiting for. A connection that is not
established is given up, logged in on or established; one that is in service is worked on or lost.
-/
namespace ChannelMux

namespace Phase

/-- A connection is established and not lost yet. -/
def inService : Phase → Bool
  | requesting _ _ | holding _ _ _ _ | serving _ => true
  | _ => false

/-- No connection is open. -/
def isDetached : Phase → Bool
  | starting | opening _ | waiting _ | finished => true
  | _ => false

/-- No connection is open, and another attempt may be made. -/
def isAway : Phase → Bool
  | starting | opening _ | waiting _ => true
  | _ => false

theorem inService_of_isAway {phase : Phase} (h : phase.isAway = true) :
    phase.inService = false := by
  cases phase with
  | starting | opening _ | waiting _ => rfl
  | _ => cases h

theorem isDetached_of_isAway {phase : Phase} (h : phase.isAway = true) :
    phase.isDetached = true := by
  cases phase with
  | starting | opening _ | waiting _ => rfl
  | _ => cases h

theorem isDetached_of_inService {phase : Phase} (h : phase.inService = true) :
    phase.isDetached = false := by
  cases phase with
  | requesting _ _ | holding _ _ _ _ | serving _ => rfl
  | _ => cases h

theorem isDetached_of_neither {phase : Phase} (hserving : phase.inService = false)
    (hlogging : ∀ deadline, phase ≠ .loggingIn deadline) : phase.isDetached = true := by
  cases phase with
  | loggingIn deadline => exact absurd rfl (hlogging deadline)
  | requesting _ _ | holding _ _ _ _ | serving _ => cases hserving
  | _ => rfl

/-- The requests that the manager set out to write and has not seen to. -/
def todo : Phase → List Owed
  | requesting _ todo | holding _ _ _ todo => todo
  | _ => []

end Phase

namespace Turn

variable {κ ν : Type} (t : Turn κ ν)

/-- The frames that were written in the course of a step. -/
def wrote : List Frame :=
  t.actions.filterMap fun
    | .write frame => some frame
    | _ => none

@[simp] theorem wrote_write (frame : Frame) :
    (t.act (.write frame)).wrote = t.wrote ++ [frame] := by
  simp [wrote, act]

@[simp] theorem wrote_act {action : Action} (h : ∀ frame, action ≠ .write frame) :
    (t.act action).wrote = t.wrote := by
  cases action with
  | write frame => exact absurd rfl (h frame)
  | _ => simp [wrote, act]

@[simp] theorem wrote_announce (event : LifecycleEvent) : (t.announce event).wrote = t.wrote :=
  wrote_act t (by simp)

@[simp] theorem wrote_publish (state : ConnectionState) : (t.publish state).wrote = t.wrote :=
  wrote_act ⟨t.manager, { t.hub with state }, t.actions⟩ (by simp)

@[simp] theorem wrote_finish (cause : Error) : (t.finish cause).wrote = t.wrote :=
  wrote_publish _ _

@[simp] theorem wrote_retreat (moment : Moment) : (t.retreat moment).wrote = t.wrote :=
  wrote_publish _ _

@[simp] theorem wrote_lose (moment : Moment) (reason : String) :
    (t.lose moment reason).wrote = t.wrote := by
  rw [lose, wrote_retreat, wrote_announce, wrote_act _ (by simp)]
  rfl

theorem write_ok {moment : Moment} {frame : Frame} {next : Turn κ ν}
    (h : t.write moment frame = .ok next) : next = t.act (.write frame) := by
  unfold write at h
  cases hwriting : moment.writing with
  | error cause => simp [hwriting, Except.map] at h
  | ok _ => simpa [hwriting, Except.map] using h.symm

end Turn

namespace Manager

open Registry

variable {κ ν : Type}

theorem phase_of_isFinished {manager : Manager} (h : manager.isFinished = true) :
    manager.phase = .finished :=
  of_decide_eq_true h

/-- What a data frame means that comes while the login is not answered. -/
def loginReply? [Codec κ ν] (router : Router κ ν) : Phase → Cue → Option LoginReply
  | .loggingIn _, .arrival (.frame frame) =>
    if frame.isData then some (router.routeLogin frame).1 else none
  | _, _ => none

/-- The answers to the pings in what came in. -/
def echoes : Arrival → List Frame
  | .frame (.ping bytes) => [.pong bytes]
  | _ => []

/-- A step did nothing that others take part in. -/
structure Quiet (hub : Hub κ ν) (t : Turn κ ν) : Prop where
  registry : t.hub.router.registry = hub.router.registry
  permit : t.hub.permit = hub.permit
  wrote : t.wrote = []

/-- A registry was served. Of the requests to see to, those are left that were not claimed. -/
def Serves (r : Registry ν) (todo left : List Owed) (next : Registry ν) : Prop :=
  ∃ operations : List (Operation ν), next = (r.run operations).2 ∧
    (∀ operation ∈ operations, operation.isService = true) ∧
    ∀ owed ∈ todo, owed ∈ left ∨ ∃ now, owed.claim now ∈ operations

/-- What a step comes to that was taken in `phase` on `cue`. -/
inductive Upshot [Codec κ ν] (moment : Moment) (hub : Hub κ ν) (phase : Phase) (cue : Cue)
    (t : Turn κ ν) : Prop
  /-- There is no connection still, or none any more. -/
  | away (hbefore : phase.inService = false) (hafter : t.manager.phase.isAway = true)
      (quiet : Quiet hub t) (hstate : t.hub.state = hub.state ∨ t.hub.state ≠ .connected)
      (hreply : loginReply? hub.router phase cue ≠ some .ack)
  /-- The run is over. -/
  | ended (hafter : t.manager.phase = .finished)
      (hregistry : t.hub.router.registry = hub.router.registry.setOnline false)
      (hstate : t.hub.state = .disconnected) (hpermit : t.hub.permit = hub.permit)
      (hwrote : t.wrote = []) (hreply : loginReply? hub.router phase cue ≠ some .ack)
  /-- The login is written on a new connection. -/
  | asked {login : Frame} {codec : κ} (hcue : cue = .opened) (hbefore : phase.inService = false)
      (hafter : ∃ deadline, t.manager.phase = .loggingIn deadline)
      (hlogin : Codec.encodeLogin (Codec.reset hub.router.codec) moment.wall =
        .ok (some login, codec))
      (hregistry : t.hub.router.registry = hub.router.registry)
      (hstate : t.hub.state = .authenticating) (hpermit : t.hub.permit = hub.permit)
      (hwrote : t.wrote = [login])
  /-- Something came that does not answer the login. -/
  | listened {arrival : Arrival} (hcue : cue = .arrival arrival)
      (hbefore : ∃ deadline, phase = .loggingIn deadline) (hafter : t.manager.phase = phase)
      (hregistry : t.hub.router.registry = hub.router.registry)
      (hstate : t.hub.state = hub.state) (hpermit : t.hub.permit = hub.permit)
      (hwrote : t.wrote = echoes arrival) (hreply : loginReply? hub.router phase cue ≠ some .ack)
  /-- A connection needs no login, or the login is acknowledged. -/
  | established
      (hready : cue = .opened ∧ (∃ codec, Codec.encodeLogin (Codec.reset hub.router.codec)
          moment.wall = .ok (none, codec)) ∨
        (∃ deadline, phase = .loggingIn deadline) ∧ loginReply? hub.router phase cue = some .ack)
      (hbefore : phase.inService = false)
      (hafter : t.manager.phase = .requesting (.replay 0)
        ((hub.router.registry.setOnline true).wanted.map (fun entry => .subscribe entry.1)))
      (hregistry : t.hub.router.registry = hub.router.registry.setOnline true)
      (hstate : t.hub.state = hub.state) (hpermit : t.hub.permit = hub.permit)
      (hwrote : t.wrote = [])
  | worked (hbefore : phase.inService = true) (hafter : t.manager.phase.inService = true)
      (serves : Serves hub.router.registry phase.todo t.manager.phase.todo t.hub.router.registry)
      (hpermit : t.hub.permit = hub.permit)
  /-- The wake-up is taken, and what is due is to be written. -/
  | woken {timers : Timers} (hbefore : phase = .serving timers)
      (hafter : t.manager.phase = .requesting (.upkeep timers) hub.router.registry.due.owed)
      (hregistry : t.hub.router.registry = hub.router.registry) (hpermit : t.hub.permit = false)
  | lost (hbefore : phase.inService = true) (hafter : t.manager.phase.isAway = true)
      (hregistry : ∃ registry, Serves hub.router.registry [] [] registry ∧
        t.hub.router.registry = registry.setOnline false)
      (hstate : t.hub.state = .reconnecting) (hpermit : t.hub.permit = hub.permit)
      (hwrote : t.wrote = [])

variable {settings : Settings} {endpoint : String} {moment : Moment} {hub : Hub κ ν}
  {phase : Phase} {cue : Cue} {t : Turn κ ν}

namespace Quiet

theorem refl (manager : Manager) (hub : Hub κ ν) : Quiet hub ⟨manager, hub, []⟩ :=
  ⟨rfl, rfl, rfl⟩

theorem act (quiet : Quiet hub t) {action : Action} (h : ∀ frame, action ≠ .write frame) :
    Quiet hub (t.act action) :=
  ⟨quiet.registry, quiet.permit, (t.wrote_act h).trans quiet.wrote⟩

theorem withManager (quiet : Quiet hub t) (manager : Manager) :
    Quiet hub { t with manager } :=
  ⟨quiet.registry, quiet.permit, quiet.wrote⟩

theorem withCodec (quiet : Quiet hub t) (codec : κ) : Quiet hub (t.withCodec codec) :=
  ⟨quiet.registry, quiet.permit, quiet.wrote⟩

theorem announce (quiet : Quiet hub t) (event : LifecycleEvent) : Quiet hub (t.announce event) :=
  quiet.act (by simp)

theorem publish (quiet : Quiet hub t) (state : ConnectionState) : Quiet hub (t.publish state) :=
  ⟨quiet.registry, quiet.permit, (t.wrote_publish state).trans quiet.wrote⟩

theorem retreat (quiet : Quiet hub t) (moment : Moment) : Quiet hub (t.retreat moment) :=
  ⟨quiet.registry, quiet.permit, (t.wrote_retreat moment).trans quiet.wrote⟩

end Quiet

variable [Codec κ ν]

theorem upshot_finish (quiet : Quiet hub t)
    (hreply : loginReply? hub.router phase cue ≠ some .ack) (cause : Error) :
    Upshot moment hub phase cue (t.finish cause) :=
  .ended rfl (congrArg (Registry.setOnline · false) quiet.registry) rfl quiet.permit
    ((t.wrote_finish cause).trans quiet.wrote) hreply

theorem upshot_retreat (hbefore : phase.inService = false) (quiet : Quiet hub t)
    (hreply : loginReply? hub.router phase cue ≠ some .ack) :
    Upshot moment hub phase cue (t.retreat moment) := by
  refine .away hbefore rfl (quiet.retreat moment) (Or.inr ?_) hreply
  change ConnectionState.reconnecting ≠ .connected
  decide

theorem upshot_attemptFailed (hbefore : phase.inService = false) (quiet : Quiet hub t)
    (hreply : loginReply? hub.router phase cue ≠ some .ack) (cause : Error) :
    Upshot moment hub phase cue (attemptFailed settings moment t cause) := by
  have hcounted :=
    (quiet.withManager { t.manager with failures := t.manager.failures + 1 }).announce
      (.reconnectFailed (t.manager.failures + 1) cause)
  unfold attemptFailed
  simp only
  split
  · exact upshot_finish (hcounted.announce _) hreply _
  · exact upshot_retreat hbefore hcounted hreply

theorem upshot_loginFailed (hbefore : phase.inService = false) (quiet : Quiet hub t)
    (hreply : loginReply? hub.router phase cue ≠ some .ack) (cause : Error) :
    Upshot moment hub phase cue (loginFailed settings moment t cause) :=
  upshot_attemptFailed hbefore (quiet.act (by simp)) hreply cause

theorem upshot_established (hready : cue = .opened ∧ (∃ codec, Codec.encodeLogin
      (Codec.reset hub.router.codec) moment.wall = .ok (none, codec)) ∨
        (∃ deadline, phase = .loggingIn deadline) ∧ loginReply? hub.router phase cue = some .ack)
    (hbefore : phase.inService = false) (quiet : Quiet hub t) (hstate : t.hub.state = hub.state) :
    Upshot moment hub phase cue (established t) := by
  refine .established hready hbefore ?_ ?_ hstate quiet.permit quiet.wrote
  · rw [← quiet.registry]
    rfl
  · exact congrArg (Registry.setOnline · true) quiet.registry

theorem upshot_opened (manager : Manager) (deadline : Nat) :
    Upshot moment hub (.opening deadline) .opened
      (opened settings endpoint moment ⟨manager, hub, []⟩) := by
  have hreply : loginReply? hub.router (.opening deadline) .opened ≠ some .ack := by
    simp [loginReply?]
  have hquiet : ∀ codec, Quiet hub
      (((⟨manager, hub, []⟩ : Turn κ ν).withCodec codec).announce (.connected endpoint)) :=
    fun codec => ((Quiet.refl manager hub).withCodec codec).announce _
  unfold opened
  simp only
  split
  · exact upshot_loginFailed rfl (hquiet _) hreply _
  · rename_i codec hlogin
    exact upshot_established (Or.inl ⟨rfl, codec, hlogin⟩) rfl ⟨rfl, rfl, rfl⟩ rfl
  · rename_i login codec hlogin
    split
    · exact upshot_loginFailed rfl (((hquiet _).withCodec codec).publish _) hreply _
    · rename_i next hwrite
      obtain rfl := Turn.write_ok _ hwrite
      exact .asked rfl rfl ⟨_, rfl⟩ hlogin rfl rfl rfl rfl

theorem routeLogin_registry (router : Router κ ν) (frame : Frame) :
    (router.routeLogin frame).2.registry = router.registry := by
  unfold Router.routeLogin
  simp only
  split <;> rfl

/-- Any data frame that comes during a login is asked what it means to it. -/
theorem upshot_routeLogin {manager : Manager} {deadline : Nat}
    (hphase : manager.phase = .loggingIn deadline) {frame : Frame} (hdata : frame.isData = true) :
    Upshot moment hub (.loggingIn deadline) (.arrival (.frame frame))
      (match hub.router.routeLogin frame with
      | (.ack, router) =>
        established (((⟨manager, hub, []⟩ : Turn κ ν).withRouter router).announce .authenticated)
      | (.rejected reason, router) =>
        loginFailed settings moment ((⟨manager, hub, []⟩ : Turn κ ν).withRouter router)
          (.auth reason)
      | (.ignored, router) => (⟨manager, hub, []⟩ : Turn κ ν).withRouter router) := by
  have hasked : loginReply? hub.router (.loggingIn deadline) (.arrival (.frame frame)) =
      some (hub.router.routeLogin frame).1 := if_pos hdata
  have hregistry := routeLogin_registry hub.router frame
  have hsilent : echoes (.frame frame) = [] := by
    cases frame with
    | ping bytes => cases hdata
    | _ => rfl
  generalize hub.router.routeLogin frame = answer at hasked hregistry
  obtain ⟨reply, router⟩ := answer
  have hquiet : Quiet hub ((⟨manager, hub, []⟩ : Turn κ ν).withRouter router) :=
    ⟨hregistry, rfl, rfl⟩
  cases reply with
  | ack => exact upshot_established (Or.inr ⟨⟨_, rfl⟩, hasked⟩) rfl (hquiet.announce _) rfl
  | rejected reason => exact upshot_loginFailed rfl hquiet (by simp [hasked]) _
  | ignored =>
    exact .listened rfl ⟨_, rfl⟩ hphase hregistry rfl rfl hsilent.symm (by simp [hasked])

theorem upshot_loginArrival {manager : Manager} {deadline : Nat}
    (hphase : manager.phase = .loggingIn deadline) (arrival : Arrival) :
    Upshot moment hub (.loggingIn deadline) (.arrival arrival)
      (loginArrival settings moment ⟨manager, hub, []⟩ arrival) := by
  have hfailed : loginReply? hub.router (.loggingIn deadline) (.arrival arrival) ≠ some .ack →
      ∀ cause, Upshot moment hub (.loggingIn deadline) (.arrival arrival)
        (loginFailed settings moment ⟨manager, hub, []⟩ cause) :=
    fun hreply cause => upshot_loginFailed rfl (.refl manager hub) hreply cause
  cases arrival with
  | ended => exact hfailed (by simp [loginReply?]) _
  | fault cause => exact hfailed (by simp [loginReply?]) _
  | frame frame =>
    cases frame with
    | close => exact hfailed (by simp [loginReply?, Frame.isData]) _
    | pong bytes =>
      exact .listened rfl ⟨_, rfl⟩ hphase rfl rfl rfl rfl (by simp [loginReply?, Frame.isData])
    | ping bytes =>
      simp only [loginArrival]
      split
      · exact hfailed (by simp [loginReply?, Frame.isData]) _
      · rename_i next hwrite
        obtain rfl := Turn.write_ok _ hwrite
        exact .listened rfl ⟨_, rfl⟩ hphase rfl rfl rfl rfl (by simp [loginReply?, Frame.isData])
    | text content => exact upshot_routeLogin hphase rfl
    | binary bytes => exact upshot_routeLogin hphase rfl

namespace Serves

variable {r next : Registry ν} {todo left : List Owed}

theorem refl (r : Registry ν) (todo : List Owed) : Serves r todo todo r :=
  ⟨[], rfl, by simp, fun _ hmem => Or.inl hmem⟩

/-- One call, by which no request is claimed. -/
theorem one (r : Registry ν) (todo : List Owed) (operation : Operation ν)
    (hservice : operation.isService = true) : Serves r todo todo (r.perform operation).2 :=
  ⟨[operation], rfl, by simpa using hservice, fun _ hmem => Or.inl hmem⟩

/-- The first request is claimed, and what follows from that is done. -/
theorem claimed {owed : Owed} {now : Nat} (h : next = (r.perform (owed.claim now)).2)
    (todo : List Owed) (operations : List (Operation ν))
    (hservice : ∀ operation ∈ operations, operation.isService = true) :
    Serves r (owed :: todo) todo (next.run operations).2 := by
  subst h
  refine ⟨owed.claim now :: operations, rfl, ?_, ?_⟩
  · intro operation hmem
    rcases List.mem_cons.mp hmem with rfl | hmem
    · cases owed <;> rfl
    · exact hservice operation hmem
  · intro other hmem
    rcases List.mem_cons.mp hmem with rfl | hmem
    · exact Or.inr ⟨now, List.mem_cons_self⟩
    · exact Or.inl hmem

theorem forget (h : Serves r todo left next) : Serves r [] [] next := by
  obtain ⟨operations, hnext, hservice, -⟩ := h
  exact ⟨operations, hnext, hservice, by simp⟩

end Serves

theorem upshot_lose {todo left : List Owed} (reason : String) (hbefore : phase.inService = true)
    (serves : Serves hub.router.registry todo left t.hub.router.registry)
    (hpermit : t.hub.permit = hub.permit) (hwrote : t.wrote = []) :
    Upshot moment hub phase cue (t.lose moment reason) :=
  .lost hbefore rfl ⟨_, serves.forget, rfl⟩ rfl hpermit ((t.wrote_lose moment reason).trans hwrote)

/-- A frame is written and the rest is next, or the connection is lost. -/
theorem upshot_transmit {todo : List Owed} (purpose : Purpose) (frame : Frame)
    (hbefore : phase.inService = true)
    (serves : Serves hub.router.registry phase.todo todo t.hub.router.registry)
    (hpermit : t.hub.permit = hub.permit) (hwrote : t.wrote = []) :
    Upshot moment hub phase cue (transmit moment t purpose frame todo) := by
  unfold transmit
  cases hwrite : t.write moment frame with
  | error cause =>
    cases purpose with
    | replay sent => exact upshot_lose _ hbefore serves hpermit hwrote
    | upkeep timers => exact upshot_lose _ hbefore serves hpermit hwrote
  | ok next =>
    obtain rfl := Turn.write_ok _ hwrite
    cases purpose with
    | replay sent => exact .worked hbefore rfl serves hpermit
    | upkeep timers => exact .worked hbefore rfl serves hpermit

theorem upshot_submit {todo : List Owed} (purpose : Purpose) (frame : Frame)
    (hbefore : phase.inService = true)
    (serves : Serves hub.router.registry phase.todo todo t.hub.router.registry)
    (hpermit : t.hub.permit = hub.permit) (hwrote : t.wrote = []) :
    Upshot moment hub phase cue (submit moment t purpose frame todo) := by
  unfold submit
  cases t.manager.throttle with
  | none => exact upshot_transmit purpose frame hbefore serves hpermit hwrote
  | some throttle =>
    simp only
    cases (throttle.reserve moment.now).1 with
    | none => exact upshot_transmit purpose frame hbefore serves hpermit hwrote
    | some release => exact .worked hbefore rfl serves hpermit

theorem upshot_request {purpose : Purpose} {todo : List Owed} (manager : Manager)
    (hphase : phase = .requesting purpose todo) :
    Upshot moment hub phase cue
      (request settings moment ⟨manager, hub, []⟩ purpose todo) := by
  subst hphase
  cases todo with
  | nil =>
    cases purpose with
    | replay sent => exact .worked rfl rfl (.refl _ _) rfl
    | upkeep timers => exact .worked rfl rfl (.refl _ _) rfl
  | cons owed todo =>
    -- either nothing is owed any more, or the request has no wire form, or it is submitted
    cases owed with
    | subscribe key =>
      simp only [request]
      cases hclaim : hub.router.registry.beginSubscribe key with
      | mk answer registry =>
        have hregistry : registry = (hub.router.registry.perform
            ((Owed.subscribe key).claim moment.now)).2 := (congrArg Prod.snd hclaim).symm
        have serves := Serves.claimed hregistry todo
        cases answer with
        | none => exact .worked rfl rfl (serves [] (by simp)) rfl
        | some asked =>
          simp only
          split
          · rename_i cause _
            exact .worked rfl rfl (serves [.fail key (.subscribe key cause.message)]
              (by simp [Operation.isService])) rfl
          · exact upshot_submit purpose _ rfl (serves [] (by simp)) rfl rfl
    | unsubscribe key =>
      simp only [request]
      cases hclaim : hub.router.registry.beginUnsubscribe key moment.now with
      | mk answer registry =>
        have hregistry : registry = (hub.router.registry.perform
            ((Owed.unsubscribe key).claim moment.now)).2 := (congrArg Prod.snd hclaim).symm
        have serves := Serves.claimed hregistry todo
        cases answer with
        | none => exact .worked rfl rfl (serves [] (by simp)) rfl
        | some asked =>
          simp only
          split
          · exact .worked rfl rfl (serves [.forget key] (by simp [Operation.isService])) rfl
          · exact upshot_submit purpose _ rfl (serves [] (by simp)) rfl rfl

theorem serves_applyControl (r : Registry ν) (event : ControlEvent) :
    Serves r [] [] (Router.applyControl r event) := by
  cases event with
  | subscribeAck key => exact .one r [] (.activate key) rfl
  | subscribeError key reason => exact .one r [] (.fail key _) rfl
  | unsubscribeAck key => exact .one r [] (.unsubscribeAcked key) rfl
  | _ => exact .refl r []

theorem serves_deliver (router : Router κ ν) (payload : ν) :
    Serves router.registry [] [] (router.deliver payload).2.registry := by
  unfold Router.deliver
  split
  · exact .refl _ _
  · rename_i key _
    have hfed : Serves router.registry [] [] (router.registry.dispatch key payload).2 :=
      .one _ [] (.dispatch key payload) rfl
    cases hdispatch : router.registry.dispatch key payload with
    | mk result registry =>
      rw [hdispatch] at hfed
      cases result with
      | delivered count => exact hfed
      | noSubscribers => exact hfed

theorem serves_route (router : Router κ ν) (frame : Frame) :
    Serves router.registry [] [] (router.route frame).2.registry := by
  unfold Router.route
  simp only
  split
  · exact .refl _ _
  · rename_i payload codec _
    exact serves_deliver { router.countFrame with codec } payload
  · exact serves_applyControl _ _

theorem upshot_serveArrival (manager : Manager) {timers : Timers}
    (hphase : phase = .serving timers) (arrival : Arrival) :
    Upshot moment hub phase cue (serveArrival moment ⟨manager, hub, []⟩ timers arrival) := by
  subst hphase
  have hlost : ∀ reason, Upshot moment hub (.serving timers) cue
      ((⟨manager, hub, []⟩ : Turn κ ν).lose moment reason) :=
    fun reason => upshot_lose reason rfl (.refl _ []) rfl rfl
  have hserving : ∀ router : Router κ ν, Serves hub.router.registry [] [] router.registry →
      ∀ actions, Upshot moment hub (.serving timers) cue
        ⟨{ manager with phase := .serving { timers with lastInbound := moment.now } },
          { hub with router }, actions⟩ :=
    fun router serves actions => .worked rfl rfl serves rfl
  cases arrival with
  | ended => exact hlost _
  | fault cause => exact hlost _
  | frame frame =>
    cases frame with
    | close => exact hlost _
    | pong bytes => exact hserving hub.router (.refl _ _) _
    | ping bytes =>
      simp only [serveArrival]
      split
      · exact hlost _
      · rename_i next hwrite
        obtain rfl := Turn.write_ok _ hwrite
        exact hserving hub.router (.refl _ _) _
    | text content => exact hserving _ (serves_route hub.router _) _
    | binary bytes => exact hserving _ (serves_route hub.router _) _

theorem upshot_attempt {manager : Manager} (hphase : phase = .starting) :
    Upshot moment hub phase .proceed (attempt settings moment ⟨manager, hub, []⟩) := by
  subst hphase
  refine .away rfl rfl ⟨rfl, rfl, rfl⟩ (Or.inr ?_) (by simp [loginReply?])
  change (if manager.firstAttempt = true then ConnectionState.connecting else .reconnecting) ≠ _
  split <;> decide

theorem upshot_ping {manager : Manager} {timers : Timers} (hphase : phase = .serving timers)
    (p : Ping) (due : Nat) :
    Upshot moment hub phase cue (ping moment ⟨manager, hub, []⟩ timers p due) := by
  subst hphase
  unfold ping
  simp only
  split
  · exact upshot_lose _ rfl (.refl _ []) rfl rfl
  · rename_i next hwrite
    obtain rfl := Turn.write_ok _ hwrite
    exact .worked rfl rfl (.refl _ _) rfl

theorem upshot_sweep {manager : Manager} {timers : Timers} (hphase : phase = .serving timers) :
    Upshot moment hub phase cue (sweep settings moment ⟨manager, hub, []⟩ timers) := by
  subst hphase
  exact .worked rfl rfl (.one _ [] (.expire moment.now settings.unsubscribeTimeout) rfl) rfl

theorem upshot_elapsed {manager : Manager}
    (hstep : manager.step settings endpoint moment hub .elapsed = some t) :
    Upshot moment hub manager.phase .elapsed t := by
  have hquiet := Quiet.refl manager hub
  cases hphase : manager.phase with
  | opening deadline =>
    simp only [step, hphase, Option.ite_none_right_eq_some, Option.some.injEq] at hstep
    obtain ⟨-, rfl⟩ := hstep
    exact upshot_attemptFailed rfl hquiet (by simp [loginReply?]) _
  | loggingIn deadline =>
    simp only [step, hphase, Option.ite_none_right_eq_some, Option.some.injEq] at hstep
    obtain ⟨-, rfl⟩ := hstep
    exact upshot_loginFailed rfl hquiet (by simp [loginReply?]) _
  | holding purpose release frame todo =>
    simp only [step, hphase, Option.ite_none_right_eq_some, Option.some.injEq] at hstep
    obtain ⟨-, rfl⟩ := hstep
    exact upshot_transmit purpose frame rfl (.refl _ _) rfl rfl
  | serving timers =>
    simp only [step, hphase, Option.ite_none_right_eq_some, Option.some.injEq] at hstep
    obtain ⟨-, rfl⟩ := hstep
    exact upshot_lose _ rfl (.refl _ []) rfl rfl
  | waiting release =>
    simp only [step, hphase, Option.ite_none_right_eq_some, Option.some.injEq] at hstep
    obtain ⟨-, rfl⟩ := hstep
    exact .away rfl rfl ⟨rfl, rfl, rfl⟩ (Or.inl rfl) (by simp [loginReply?])
  | _ => simp [step, hphase] at hstep

theorem upshot_shutdown {manager : Manager}
    (hstep : manager.step settings endpoint moment hub .shutdown = some t) :
    Upshot moment hub manager.phase .shutdown t := by
  have hreply : loginReply? hub.router manager.phase .shutdown ≠ some .ack := by
    simp [loginReply?]
  have hquiet := Quiet.refl manager hub
  have hfinished : t = (⟨manager, hub, []⟩ : Turn κ ν).finish .closed ∨
      t = ((⟨manager, hub, []⟩ : Turn κ ν).act .close).finish .closed := by
    cases hphase : manager.phase <;>
      simp only [step, hphase, Option.ite_none_right_eq_some, Option.some.injEq, reduceCtorEq]
        at hstep
    all_goals simp [← hstep.2]
  rcases hfinished with rfl | rfl
  · exact upshot_finish hquiet hreply _
  · exact upshot_finish (hquiet.act (by simp)) hreply _

/-- Every step comes to one of these. -/
theorem upshot {manager : Manager}
    (hstep : manager.step settings endpoint moment hub cue = some t) :
    Upshot moment hub manager.phase cue t := by
  cases cue with
  | proceed =>
    cases hphase : manager.phase with
    | starting =>
      simp only [step, hphase] at hstep
      split at hstep
      · cases hstep
      · cases hstep
        exact upshot_attempt rfl
    | requesting purpose todo =>
      simp only [step, hphase] at hstep
      cases hstep
      exact upshot_request manager rfl
    | _ => simp [step, hphase] at hstep
  | opened =>
    cases hphase : manager.phase with
    | opening deadline =>
      simp only [step, hphase] at hstep
      cases hstep
      exact upshot_opened manager deadline
    | _ => simp [step, hphase] at hstep
  | refused cause =>
    cases hphase : manager.phase with
    | opening deadline =>
      simp only [step, hphase] at hstep
      cases hstep
      exact upshot_attemptFailed rfl (.refl manager hub) (by simp [loginReply?]) cause
    | _ => simp [step, hphase] at hstep
  | arrival arrival =>
    cases hphase : manager.phase with
    | loggingIn deadline =>
      simp only [step, hphase] at hstep
      cases hstep
      exact upshot_loginArrival hphase arrival
    | serving timers =>
      simp only [step, hphase] at hstep
      cases hstep
      exact upshot_serveArrival manager rfl arrival
    | _ => simp [step, hphase] at hstep
  | nudged =>
    cases hphase : manager.phase with
    | serving timers =>
      simp only [step, hphase] at hstep
      split at hstep
      · cases hstep
        exact .woken rfl rfl rfl rfl
      · cases hstep
    | _ => simp [step, hphase] at hstep
  | pingDue =>
    cases hphase : manager.phase with
    | serving timers =>
      simp only [step, hphase] at hstep
      split at hstep
      · split at hstep
        · cases hstep
          exact upshot_ping rfl _ _
        · cases hstep
      · cases hstep
    | _ => simp [step, hphase] at hstep
  | sweepDue =>
    cases hphase : manager.phase with
    | serving timers =>
      simp only [step, hphase] at hstep
      split at hstep
      · cases hstep
        exact upshot_sweep rfl
      · cases hstep
    | _ => simp [step, hphase] at hstep
  | elapsed => exact upshot_elapsed hstep
  | shutdown => exact upshot_shutdown hstep

/-- Whoever finishes leaves no connection behind, and says so. -/
theorem registry_of_finished {manager : Manager}
    (hstep : manager.step settings endpoint moment hub cue = some t)
    (hphase : t.manager.phase = .finished) :
    t.hub.router.registry = hub.router.registry.setOnline false ∧ t.hub.state = .disconnected := by
  cases upshot hstep with
  | ended hafter hregistry hstate hpermit hwrote hreply => exact ⟨hregistry, hstate⟩
  | away hbefore hafter quiet hstate hreply => simp [hphase, Phase.isAway] at hafter
  | asked hcue hbefore hafter hlogin hregistry hstate hpermit hwrote => simp [hphase] at hafter
  | listened hcue hbefore hafter hregistry hstate hpermit hwrote hreply =>
    obtain ⟨deadline, hlogging⟩ := hbefore
    simp [hphase, hlogging] at hafter
  | established hready hbefore hafter hregistry hstate hpermit hwrote => simp [hphase] at hafter
  | worked hbefore hafter serves hpermit => simp [hphase, Phase.inService] at hafter
  | woken hbefore hafter hregistry hpermit => simp [hphase] at hafter
  | lost hbefore hafter hregistry hstate hpermit hwrote => simp [hphase, Phase.isAway] at hafter

theorem offline_of_finished {manager : Manager}
    (hstep : manager.step settings endpoint moment hub cue = some t)
    (hphase : t.manager.phase = .finished) :
    t.hub.router.registry.online = false ∧ t.hub.state = .disconnected := by
  obtain ⟨hregistry, hstate⟩ := registry_of_finished hstep hphase
  exact ⟨hregistry ▸ rfl, hstate⟩

/-- A connection comes up only while there is none. -/
theorem detached_of_opened {manager : Manager}
    (hstep : manager.step settings endpoint moment hub .opened = some t) :
    manager.phase.isDetached = true := by
  cases hphase : manager.phase with
  | opening deadline => rfl
  | _ => simp [step, hphase] at hstep

/-- What comes in comes on a connection. -/
theorem attached_of_arrival {manager : Manager} {arrival : Arrival}
    (hstep : manager.step settings endpoint moment hub (.arrival arrival) = some t) :
    manager.phase.isDetached = false := by
  cases hphase : manager.phase with
  | loggingIn deadline => rfl
  | serving timers => rfl
  | _ => simp [step, hphase] at hstep

/-- A manager that has finished does nothing more. -/
theorem unfinished_of_step {manager : Manager}
    (hstep : manager.step settings endpoint moment hub cue = some t) :
    manager.isFinished = false := by
  by_contra hfinished
  have hphase := phase_of_isFinished (by simpa using hfinished)
  cases cue <;> simp [step, hphase] at hstep

end Manager

end ChannelMux
