import ChannelMux.Proofs.Connection.Upshot
import ChannelMux.Proofs.Registry.Untried

/-!
What becomes of a client that has one manager at a time. The manager takes its steps while any
number of callers take, read and leave channels, wake it, tell it to stop or disconnect, in any
order; once it has finished, a connect starts another. A caller that has to wake the manager does so
some time after its call on the registry. What passes over each connection is kept for the record.
-/
namespace ChannelMux

/-- What passes over a connection. -/
inductive Passage where
  /-- Something came, and meant this to a login that waits to be answered. -/
  | came (arrival : Arrival) (reply : Option LoginReply)
  | wrote (frame : Frame)
deriving DecidableEq, Repr

structure Connection where
  /-- What there was to log in with when the connection was opened. -/
  login : Except Error (Option Frame)
  passed : List Passage

/-- The registry and the state that others see are in step with the phase of the manager. -/
structure Hub.Kept {κ ν : Type} (hub : Hub κ ν) (phase : Phase) : Prop where
  consistent : hub.router.registry.Consistent
  /-- While no connection is in service, every channel is yet to be asked for. -/
  untried : phase.inService = false → hub.router.registry.Untried
  /-- The registry is up only while a connection is in service. -/
  online : hub.router.registry.online = true → phase.inService = true
  connected : hub.state = .connected → phase.inService = true

namespace Hub.Kept

open Registry

variable {κ ν : Type} {hub : Hub κ ν} {phase : Phase}

theorem offline (h : hub.Kept phase) (hphase : phase.inService = false) :
    hub.router.registry.online = false := by
  by_contra hup
  rw [h.online (by simpa using hup)] at hphase
  cases hphase

theorem unconnected (h : hub.Kept phase) (hphase : phase.inService = false) :
    hub.state ≠ .connected := by
  intro hstate
  rw [h.connected hstate] at hphase
  cases hphase

/-- As long as no connection is in service, only the state that others see has to be minded. -/
theorem idle {next : Hub κ ν} {phase' : Phase} (h : hub.Kept phase)
    (hbefore : phase.inService = false) (hregistry : next.router.registry = hub.router.registry)
    (hstate : next.state ≠ .connected) : next.Kept phase' := by
  refine ⟨hregistry ▸ h.consistent, fun _ => hregistry ▸ h.untried hbefore, fun hup => ?_,
    fun hconnected => absurd hconnected hstate⟩
  rw [hregistry, h.offline hbefore] at hup
  cases hup

/-- Whatever the connection was, it is gone. -/
theorem lost {next : Hub κ ν} {registry : Registry ν} {phase' : Phase}
    (consistent : registry.Consistent) (hregistry : next.router.registry = registry.setOnline false)
    (hstate : next.state ≠ .connected) : next.Kept phase' := by
  refine ⟨?_, fun _ => ?_, fun hup => ?_, fun hconnected => absurd hconnected hstate⟩
  · rw [hregistry]
    exact consistent.perform (.setOnline false)
  · rw [hregistry]
    exact untried_loss registry
  · rw [hregistry] at hup
    cases hup

/-- A connection is in service. -/
theorem serving {next : Hub κ ν} {phase' : Phase} (consistent : next.router.registry.Consistent)
    (hafter : phase'.inService = true) : next.Kept phase' := by
  refine ⟨consistent, fun hphase => ?_, fun _ => hafter, fun _ => hafter⟩
  rw [hafter] at hphase
  cases hphase

theorem called (h : hub.Kept phase) (operation : Operation ν)
    (hcaller : operation.isAcquisition = true ∨ operation.isRelease = true) :
    (hub.withRegistry (hub.router.registry.perform operation).2).Kept phase := by
  refine ⟨h.consistent.perform operation, fun hphase => ?_, fun hup => ?_, h.connected⟩
  · have hquiet : operation.confirmed? = none := by
      cases operation with
      | activate key => simp [Operation.isAcquisition, Operation.isRelease] at hcaller
      | dispatch key payload => simp [Operation.isAcquisition, Operation.isRelease] at hcaller
      | _ => rfl
    exact (h.untried hphase).perform h.consistent.distinct (h.offline hphase) hquiet
  · exact h.online ((online_caller hcaller).symm.trans hup)

theorem editInbox (h : hub.Kept phase) (s : Nat) (edit : Inbox ν → Inbox ν) :
    (hub.withRegistry (hub.router.registry.editInbox s edit)).Kept phase :=
  ⟨h.consistent.editInbox s edit, h.untried, h.online, h.connected⟩

theorem turn [Codec κ ν] {moment : Moment} {cue : Cue} {turn : Turn κ ν} (h : hub.Kept phase)
    (upshot : Manager.Upshot moment hub phase cue turn) : turn.hub.Kept turn.manager.phase := by
  cases upshot with
  | away hbefore hafter quiet hstate hreply =>
    refine h.idle hbefore quiet.registry (hstate.elim (fun hsame => ?_) id)
    rw [hsame]
    exact h.unconnected hbefore
  | ended hafter hregistry hstate hpermit hwrote hreply =>
    exact lost h.consistent hregistry (by simp [hstate])
  | asked hcue hbefore hafter hlogin hregistry hstate hpermit hwrote =>
    exact h.idle hbefore hregistry (by simp [hstate])
  | listened hcue hbefore hafter hregistry hstate hpermit hwrote hreply =>
    obtain ⟨deadline, hlogging⟩ := hbefore
    have hbefore : phase.inService = false := by rw [hlogging]; rfl
    refine h.idle hbefore hregistry ?_
    rw [hstate]
    exact h.unconnected hbefore
  | established hready hbefore hafter hregistry hstate hpermit hwrote =>
    refine serving ?_ (by rw [hafter]; rfl)
    rw [hregistry]
    exact h.consistent.perform (.setOnline true)
  | worked hbefore hafter serves hpermit =>
    obtain ⟨operations, hregistry, -⟩ := serves
    refine serving ?_ hafter
    rw [hregistry]
    exact h.consistent.run operations
  | woken hbefore hafter hregistry hpermit =>
    exact serving (hregistry ▸ h.consistent) (by rw [hafter]; rfl)
  | lost hbefore hafter hregistry hstate hpermit hwrote =>
    obtain ⟨registry, ⟨operations, hserved, -⟩, hdown⟩ := hregistry
    have consistent : registry.Consistent := by
      rw [hserved]
      exact h.consistent.run operations
    exact lost consistent hdown (by simp [hstate])

end Hub.Kept

structure Course (κ ν : Type) where
  manager : Manager
  hub : Hub κ ν
  /-- The connections before the latest. -/
  earlier : List Connection
  latest : Option Connection
  /-- Callers who made a call for which they have yet to wake the manager. -/
  waking : Nat

namespace Course

open Registry

variable {κ ν : Type}

/-- A new client, with no manager at work. -/
def start (settings : Settings) (codec : κ) : Course κ ν where
  manager := { Manager.start settings 0 with phase := .finished }
  hub := ⟨Router.start codec, .disconnected, none, false⟩
  earlier := []
  latest := none
  waking := 0

def registry (c : Course κ ν) : Registry ν := c.hub.router.registry

def connections (c : Course κ ν) : List Connection := c.earlier ++ c.latest.toList

def withRegistry (c : Course κ ν) (registry : Registry ν) : Course κ ν :=
  { c with hub := c.hub.withRegistry registry }

/-- A caller's call on the registry. -/
def called (c : Course κ ν) (operation : Operation ν) : Course κ ν :=
  let (answer, registry) := c.registry.perform operation
  { c.withRegistry registry with
    waking := if wakes (operation, answer) then c.waking + 1 else c.waking }

theorem registry_called (c : Course κ ν) (operation : Operation ν) :
    (c.called operation).registry = (c.registry.perform operation).2 := rfl

/-- The hub is in step with the phase of the manager. -/
def Kept (c : Course κ ν) : Prop := c.hub.Kept c.manager.phase

theorem kept_start (settings : Settings) (codec : κ) :
    (start settings codec : Course κ ν).Kept := by
  refine ⟨consistent_empty, fun _ => untried_empty, ?_, ?_⟩
  · rintro ⟨⟩
  · rintro ⟨⟩

variable [Codec κ ν]

/-- What comes in on a cue. -/
def news (c : Course κ ν) : Cue → List Passage
  | .arrival arrival =>
    [.came arrival (Manager.loginReply? c.hub.router c.manager.phase (.arrival arrival))]
  | _ => []

/-- The manager took a step. -/
def turned (c : Course κ ν) (moment : Moment) (cue : Cue) (turn : Turn κ ν) : Course κ ν :=
  let passed := c.news cue ++ turn.wrote.map .wrote
  let c' := { c with manager := turn.manager, hub := turn.hub }
  if cue = .opened then
    let login := Codec.encodeLogin (Codec.reset c.hub.router.codec) moment.wall
    { c' with earlier := c.connections, latest := some ⟨login.map Prod.fst, passed⟩ }
  else { c' with latest := c.latest.map fun connection =>
    { connection with passed := connection.passed ++ passed } }

inductive Move (ν : Type) where
  | step (moment : Moment) (cue : Cue)
  | acquire (key : ChannelKey) (request : ChannelRequest)
  | release (key : ChannelKey) (ticket : Ticket)
  /-- One of those who have to wake the manager does. -/
  | wake
  | read (subscriber : Nat)
  | close (subscriber : Nat)
  /-- The manager is told to stop. -/
  | stop
  /-- A disconnect that has nothing left to wait for. -/
  | disconnect
  /-- A connect that finds the manager finished. -/
  | connect (now : Nat)

/-- A move that is not possible changes nothing. -/
def step (settings : Settings) (endpoint : String) (c : Course κ ν) : Move ν → Course κ ν
  | .step moment cue =>
    match c.manager.step settings endpoint moment c.hub cue with
    | none => c
    | some turn => c.turned moment cue turn
  | .acquire key request => c.called (.acquire key request)
  | .release key ticket => c.called (.release key ticket)
  | .wake =>
    if 0 < c.waking then
      { c with waking := c.waking - 1, hub := { c.hub with permit := true } }
    else c
  | .read subscriber => c.withRegistry (c.registry.receive subscriber).2
  | .close subscriber => c.withRegistry (c.registry.closeInbox subscriber)
  | .stop => { c with manager := { c.manager with stopping := true } }
  | .disconnect => { c with hub := { c.hub.setOnline false with state := .disconnected } }
  | .connect now =>
    if c.manager.isFinished then
      { c with
        manager := Manager.start settings now
        hub := { c.hub with lastError := none, state := .connecting } }
    else c

def run (settings : Settings) (endpoint : String) (c : Course κ ν) (moves : List (Move ν)) :
    Course κ ν :=
  moves.foldl (step settings endpoint) c

variable {settings : Settings} {endpoint : String} {c : Course κ ν} {moment : Moment} {cue : Cue}
  {turn : Turn κ ν}

@[simp] theorem manager_turned : (c.turned moment cue turn).manager = turn.manager := by
  unfold turned
  split <;> rfl

@[simp] theorem hub_turned : (c.turned moment cue turn).hub = turn.hub := by
  unfold turned
  split <;> rfl

@[simp] theorem registry_turned :
    (c.turned moment cue turn).registry = turn.hub.router.registry := by
  rw [registry, hub_turned]

@[simp] theorem waking_turned : (c.turned moment cue turn).waking = c.waking := by
  unfold turned
  split <;> rfl

/-- What every move keeps, a run keeps. -/
theorem run_induction {motive : Course κ ν → Prop} (hstep : ∀ c move, motive c →
    motive (c.step settings endpoint move)) (hstart : motive c) (moves : List (Move ν)) :
    motive (c.run settings endpoint moves) := by
  induction moves generalizing c with
  | nil => exact hstart
  | cons move rest ih => exact ih (hstep c move hstart)

theorem Kept.step (h : c.Kept) (settings : Settings) (endpoint : String) (move : Move ν) :
    (c.step settings endpoint move).Kept := by
  cases move with
  | step moment cue =>
    simp only [Course.step]
    split
    · exact h
    · rename_i turn hstep
      rw [Kept, manager_turned, hub_turned]
      exact Hub.Kept.turn h (Manager.upshot hstep)
  | acquire key request => exact Hub.Kept.called h (.acquire key request) (Or.inl rfl)
  | release key ticket => exact Hub.Kept.called h (.release key ticket) (Or.inr rfl)
  | wake =>
    simp only [Course.step]
    split
    · exact ⟨h.consistent, h.untried, h.online, h.connected⟩
    · exact h
  | read subscriber => exact Hub.Kept.editInbox h subscriber _
  | close subscriber => exact Hub.Kept.editInbox h subscriber _
  | stop => exact h
  | disconnect => exact Hub.Kept.lost h.consistent rfl (by simp [Course.step])
  | connect now =>
    simp only [Course.step]
    split
    · rename_i hfinished
      have hphase := Manager.phase_of_isFinished hfinished
      exact Hub.Kept.idle h (by rw [hphase]; rfl) rfl (by simp)
    · exact h

/-- The first moment of all. What is written then goes out. -/
def atOnce : Moment := ⟨0, 0, .ok ()⟩

end Course

end ChannelMux
