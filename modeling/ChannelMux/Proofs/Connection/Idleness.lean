import ChannelMux.Codec.Plain
import ChannelMux.Proofs.Connection.Clocks
import ChannelMux.Proofs.Connection.Receiving
import ChannelMux.Proofs.Registry.Sharing

/-!
When a session is ended for being idle. The clock is set when a frame is taken, not when it comes
in, and nothing is taken while a request waits for the throttle. A frame that came in meanwhile may
be there when the clock has run out; which of the two the manager turns to is nobody's choice.
-/
namespace ChannelMux

def Arrival.isFrame : Arrival → Bool
  | frame _ => true
  | fault _ | ended => false

/-- A manager with its connection, in the course of time. -/
structure Timeline (κ ν : Type) where
  manager : Manager
  hub : Hub κ ν
  now : Nat
  /-- What came in on the connection and is not taken, with the times at which it came. -/
  unread : List (Nat × Arrival)
  /-- When the frames came that came in on the connection, taken or not. -/
  arrivals : List Nat
  /-- When time passed last, a request waited for the throttle. -/
  held : Bool

namespace Timeline

variable {κ ν : Type}

def start (settings : Settings) (now : Nat) (hub : Hub κ ν) : Timeline κ ν :=
  ⟨Manager.start settings now, hub, now, [], [], false⟩

inductive Move (κ ν : Type) where
  /-- The manager takes a step, on whatever does not come in. -/
  | take (wall : Nat) (writing : Except Error Unit) (cue : Cue)
  /-- The manager takes what came in first. -/
  | read (wall : Nat) (writing : Except Error Unit)
  | arrive (arrival : Arrival)
  /-- So much time passes. The manager is never kept from a step that it can take. -/
  | pass (nanos : Nat)
  /-- Others use the hub. -/
  | share (change : Hub κ ν → Hub κ ν)
  | stop

section Moves

variable [Codec κ ν] (settings : Settings) (endpoint : String) (c : Timeline κ ν)

def turn? (wall : Nat) (writing : Except Error Unit) (cue : Cue) : Option (Turn κ ν) :=
  c.manager.step settings endpoint ⟨c.now, wall, writing⟩ c.hub cue

/-- What the manager does by a move. -/
def turnOf? : Move κ ν → Option (Turn κ ν)
  | .take _ _ (.arrival _) => none
  | .take wall writing cue => c.turn? settings endpoint wall writing cue
  | .read wall writing =>
    c.unread.head?.bind (fun item => c.turn? settings endpoint wall writing (.arrival item.2))
  | _ => none

/-- The manager waits for something to come in, for time, or to be woken. -/
def rests : Bool :=
  ([.proceed, .shutdown, .nudged, .pingDue, .elapsed, .sweepDue] : List Cue).all
      (fun cue => (c.turn? settings endpoint 0 (.ok ()) cue).isNone) &&
    c.unread.head?.all
      (fun item => (c.turn? settings endpoint 0 (.ok ()) (.arrival item.2)).isNone)

/-- A move that is not possible changes nothing. -/
def step (move : Move κ ν) : Timeline κ ν :=
  match move with
  | .take _ _ cue =>
    match c.turnOf? settings endpoint move with
    | none => c
    | some turn =>
      -- A connection that opens has nothing of the one before it.
      let c := { c with manager := turn.manager, hub := turn.hub }
      if cue = .opened then { c with unread := [], arrivals := [] } else c
  | .read _ _ =>
    match c.turnOf? settings endpoint move with
    | none => c
    | some turn => { c with manager := turn.manager, hub := turn.hub, unread := c.unread.tail }
  | .arrive arrival =>
    if c.manager.phase.isDetached then c
    else
      { c with
        unread := c.unread ++ [(c.now, arrival)]
        arrivals := if arrival.isFrame then c.arrivals ++ [c.now] else c.arrivals }
  | .pass nanos =>
    if c.rests settings endpoint then
      { c with now := c.now + nanos, held := c.manager.phase.isHolding }
    else c
  | .share change => { c with hub := change c.hub }
  | .stop => { c with manager := { c.manager with stopping := true } }

def run (moves : List (Move κ ν)) : Timeline κ ν := moves.foldl (step settings endpoint) c

end Moves

/-- What holds between any two moves. -/
structure Kept (settings : Settings) (c : Timeline κ ν) : Prop where
  /-- A frame that lies untaken came in. -/
  listed : ∀ time frame, (time, .frame frame) ∈ c.unread → time ∈ c.arrivals
  past : ∀ time ∈ c.arrivals, time ≤ c.now
  /-- Every frame came in by the time at which the clock was set, or lies untaken. -/
  clocked : ∀ set, c.manager.phase.lastInbound? = some set → ∀ time ∈ c.arrivals,
    time ≤ set ∨ ∃ frame, (time, .frame frame) ∈ c.unread
  /-- Nothing lies untaken while time passes, unless a request waits for the throttle. -/
  prompt : c.manager.phase.isDetached = false → c.held = false →
    ∀ item ∈ c.unread, item.1 = c.now
  free : settings.maxOutboundPerSecond = none →
    c.manager.throttle = none ∧ c.manager.phase.isHolding = false ∧ c.held = false

theorem kept_start (settings : Settings) (now : Nat) (hub : Hub κ ν) :
    Kept settings (start settings now hub) where
  listed _ _ h := nomatch h
  past _ h := nomatch h
  clocked _ h := nomatch h
  prompt hattached := nomatch hattached
  free hnone := by
    refine ⟨?_, rfl, rfl⟩
    change settings.maxOutboundPerSecond.map (Throttle.start · now) = none
    rw [hnone]
    rfl

variable {settings : Settings} {endpoint : String} {c : Timeline κ ν} {turn : Turn κ ν}
  {wall : Nat} {writing : Except Error Unit} {cue : Cue}

/-- Neither time passes nor does anything come in. -/
theorem Kept.free_turn {moment : Moment} (h : Kept settings c)
    (hclocked : Manager.Clocked settings moment c.manager cue turn)
    (hnone : settings.maxOutboundPerSecond = none) :
    turn.manager.throttle = none ∧ turn.manager.phase.isHolding = false ∧ c.held = false := by
  obtain ⟨hthrottle, -, hheld⟩ := h.free hnone
  obtain ⟨hafter, hfree⟩ := hclocked.unthrottled hthrottle
  exact ⟨hafter, hfree, hheld⟩

variable [Codec κ ν]

theorem turnOf?_take (hturn : c.turnOf? settings endpoint (.take wall writing cue) = some turn) :
    (∀ arrival, cue ≠ .arrival arrival) ∧
      c.turn? settings endpoint wall writing cue = some turn := by
  cases cue with
  | arrival arrival => cases hturn
  | _ => exact ⟨by simp, hturn⟩

theorem turnOf?_read (hturn : c.turnOf? settings endpoint (.read wall writing) = some turn) :
    ∃ item rest, c.unread = item :: rest ∧
      c.turn? settings endpoint wall writing (.arrival item.2) = some turn := by
  cases hunread : c.unread with
  | nil => simp [turnOf?, hunread] at hturn
  | cons item rest =>
    simp only [turnOf?, hunread, List.head?_cons, Option.bind_some] at hturn
    exact ⟨item, rest, rfl, hturn⟩

/-- A manager that rests with something untaken has a request that waits for the throttle. -/
theorem unread_of_rests (hrests : c.rests settings endpoint = true)
    (hattached : c.manager.phase.isDetached = false)
    (hfree : c.manager.phase.isHolding = false) : c.unread = [] := by
  rw [rests, Bool.and_eq_true, List.all_eq_true] at hrests
  obtain ⟨hcues, hunread⟩ := hrests
  have hlistening : c.manager.phase.listens = true := by
    cases hphase : c.manager.phase with
    | loggingIn deadline | serving timers => rfl
    | requesting purpose todo =>
      have hproceed := hcues .proceed (by simp)
      simp [turn?, Manager.step, hphase] at hproceed
    | holding purpose release frame todo =>
      rw [hphase] at hfree
      cases hfree
    | _ =>
      rw [hphase] at hattached
      cases hattached
  cases hfirst : c.unread with
  | nil => rfl
  | cons item rest =>
    rw [hfirst] at hunread
    have htaken : (c.turn? settings endpoint 0 (.ok ()) (.arrival item.2)).isSome = true :=
      (Manager.step_arrival_isSome_iff item.2).mpr hlistening
    rw [Option.isSome_iff_ne_none] at htaken
    exact absurd (Option.isNone_iff_eq_none.mp hunread) htaken

namespace Kept

theorem took (h : Kept settings c)
    (hturn : c.turnOf? settings endpoint (.take wall writing cue) = some turn) :
    Kept settings (c.step settings endpoint (.take wall writing cue)) := by
  obtain ⟨hcue, hstep⟩ := turnOf?_take hturn
  have hclocked := Manager.clocked hstep
  simp only [step, hturn]
  split
  · exact {
      listed := fun _ _ h => nomatch h
      past := fun _ h => nomatch h
      clocked := fun _ _ _ h => nomatch h
      prompt := fun _ _ _ h => nomatch h
      free := h.free_turn hclocked }
  · rename_i hopened
    refine ⟨h.listed, h.past, ?_, ?_, h.free_turn hclocked⟩
    · intro set hset time htime
      rcases hclocked.lastInbound?_eq hset with rfl | ⟨-, hbefore⟩
      · exact .inl (h.past time htime)
      · exact h.clocked set hbefore time htime
    · intro hafter
      exact h.prompt (Manager.attached_of_step hstep hcue hopened hafter).1

theorem read (h : Kept settings c)
    (hturn : c.turnOf? settings endpoint (.read wall writing) = some turn) :
    Kept settings (c.step settings endpoint (.read wall writing)) := by
  obtain ⟨item, rest, hunread, hstep⟩ := turnOf?_read hturn
  have hclocked := Manager.clocked hstep
  have hrest : ∀ other ∈ c.unread.tail, other ∈ c.unread := fun _ => List.mem_of_mem_tail
  simp only [step, hturn]
  refine ⟨fun time frame hmem => h.listed time frame (hrest _ hmem), h.past, ?_, ?_,
    h.free_turn hclocked⟩
  · intro set hset time htime
    rcases hclocked.lastInbound?_eq hset with rfl | ⟨hcue, -⟩
    · exact .inl (h.past time htime)
    · exact absurd rfl (hcue item.2)
  · intro _ hheld other hmem
    exact h.prompt (Manager.attached_of_arrival hstep) hheld other (hrest other hmem)

theorem arrive (h : Kept settings c) (arrival : Arrival) :
    Kept settings (c.step settings endpoint (.arrive arrival)) := by
  simp only [step]
  split
  · exact h
  · have hmem : ∀ time ∈ (if arrival.isFrame then c.arrivals ++ [c.now] else c.arrivals),
        time ∈ c.arrivals ∨ time = c.now ∧ ∃ frame, arrival = .frame frame := by
      intro time htime
      cases arrival with
      | frame frame =>
        rcases List.mem_append.mp htime with hold | hnew
        · exact .inl hold
        · exact .inr ⟨List.mem_singleton.mp hnew, frame, rfl⟩
      | fault cause | ended => exact .inl htime
    refine ⟨?_, ?_, ?_, ?_, h.free⟩
    · intro time frame hfrom
      rcases List.mem_append.mp hfrom with hold | hnew
      · have hlisted := h.listed time frame hold
        split
        · exact List.mem_append_left _ hlisted
        · exact hlisted
      · cases List.mem_singleton.mp hnew
        exact List.mem_append_right _ (List.mem_singleton.mpr rfl)
    · intro time htime
      rcases hmem time htime with hold | ⟨rfl, -⟩
      · exact h.past time hold
      · exact Nat.le_refl _
    · intro set hset time htime
      rcases hmem time htime with hold | ⟨rfl, frame, rfl⟩
      · refine (h.clocked set hset time hold).imp_right ?_
        rintro ⟨frame, hframe⟩
        exact ⟨frame, List.mem_append_left _ hframe⟩
      · exact .inr ⟨frame, List.mem_append_right _ (List.mem_singleton.mpr rfl)⟩
    · intro hattached hheld item hitem
      rcases List.mem_append.mp hitem with hold | hnew
      · exact h.prompt hattached hheld item hold
      · rw [List.mem_singleton.mp hnew]

theorem pass (h : Kept settings c) (nanos : Nat) :
    Kept settings (c.step settings endpoint (.pass nanos)) := by
  simp only [step]
  split
  · rename_i hrests
    exact {
      listed := h.listed
      past := fun time htime => (h.past time htime).trans (Nat.le_add_right _ _)
      clocked := h.clocked
      prompt := by
        intro hattached hfree item hitem
        rw [unread_of_rests hrests hattached hfree] at hitem
        cases hitem
      free := by
        intro hnone
        obtain ⟨hthrottle, hfree, -⟩ := h.free hnone
        exact ⟨hthrottle, hfree, hfree⟩ }
  · exact h

theorem step (h : Kept settings c) (move : Move κ ν) :
    Kept settings (c.step settings endpoint move) := by
  cases move with
  | arrive arrival => exact h.arrive arrival
  | pass nanos => exact h.pass nanos
  | share change | stop => exact ⟨h.listed, h.past, h.clocked, h.prompt, h.free⟩
  | take wall writing cue =>
    cases hturn : c.turnOf? settings endpoint (.take wall writing cue) with
    | none => simpa only [Timeline.step, hturn] using h
    | some turn => exact h.took hturn
  | read wall writing =>
    cases hturn : c.turnOf? settings endpoint (.read wall writing) with
    | none => simpa only [Timeline.step, hturn] using h
    | some turn => exact h.read hturn

theorem run (h : Kept settings c) (moves : List (Move κ ν)) :
    Kept settings (c.run settings endpoint moves) := by
  induction moves generalizing c with
  | nil => exact h
  | cons move rest ih => exact ih (h.step move)

end Kept

/-- Somebody subscribes to a channel that nobody holds. -/
def subscribed (request : ChannelRequest) (hub : Hub PlainCodec PlainEvent) :
    Hub PlainCodec PlainEvent :=
  let key := Codec.subscriptionKey hub.router.codec request
  { hub.withRegistry (hub.router.registry.acquire key request).2 with permit := true }

/-- One request a second, and a connection that is given up if nothing comes in for 0.6 s. -/
def narrow : Settings :=
  { Settings.standard with
    idleTimeout := some (600 * nanosPerMilli)
    maxOutboundPerSecond := some 1 }

def fresh : Timeline PlainCodec PlainEvent :=
  start narrow 0 ⟨Router.start ⟨false, none, 0⟩, .disconnected, none, false⟩

end Timeline

end ChannelMux
