import ChannelMux.Proofs.Connection.Receiving
import ChannelMux.Proofs.Log

/-!
Everything that comes in is handled once and in order. Over the connections of one run of a manager,
items are sent and taken while the manager sees to its other cues and others use the hub; what was
taken is kept for the record, with what came of it.
-/
namespace ChannelMux

/-- An item that was taken from a connection. -/
structure Taking (κ ν : Type) where
  arrival : Arrival
  /-- An answer could be sent: no write failed, and nothing cut it off. -/
  sendable : Bool
  answer : List Frame
  /-- The router that it found, and the one that it left. -/
  before : Router κ ν
  after : Router κ ν

namespace Taking

variable {κ ν : Type}

def isLast (entry : Taking κ ν) : Bool := entry.arrival.isLast entry.sendable

def isData (entry : Taking κ ν) : Bool := entry.arrival.data?.isSome

variable [Codec κ ν]

def isAck (entry : Taking κ ν) : Bool := entry.before.acknowledges entry.arrival

/-- A ping is answered, unless that cannot be done, and a data frame is shown to the router. -/
structure Handled (early : Bool) (entry : Taking κ ν) : Prop where
  answered : entry.answer = if entry.sendable then Manager.echoes entry.arrival else []
  routed : (entry.before.receive early entry.arrival).Switched entry.after

end Taking

/-- A connection, as far as it is read from. -/
structure Line (κ ν : Type) where
  /-- There is a login to be acknowledged. -/
  guarded : Bool
  sent : List Arrival
  taken : List (Taking κ ν)

namespace Line

variable {κ ν : Type}

/-- What is to be taken next. -/
def next? (line : Line κ ν) : Option Arrival := line.sent[line.taken.length]?

def send (line : Line κ ν) (arrival : Arrival) : Line κ ν :=
  { line with sent := line.sent ++ [arrival] }

def take (line : Line κ ν) (entry : Taking κ ν) : Line κ ν :=
  { line with taken := line.taken ++ [entry] }

variable [Codec κ ν]

/-- After these items the login is not acknowledged. -/
def awaits (line : Line κ ν) (before : List (Taking κ ν)) : Bool :=
  line.guarded && !before.any Taking.isAck

structure Lawful (line : Line κ ν) : Prop where
  /-- What was taken is what was sent first, in that order. -/
  ordered : line.taken.map Taking.arrival <+: line.sent
  handled : Throughout (fun before entry => entry.Handled (line.awaits before)) line.taken
  ended : Throughout (fun before _ => ∀ entry ∈ before, entry.isLast = false) line.taken

/-- A line is in the condition that the phase of its manager asks for. -/
def Fits (line : Line κ ν) (phase : Phase) : Prop :=
  phase.isDetached = false →
    line.awaits line.taken = !phase.inService ∧ ∀ entry ∈ line.taken, entry.isLast = false

variable {line : Line κ ν} {entry : Taking κ ν}

theorem awaits_concat (line : Line κ ν) (before : List (Taking κ ν)) (entry : Taking κ ν) :
    line.awaits (before ++ [entry]) = (line.awaits before && !entry.isAck) := by
  simp [awaits, Bool.and_assoc]

theorem Lawful.send (h : line.Lawful) (arrival : Arrival) : (line.send arrival).Lawful :=
  ⟨h.ordered.trans (List.prefix_append _ _), h.handled, h.ended⟩

theorem Lawful.take (h : line.Lawful) (hnext : line.next? = some entry.arrival)
    (hopen : ∀ earlier ∈ line.taken, earlier.isLast = false)
    (hhandled : entry.Handled (line.awaits line.taken)) : (line.take entry).Lawful := by
  refine ⟨?_, h.handled.concat hhandled, h.ended.concat hopen⟩
  have hbefore := List.prefix_iff_eq_take.mp h.ordered
  rw [List.length_map] at hbefore
  change (line.taken ++ [entry]).map Taking.arrival <+: line.sent
  rw [List.map_append, hbefore, List.map_singleton, ← Option.toList_some, ← hnext, next?,
    ← List.take_add_one]
  exact List.take_prefix _ _

end Line

/-- A run of a manager with the connections it had so far. -/
structure Intake (κ ν : Type) where
  manager : Manager
  hub : Hub κ ν
  /-- The connections before the latest. -/
  earlier : List (Line κ ν)
  latest : Option (Line κ ν)
  /-- Frames that others had shown to the router. -/
  elsewhere : Nat

namespace Intake

variable {κ ν : Type}

/-- A run begins, on a hub that has seen others. -/
def start (settings : Settings) (now : Nat) (hub : Hub κ ν) : Intake κ ν :=
  ⟨Manager.start settings now, hub, [], none, 0⟩

def lines (i : Intake κ ν) : List (Line κ ν) := i.earlier ++ i.latest.toList

/-- The data frames that were taken. -/
def received (i : Intake κ ν) : Nat := (i.lines.flatMap Line.taken).countP Taking.isData

/-- The latest line, with what is to be taken from it. -/
def next? (i : Intake κ ν) : Option (Line κ ν × Arrival) :=
  i.latest.bind (fun line => line.next?.map (line, ·))

def turned (i : Intake κ ν) (turn : Turn κ ν) : Intake κ ν :=
  { i with manager := turn.manager, hub := turn.hub }

/-- The manager took an item from a line. -/
def taken (i : Intake κ ν) (line : Line κ ν) (arrival : Arrival) (sendable : Bool)
    (turn : Turn κ ν) : Intake κ ν :=
  { i.turned turn with
    latest := some (line.take ⟨arrival, sendable, turn.wrote, i.hub.router, turn.hub.router⟩) }

/-- A connection was opened, with or without a login to be acknowledged. -/
def opened (i : Intake κ ν) (guarded : Bool) (turn : Turn κ ν) : Intake κ ν :=
  { i.turned turn with earlier := i.lines, latest := some ⟨guarded, [], []⟩ }

inductive Move (κ ν : Type) where
  /-- The manager takes a step, on whatever does not come in. -/
  | step (moment : Moment) (cue : Cue)
  | send (arrival : Arrival)
  | take (moment : Moment)
  /-- The manager takes a ping during the login, and is told to stop before the answer is out. -/
  | interrupt (moment : Moment)
  | stop
  /-- Others use the hub. -/
  | share (calls : List (Router.Call κ ν)) (state : ConnectionState) (lastError : Option Error)
      (permit : Bool)

theorem next?_eq_some {i : Intake κ ν} {line : Line κ ν} {arrival : Arrival}
    (hnext : i.next? = some (line, arrival)) :
    i.latest = some line ∧ line.next? = some arrival := by
  obtain ⟨latest, hlatest, hmap⟩ := Option.bind_eq_some_iff.mp hnext
  obtain ⟨next, hsome, hpair⟩ := Option.map_eq_some_iff.mp hmap
  cases hpair
  exact ⟨hlatest, hsome⟩

theorem received_taken {i : Intake κ ν} {line : Line κ ν} (hlatest : i.latest = some line)
    (arrival : Arrival) (sendable : Bool) (turn : Turn κ ν) :
    (i.taken line arrival sendable turn).received =
      i.received + if arrival.data?.isSome then 1 else 0 := by
  simp only [received, lines, taken, turned, hlatest, Option.toList_some, List.flatMap_append,
    List.flatMap_singleton, List.countP_append, Line.take, List.countP_singleton, Nat.add_assoc]
  rfl

/-- These items were taken from connections that are over: the ones before the latest, or all. -/
def Past (past : List (List (Taking κ ν))) (i : Intake κ ν) : Prop :=
  past <+: i.earlier.map Line.taken ∨
    i.manager.phase.isDetached = true ∧ past <+: i.lines.map Line.taken

/-- Nothing is taken any more from a connection that is over. -/
theorem Past.taken {past : List (List (Taking κ ν))} {i : Intake κ ν} (h : Past past i)
    (hphase : i.manager.phase.isDetached = false) (line : Line κ ν) (arrival : Arrival)
    (sendable : Bool) (turn : Turn κ ν) : Past past (i.taken line arrival sendable turn) := by
  refine Or.inl (h.resolve_right ?_)
  rintro ⟨hdetached, -⟩
  rw [hdetached] at hphase
  cases hphase

variable [Codec κ ν]

/-- A move that is not possible changes nothing. -/
def step (settings : Settings) (endpoint : String) (i : Intake κ ν) : Move κ ν → Intake κ ν
  | .step _ (.arrival _) => i
  | .step moment cue =>
    match i.manager.step settings endpoint moment i.hub cue with
    | none => i
    | some turn =>
      if cue = .opened then
        { i.turned turn with
          earlier := i.lines
          latest := some ⟨Manager.asksLogin i.hub.router.codec moment.wall, [], []⟩ }
      else i.turned turn
  | .send arrival => { i with latest := i.latest.map (·.send arrival) }
  | .take moment =>
    match i.next? with
    | none => i
    | some (line, arrival) =>
      match i.manager.step settings endpoint moment i.hub (.arrival arrival) with
      | none => i
      | some turn => i.taken line arrival moment.writing.isOk turn
  | .interrupt moment =>
    match i.manager.phase, i.next? with
    | .loggingIn _, some (line, .frame (.ping bytes)) =>
      match i.manager.step settings endpoint moment i.hub .shutdown with
      | none => i
      | some turn => i.taken line (.frame (.ping bytes)) false turn
    | _, _ => i
  | .stop => { i with manager := { i.manager with stopping := true } }
  | .share calls state lastError permit =>
    { i with
      hub := ⟨(i.hub.router.run calls).2, state, lastError, permit⟩
      elsewhere := i.elsewhere + calls.countP Router.Call.shows }

def run (settings : Settings) (endpoint : String) (i : Intake κ ν) (moves : List (Move κ ν)) :
    Intake κ ν :=
  moves.foldl (step settings endpoint) i

variable {settings : Settings} {endpoint : String} {i : Intake κ ν} {frames : Nat}
  {line : Line κ ν} {arrival : Arrival} {moment : Moment} {cue : Cue} {turn : Turn κ ν}

/-- What can come of a move. -/
inductive Moved (settings : Settings) (endpoint : String) (i : Intake κ ν) : Intake κ ν → Prop where
  | idle : Moved settings endpoint i i
  | turned {moment : Moment} {cue : Cue} {turn : Turn κ ν}
      (hstep : i.manager.step settings endpoint moment i.hub cue = some turn)
      (hcue : ∀ arrival, cue ≠ .arrival arrival) (hopened : cue ≠ .opened) :
      Moved settings endpoint i (i.turned turn)
  | opened {moment : Moment} {turn : Turn κ ν}
      (hstep : i.manager.step settings endpoint moment i.hub .opened = some turn) :
      Moved settings endpoint i
        (i.opened (Manager.asksLogin i.hub.router.codec moment.wall) turn)
  | sent (arrival : Arrival) :
      Moved settings endpoint i { i with latest := i.latest.map (·.send arrival) }
  | took {moment : Moment} {line : Line κ ν} {arrival : Arrival} {turn : Turn κ ν}
      (hnext : i.next? = some (line, arrival))
      (hstep : i.manager.step settings endpoint moment i.hub (.arrival arrival) = some turn) :
      Moved settings endpoint i (i.taken line arrival moment.writing.isOk turn)
  | interrupted {moment : Moment} {deadline : Nat} {line : Line κ ν} {bytes : List UInt8}
      {turn : Turn κ ν} (hphase : i.manager.phase = .loggingIn deadline)
      (hnext : i.next? = some (line, .frame (.ping bytes)))
      (hstep : i.manager.step settings endpoint moment i.hub .shutdown = some turn) :
      Moved settings endpoint i (i.taken line (.frame (.ping bytes)) false turn)
  | stopped : Moved settings endpoint i { i with manager := { i.manager with stopping := true } }
  | shared (calls : List (Router.Call κ ν)) (state : ConnectionState) (lastError : Option Error)
      (permit : Bool) :
      Moved settings endpoint i
        { i with
          hub := ⟨(i.hub.router.run calls).2, state, lastError, permit⟩
          elsewhere := i.elsewhere + calls.countP Router.Call.shows }

theorem moved (settings : Settings) (endpoint : String) (i : Intake κ ν) (move : Move κ ν) :
    Moved settings endpoint i (i.step settings endpoint move) := by
  cases move with
  | step moment cue =>
    cases cue with
    | arrival arrival => exact .idle
    | opened =>
      simp only [Intake.step]
      split
      · exact .idle
      · rename_i turn hstep
        exact .opened hstep
    | _ =>
      simp only [Intake.step]
      split
      · exact .idle
      · rename_i turn hstep
        exact .turned hstep (by simp) (by simp)
  | send arrival => exact .sent arrival
  | take moment =>
    simp only [Intake.step]
    split
    · exact .idle
    · rename_i line arrival hnext
      split
      · exact .idle
      · rename_i turn hstep
        exact .took hnext hstep
  | interrupt moment =>
    simp only [Intake.step]
    split
    · rename_i deadline line bytes hphase hnext
      split
      · exact .idle
      · rename_i turn hstep
        exact .interrupted hphase hnext hstep
    · exact .idle
  | stop => exact .stopped
  | share calls state lastError permit => exact .shared calls state lastError permit

/-- What every move keeps, a run keeps. -/
theorem run_induction {motive : Intake κ ν → Prop} (hstep : ∀ i move, motive i →
    motive (i.step settings endpoint move)) (hstart : motive i) (moves : List (Move κ ν)) :
    motive (i.run settings endpoint moves) := by
  induction moves generalizing i with
  | nil => exact hstart
  | cons move rest ih => exact ih (hstep i move hstart)

/-- What there is on the lines of a run, and how many frames were counted. -/
structure Kept (frames : Nat) (i : Intake κ ν) : Prop where
  lawful : ∀ line ∈ i.lines, line.Lawful
  fits : ∀ line ∈ i.latest, line.Fits i.manager.phase
  attached : i.latest = none → i.manager.phase.isDetached = true
  counted : i.hub.router.counters.frames = frames + i.received + i.elsewhere

theorem kept_start (settings : Settings) (now : Nat) (hub : Hub κ ν) :
    (start settings now hub).Kept hub.router.counters.frames :=
  ⟨by simp [lines, start], by simp [start], fun _ => rfl, by simp [received, lines, start]⟩

theorem Kept.lawful_latest (h : i.Kept frames) (hlatest : i.latest = some line) :
    line.Lawful := by
  apply h.lawful
  simp [lines, hlatest]

/-- An item was taken as it should be. -/
theorem Kept.taken (h : i.Kept frames) {sendable : Bool}
    (hnext : i.next? = some (line, arrival)) (hphase : i.manager.phase.isDetached = false)
    (hhandled : Taking.Handled (!i.manager.phase.inService)
      ⟨arrival, sendable, turn.wrote, i.hub.router, turn.hub.router⟩)
    (hlasts : arrival.isLast sendable = true → turn.manager.phase.isDetached = true)
    (hserving : turn.manager.phase.isDetached = false → turn.manager.phase.inService =
      (i.manager.phase.inService || i.hub.router.acknowledges arrival)) :
    (i.taken line arrival sendable turn).Kept frames := by
  obtain ⟨hlatest, harrival⟩ := next?_eq_some hnext
  obtain ⟨hawaits, hopen⟩ := h.fits line hlatest hphase
  let entry : Taking κ ν := ⟨arrival, sendable, turn.wrote, i.hub.router, turn.hub.router⟩
  have hlawful : (line.take entry).Lawful := by
    apply (h.lawful_latest hlatest).take harrival hopen
    rw [hawaits]
    exact hhandled
  refine ⟨?_, ?_, by simp [Intake.taken], ?_⟩
  · intro other hother
    rcases List.mem_append.mp hother with hearlier | hnew
    · exact h.lawful other (List.mem_append_left _ hearlier)
    · obtain rfl := Option.some.inj (Option.mem_toList.mp hnew)
      exact hlawful
  · rintro other ⟨⟩ hafter
    change turn.manager.phase.isDetached = false at hafter
    constructor
    · change line.awaits (line.taken ++ [entry]) = !turn.manager.phase.inService
      rw [line.awaits_concat, hawaits, hserving hafter, Bool.not_or]
      rfl
    · intro earlier hearlier
      rcases List.mem_append.mp hearlier with hold | hnew
      · exact hopen earlier hold
      · rw [List.mem_singleton.mp hnew]
        cases hlast : arrival.isLast sendable with
        | false => exact hlast
        | true =>
          rw [hlasts hlast] at hafter
          cases hafter
  · have hshown : turn.hub.router.counters.frames = i.hub.router.counters.frames +
        if arrival.data?.isSome then 1 else 0 := by
      rw [← i.hub.router.frames_receive]
      exact hhandled.routed.frames_eq
    have hcounted := h.counted
    rw [received_taken hlatest]
    change turn.hub.router.counters.frames = _ + i.elsewhere
    omega

/-- The manager took a step on something else, and stays with its connection or gives it up. -/
theorem Kept.turned (h : i.Kept frames)
    (hstep : i.manager.step settings endpoint moment i.hub cue = some turn)
    (hcue : ∀ arrival, cue ≠ .arrival arrival) (hopened : cue ≠ .opened) :
    (i.turned turn).Kept frames := by
  have hattached := Manager.attached_of_step hstep hcue hopened
  refine ⟨h.lawful, ?_, ?_, ?_⟩
  · intro line hlatest hafter
    obtain ⟨hbefore, hserving⟩ := hattached hafter
    have hfits := h.fits line hlatest hbefore
    change line.awaits line.taken = !turn.manager.phase.inService ∧ _
    rwa [hserving]
  · exact fun hnone => Manager.detached_of_step hstep hcue hopened (h.attached hnone)
  · exact (Manager.frames_of_step hstep hcue).trans h.counted

/-- A new connection is open. -/
theorem Kept.opened (h : i.Kept frames)
    (hstep : i.manager.step settings endpoint moment i.hub .opened = some turn) :
    (i.opened (Manager.asksLogin i.hub.router.codec moment.wall) turn).Kept frames := by
  refine ⟨?_, ?_, by simp [Intake.opened], ?_⟩
  · intro line hline
    rcases List.mem_append.mp hline with hearlier | hnew
    · exact h.lawful line hearlier
    · obtain rfl := Option.some.inj (Option.mem_toList.mp hnew)
      exact ⟨List.prefix_refl _, .nil, .nil⟩
  · rintro line ⟨⟩ hafter
    refine ⟨?_, by simp⟩
    change turn.manager.phase.isDetached = false at hafter
    change _ = !turn.manager.phase.inService
    rw [Manager.inService_of_opened hstep hafter, Bool.not_not]
    simp [Line.awaits]
  · have hreceived : (i.opened (Manager.asksLogin i.hub.router.codec moment.wall) turn).received =
        i.received := by
      simp [received, lines, Intake.opened]
    rw [hreceived]
    exact (Manager.frames_of_step hstep (by simp)).trans h.counted

theorem Kept.took (h : i.Kept frames) (hnext : i.next? = some (line, arrival))
    (hstep : i.manager.step settings endpoint moment i.hub (.arrival arrival) = some turn) :
    (i.taken line arrival moment.writing.isOk turn).Kept frames := by
  have hreceives := Manager.receives hstep
  exact h.taken hnext (Manager.attached_of_arrival hstep) ⟨hreceives.wrote, hreceives.routed⟩
    hreceives.lasts (Manager.inService_of_arrival hstep)

/-- The connection is over before its ping is answered. -/
theorem Kept.interrupted (h : i.Kept frames) {deadline : Nat} {bytes : List UInt8}
    (hphase : i.manager.phase = .loggingIn deadline)
    (hnext : i.next? = some (line, .frame (.ping bytes)))
    (hstep : i.manager.step settings endpoint moment i.hub .shutdown = some turn) :
    (i.taken line (.frame (.ping bytes)) false turn).Kept frames := by
  have hgiven := Manager.givesUp_of_shutdown hstep
  refine h.taken hnext (by rw [hphase]; rfl) ⟨hgiven.wrote, hgiven.switched⟩
    (fun _ => hgiven.detached) fun hafter => ?_
  rw [hgiven.detached] at hafter
  cases hafter

/-- More was sent on the latest connection. -/
theorem Kept.sent (h : i.Kept frames) (arrival : Arrival) :
    ({ i with latest := i.latest.map (·.send arrival) } : Intake κ ν).Kept frames := by
  cases hlatest : i.latest with
  | none =>
    rw [Option.map_none, ← hlatest]
    exact h
  | some line =>
    refine ⟨?_, ?_, by simp, ?_⟩
    · intro other hother
      rcases List.mem_append.mp hother with hearlier | hnew
      · exact h.lawful other (List.mem_append_left _ hearlier)
      · obtain rfl := Option.some.inj (Option.mem_toList.mp hnew)
        exact (h.lawful_latest hlatest).send arrival
    · rintro other ⟨⟩
      exact h.fits line hlatest
    · have hreceived : ({ i with latest := (some line).map (·.send arrival) } :
          Intake κ ν).received = i.received := by
        simp [received, lines, hlatest, Line.send]
      rw [hreceived]
      exact h.counted

theorem Kept.step (h : i.Kept frames) (settings : Settings) (endpoint : String)
    (move : Move κ ν) : (i.step settings endpoint move).Kept frames := by
  have hmoved := moved settings endpoint i move
  generalize i.step settings endpoint move = next at hmoved
  cases hmoved with
  | idle => exact h
  | turned hstep hcue hopened => exact h.turned hstep hcue hopened
  | opened hstep => exact h.opened hstep
  | sent arrival => exact h.sent arrival
  | took hnext hstep => exact h.took hnext hstep
  | interrupted hphase hnext hstep => exact h.interrupted hphase hnext hstep
  | stopped => exact ⟨h.lawful, h.fits, h.attached, h.counted⟩
  | shared calls state lastError permit =>
    refine ⟨h.lawful, h.fits, h.attached, ?_⟩
    have hcounted := h.counted
    change (i.hub.router.run calls).2.counters.frames =
      frames + i.received + (i.elsewhere + calls.countP Router.Call.shows)
    rw [Router.frames_run_shown]
    omega

variable {past : List (List (Taking κ ν))}

theorem Past.step (h : Past past i) (settings : Settings) (endpoint : String)
    (move : Move κ ν) : Past past (i.step settings endpoint move) := by
  have hmoved := moved settings endpoint i move
  generalize i.step settings endpoint move = next at hmoved
  cases hmoved with
  | idle | stopped | shared calls state lastError permit => exact h
  | turned hstep hcue hopened =>
    refine h.imp_right ?_
    rintro ⟨hdetached, hpast⟩
    exact ⟨Manager.detached_of_step hstep hcue hopened hdetached, hpast⟩
  | opened hstep =>
    refine Or.inl (h.elim (fun hearlier => ?_) And.right)
    exact hearlier.trans ((List.prefix_append _ _).map Line.taken)
  | sent arrival =>
    refine h.imp_right ?_
    rintro ⟨hdetached, hpast⟩
    refine ⟨hdetached, ?_⟩
    cases hlatest : i.latest with
    | none => simpa [lines, hlatest] using hpast
    | some line => simpa [lines, hlatest, Line.send] using hpast
  | took hnext hstep => exact h.taken (Manager.attached_of_arrival hstep) _ _ _ _
  | interrupted hphase hnext hstep => exact h.taken (by rw [hphase]; rfl) _ _ _ _

/-- By induction on the moves that follow. -/
theorem Past.run (h : Past past i) (settings : Settings) (endpoint : String)
    (moves : List (Move κ ν)) :
    past <+: (i.run settings endpoint moves).lines.map Line.taken := by
  have hlast : Past past (i.run settings endpoint moves) :=
    run_induction (fun _ move h => h.step settings endpoint move) h moves
  refine hlast.elim (fun hearlier => ?_) And.right
  exact hearlier.trans ((List.prefix_append _ _).map Line.taken)

/-- How a run deals with what comes in. -/
structure Orderly (settings : Settings) (endpoint : String) (frames : Nat) (i : Intake κ ν) :
    Prop where
  /-- What was taken from a connection is what came first on it, each ping answered and each data
  frame shown to the router before the next, and nothing after the last. -/
  lawful : ∀ line ∈ i.lines, line.Lawful
  /-- Whoever listens takes whatever is next. -/
  willing : ∀ line arrival, i.next? = some (line, arrival) → i.manager.phase.listens = true →
    ∀ moment, ∃ entry : Taking κ ν, entry.arrival = arrival ∧
      (i.step settings endpoint (.take moment)).latest = some (line.take entry)
  /-- The last item ends the connection. -/
  lasts : ∀ line ∈ i.latest, ∀ entry ∈ line.taken, entry.isLast = true →
    i.manager.phase.isDetached = true
  /-- From a connection that has ended nothing is taken any more. -/
  closed : i.manager.phase.isDetached = true → ∀ moves,
    i.lines.map Line.taken <+: (i.run settings endpoint moves).lines.map Line.taken
  replaced : ∀ moves,
    i.earlier.map Line.taken <+: (i.run settings endpoint moves).lines.map Line.taken
  /-- Frames are counted as they are taken, and nothing else is. -/
  counted : i.hub.router.counters.frames = frames + i.received + i.elsewhere

theorem Kept.orderly (h : i.Kept frames) (settings : Settings) (endpoint : String) :
    Orderly settings endpoint frames i := by
  refine ⟨h.lawful, ?_, ?_, ?_, ?_, h.counted⟩
  · intro line arrival hnext hlistens moment
    have hsome : (i.manager.step settings endpoint moment i.hub (.arrival arrival)).isSome = true :=
      (Manager.step_arrival_isSome_iff arrival).mpr hlistens
    obtain ⟨turn, hstep⟩ := Option.isSome_iff_exists.mp hsome
    refine ⟨⟨arrival, moment.writing.isOk, turn.wrote, i.hub.router, turn.hub.router⟩, rfl, ?_⟩
    simp only [Intake.step, hnext, hstep]
    rfl
  · intro line hlatest entry hentry hlast
    by_contra hphase
    obtain ⟨-, hopen⟩ := h.fits line hlatest (Bool.eq_false_iff.mpr hphase)
    rw [hopen entry hentry] at hlast
    cases hlast
  · intro hdetached moves
    exact Past.run (Or.inr ⟨hdetached, List.prefix_refl _⟩) settings endpoint moves
  · exact Past.run (Or.inl (List.prefix_refl _)) settings endpoint

/-- Whatever comes in, and whatever else happens meanwhile, every item is handled once and in
order. -/
theorem handled_in_order (settings : Settings) (endpoint : String) (now : Nat) (hub : Hub κ ν)
    (moves : List (Move κ ν)) :
    Orderly settings endpoint hub.router.counters.frames
      ((start settings now hub).run settings endpoint moves) := by
  have h : ((start settings now hub).run settings endpoint moves).Kept
      hub.router.counters.frames :=
    run_induction (fun _ move h => h.step settings endpoint move) (kept_start settings now hub)
      moves
  exact h.orderly settings endpoint

/-- A new connection on which more comes than is taken: it is closed before the last frame. -/
def closedEarly : List (Move PlainCodec PlainEvent) :=
  let moment : Moment := ⟨0, 0, .ok ()⟩
  [.step moment .proceed, .step moment .opened, .send (.frame (.ping [7])),
    .send (.frame (.binary [1])), .send (.frame .close), .send (.frame (.binary [2])), .take moment,
    .take moment, .take moment, .take moment]

example :
    let hub : Hub PlainCodec PlainEvent := ⟨Router.start ⟨true, none, 0⟩, .disconnected, none, false⟩
    let i := (start Settings.standard 0 hub).run Settings.standard "wss://example" closedEarly
    i.lines.map (fun line => line.taken.map Taking.answer) = [[[.pong [7]], [], []]] ∧
      i.hub.router.counters.frames = 1 :=
  ⟨rfl, rfl⟩

end Intake

end ChannelMux
