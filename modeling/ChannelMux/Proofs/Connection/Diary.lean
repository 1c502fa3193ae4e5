import ChannelMux.Proofs.Connection.Upshot
import Mathlib.Data.List.DropRight
import Mathlib.Logic.Function.Iterate

/-!
The diary of a run: which attempts to connect there were and what became of them, what was announced
meanwhile, and how long the manager waited in between. What others do to what they share with the
manager is theirs to choose.
-/
namespace ChannelMux

/-- No connection is in service yet, and one is being worked on. -/
def Phase.isAttempt : Phase → Bool
  | opening _ | loggingIn _ => true
  | _ => false

theorem Phase.isAttempt_of_inService {phase : Phase} (h : phase.inService = true) :
    phase.isAttempt = false := by
  cases phase with
  | requesting _ _ | holding _ _ _ _ | serving _ => rfl
  | _ => cases h

/-- Something has become of a connection that was announced. -/
def LifecycleEvent.isOfConnection : LifecycleEvent → Bool
  | authenticated | replayed _ | disconnected _ => true
  | connected _ | reconnectFailed _ _ | gaveUp _ => false

/-- An entry of a diary. -/
inductive Mark where
  /-- An attempt to connect begins. -/
  | began
  | announced (event : LifecycleEvent)
  /-- The attempt led to a connection that can be used. -/
  | established
  /-- The attempt led to nothing. -/
  | failed
  /-- A wait begins that is to last until its release. -/
  | paused (since release : Nat)
  /-- The wait is over. -/
  | resumed (now : Nat)
deriving DecidableEq, Repr

namespace Mark

def ofAction? : Action → Option Mark
  | .dial => some .began
  | .announce event => some (.announced event)
  | .write _ | .close | .publish _ => none

/-- What became of an attempt by a step. A shutdown only cuts it off. -/
def ofAttempt (before after : Phase) (cue : Cue) : List Mark :=
  if !before.isAttempt then []
  else if after.inService then [.established]
  else if after.isAttempt || cue = .shutdown then []
  else [.failed]

theorem ofAttempt_failed {before after : Phase} {cue : Cue} (hbefore : before.isAttempt = true)
    (hcue : cue ≠ .shutdown) (hafter : after.isAttempt = false)
    (hservice : after.inService = false) : ofAttempt before after cue = [.failed] := by
  simp [ofAttempt, hbefore, hservice, hafter, hcue]

/-- A manager that begins or ends a wait does so by a step. -/
def ofPause (after : Phase) (now : Nat) : List Mark :=
  match after with
  | .waiting release => [.paused now release]
  | .starting => [.resumed now]
  | _ => []

theorem ofPause_of_inService {after : Phase} (h : after.inService = true) (now : Nat) :
    ofPause after now = [] := by
  cases after with
  | requesting _ _ | holding _ _ _ _ | serving _ => rfl
  | _ => cases h

def isOpening : Mark → Bool
  | announced (.connected _) => true
  | _ => false

def isPause : Mark → Bool
  | paused _ _ => true
  | _ => false

/-- It is neither about a failed attempt nor an established connection nor a wait to come. -/
def isPlain : Mark → Bool
  | announced (.reconnectFailed _ _) | announced (.gaveUp _) => false
  | began | announced _ | resumed _ => true
  | established | failed | paused _ _ => false

end Mark

namespace Diary

/-- What is on record since the latest attempt began. -/
def attempt (diary : List Mark) : List Mark := diary.rtakeWhile (· ≠ .began)

/-- What is on record since a connection was last established, or else since the start. -/
def sinceEstablished (diary : List Mark) : List Mark := diary.rtakeWhile (· ≠ .established)

/-- How often the latest attempt announced a connection. -/
def openings (diary : List Mark) : Nat := (attempt diary).countP Mark.isOpening

def failuresInARow (diary : List Mark) : Nat := (sinceEstablished diary).count .failed

def waitsInARow (diary : List Mark) : Nat := (sinceEstablished diary).countP Mark.isPause

variable (diary : List Mark) (mark : Mark)

@[simp] theorem attempt_concat :
    attempt (diary ++ [mark]) = if mark = .began then [] else attempt diary ++ [mark] := by
  rw [attempt, List.rtakeWhile_concat, ← attempt]
  by_cases h : mark = .began <;> simp [h]

@[simp] theorem sinceEstablished_concat : sinceEstablished (diary ++ [mark]) =
    if mark = .established then [] else sinceEstablished diary ++ [mark] := by
  rw [sinceEstablished, List.rtakeWhile_concat, ← sinceEstablished]
  by_cases h : mark = .established <;> simp [h]

@[simp] theorem openings_concat : openings (diary ++ [mark]) =
    if mark = .began then 0 else openings diary + if mark.isOpening then 1 else 0 := by
  rw [openings, attempt_concat]
  split
  · rfl
  · rw [List.countP_append, List.countP_singleton, ← openings]

@[simp] theorem failuresInARow_concat : failuresInARow (diary ++ [mark]) =
    if mark = .established then 0 else failuresInARow diary + if mark = .failed then 1 else 0 := by
  rw [failuresInARow, sinceEstablished_concat]
  split
  · rfl
  · rw [List.count_append, List.count_singleton, ← failuresInARow]
    simp

@[simp] theorem waitsInARow_concat : waitsInARow (diary ++ [mark]) =
    if mark = .established then 0 else waitsInARow diary + if mark.isPause then 1 else 0 := by
  rw [waitsInARow, sinceEstablished_concat]
  split
  · rfl
  · rw [List.countP_append, List.countP_singleton, ← waitsInARow]

end Diary

namespace Turn

variable {κ ν : Type} (t : Turn κ ν)

/-- What the actions of a step put on record. -/
def notes : List Mark := t.actions.filterMap Mark.ofAction?

/-- What a step puts on record that was taken in a phase on a cue. -/
def marks (before : Phase) (cue : Cue) (now : Nat) : List Mark :=
  t.notes ++ Mark.ofAttempt before t.manager.phase cue ++ Mark.ofPause t.manager.phase now

@[simp] theorem notes_act (action : Action) :
    (t.act action).notes = t.notes ++ (Mark.ofAction? action).toList := by
  rw [notes, act, List.filterMap_append, ← notes]
  cases action <;> rfl

@[simp] theorem notes_announce (event : LifecycleEvent) :
    (t.announce event).notes = t.notes ++ [.announced event] :=
  notes_act t _

@[simp] theorem notes_publish (state : ConnectionState) : (t.publish state).notes = t.notes :=
  (notes_act ⟨t.manager, { t.hub with state }, t.actions⟩ _).trans (List.append_nil _)

@[simp] theorem notes_finish (cause : Error) : (t.finish cause).notes = t.notes :=
  notes_publish _ _

@[simp] theorem notes_retreat (moment : Moment) : (t.retreat moment).notes = t.notes :=
  notes_publish _ _

theorem notes_lose (moment : Moment) (reason : String) :
    (t.lose moment reason).notes = t.notes ++ [.announced (.disconnected reason)] := by
  rw [lose, notes_retreat, notes_announce, notes_act]
  exact congrArg (· ++ _) (List.append_nil _)

end Turn

namespace Manager

variable {κ ν : Type}

/-- Neither the failures nor the delays are counted on or over. -/
def Steady (before after : Manager) : Prop :=
  after.failures = before.failures ∧ after.backoff = before.backoff

/-- The latest attempt has announced a connection, or nothing yet. -/
def Heard (phase : Phase) (notes : List Mark) : Prop :=
  notes = [] ∨ ∃ deadline, phase = .opening deadline ∧
    ∃ endpoint, notes = [.announced (.connected endpoint)]

/-- What a step adds to the story of a run. -/
inductive Leg (settings : Settings) (moment : Moment) (cue : Cue) (manager : Manager)
    (t : Turn κ ν) : Prop
  | began (hbefore : manager.phase = .starting)
      (hafter : ∃ deadline, t.manager.phase = .opening deadline) (hnotes : t.notes = [.began])
      (steady : Steady manager t.manager)
  /-- There is a connection, and the login is written on it. -/
  | opened (hbefore : ∃ deadline, manager.phase = .opening deadline)
      (hafter : ∃ deadline, t.manager.phase = .loggingIn deadline)
      (hnotes : ∃ endpoint, t.notes = [.announced (.connected endpoint)])
      (steady : Steady manager t.manager)
  | listened (hbefore : ∃ deadline, manager.phase = .loggingIn deadline)
      (hafter : t.manager = manager) (hnotes : t.notes = [])
  | established
      (hbefore : (∃ deadline, manager.phase = .opening deadline) ∧
          (∃ endpoint, t.notes = [.announced (.connected endpoint)]) ∨
        (∃ deadline, manager.phase = .loggingIn deadline) ∧ t.notes = [.announced .authenticated])
      (hafter : t.manager.phase.inService = true) (hfailures : t.manager.failures = 0)
      (hbackoff : t.manager.backoff = manager.backoff.reset)
  | failed {heard : List Mark} (hbefore : manager.phase.isAttempt = true)
      (hcue : cue ≠ .shutdown) (hheard : Heard manager.phase heard)
      (hnotes : ∃ cause,
        t.notes = heard ++ [.announced (.reconnectFailed (manager.failures + 1) cause)])
      (hleft : settings.reconnect.exhausted (manager.failures + 1) = false)
      (hafter : t.manager.phase = .waiting (moment.now + manager.backoff.next.1))
      (hfailures : t.manager.failures = manager.failures + 1)
      (hbackoff : t.manager.backoff = manager.backoff.next.2)
  | gaveUp {heard : List Mark} (hbefore : manager.phase.isAttempt = true)
      (hcue : cue ≠ .shutdown) (hheard : Heard manager.phase heard)
      (hnotes : ∃ cause,
        t.notes = heard ++ [.announced (.reconnectFailed (manager.failures + 1) cause),
          .announced (.gaveUp (manager.failures + 1))])
      (hspent : settings.reconnect.exhausted (manager.failures + 1) = true)
      (hafter : t.manager.phase = .finished)
      (hfailures : t.manager.failures = manager.failures + 1)
      (hbackoff : t.manager.backoff = manager.backoff)
      (herror : t.hub.lastError = some (.retriesExhausted (manager.failures + 1)))
  | worked (hbefore : manager.phase.inService = true) (hafter : t.manager.phase.inService = true)
      (hnotes : t.notes = [] ∨ ∃ channels, t.notes = [.announced (.replayed channels)])
      (steady : Steady manager t.manager)
  | lost (hbefore : manager.phase.inService = true)
      (hnotes : ∃ reason, t.notes = [.announced (.disconnected reason)])
      (hafter : t.manager.phase = .waiting (moment.now + manager.backoff.next.1))
      (hfailures : t.manager.failures = manager.failures)
      (hbackoff : t.manager.backoff = manager.backoff.next.2)
  | resumed {release : Nat} (hbefore : manager.phase = .waiting release)
      (hrelease : release ≤ moment.now) (hafter : t.manager.phase = .starting)
      (hnotes : t.notes = []) (steady : Steady manager t.manager)
  | stopped (hcue : cue = .shutdown) (hafter : t.manager.phase = .finished)
      (hnotes : t.notes = []) (steady : Steady manager t.manager)

variable {settings : Settings} {endpoint : String} {moment : Moment} {cue : Cue}
  {manager : Manager} {hub : Hub κ ν} {t : Turn κ ν}

theorem Steady.refl (manager : Manager) : Steady manager manager := ⟨rfl, rfl⟩

theorem leg_lose (reason : String) (hbefore : manager.phase.inService = true)
    (steady : Steady manager t.manager) (hnotes : t.notes = []) :
    Leg settings moment cue manager (t.lose moment reason) := by
  obtain ⟨hfailures, hbackoff⟩ := steady
  refine .lost hbefore ⟨reason, ?_⟩ ?_ hfailures (congrArg (fun b => b.next.2) hbackoff)
  · rw [Turn.notes_lose, hnotes]
    rfl
  · exact congrArg (fun b : Backoff => Phase.waiting (moment.now + b.next.1)) hbackoff

theorem leg_attemptFailed (hbefore : manager.phase.isAttempt = true) (hcue : cue ≠ .shutdown)
    (hmanager : t.manager = manager) (hheard : Heard manager.phase t.notes) (cause : Error) :
    Leg settings moment cue manager (attemptFailed settings moment t cause) := by
  subst hmanager
  unfold attemptFailed
  simp only
  split
  · rename_i hspent
    refine .gaveUp hbefore hcue hheard ⟨cause, ?_⟩ hspent rfl rfl rfl rfl
    rw [Turn.notes_finish, Turn.notes_announce, Turn.notes_announce, List.append_assoc]
    rfl
  · rename_i hleft
    refine .failed hbefore hcue hheard ⟨cause, ?_⟩ (by simpa using hleft) rfl rfl rfl
    rw [Turn.notes_retreat, Turn.notes_announce]
    rfl

theorem leg_loginFailed (hbefore : manager.phase.isAttempt = true) (hcue : cue ≠ .shutdown)
    (hmanager : t.manager = manager) (hheard : Heard manager.phase t.notes) (cause : Error) :
    Leg settings moment cue manager (loginFailed settings moment t cause) := by
  refine leg_attemptFailed hbefore hcue (t := t.act .close) hmanager ?_ cause
  rw [Turn.notes_act]
  exact (List.append_nil t.notes).symm ▸ hheard

/-- A request is seen to, a frame is taken in, or what was due is done. -/
theorem leg_worked (hbefore : manager.phase.inService = true)
    (hafter : t.manager.phase.inService = true) (hnotes : t.notes = [])
    (steady : Steady manager t.manager) : Leg settings moment cue manager t :=
  .worked hbefore hafter (Or.inl hnotes) steady

theorem notes_write {next : Turn κ ν} {frame : Frame} (h : t.write moment frame = .ok next) :
    next.manager = t.manager ∧ next.notes = t.notes := by
  obtain rfl := Turn.write_ok t h
  exact ⟨rfl, (Turn.notes_act t _).trans (List.append_nil _)⟩

theorem leg_transmit (purpose : Purpose) (frame : Frame) (todo : List Owed)
    (hbefore : manager.phase.inService = true) (steady : Steady manager t.manager)
    (hnotes : t.notes = []) :
    Leg settings moment cue manager (transmit moment t purpose frame todo) := by
  unfold transmit
  cases hwrite : t.write moment frame with
  | error cause => cases purpose <;> exact leg_lose _ hbefore steady hnotes
  | ok next =>
    obtain ⟨hmanager, hsame⟩ := notes_write hwrite
    have hsteady : Steady manager next.manager := hmanager ▸ steady
    cases purpose <;> exact leg_worked hbefore rfl (hsame.trans hnotes) hsteady

theorem leg_submit (purpose : Purpose) (frame : Frame) (todo : List Owed)
    (hbefore : manager.phase.inService = true) (steady : Steady manager t.manager)
    (hnotes : t.notes = []) :
    Leg settings moment cue manager (submit moment t purpose frame todo) := by
  unfold submit
  cases t.manager.throttle with
  | none => exact leg_transmit purpose frame todo hbefore steady hnotes
  | some throttle =>
    simp only
    cases (throttle.reserve moment.now).1 with
    | none => exact leg_transmit purpose frame todo hbefore steady hnotes
    | some release => exact leg_worked hbefore rfl hnotes steady

theorem leg_ping {timers : Timers} (hphase : manager.phase = .serving timers) (p : Ping)
    (due : Nat) : Leg settings moment cue manager
      (ping moment (⟨manager, hub, []⟩ : Turn κ ν) timers p due) := by
  have hbefore : manager.phase.inService = true := by rw [hphase]; rfl
  have steady := Steady.refl manager
  unfold ping
  simp only
  split
  · exact leg_lose _ hbefore steady rfl
  · rename_i next hwrite
    obtain ⟨hmanager, hsame⟩ := notes_write hwrite
    have hsteady : Steady manager next.manager := hmanager ▸ steady
    exact leg_worked hbefore rfl hsame hsteady

variable [Codec κ ν]

theorem leg_request {purpose : Purpose} {todo : List Owed}
    (hphase : manager.phase = .requesting purpose todo) :
    Leg settings moment cue manager
      (request settings moment (⟨manager, hub, []⟩ : Turn κ ν) purpose todo) := by
  have hbefore : manager.phase.inService = true := by rw [hphase]; rfl
  have steady := Steady.refl manager
  cases todo with
  | nil =>
    cases purpose with
    | replay sent => exact .worked hbefore rfl (Or.inr ⟨sent, rfl⟩) steady
    | upkeep timers => exact leg_worked hbefore rfl rfl steady
  | cons owed todo =>
    cases owed with
    | subscribe key =>
      simp only [request]
      split
      · exact leg_worked hbefore rfl rfl steady
      · split
        · exact leg_worked hbefore rfl rfl steady
        · exact leg_submit purpose _ todo hbefore steady rfl
    | unsubscribe key =>
      simp only [request]
      split
      · exact leg_worked hbefore rfl rfl steady
      · split
        · exact leg_worked hbefore rfl rfl steady
        · exact leg_submit purpose _ todo hbefore steady rfl

theorem leg_serveArrival {timers : Timers} (hphase : manager.phase = .serving timers)
    (arrival : Arrival) : Leg settings moment cue manager
      (serveArrival moment (⟨manager, hub, []⟩ : Turn κ ν) timers arrival) := by
  have hbefore : manager.phase.inService = true := by rw [hphase]; rfl
  have steady := Steady.refl manager
  have hlost : ∀ reason, Leg settings moment cue manager
      ((⟨manager, hub, []⟩ : Turn κ ν).lose moment reason) :=
    fun reason => leg_lose reason hbefore steady rfl
  cases arrival with
  | ended => exact hlost _
  | fault cause => exact hlost _
  | frame frame =>
    cases frame with
    | close => exact hlost _
    | ping bytes =>
      simp only [serveArrival]
      split
      · exact hlost _
      · rename_i next hwrite
        obtain ⟨hmanager, hsame⟩ := notes_write hwrite
        have hsteady : Steady manager next.manager := hmanager ▸ steady
        exact leg_worked hbefore rfl hsame hsteady
    | _ => exact leg_worked hbefore rfl rfl steady

theorem leg_opened {deadline : Nat} (hphase : manager.phase = .opening deadline) :
    Leg settings moment .opened manager
      (opened settings endpoint moment (⟨manager, hub, []⟩ : Turn κ ν)) := by
  have hbefore : manager.phase.isAttempt = true := by rw [hphase]; rfl
  have hheard : Heard manager.phase [.announced (.connected endpoint)] :=
    Or.inr ⟨deadline, hphase, endpoint, rfl⟩
  unfold opened
  simp only
  split
  · refine leg_loginFailed hbefore ?_ ?_ ?_ _
    exacts [by simp, rfl, hheard]
  · exact .established (Or.inl ⟨⟨deadline, hphase⟩, endpoint, rfl⟩) rfl rfl rfl
  · split
    · refine leg_loginFailed hbefore ?_ ?_ ?_ _
      exacts [by simp, rfl, hheard]
    · rename_i next hwrite
      obtain ⟨hmanager, hsame⟩ := notes_write hwrite
      have steady : Steady manager next.manager := hmanager ▸ Steady.refl manager
      exact .opened ⟨deadline, hphase⟩ ⟨_, rfl⟩ ⟨endpoint, hsame⟩ steady

theorem leg_loginArrival {deadline : Nat} (hphase : manager.phase = .loggingIn deadline)
    (arrival : Arrival) : Leg settings moment (.arrival arrival) manager
      (loginArrival settings moment (⟨manager, hub, []⟩ : Turn κ ν) arrival) := by
  have hlogging : ∃ deadline, manager.phase = .loggingIn deadline := ⟨deadline, hphase⟩
  have hbefore : manager.phase.isAttempt = true := by rw [hphase]; rfl
  have hfailed : ∀ router cause, Leg settings moment (.arrival arrival) manager
      (loginFailed settings moment (⟨manager, { hub with router }, []⟩ : Turn κ ν) cause) := by
    intro router cause
    refine leg_loginFailed hbefore ?_ ?_ ?_ cause
    exacts [by simp, rfl, Or.inl rfl]
  cases arrival with
  | ended => exact hfailed hub.router _
  | fault cause => exact hfailed hub.router _
  | frame frame =>
    cases frame with
    | close => exact hfailed hub.router _
    | pong bytes => exact .listened hlogging rfl rfl
    | ping bytes =>
      simp only [loginArrival]
      split
      · exact hfailed hub.router _
      · rename_i next hwrite
        obtain ⟨hmanager, hsame⟩ := notes_write hwrite
        exact .listened hlogging hmanager hsame
    | text content | binary bytes =>
      simp only [loginArrival]
      split
      · exact .established (Or.inr ⟨hlogging, rfl⟩) rfl rfl rfl
      · exact hfailed _ _
      · exact .listened hlogging rfl rfl

theorem leg_elapsed (hstep : manager.step settings endpoint moment hub .elapsed = some t) :
    Leg settings moment .elapsed manager t := by
  have steady := Steady.refl manager
  cases hphase : manager.phase with
  | opening deadline =>
    simp only [step, hphase, Option.ite_none_right_eq_some, Option.some.injEq] at hstep
    obtain ⟨-, rfl⟩ := hstep
    refine leg_attemptFailed ?_ ?_ ?_ ?_ _
    exacts [by rw [hphase]; rfl, by simp, rfl, Or.inl rfl]
  | loggingIn deadline =>
    simp only [step, hphase, Option.ite_none_right_eq_some, Option.some.injEq] at hstep
    obtain ⟨-, rfl⟩ := hstep
    refine leg_loginFailed ?_ ?_ ?_ ?_ _
    exacts [by rw [hphase]; rfl, by simp, rfl, Or.inl rfl]
  | holding purpose release frame todo =>
    simp only [step, hphase, Option.ite_none_right_eq_some, Option.some.injEq] at hstep
    obtain ⟨-, rfl⟩ := hstep
    exact leg_transmit purpose frame todo (by rw [hphase]; rfl) steady rfl
  | serving timers =>
    simp only [step, hphase, Option.ite_none_right_eq_some, Option.some.injEq] at hstep
    obtain ⟨-, rfl⟩ := hstep
    exact leg_lose _ (by rw [hphase]; rfl) steady rfl
  | waiting release =>
    simp only [step, hphase, Option.ite_none_right_eq_some, Option.some.injEq] at hstep
    obtain ⟨hrelease, rfl⟩ := hstep
    exact .resumed hphase hrelease rfl rfl steady
  | _ => simp [step, hphase] at hstep

theorem leg_shutdown (hstep : manager.step settings endpoint moment hub .shutdown = some t) :
    Leg settings moment .shutdown manager t := by
  have hfinished : t = (⟨manager, hub, []⟩ : Turn κ ν).finish .closed ∨
      t = ((⟨manager, hub, []⟩ : Turn κ ν).act .close).finish .closed := by
    cases hphase : manager.phase <;>
      simp only [step, hphase, Option.ite_none_right_eq_some, Option.some.injEq, reduceCtorEq]
        at hstep
    all_goals simp [← hstep.2]
  rcases hfinished with rfl | rfl <;> exact .stopped rfl rfl rfl (Steady.refl manager)

/-- Every step is one of these. -/
theorem leg (hstep : manager.step settings endpoint moment hub cue = some t) :
    Leg settings moment cue manager t := by
  have steady := Steady.refl manager
  cases cue with
  | proceed =>
    cases hphase : manager.phase with
    | starting =>
      simp only [step, hphase] at hstep
      split at hstep
      · cases hstep
      · cases hstep
        exact .began hphase ⟨_, rfl⟩ rfl steady
    | requesting purpose todo =>
      simp only [step, hphase] at hstep
      cases hstep
      exact leg_request hphase
    | _ => simp [step, hphase] at hstep
  | opened =>
    cases hphase : manager.phase with
    | opening deadline =>
      simp only [step, hphase] at hstep
      cases hstep
      exact leg_opened hphase
    | _ => simp [step, hphase] at hstep
  | refused cause =>
    cases hphase : manager.phase with
    | opening deadline =>
      simp only [step, hphase] at hstep
      cases hstep
      refine leg_attemptFailed ?_ ?_ ?_ ?_ cause
      exacts [by rw [hphase]; rfl, by simp, rfl, Or.inl rfl]
    | _ => simp [step, hphase] at hstep
  | arrival arrival =>
    cases hphase : manager.phase with
    | loggingIn deadline =>
      simp only [step, hphase] at hstep
      cases hstep
      exact leg_loginArrival hphase arrival
    | serving timers =>
      simp only [step, hphase] at hstep
      cases hstep
      exact leg_serveArrival hphase arrival
    | _ => simp [step, hphase] at hstep
  | nudged =>
    cases hphase : manager.phase with
    | serving timers =>
      simp only [step, hphase] at hstep
      split at hstep
      · cases hstep
        exact leg_worked (by rw [hphase]; rfl) rfl rfl steady
      · cases hstep
    | _ => simp [step, hphase] at hstep
  | pingDue =>
    cases hphase : manager.phase with
    | serving timers =>
      simp only [step, hphase] at hstep
      split at hstep
      · split at hstep
        · cases hstep
          exact leg_ping hphase _ _
        · cases hstep
      · cases hstep
    | _ => simp [step, hphase] at hstep
  | sweepDue =>
    cases hphase : manager.phase with
    | serving timers =>
      simp only [step, hphase] at hstep
      split at hstep
      · cases hstep
        exact leg_worked (by rw [hphase]; rfl) rfl rfl steady
      · cases hstep
    | _ => simp [step, hphase] at hstep
  | elapsed => exact leg_elapsed hstep
  | shutdown => exact leg_shutdown hstep

end Manager

end ChannelMux
