import ChannelMux.Proofs.Connection.Delays
import ChannelMux.Proofs.Connection.Diary
import ChannelMux.Proofs.Log
import ChannelMux.Proofs.Registry.Untried

/-!
The retry budget and the story that a run tells. Failed attempts are numbered since a connection was
last established, the run gives up when the budget is reached and not before, and the waits follow
the backoff. Whatever ends a run leaves nothing in service behind.
-/
namespace ChannelMux

namespace RetryPolicy

theorem exhausted_iff {policy : RetryPolicy} {attempts : Nat} :
    policy.exhausted attempts = true ↔ ∃ most, policy.maxRetries = some most ∧ most ≤ attempts := by
  simp [exhausted, Option.any_eq_true]

/-- As long as the budget was not spent before, it is reached exactly. -/
theorem exhausted_succ_iff {policy : RetryPolicy} {attempts : Nat}
    (hleft : attempts = 0 ∨ policy.exhausted attempts = false) :
    policy.exhausted (attempts + 1) = true ↔
      ∃ most, policy.maxRetries = some most ∧ attempts + 1 = max most 1 := by
  rw [exhausted_iff]
  refine exists_congr fun most => and_congr_right fun hmost => ?_
  have hbefore : attempts = 0 ∨ attempts < most := by
    refine hleft.imp_right fun hleft => ?_
    by_contra hreached
    rw [exhausted_iff.mpr ⟨most, hmost, Nat.le_of_not_lt hreached⟩] at hleft
    cases hleft
  omega

end RetryPolicy

namespace Diary

/-- A wait has just ended, and not before its time. -/
def Rested (diary : List Mark) : Prop :=
  ∃ since release now, [.paused since release, .resumed now] <:+ diary ∧ release ≤ now

/-- The latest attempt has not seen the channels requested. -/
def Unreplayed (diary : List Mark) : Prop :=
  ∀ channels, Mark.announced (.replayed channels) ∉ attempt diary

/-- What may be put on record after what is there. -/
def Allowed (policy : RetryPolicy) (before : List Mark) : Mark → Prop
  | .began => before = [] ∨ Rested before
  | .announced (.connected _) => True
  | .announced .authenticated => openings before = 1 ∧ Unreplayed before
  | .announced (.replayed _) | .announced (.disconnected _) => openings before = 1
  | .announced (.reconnectFailed n _) => n = failuresInARow before + 1 ∧
    (failuresInARow before = 0 ∨ policy.exhausted (failuresInARow before) = false)
  | .announced (.gaveUp n) =>
    ∃ cause, before.getLast? = some (.announced (.reconnectFailed n cause))
  | .failed => ∃ n cause, .announced (.reconnectFailed n cause) ∈ attempt before
  | .paused since release => release = since + policy.delay (waitsInARow before)
  | .established | .resumed _ => True

/-- Every entry was allowed when it was made. -/
def Lawful (policy : RetryPolicy) : List Mark → Prop := Throughout (Allowed policy)

/-- What has to come after an entry. Whoever reports a failure gives up at once if the budget is
spent, and not otherwise; that is the end. -/
def Followed (policy : RetryPolicy) (later : List Mark) : Mark → Prop
  | .announced (.reconnectFailed n _) =>
    later.head? = some (if policy.exhausted n then .announced (.gaveUp n) else .failed)
  | .announced (.gaveUp _) => later = [.failed]
  | _ => True

def Answered (policy : RetryPolicy) : List Mark → Prop
  | [] => True
  | mark :: later => Followed policy later mark ∧ Answered policy later

variable {policy : RetryPolicy} {diary : List Mark}

/-- A lawful diary of a run that goes on, with its counts. -/
structure Told (policy : RetryPolicy) (diary : List Mark) (failures waits : Nat) : Prop where
  lawful : Lawful policy diary
  answered : Answered policy diary
  failures : failuresInARow diary = failures
  waits : waitsInARow diary = waits
  silent : ∀ n, .announced (.gaveUp n) ∉ diary

theorem Answered.append {later : List Mark} (h : Answered policy diary)
    (hsilent : ∀ n, .announced (.gaveUp n) ∉ diary) (hlater : Answered policy later) :
    Answered policy (diary ++ later) := by
  induction diary with
  | nil => exact hlater
  | cons mark rest ih =>
    refine ⟨?_, ih h.2 fun n hmem => hsilent n (List.mem_cons_of_mem _ hmem)⟩
    have hfollowed := h.1
    cases mark with
    | announced event =>
      cases event with
      | reconnectFailed n cause =>
        change (rest ++ later).head? = _
        rw [List.head?_append, hfollowed]
        rfl
      | gaveUp n => exact absurd List.mem_cons_self (hsilent n)
      | _ => trivial
    | _ => trivial

theorem Answered.followed {before after : List Mark} {mark : Mark}
    (h : Answered policy (before ++ mark :: after)) : Followed policy after mark := by
  induction before with
  | nil => exact h.1
  | cons first rest ih => exact ih h.2

namespace Told

variable {failures waits : Nat} {mark : Mark}

theorem answered_append {later : List Mark} (h : Told policy diary failures waits)
    (hlater : Answered policy later) : Answered policy (diary ++ later) :=
  h.answered.append h.silent hlater

theorem note (h : Told policy diary failures waits) (hmark : Allowed policy diary mark)
    (hplain : mark.isPlain = true) : Told policy (diary ++ [mark]) failures waits := by
  have hestablished : mark ≠ .established := by rintro rfl; cases hplain
  have hfailed : mark ≠ .failed := by rintro rfl; cases hplain
  have hpause : mark.isPause = false := by
    cases mark with
    | paused since release => cases hplain
    | _ => rfl
  have hend : ∀ n, mark ≠ .announced (.gaveUp n) := by
    rintro n rfl
    cases hplain
  have hfollowed : Followed policy [] mark := by
    cases mark with
    | announced event =>
      cases event with
      | reconnectFailed n cause | gaveUp n => cases hplain
      | _ => trivial
    | _ => trivial
  refine ⟨h.lawful.concat hmark, h.answered_append ⟨hfollowed, trivial⟩, ?_, ?_, fun n hmem => ?_⟩
  · simp [hestablished, hfailed, h.failures]
  · simp [hestablished, hpause, h.waits]
  · rcases List.mem_append.mp hmem with hold | hnew
    · exact h.silent n hold
    · exact hend n (List.mem_singleton.mp hnew).symm

theorem established (h : Told policy diary failures waits) :
    Told policy (diary ++ [.established]) 0 0 :=
  ⟨h.lawful.concat trivial, h.answered_append ⟨trivial, trivial⟩, by simp, by simp,
    by simpa using h.silent⟩

theorem paused (h : Told policy diary failures waits) (now : Nat) :
    Told policy (diary ++ [.paused now (now + policy.delay waits)]) failures (waits + 1) := by
  refine ⟨h.lawful.concat ?_, h.answered_append ⟨trivial, trivial⟩, by simp [h.failures],
    by simp [h.waits, Mark.isPause], by simpa using h.silent⟩
  rw [Allowed, h.waits]

theorem reported (h : Told policy diary failures waits)
    (hbefore : failures = 0 ∨ policy.exhausted failures = false) (cause : Error) :
    Lawful policy (diary ++ [.announced (.reconnectFailed (failures + 1) cause)]) := by
  refine h.lawful.concat ⟨?_, ?_⟩
  · rw [h.failures]
  · rwa [h.failures]

/-- An attempt fails within the budget. -/
theorem failed (h : Told policy diary failures waits)
    (hbefore : failures = 0 ∨ policy.exhausted failures = false)
    (hleft : policy.exhausted (failures + 1) = false) (cause : Error) :
    Told policy (diary ++ [.announced (.reconnectFailed (failures + 1) cause), .failed])
      (failures + 1) waits := by
  have hanswered : Answered policy
      (diary ++ [.announced (.reconnectFailed (failures + 1) cause), .failed]) :=
    h.answered_append (by simp [Answered, Followed, hleft])
  rw [List.append_cons] at hanswered ⊢
  exact ⟨(h.reported hbefore cause).concat ⟨failures + 1, cause, by simp⟩, hanswered,
    by simp [-List.append_assoc, h.failures], by simp [-List.append_assoc, h.waits, Mark.isPause],
    by simpa using h.silent⟩

/-- An attempt fails that was the last one. -/
theorem gaveUp (h : Told policy diary failures waits)
    (hbefore : failures = 0 ∨ policy.exhausted failures = false)
    (hspent : policy.exhausted (failures + 1) = true) (cause : Error) :
    let last := [.announced (.reconnectFailed (failures + 1) cause),
      .announced (.gaveUp (failures + 1)), .failed]
    Lawful policy (diary ++ last) ∧ Answered policy (diary ++ last) := by
  refine ⟨?_, h.answered_append (by simp [Answered, Followed, hspent])⟩
  rw [List.append_cons, List.append_cons]
  have hend : Lawful policy (diary ++ [.announced (.reconnectFailed (failures + 1) cause)] ++
      [.announced (.gaveUp (failures + 1))]) :=
    (h.reported hbefore cause).concat ⟨cause, by simp⟩
  exact hend.concat ⟨failures + 1, cause, by simp [-List.append_assoc]⟩

theorem heard {phase : Phase} {heard : List Mark} (h : Told policy diary failures waits)
    (hheard : Manager.Heard phase heard) : Told policy (diary ++ heard) failures waits := by
  rcases hheard with rfl | ⟨deadline, -, address, rfl⟩
  · rwa [List.append_nil]
  · exact h.note trivial rfl

end Told

end Diary

/-- A manager at work, with what it shares and the diary of its run. -/
structure Run (κ ν : Type) where
  manager : Manager
  hub : Hub κ ν
  diary : List Mark

namespace Run

open Diary

variable {κ ν : Type}

def start (settings : Settings) (hub : Hub κ ν) (now : Nat) : Run κ ν :=
  ⟨Manager.start settings now, hub, []⟩

inductive Move (κ ν : Type) where
  | step (moment : Moment) (cue : Cue)
  /-- The manager is told to stop. -/
  | stop
  /-- Others leave what they share with the manager like this. -/
  | share (hub : Hub κ ν)

/-- What is not possible changes nothing, and the run is over once its manager has finished. -/
def move [Codec κ ν] (settings : Settings) (endpoint : String) (r : Run κ ν) : Move κ ν → Run κ ν
  | .step moment cue =>
    match r.manager.step settings endpoint moment r.hub cue with
    | none => r
    | some t => ⟨t.manager, t.hub, r.diary ++ t.marks r.manager.phase cue moment.now⟩
  | .stop => { r with manager := { r.manager with stopping := true } }
  | .share hub => if r.manager.isFinished then r else { r with hub }

def run [Codec κ ν] (settings : Settings) (endpoint : String) (r : Run κ ν)
    (moves : List (Move κ ν)) : Run κ ν :=
  moves.foldl (move settings endpoint) r

/-- What the record has to say for a manager in a phase. -/
def Stage (diary : List Mark) : Phase → Prop
  | .starting => diary = [] ∨ Rested diary
  | .opening _ => openings diary = 0 ∧ Unreplayed diary
  | .loggingIn _ => openings diary = 1 ∧ Unreplayed diary
  | .requesting _ _ | .holding _ _ _ _ | .serving _ => openings diary = 1
  | .waiting release => ∃ since, diary.getLast? = some (.paused since release)
  | .finished => False

/-- The manager counts as its diary does. -/
structure Going (policy : RetryPolicy) (manager : Manager) (diary : List Mark) (waits : Nat) :
    Prop where
  told : Told policy diary manager.failures waits
  backoff : manager.backoff = policy.backoffAfter waits
  left : manager.failures = 0 ∨ policy.exhausted manager.failures = false
  stage : Stage diary manager.phase

/-- A step was the last, and this is what there is to tell of it. -/
structure Finished (policy : RetryPolicy) (t : Turn κ ν) (diary : List Mark) : Prop where
  phase : t.manager.phase = .finished
  lawful : Lawful policy diary
  answered : Answered policy diary
  spent : ∀ n, .announced (.gaveUp n) ∈ diary → t.hub.lastError = some (.retriesExhausted n)

/-- What a run leaves behind. -/
structure Over (policy : RetryPolicy) (r : Run κ ν) : Prop where
  finished : r.manager.phase = .finished
  lawful : Lawful policy r.diary
  answered : Answered policy r.diary
  spent : ∀ n, .announced (.gaveUp n) ∈ r.diary → r.hub.lastError = some (.retriesExhausted n)
  state : r.hub.state = .disconnected
  offline : r.hub.router.registry.online = false
  pending : ∀ record ∈ r.hub.router.registry.records, record.state = .pending

def Kept (policy : RetryPolicy) (r : Run κ ν) : Prop :=
  (∃ waits, Going policy r.manager r.diary waits) ∨ r.Over policy

theorem stage_iff {diary : List Mark} {phase : Phase} (hphase : phase.inService = true) :
    Stage diary phase ↔ openings diary = 1 := by
  cases phase with
  | requesting _ _ | holding _ _ _ _ | serving _ => exact Iff.rfl
  | _ => cases hphase

variable {policy : RetryPolicy} {settings : Settings} {endpoint : String} {moment : Moment}
  {cue : Cue} {manager : Manager} {diary : List Mark} {waits : Nat} {r : Run κ ν} {t : Turn κ ν}

open Manager (Steady Heard Leg)

/-- A step that counts nothing. -/
theorem Going.steady {later : List Mark} (going : Going policy manager diary waits)
    (steady : Steady manager t.manager) (told : Told policy later manager.failures waits)
    (stage : Stage later t.manager.phase) : Going policy t.manager later waits :=
  ⟨steady.1 ▸ told, steady.2.trans going.backoff, steady.1 ▸ going.left, stage⟩

/-- A wait begins. -/
theorem Going.retreat {later : List Mark} (going : Going policy manager diary waits)
    (told : Told policy later t.manager.failures waits)
    (hleft : t.manager.failures = 0 ∨ policy.exhausted t.manager.failures = false)
    (hafter : t.manager.phase = .waiting (moment.now + manager.backoff.next.1))
    (hbackoff : t.manager.backoff = manager.backoff.next.2) :
    Going policy t.manager
      (later ++ [.paused moment.now (moment.now + manager.backoff.next.1)]) (waits + 1) := by
  rw [going.backoff] at hafter hbackoff ⊢
  refine ⟨told.paused moment.now, ?_, hleft, ?_⟩
  · rw [hbackoff, RetryPolicy.backoffAfter_succ]
  · rw [hafter]
    exact ⟨moment.now, by simp⟩

/-- A connection counts as established once it has been announced. -/
theorem Going.established {note : Mark} (going : Going policy manager diary waits)
    (hnotes : t.notes = [note]) (hattempt : manager.phase.isAttempt = true)
    (told : Told policy (diary ++ [note]) manager.failures waits)
    (hopenings : openings (diary ++ [note]) = 1) (hafter : t.manager.phase.inService = true)
    (hfailures : t.manager.failures = 0) (hbackoff : t.manager.backoff = manager.backoff.reset) :
    Going policy t.manager (diary ++ t.marks manager.phase cue moment.now) 0 := by
  have hmarks : t.marks manager.phase cue moment.now = [note, .established] := by
    simp [Turn.marks, hnotes, Mark.ofAttempt, hattempt, hafter, Mark.ofPause_of_inService hafter]
  have hopen : openings (diary ++ [note] ++ [.established]) = 1 := by
    rw [openings_concat, hopenings]
    rfl
  rw [hmarks, List.append_cons]
  refine ⟨hfailures ▸ told.established, ?_, Or.inl hfailures, (stage_iff hafter).mpr hopen⟩
  rw [hbackoff, going.backoff, RetryPolicy.reset_backoffAfter]

theorem Going.failed {heard : List Mark} {cause : Error} (going : Going policy manager diary waits)
    (hbefore : manager.phase.isAttempt = true) (hcue : cue ≠ .shutdown)
    (hheard : Heard manager.phase heard)
    (hnotes : t.notes = heard ++ [.announced (.reconnectFailed (manager.failures + 1) cause)])
    (hleft : policy.exhausted (manager.failures + 1) = false)
    (hafter : t.manager.phase = .waiting (moment.now + manager.backoff.next.1))
    (hfailures : t.manager.failures = manager.failures + 1)
    (hbackoff : t.manager.backoff = manager.backoff.next.2) :
    Going policy t.manager (diary ++ t.marks manager.phase cue moment.now) (waits + 1) := by
  have hfailed : Mark.ofAttempt manager.phase t.manager.phase cue = [.failed] :=
    Mark.ofAttempt_failed hbefore hcue (by rw [hafter]; rfl) (by rw [hafter]; rfl)
  have hmarks : diary ++ t.marks manager.phase cue moment.now = diary ++ heard ++
      [.announced (.reconnectFailed (manager.failures + 1) cause), .failed] ++
      [.paused moment.now (moment.now + manager.backoff.next.1)] := by
    rw [Turn.marks, hfailed, hafter, hnotes]
    simp [Mark.ofPause]
  have told := (going.told.heard hheard).failed going.left hleft cause
  have hbudget : policy.exhausted t.manager.failures = false := by rw [hfailures]; exact hleft
  rw [hmarks]
  exact going.retreat (hfailures ▸ told) (Or.inr hbudget) hafter hbackoff

theorem Going.gaveUp {heard : List Mark} {cause : Error} (going : Going policy manager diary waits)
    (hbefore : manager.phase.isAttempt = true) (hcue : cue ≠ .shutdown)
    (hheard : Heard manager.phase heard)
    (hnotes : t.notes = heard ++ [.announced (.reconnectFailed (manager.failures + 1) cause),
      .announced (.gaveUp (manager.failures + 1))])
    (hspent : policy.exhausted (manager.failures + 1) = true)
    (hafter : t.manager.phase = .finished)
    (herror : t.hub.lastError = some (.retriesExhausted (manager.failures + 1))) :
    Finished policy t (diary ++ t.marks manager.phase cue moment.now) := by
  have hfailed : Mark.ofAttempt manager.phase t.manager.phase cue = [.failed] :=
    Mark.ofAttempt_failed hbefore hcue (by rw [hafter]; rfl) (by rw [hafter]; rfl)
  have hmarks : diary ++ t.marks manager.phase cue moment.now = diary ++ heard ++
      [.announced (.reconnectFailed (manager.failures + 1) cause),
        .announced (.gaveUp (manager.failures + 1)), .failed] := by
    rw [Turn.marks, hfailed, hafter, hnotes]
    simp [Mark.ofPause]
  have told := going.told.heard hheard
  obtain ⟨hlawful, hanswered⟩ := told.gaveUp going.left hspent cause
  rw [hmarks]
  refine ⟨hafter, hlawful, hanswered, fun n hmem => ?_⟩
  rcases List.mem_append.mp hmem with hold | hnew
  · exact absurd hold (told.silent n)
  · obtain rfl : n = manager.failures + 1 := by simpa using hnew
    exact herror

theorem Going.worked (going : Going policy manager diary waits)
    (hbefore : manager.phase.inService = true) (hafter : t.manager.phase.inService = true)
    (hnotes : t.notes = [] ∨ ∃ channels, t.notes = [.announced (.replayed channels)])
    (steady : Steady manager t.manager) :
    Going policy t.manager (diary ++ t.marks manager.phase cue moment.now) waits := by
  have hopen := (stage_iff hbefore).mp going.stage
  have hmarks : t.marks manager.phase cue moment.now = t.notes := by
    simp [Turn.marks, Mark.ofAttempt, Phase.isAttempt_of_inService hbefore,
      Mark.ofPause_of_inService hafter]
  rw [hmarks]
  rcases hnotes with hnotes | ⟨channels, hnotes⟩
  · rw [hnotes, List.append_nil]
    exact going.steady steady going.told ((stage_iff hafter).mpr hopen)
  · rw [hnotes]
    refine going.steady steady (going.told.note hopen rfl) ((stage_iff hafter).mpr ?_)
    rw [openings_concat, hopen]
    rfl

/-- A lost connection is followed by a wait, and counts as no failure. -/
theorem Going.lost {reason : String} (going : Going policy manager diary waits)
    (hbefore : manager.phase.inService = true)
    (hnotes : t.notes = [.announced (.disconnected reason)])
    (hafter : t.manager.phase = .waiting (moment.now + manager.backoff.next.1))
    (hfailures : t.manager.failures = manager.failures)
    (hbackoff : t.manager.backoff = manager.backoff.next.2) :
    Going policy t.manager (diary ++ t.marks manager.phase cue moment.now) (waits + 1) := by
  have hmarks : diary ++ t.marks manager.phase cue moment.now =
      diary ++ [.announced (.disconnected reason)] ++
        [.paused moment.now (moment.now + manager.backoff.next.1)] := by
    simp [Turn.marks, hnotes, hafter, Mark.ofAttempt, Phase.isAttempt_of_inService hbefore,
      Mark.ofPause]
  have told : Told policy (diary ++ [.announced (.disconnected reason)])
      manager.failures waits := going.told.note ((stage_iff hbefore).mp going.stage) rfl
  rw [hmarks]
  exact going.retreat (hfailures ▸ told) (hfailures ▸ going.left) hafter hbackoff

/-- Every step goes on with the count, or is the last. -/
theorem Going.turned (going : Going settings.reconnect manager diary waits)
    (leg : Leg settings moment cue manager t) :
    (∃ waits, Going settings.reconnect t.manager
        (diary ++ t.marks manager.phase cue moment.now) waits) ∨
      Finished settings.reconnect t (diary ++ t.marks manager.phase cue moment.now) := by
  have hstage := going.stage
  cases leg with
  | began hbefore hafter hnotes steady =>
    obtain ⟨deadline, hafter⟩ := hafter
    have hmarks : t.marks manager.phase cue moment.now = [.began] := by
      simp [Turn.marks, hnotes, hbefore, hafter, Mark.ofAttempt, Mark.ofPause, Phase.isAttempt]
    rw [hbefore] at hstage
    rw [hmarks]
    refine Or.inl ⟨waits, going.steady steady (going.told.note hstage rfl) ?_⟩
    rw [hafter]
    exact ⟨by simp, by simp [Unreplayed]⟩
  | opened hbefore hafter hnotes steady =>
    obtain ⟨deadline, hbefore⟩ := hbefore
    obtain ⟨deadline', hafter⟩ := hafter
    obtain ⟨address, hnotes⟩ := hnotes
    have hmarks : t.marks manager.phase cue moment.now = [.announced (.connected address)] := by
      simp [Turn.marks, hnotes, hbefore, hafter, Mark.ofAttempt, Mark.ofPause, Phase.isAttempt,
        Phase.inService]
    rw [hbefore] at hstage
    rw [hmarks]
    refine Or.inl ⟨waits, going.steady steady (going.told.note trivial rfl) ?_⟩
    rw [hafter]
    exact ⟨by simp [hstage.1, Mark.isOpening], by simpa [Unreplayed] using hstage.2⟩
  | listened hbefore hafter hnotes =>
    obtain ⟨deadline, hbefore⟩ := hbefore
    have hmarks : t.marks manager.phase cue moment.now = [] := by
      simp [Turn.marks, hnotes, hbefore, hafter, Mark.ofAttempt, Mark.ofPause, Phase.isAttempt,
        Phase.inService]
    rw [hmarks, hafter, List.append_nil]
    exact Or.inl ⟨waits, going⟩
  | established hbefore hafter hfailures hbackoff =>
    rcases hbefore with ⟨⟨deadline, hbefore⟩, address, hnotes⟩ | ⟨⟨deadline, hbefore⟩, hnotes⟩
    · rw [hbefore] at hstage
      exact Or.inl ⟨0, going.established hnotes (by rw [hbefore]; rfl)
        (going.told.note trivial rfl) (by simp [hstage.1, Mark.isOpening]) hafter hfailures
        hbackoff⟩
    · rw [hbefore] at hstage
      exact Or.inl ⟨0, going.established hnotes (by rw [hbefore]; rfl)
        (going.told.note hstage rfl) (by simp [hstage.1, Mark.isOpening]) hafter hfailures
        hbackoff⟩
  | failed hbefore hcue hheard hnotes hleft hafter hfailures hbackoff =>
    obtain ⟨cause, hnotes⟩ := hnotes
    exact Or.inl ⟨waits + 1,
      going.failed hbefore hcue hheard hnotes hleft hafter hfailures hbackoff⟩
  | gaveUp hbefore hcue hheard hnotes hspent hafter hfailures hbackoff herror =>
    obtain ⟨cause, hnotes⟩ := hnotes
    exact Or.inr (going.gaveUp hbefore hcue hheard hnotes hspent hafter herror)
  | worked hbefore hafter hnotes steady =>
    exact Or.inl ⟨waits, going.worked hbefore hafter hnotes steady⟩
  | lost hbefore hnotes hafter hfailures hbackoff =>
    obtain ⟨reason, hnotes⟩ := hnotes
    exact Or.inl ⟨waits + 1, going.lost hbefore hnotes hafter hfailures hbackoff⟩
  | resumed hbefore hrelease hafter hnotes steady =>
    have hmarks : t.marks manager.phase cue moment.now = [.resumed moment.now] := by
      simp [Turn.marks, hnotes, hbefore, hafter, Mark.ofAttempt, Phase.isAttempt, Mark.ofPause]
    rw [hbefore] at hstage
    obtain ⟨since, hlast⟩ := hstage
    rw [hmarks]
    refine Or.inl ⟨waits, going.steady steady (going.told.note trivial rfl) ?_⟩
    rw [hafter]
    refine Or.inr ⟨since, _, moment.now, ?_, hrelease⟩
    obtain ⟨early, rfl⟩ := List.getLast?_eq_some_iff.mp hlast
    exact ⟨early, by simp⟩
  | stopped hcue hafter hnotes steady =>
    have hmarks : t.marks manager.phase cue moment.now = [] := by
      simp [Turn.marks, hnotes, hcue, hafter, Mark.ofAttempt, Mark.ofPause, Phase.inService]
    rw [hmarks, List.append_nil]
    exact Or.inr ⟨hafter, going.told.lawful, going.told.answered,
      fun n hmem => absurd hmem (going.told.silent n)⟩

/-- What a run tells about its attempts to connect, and how it leaves things. -/
structure Accounted (policy : RetryPolicy) (r : Run κ ν) : Prop where
  /-- Failures are numbered since a connection was last established. -/
  numbered : ∀ before n cause after,
    r.diary = before ++ .announced (.reconnectFailed n cause) :: after →
      n = failuresInARow before + 1
  /-- Every attempt that fails is reported. -/
  reported : ∀ before after, r.diary = before ++ .failed :: after →
    ∃ n cause, .announced (.reconnectFailed n cause) ∈ attempt before
  /-- Only such an attempt is, and the run gives up on it exactly if the budget is reached. -/
  budget : ∀ before n cause after,
    r.diary = before ++ .announced (.reconnectFailed n cause) :: after →
      (after.head? = some .failed ∨ after.head? = some (.announced (.gaveUp n))) ∧
        (after.head? = some (.announced (.gaveUp n)) ↔
          ∃ most, policy.maxRetries = some most ∧ n = max most 1)
  last : ∀ before n after, r.diary = before ++ .announced (.gaveUp n) :: after →
    (∃ cause, before.getLast? = some (.announced (.reconnectFailed n cause))) ∧
      after = [.failed] ∧ r.manager.isFinished = true ∧
        r.hub.lastError = some (.retriesExhausted n)
  /-- Nothing becomes of a connection but of the one that the attempt has announced. -/
  connected : ∀ before event after, r.diary = before ++ .announced event :: after →
    event.isOfConnection = true → openings before = 1
  authenticated : ∀ before after, r.diary = before ++ .announced .authenticated :: after →
    Unreplayed before
  /-- The waits follow the backoff, which starts over with every established connection. -/
  waited : ∀ before since release after, r.diary = before ++ .paused since release :: after →
    release = since + policy.delay (waitsInARow before)
  /-- No attempt but the first begins before a wait is over. -/
  rested : ∀ before after, r.diary = before ++ .began :: after → before = [] ∨ Rested before
  ended : r.manager.isFinished = true → r.hub.state = .disconnected ∧
    r.hub.router.registry.online = false ∧
      ∀ record ∈ r.hub.router.registry.records, record.state = .pending

theorem Kept.lawful (kept : r.Kept policy) : Lawful policy r.diary := by
  rcases kept with ⟨waits, going⟩ | past
  · exact going.told.lawful
  · exact past.lawful

theorem Kept.answered (kept : r.Kept policy) : Answered policy r.diary := by
  rcases kept with ⟨waits, going⟩ | past
  · exact going.told.answered
  · exact past.answered

theorem Kept.over_of_gaveUp {n : Nat} (kept : r.Kept policy)
    (h : .announced (.gaveUp n) ∈ r.diary) : r.Over policy := by
  rcases kept with ⟨waits, going⟩ | past
  · exact absurd h (going.told.silent n)
  · exact past

theorem Kept.over_of_isFinished (kept : r.Kept policy) (h : r.manager.isFinished = true) :
    r.Over policy := by
  rcases kept with ⟨waits, going⟩ | past
  · have hstage := going.stage
    rw [Manager.phase_of_isFinished h] at hstage
    cases hstage
  · exact past

theorem Kept.accounted (kept : r.Kept policy) : r.Accounted policy := by
  have hallowed : ∀ before mark after, r.diary = before ++ mark :: after →
      Allowed policy before mark := kept.lawful
  have hfollowed : ∀ before mark after, r.diary = before ++ mark :: after →
      Followed policy after mark := by
    intro before mark after hsplit
    have hanswered := kept.answered
    rw [hsplit] at hanswered
    exact hanswered.followed
  constructor
  case numbered => exact fun before n cause after hsplit => (hallowed _ _ _ hsplit).1
  case reported => exact fun before after hsplit => hallowed _ _ _ hsplit
  case budget =>
    intro before n cause after hsplit
    obtain ⟨rfl, hleft⟩ := hallowed _ _ _ hsplit
    have hhead : after.head? = _ := hfollowed _ _ _ hsplit
    rw [hhead, ← RetryPolicy.exhausted_succ_iff hleft]
    cases policy.exhausted (failuresInARow before + 1) <;> simp
  case last =>
    intro before n after hsplit
    have hmem : .announced (.gaveUp n) ∈ r.diary := by rw [hsplit]; simp
    have past := kept.over_of_gaveUp hmem
    exact ⟨hallowed _ _ _ hsplit, hfollowed _ _ _ hsplit, decide_eq_true past.finished,
      past.spent n hmem⟩
  case connected =>
    intro before event after hsplit hevent
    have h := hallowed _ _ _ hsplit
    cases event with
    | authenticated => exact h.1
    | replayed channels | disconnected reason => exact h
    | _ => cases hevent
  case authenticated => exact fun before after hsplit => (hallowed _ _ _ hsplit).2
  case waited => exact fun before since release after hsplit => hallowed _ _ _ hsplit
  case rested => exact fun before after hsplit => hallowed _ _ _ hsplit
  case ended =>
    intro hfinished
    have past := kept.over_of_isFinished hfinished
    exact ⟨past.state, past.offline, past.pending⟩

theorem kept_start (settings : Settings) (hub : Hub κ ν) (now : Nat) :
    (start settings hub now).Kept settings.reconnect :=
  Or.inl ⟨0, ⟨Throughout.nil, trivial, rfl, rfl, by simp [start]⟩, rfl, Or.inl rfl, Or.inl rfl⟩

variable [Codec κ ν]

theorem Kept.move (kept : r.Kept settings.reconnect) (m : Move κ ν) :
    (r.move settings endpoint m).Kept settings.reconnect := by
  cases m with
  | step moment cue =>
    unfold Run.move
    simp only
    split
    · exact kept
    · rename_i t hstep
      rcases kept with ⟨waits, going⟩ | past
      · refine (going.turned (Manager.leg hstep)).imp_right fun last => ?_
        obtain ⟨hphase, hlawful, hanswered, hspent⟩ := last
        obtain ⟨hregistry, hstate⟩ := Manager.registry_of_finished hstep hphase
        refine ⟨hphase, hlawful, hanswered, hspent, hstate, ?_, ?_⟩
        · exact congrArg Registry.online hregistry
        · rw [hregistry]
          exact Registry.pending_of_setOnline
      · have hgoing := Manager.unfinished_of_step hstep
        rw [Manager.isFinished, past.finished] at hgoing
        cases hgoing
  | stop =>
    refine kept.imp ?_ ?_
    · rintro ⟨waits, told, hbackoff, hleft, hstage⟩
      exact ⟨waits, told, hbackoff, hleft, hstage⟩
    · rintro ⟨hphase, hlawful, hanswered, hspent, hstate, hoffline, hpending⟩
      exact ⟨hphase, hlawful, hanswered, hspent, hstate, hoffline, hpending⟩
  | share hub =>
    unfold Run.move
    simp only
    split
    · exact kept
    · rename_i hgoing
      rcases kept with going | past
      · exact Or.inl going
      · exact absurd (decide_eq_true past.finished) hgoing

theorem Kept.run (kept : r.Kept settings.reconnect) (moves : List (Move κ ν)) :
    (r.run settings endpoint moves).Kept settings.reconnect := by
  induction moves generalizing r with
  | nil => exact kept
  | cons m moves ih => exact ih (kept.move m)

theorem run_accounted (settings : Settings) (endpoint : String) (hub : Hub κ ν) (now : Nat)
    (moves : List (Move κ ν)) :
    ((start settings hub now).run settings endpoint moves).Accounted settings.reconnect :=
  ((kept_start settings hub now).run moves).accounted

example (plan : Settings) (hub : Hub κ ν) (cause : Error) :
    let settings := { plan with reconnect := ⟨5, 60, Binary64.ofNat 2, some 2⟩ }
    ((start settings hub 0).run settings "host" [.step ⟨0, 0, .ok ()⟩ .proceed,
      .step ⟨3, 0, .ok ()⟩ (.refused cause), .step ⟨8, 0, .ok ()⟩ .elapsed,
      .step ⟨8, 0, .ok ()⟩ .proceed, .step ⟨9, 0, .ok ()⟩ (.refused cause)]).diary =
    [.began, .announced (.reconnectFailed 1 cause), .failed, .paused 3 8, .resumed 8, .began,
      .announced (.reconnectFailed 2 cause), .announced (.gaveUp 2), .failed] :=
  rfl

end Run

end ChannelMux
