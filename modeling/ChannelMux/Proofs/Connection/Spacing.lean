import ChannelMux.Throttle
import Mathlib.Algebra.Order.Group.Nat
import Mathlib.Data.List.Basic

/-!
How the throttle spaces requests out. Whoever waits for a slot before asking for the next one is
served in windows that begin a second apart, none with more requests than the cap.
-/
namespace ChannelMux.Throttle

/-- A request let through: when it was asked for, and until when it was told to wait. -/
structure Grant where
  asked : Nat
  wait : Option Nat
deriving DecidableEq, Repr

/-- When the request goes out. -/
def Grant.given (grant : Grant) : Nat := grant.wait.getD grant.asked

/-- Slots asked for at the given times, one after the other. -/
def run (t : Throttle) : List Nat → List Grant × Throttle
  | [] => ([], t)
  | now :: calls =>
    let (wait, t) := t.reserve now
    let (grants, t) := run t calls
    (⟨now, wait⟩ :: grants, t)

/-- Nobody asks before the request before is through, or before `last`. -/
def Patient (last : Nat) : List Grant → Prop
  | [] => True
  | grant :: rest => last ≤ grant.asked ∧ Patient grant.given rest

instance Patient.decidable : (last : Nat) → (grants : List Grant) → Decidable (Patient last grants)
  | _, [] => inferInstanceAs (Decidable True)
  | last, grant :: rest =>
    have := decidable grant.given rest
    inferInstanceAs (Decidable (last ≤ grant.asked ∧ Patient grant.given rest))

/-- The requests of a second, or of less, from the time at which it begins. -/
structure Window where
  start : Nat
  grants : List Grant

namespace Window

/-- No more requests than may be, all within a second. -/
structure Fits (limit : Nat) (w : Window) : Prop where
  few : w.grants.length ≤ limit
  within : ∀ grant ∈ w.grants, w.start ≤ grant.given ∧ grant.given < w.start + window

/-- One window is over when the other begins. -/
def Before (w next : Window) : Prop := w.start + window ≤ next.start

/-- Windows that fit, one after the other. -/
structure Spaced (limit : Nat) (windows : List Window) : Prop where
  fits : ∀ w ∈ windows, w.Fits limit
  apart : windows.Pairwise Before

end Window

/-- The request goes out in the second that begins at `since`. -/
def Grant.during (since : Nat) (grant : Grant) : Bool :=
  since ≤ grant.given && grant.given < since + window

variable {t : Throttle} {now : Nat}

theorem run_cons (t : Throttle) (now : Nat) (calls : List Nat) :
    t.run (now :: calls) =
      (⟨now, (t.reserve now).1⟩ :: ((t.reserve now).2.run calls).1,
        ((t.reserve now).2.run calls).2) := rfl

/-- What `reserve` can do: begin a window, use one that has room, or book in the one after. -/
inductive Reserved (t : Throttle) (now : Nat) : Option Nat × Throttle → Prop where
  | fresh : t.windowStart + window ≤ now → Reserved t now (none, ⟨t.perWindow, now, 1⟩)
  | room : now < t.windowStart + window → t.used < t.perWindow →
      Reserved t now (none, ⟨t.perWindow, t.windowStart, t.used + 1⟩)
  | full : now < t.windowStart + window → t.perWindow ≤ t.used →
      Reserved t now
        (some (t.windowStart + window), ⟨t.perWindow, t.windowStart + window, 1⟩)

theorem reserved (hcap : 0 < t.perWindow) (now : Nat) : Reserved t now (t.reserve now) := by
  have hwindow : 0 < window := by decide
  by_cases hover : t.windowStart + window ≤ now
  · have hreserve : t.reserve now = (none, ⟨t.perWindow, now, 1⟩) := by
      simp only [reserve, if_pos (show window ≤ now - t.windowStart by omega), if_pos hcap]
    rw [hreserve]
    exact .fresh hover
  · have hstays : ¬window ≤ now - t.windowStart := by omega
    by_cases hroom : t.used < t.perWindow
    · simp only [reserve, if_neg hstays, if_pos hroom]
      exact .room (by omega) hroom
    · simp only [reserve, if_neg hstays, if_neg hroom]
      exact .full (by omega) (by omega)

/-- A throttle with its grants so far, the latest of them at `last`. It is in the current window,
and the others are over. -/
structure Keeps (limit : Nat) (grants : List Grant) (past : List Window) (current : Window)
    (last : Nat) (t : Throttle) : Prop where
  split : grants = past.flatMap Window.grants ++ current.grants
  spaced : Window.Spaced limit past
  closed : ∀ w ∈ past, w.Before current
  fits : current.Fits limit
  inside : t = ⟨limit, current.start, current.grants.length⟩
  begun : current.start ≤ last
  passed : ∀ grant ∈ grants, grant.given ≤ last
  ordered : grants.Pairwise (fun grant next => grant.given ≤ next.given)

variable {grants : List Grant} {grant : Grant} {past : List Window} {current : Window}
  {limit created last : Nat}

theorem keeps_start (cap created : Nat) :
    Keeps (max cap 1) [] [] ⟨created, []⟩ created (start cap created) where
  split := rfl
  spaced := ⟨by simp, .nil⟩
  closed := by simp
  fits := ⟨Nat.zero_le _, by simp⟩
  inside := rfl
  begun := le_rfl
  passed := by simp
  ordered := .nil

namespace Keeps

theorem ordered_append (h : Keeps limit grants past current last t) (hgiven : last ≤ grant.given) :
    (grants ++ [grant]).Pairwise (fun grant next => grant.given ≤ next.given) := by
  refine List.pairwise_append.mpr ⟨h.ordered, List.pairwise_singleton _ _, ?_⟩
  intro earlier hearlier next hnext
  rw [List.mem_singleton.mp hnext]
  exact (h.passed earlier hearlier).trans hgiven

theorem passed_append (h : Keeps limit grants past current last t) (hgiven : last ≤ grant.given) :
    ∀ earlier ∈ grants ++ [grant], earlier.given ≤ grant.given := by
  intro earlier hearlier
  rcases List.mem_append.mp hearlier with hearlier | hnew
  · exact (h.passed earlier hearlier).trans hgiven
  · rw [List.mem_singleton.mp hnew]

/-- The windows so far, the current one included. -/
theorem spaced_all (h : Keeps limit grants past current last t) :
    Window.Spaced limit (past ++ [current]) where
  fits := by
    intro w hw
    rcases List.mem_append.mp hw with hw | hw
    · exact h.spaced.fits w hw
    · rw [List.mem_singleton.mp hw]
      exact h.fits
  apart := by
    refine List.pairwise_append.mpr ⟨h.spaced.apart, List.pairwise_singleton _ _, ?_⟩
    intro w hw next hnext
    rw [List.mem_singleton.mp hnext]
    exact h.closed w hw

/-- A grant a second or more after the current window began begins another one. -/
theorem opens (h : Keeps limit grants past current last t) (hlimit : 0 < limit) (grant : Grant)
    (hgiven : last ≤ grant.given) (hover : current.start + window ≤ grant.given) :
    Keeps limit (grants ++ [grant]) (past ++ [current]) ⟨grant.given, [grant]⟩ grant.given
      ⟨limit, grant.given, 1⟩ where
  split := by
    rw [h.split]
    simp
  spaced := h.spaced_all
  closed := by
    intro w hw
    rcases List.mem_append.mp hw with hw | hw
    · have hbefore : w.start + window ≤ current.start := h.closed w hw
      exact hbefore.trans ((Nat.le_add_right _ _).trans hover)
    · rw [List.mem_singleton.mp hw]
      exact hover
  fits := by
    refine ⟨hlimit, ?_⟩
    intro next hnext
    rw [List.mem_singleton.mp hnext]
    exact ⟨le_rfl, Nat.lt_add_of_pos_right (by decide)⟩
  inside := rfl
  begun := le_rfl
  passed := h.passed_append hgiven
  ordered := h.ordered_append hgiven

/-- A grant that the current window has room for. -/
theorem joins (h : Keeps limit grants past current last t) (grant : Grant)
    (hroom : current.grants.length < limit) (hgiven : last ≤ grant.given)
    (hwithin : grant.given < current.start + window) :
    Keeps limit (grants ++ [grant]) past ⟨current.start, current.grants ++ [grant]⟩ grant.given
      ⟨limit, current.start, current.grants.length + 1⟩ where
  split := by rw [h.split, List.append_assoc]
  spaced := h.spaced
  closed := h.closed
  fits := by
    refine ⟨by simpa using Nat.succ_le_of_lt hroom, ?_⟩
    intro next hnext
    rcases List.mem_append.mp hnext with hnext | hnext
    · exact h.fits.within next hnext
    · rw [List.mem_singleton.mp hnext]
      exact ⟨h.begun.trans hgiven, hwithin⟩
  inside := by simp
  begun := h.begun.trans hgiven
  passed := h.passed_append hgiven
  ordered := h.ordered_append hgiven

/-- One more call, no earlier than the latest grant. -/
theorem step (h : Keeps limit grants past current last t) (hlimit : 0 < limit)
    (hnow : last ≤ now) :
    (now ≤ Grant.given ⟨now, (t.reserve now).1⟩ ∧
        Grant.given ⟨now, (t.reserve now).1⟩ ≤ now + window) ∧
      ∃ past current, Keeps limit (grants ++ [⟨now, (t.reserve now).1⟩]) past current
        (Grant.given ⟨now, (t.reserve now).1⟩) (t.reserve now).2 := by
  have hinside := h.inside
  subst hinside
  have hbegun := h.begun
  have hreserved := reserved (t := ⟨limit, current.start, current.grants.length⟩) hlimit now
  generalize reserve _ now = result at hreserved ⊢
  cases hreserved with
  | fresh hover =>
    exact ⟨⟨le_rfl, Nat.le_add_right _ _⟩, _, _, h.opens hlimit ⟨now, none⟩ hnow hover⟩
  | room hwithin hroom =>
    exact ⟨⟨le_rfl, Nat.le_add_right _ _⟩, _, _,
      h.joins ⟨now, none⟩ hroom hnow hwithin⟩
  | full hwithin =>
    have hnext : now ≤ current.start + window := Nat.le_of_lt hwithin
    have hsoon : current.start + window ≤ now + window := by omega
    exact ⟨⟨hnext, hsoon⟩, _, _,
      h.opens hlimit ⟨now, some (current.start + window)⟩ (hnow.trans hnext) le_rfl⟩

/-- A run of calls, by induction on them. More calls may follow. -/
theorem run {calls : List Nat} (h : Keeps limit grants past current last t) (hlimit : 0 < limit)
    {rest : List Nat} (hpatient : Patient last (t.run (calls ++ rest)).1) :
    (∀ grant ∈ (t.run calls).1, grant.asked ≤ grant.given ∧ grant.given ≤ grant.asked + window) ∧
      ∃ past current last,
        Keeps limit (grants ++ (t.run calls).1) past current last (t.run calls).2 ∧
          Patient last ((t.run calls).2.run rest).1 := by
  induction calls generalizing grants past current last t with
  | nil =>
    refine ⟨by simp [Throttle.run], past, current, last, ?_, hpatient⟩
    simpa [Throttle.run] using h
  | cons now calls ih =>
    rw [List.cons_append, run_cons] at hpatient
    obtain ⟨hprompt, nextPast, nextCurrent, hnext⟩ := h.step hlimit hpatient.1
    obtain ⟨hprompts, hrun⟩ := ih hnext hpatient.2
    rw [run_cons]
    refine ⟨List.forall_mem_cons.mpr ⟨hprompt, hprompts⟩, ?_⟩
    simpa using hrun

/-- The grants since the current window began are those in it. -/
theorem countP_current (h : Keeps limit grants past current last t) :
    grants.countP (fun grant => t.windowStart ≤ grant.given) = current.grants.length := by
  have hearlier : (past.flatMap Window.grants).countP
      (fun grant => current.start ≤ grant.given) = 0 := by
    refine List.countP_eq_zero.mpr fun grant hgrant => ?_
    obtain ⟨w, hw, hgrant⟩ := List.mem_flatMap.mp hgrant
    have hwithin := ((h.spaced.fits w hw).within grant hgrant).2
    simpa using hwithin.trans_le (h.closed w hw)
  have hcurrent : current.grants.countP (fun grant => current.start ≤ grant.given) =
      current.grants.length := by
    refine List.countP_eq_length.mpr fun grant hgrant => ?_
    simpa using (h.fits.within grant hgrant).1
  rw [h.split, h.inside, List.countP_append, hearlier, hcurrent, Nat.zero_add]

theorem reserve_isSome_iff (h : Keeps limit grants past current last t) (hlimit : 0 < limit)
    (now : Nat) :
    (t.reserve now).1.isSome = true ↔ now < t.windowStart + window ∧
      grants.countP (fun grant => t.windowStart ≤ grant.given) = limit := by
  have hfew := h.fits.few
  have hreserved := reserved (t := t) (by rw [h.inside]; exact hlimit) now
  have hused : t.used = current.grants.length := by rw [h.inside]
  have hcap : t.perWindow = limit := by rw [h.inside]
  rw [h.countP_current]
  generalize t.reserve now = result at hreserved ⊢
  cases hreserved with
  | fresh hover =>
    constructor
    · intro hwaits
      cases hwaits
    · rintro ⟨hwithin, -⟩
      exact absurd hover (Nat.not_le_of_lt hwithin)
  | room hwithin hroom =>
    constructor
    · intro hwaits
      cases hwaits
    · rintro ⟨-, hfull⟩
      omega
  | full hwithin hfull => exact ⟨fun _ => ⟨hwithin, by omega⟩, fun _ => rfl⟩

end Keeps

namespace Window

variable {w : Window} {windows : List Window} {since : Nat}

theorem Fits.countP_le (h : w.Fits limit) (p : Grant → Bool) : w.grants.countP p ≤ limit :=
  (List.countP_le_length).trans h.few

theorem Fits.countP_eq_zero (h : w.Fits limit)
    (hapart : w.start + window ≤ since ∨ since + window ≤ w.start) :
    w.grants.countP (Grant.during since) = 0 := by
  refine List.countP_eq_zero.mpr fun grant hgrant => ?_
  obtain ⟨hbegun, hover⟩ := h.within grant hgrant
  simp only [Grant.during, Bool.and_eq_true, decide_eq_true_eq]
  omega

theorem spaced_cons : Spaced limit (w :: windows) ↔
    w.Fits limit ∧ (∀ next ∈ windows, w.Before next) ∧ Spaced limit windows := by
  constructor
  · rintro ⟨hfits, hapart⟩
    obtain ⟨hfit, hfits⟩ := List.forall_mem_cons.mp hfits
    obtain ⟨hbefore, hapart⟩ := List.pairwise_cons.mp hapart
    exact ⟨hfit, hbefore, hfits, hapart⟩
  · rintro ⟨hfit, hbefore, hfits, hapart⟩
    exact ⟨List.forall_mem_cons.mpr ⟨hfit, hfits⟩, List.pairwise_cons.mpr ⟨hbefore, hapart⟩⟩

/-- Windows that begin at most `k` seconds before a given one ends: no more than `k` of them have
begun by then. -/
theorem Spaced.countP_le_mul (h : Spaced limit windows) {k : Nat}
    (hbegin : ∀ w ∈ windows, since + window ≤ w.start + k * window) :
    (windows.flatMap Window.grants).countP (Grant.during since) ≤ k * limit := by
  induction windows generalizing k with
  | nil => simp
  | cons w rest ih =>
    obtain ⟨hfit, hbefore, hrest⟩ := spaced_cons.mp h
    obtain ⟨hfirst, hlater⟩ := List.forall_mem_cons.mp hbegin
    rw [List.flatMap_cons, List.countP_append]
    cases k with
    | zero =>
      have hnone : w.grants.countP (Grant.during since) = 0 :=
        hfit.countP_eq_zero (Or.inr (by simpa using hfirst))
      have hothers := ih hrest hlater
      omega
    | succ k =>
      have hsooner : ∀ next ∈ rest, since + window ≤ next.start + k * window := by
        intro next hnext
        have hapart : w.start + window ≤ next.start := hbefore next hnext
        rw [Nat.succ_mul] at hfirst
        omega
      have hone := hfit.countP_le (Grant.during since)
      have hothers := ih hrest hsooner
      rw [Nat.succ_mul]
      omega

/-- A second touches two windows at most. -/
theorem Spaced.countP_le (h : Spaced limit windows) (since : Nat) :
    (windows.flatMap Window.grants).countP (Grant.during since) ≤ 2 * limit := by
  induction windows with
  | nil => simp
  | cons w rest ih =>
    obtain ⟨hfit, hbefore, hrest⟩ := spaced_cons.mp h
    by_cases hover : w.start + window ≤ since
    · rw [List.flatMap_cons, List.countP_append, hfit.countP_eq_zero (Or.inl hover), Nat.zero_add]
      exact ih hrest
    · refine h.countP_le_mul (List.forall_mem_cons.mpr ⟨by omega, fun next hnext => ?_⟩)
      have hapart : w.start + window ≤ next.start := hbefore next hnext
      omega

end Window

/-- What holds of the requests that a throttle lets through, given how many go into a window. -/
structure Paced (limit : Nat) (t : Throttle) (calls : List Nat) : Prop where
  ordered : (t.run calls).1.Pairwise (fun grant next => grant.given ≤ next.given)
  prompt : ∀ grant ∈ (t.run calls).1,
    grant.asked ≤ grant.given ∧ grant.given ≤ grant.asked + window
  /-- A call waits if the window it falls into is full, and not otherwise. -/
  pressed : ∀ earlier now later, calls = earlier ++ now :: later →
    let (grants, before) := t.run earlier
    (before.reserve now).1.isSome = true ↔ now < before.windowStart + window ∧
      grants.countP (fun grant => before.windowStart ≤ grant.given) = limit
  /-- The requests fall into windows, of which the last is the one that the throttle is in. -/
  windows : ∃ past current, (t.run calls).1 = (past ++ [current]).flatMap Window.grants ∧
    Window.Spaced limit (past ++ [current]) ∧ current.start = (t.run calls).2.windowStart
  sparse : ∀ since, (t.run calls).1.countP (Grant.during since) ≤ 2 * limit

/-- Whatever the cap and however irregular the calls: requests go out in the order they were asked
for and wait a second at most, only for a full window. Windows begin a second apart, so no second
sees more than twice the cap. -/
theorem requests_paced (cap created : Nat) (calls : List Nat)
    (patient : Patient created ((start cap created).run calls).1) :
    Paced (max cap 1) (start cap created) calls := by
  have hlimit : 0 < max cap 1 := Nat.lt_of_lt_of_le Nat.one_pos (le_max_right cap 1)
  have hstart := keeps_start cap created
  have hpatient : Patient created ((start cap created).run (calls ++ [])).1 := by
    rwa [List.append_nil]
  obtain ⟨hprompt, past, current, last, hkeeps, -⟩ := hstart.run hlimit hpatient
  rw [List.nil_append] at hkeeps
  have hsplit : ((start cap created).run calls).1 =
      (past ++ [current]).flatMap Window.grants := by
    rw [hkeeps.split]
    simp
  refine ⟨hkeeps.ordered, hprompt, ?_, ⟨past, current, hsplit, hkeeps.spaced_all, ?_⟩, ?_⟩
  · rintro earlier now later rfl
    obtain ⟨-, _, _, _, hearlier, -⟩ := hstart.run hlimit patient
    exact hearlier.reserve_isSome_iff hlimit now
  · rw [hkeeps.inside]
  · intro since
    rw [hsplit]
    exact hkeeps.spaced_all.countP_le since

/-- Three requests at once, two more as soon as the third is through, and a straggler. -/
def burst : List Nat := [5, 5, 5, window + 5, window + 5, 3 * window]

theorem burst_paced :
    Patient 5 ((start 2 5).run burst).1 ∧ Paced 2 (start 2 5) burst :=
  ⟨by decide, requests_paced 2 5 burst (by decide)⟩

example : ((start 2 5).run burst).1.map Grant.given =
    [5, 5, window + 5, window + 5, 2 * window + 5, 3 * window] := by decide

end ChannelMux.Throttle
