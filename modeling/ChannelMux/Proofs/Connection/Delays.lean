import ChannelMux.Backoff
import ChannelMux.Proofs.Decimal.Scaling
import Mathlib.Data.List.Induction
import Mathlib.Order.Iterate

/-!
The delays of a backoff, by how many went before. One delay decides the next, and a longer one never
has the shorter to follow it; so all of them grow if the second is no shorter than the first. A
factor above one sees to that, unless the first delay is too long to be counted.
-/
namespace ChannelMux

namespace Backoff

/-- What can be asked of a backoff: a delay to wait, a look at it, and to start over. -/
inductive Call where
  | next
  | peek
  | reset
deriving DecidableEq, Repr

/-- The delay that a call is told, if any. -/
def told (b : Backoff) : Call → Option Nat
  | .next => some b.next.1
  | .peek => some b.current
  | .reset => none

def perform (b : Backoff) : Call → Backoff
  | .next => b.next.2
  | .peek => b
  | .reset => b.reset

end Backoff

namespace RetryPolicy

open Backoff

/-- A fresh backoff after so many waits. -/
def backoffAfter (policy : RetryPolicy) (waits : Nat) : Backoff :=
  (fun b : Backoff => b.next.2)^[waits] (Backoff.ofPolicy policy)

/-- The delay that comes after so many others. -/
def delay (policy : RetryPolicy) (waits : Nat) : Nat := (policy.backoffAfter waits).next.1

/-- The delay to start with. -/
def firstDelay (policy : RetryPolicy) : Nat := min policy.initialDelay policy.maxDelay

/-- The delay behind another. -/
def following (policy : RetryPolicy) (delay : Nat) : Nat :=
  min (((Binary64.ofNat delay).mul policy.factor.atLeastOne).toNatClamped growthLimit)
    (min policy.maxDelay growthLimit)

/-- A fresh backoff after these calls. -/
def after (policy : RetryPolicy) (calls : List Call) : Backoff :=
  calls.foldl perform (Backoff.ofPolicy policy)

def waited (waits : Nat) : Call → Nat
  | .next => waits + 1
  | .peek => waits
  | .reset => 0

/-- How often a delay was waited for since the last start. -/
def waits (calls : List Call) : Nat := calls.foldl waited 0

/-- No delay is longer than the maximum. -/
def Capped (policy : RetryPolicy) : Prop :=
  ∀ calls call delay, (policy.after calls).told call = some delay → delay ≤ policy.maxDelay

/-- The first delay there is, and the first after a reset, is the initial one, unless that is beyond
the maximum. -/
def StartsOver (policy : RetryPolicy) : Prop :=
  ∀ calls call delay, (∀ last ∈ calls.getLast?, last = .reset) →
    (policy.after calls).told call = some delay → delay = min policy.initialDelay policy.maxDelay

/-- Without a reset between them, of two delays the later one is no shorter. -/
def NeverShrinks (policy : RetryPolicy) : Prop :=
  ∀ calls earlier between later delay next, .reset ∉ between →
    (policy.after calls).told earlier = some delay →
    (policy.after (calls ++ earlier :: between)).told later = some next → delay ≤ next

variable {policy : RetryPolicy}

theorem backoffAfter_succ (policy : RetryPolicy) (waits : Nat) :
    policy.backoffAfter (waits + 1) = (policy.backoffAfter waits).next.2 :=
  Function.iterate_succ_apply' _ _ _

theorem backoffAfter_eq (policy : RetryPolicy) (waits : Nat) :
    policy.backoffAfter waits = { Backoff.ofPolicy policy with current := policy.delay waits } := by
  induction waits with
  | zero => rfl
  | succ waits ih =>
    rw [delay, backoffAfter_succ, ih]
    rfl

theorem reset_backoffAfter (policy : RetryPolicy) (waits : Nat) :
    (policy.backoffAfter waits).reset = policy.backoffAfter 0 := by
  rw [backoffAfter_eq]
  rfl

theorem delay_succ (policy : RetryPolicy) (waits : Nat) :
    policy.delay (waits + 1) = policy.following (policy.delay waits) := by
  rw [delay, backoffAfter_succ, backoffAfter_eq]
  rfl

theorem firstDelay_le_maxDelay (policy : RetryPolicy) : policy.firstDelay ≤ policy.maxDelay :=
  Nat.min_le_right _ _

theorem delay_le_maxDelay (policy : RetryPolicy) (waits : Nat) :
    policy.delay waits ≤ policy.maxDelay := by
  cases waits with
  | zero => exact policy.firstDelay_le_maxDelay
  | succ waits =>
    rw [delay_succ]
    exact (Nat.min_le_right _ _).trans (Nat.min_le_left _ _)

theorem following_mono (policy : RetryPolicy) : Monotone policy.following :=
  fun _ _ h => min_le_min_right _ (policy.factor.growth_mono h)

theorem delay_eq_iterate (policy : RetryPolicy) (waits : Nat) :
    policy.delay waits = policy.following^[waits] policy.firstDelay := by
  induction waits with
  | zero => rfl
  | succ waits ih => rw [delay_succ, ih, Function.iterate_succ_apply']

theorem monotone_delay (h : policy.firstDelay ≤ policy.following policy.firstDelay) :
    Monotone policy.delay := by
  have hiterates := policy.following_mono.monotone_iterate_of_le_map h
  intro earlier later hle
  rw [delay_eq_iterate, delay_eq_iterate]
  exact hiterates hle

/-- A delay within the maximum is followed by no shorter one exactly if growth can reach it and, for
a factor of one, rounding leaves it where it is or raises it. -/
theorem le_following_iff {delay : Nat} (hmax : delay ≤ policy.maxDelay) :
    delay ≤ policy.following delay ↔ delay ≤ growthLimit ∧ (policy.factor.atLeastOne = .one →
      delay ≤ (Binary64.ofNat delay).toNatClamped growthLimit) := by
  unfold following
  rw [Nat.le_min, Nat.le_min]
  constructor
  · rintro ⟨hgrown, -, hlimit⟩
    refine ⟨hlimit, fun hone => ?_⟩
    rwa [hone, Binary64.growth_one] at hgrown
  · rintro ⟨hlimit, hkept⟩
    refine ⟨?_, hmax, hlimit⟩
    by_cases hone : policy.factor.atLeastOne = .one
    · rw [hone, Binary64.growth_one]
      exact hkept hone
    · exact policy.factor.le_growth hone hlimit

theorem after_concat (policy : RetryPolicy) (calls : List Call) (call : Call) :
    policy.after (calls ++ [call]) = (policy.after calls).perform call :=
  List.foldl_concat ..

theorem waits_concat (calls : List Call) (call : Call) :
    waits (calls ++ [call]) = waited (waits calls) call :=
  List.foldl_concat ..

/-- Only the waits since the last start matter. -/
theorem after_eq (policy : RetryPolicy) (calls : List Call) :
    policy.after calls = policy.backoffAfter (waits calls) := by
  induction calls using List.reverseRecOn with
  | nil => rfl
  | append_singleton calls call ih =>
    rw [after_concat, ih, waits_concat]
    cases call with
    | next => exact (policy.backoffAfter_succ _).symm
    | peek => rfl
    | reset => exact policy.reset_backoffAfter _

theorem told_after (policy : RetryPolicy) (calls : List Call) (call : Call) :
    (policy.after calls).told call =
      if call = .reset then none else some (policy.delay (waits calls)) := by
  rw [after_eq]
  cases call <;> rfl

theorem waits_append (calls : List Call) {more : List Call} (hmore : .reset ∉ more) :
    waits calls ≤ waits (calls ++ more) := by
  induction more using List.reverseRecOn with
  | nil => rw [List.append_nil]
  | append_singleton more call ih =>
    rw [List.mem_append, List.mem_singleton, not_or] at hmore
    have hbefore := ih hmore.1
    rw [← List.append_assoc, waits_concat]
    cases call with
    | next => exact hbefore.trans (Nat.le_succ _)
    | peek => exact hbefore
    | reset => exact absurd rfl hmore.2

theorem waits_of_fresh {calls : List Call} (h : ∀ last ∈ calls.getLast?, last = .reset) :
    waits calls = 0 := by
  rcases List.eq_nil_or_concat calls with rfl | ⟨earlier, last, rfl⟩
  · rfl
  · rw [List.concat_eq_append] at h ⊢
    obtain rfl : last = .reset := h last (by simp)
    exact waits_concat earlier .reset

theorem neverShrinks_of_le (h : policy.firstDelay ≤ policy.following policy.firstDelay) :
    policy.NeverShrinks := by
  intro calls earlier between later delay next hbetween hdelay hnext
  rw [told_after, Option.ite_none_left_eq_some, Option.some.injEq] at hdelay hnext
  obtain ⟨hearlier, rfl⟩ := hdelay
  obtain ⟨-, rfl⟩ := hnext
  refine monotone_delay h (waits_append calls ?_)
  rw [List.mem_cons, not_or]
  exact ⟨Ne.symm hearlier, hbetween⟩

/-- Whole milliseconds that begin below eighteen years never shrink, whatever the factor. -/
theorem neverShrinks_of_short (hmillis : nanosPerMilli ∣ policy.firstDelay)
    (hshort : policy.firstDelay < twoTo 59) : policy.NeverShrinks := by
  have hzeros : twoTo 6 ∣ policy.firstDelay := Dvd.dvd.trans (by decide) hmillis
  have hlimit : policy.firstDelay ≤ growthLimit := hshort.le.trans (by decide +kernel)
  refine neverShrinks_of_le ((le_following_iff policy.firstDelay_le_maxDelay).mpr
    ⟨hlimit, fun _ => ?_⟩)
  exact Binary64.le_toNatClamped_ofNat hzeros hshort (by decide) hlimit

/-- The delays never exceed the maximum and start over after a reset. They never shrink exactly if
the first is not too long to be counted and, for a factor that counts as one, has a double that is
not below it. -/
theorem neverShrinks_iff (policy : RetryPolicy) :
    policy.Capped ∧ policy.StartsOver ∧
      (policy.NeverShrinks ↔ policy.firstDelay ≤ growthLimit ∧
        (policy.factor.atLeastOne = .one →
          policy.firstDelay ≤ (Binary64.ofNat policy.firstDelay).toNatClamped growthLimit)) := by
  refine ⟨fun calls call delay hdelay => ?_, fun calls call delay hfresh hdelay => ?_, ?_⟩
  · rw [told_after, Option.ite_none_left_eq_some, Option.some.injEq] at hdelay
    exact hdelay.2 ▸ policy.delay_le_maxDelay _
  · rw [told_after, Option.ite_none_left_eq_some, Option.some.injEq,
      waits_of_fresh hfresh] at hdelay
    exact hdelay.2.symm
  · rw [← le_following_iff policy.firstDelay_le_maxDelay]
    exact ⟨fun hlaw => hlaw [] .next [] .next _ _ List.not_mem_nil rfl rfl, neverShrinks_of_le⟩

/-- The longest delays that milliseconds in a word can give, doubling. -/
def longest : RetryPolicy :=
  ⟨(twoTo 64 - 1) * nanosPerMilli, (twoTo 64 - 1) * nanosPerMilli, Binary64.ofNat 2, none⟩

/-- More than eighteen years, and not to be stretched. -/
def unstretched : RetryPolicy :=
  ⟨576460752305 * nanosPerMilli, 576460752305 * nanosPerMilli, .one, none⟩

theorem shrinks_at_extremes : ¬longest.NeverShrinks ∧ ¬unstretched.NeverShrinks := by
  refine ⟨fun hlaw => ?_, fun hlaw => ?_⟩
  · have hnext := hlaw [] .next [] .next _ _ List.not_mem_nil rfl rfl
    revert hnext
    decide +kernel
  · have hnext := hlaw [] .next [] .next _ _ List.not_mem_nil rfl rfl
    revert hnext
    decide +kernel

end RetryPolicy

end ChannelMux
