import ChannelMux.Decimal.Binary64
import Mathlib.Algebra.Order.Field.Power
import Mathlib.Data.Int.Log
import Mathlib.Data.Rat.Floor
import Mathlib.Tactic.LinearCombination

/-!
Rounding to doubles, seen on the magnitude bits. A larger number never gets fewer of them, and a
number that a double stands for gets the bits of that double; from these two it follows where any
other number goes.
-/
namespace ChannelMux

theorem twoTo_52 : twoTo 52 = 4503599627370496 := rfl

theorem twoTo_53 : twoTo 53 = 9007199254740992 := rfl

theorem cast_twoTo (n : Nat) : (twoTo n : ℚ) = 2 ^ n := by
  simp [twoTo]

theorem cast_twoTo_mul_zpow (n : Nat) (e : ℤ) : (twoTo n : ℚ) * 2 ^ e = 2 ^ (n + e) := by
  rw [cast_twoTo, zpow_add₀ two_ne_zero, zpow_natCast]

namespace Binary64

/-- The exponent of the step to the next double, counted from the smallest such step. -/
def spacing (magnitude : Nat) : Nat := magnitude / twoTo 52 - 1

/-- How many such steps the double is away from zero. -/
def significand (magnitude : Nat) : Nat := magnitude - spacing magnitude * twoTo 52

/-- The number that magnitude bits stand for, and for those of infinity the power of two that is the
first to be too large. -/
def magnitudeValue (magnitude : Nat) : ℚ :=
  significand magnitude * 2 ^ ((spacing magnitude : ℤ) - 1074)

/-- The step, counted likewise, to which a number is rounded. -/
def roundingSpacing (x : ℚ) : Nat := (Int.log 2 x + 1022).toNat

/-- The magnitude bits of the double nearest to a number. -/
def roundedMagnitude (x : ℚ) : Nat := nearestMagnitude x.num.toNat x.den

section RoundHalfEven

variable {num den num' den' m : Nat}

/-- The middle between two whole numbers is where they part, and it belongs to the even one. -/
theorem lt_roundHalfEven_iff (hden : 0 < den) : m < roundHalfEven num den ↔
    (m + 1 / 2 : ℚ) < num / den ∨ (m + 1 / 2 : ℚ) = num / den ∧ m % 2 = 1 := by
  have hdenQ : (0 : ℚ) < den := by exact_mod_cast hden
  have hlt : (m + 1 / 2 : ℚ) < num / den ↔ (2 * m + 1) * den < 2 * num := by
    rw [lt_div_iff₀ hdenQ, ← Nat.cast_lt (α := ℚ)]
    push_cast
    constructor <;> intro h <;> linarith
  have heq : (m + 1 / 2 : ℚ) = num / den ↔ (2 * m + 1) * den = 2 * num := by
    rw [eq_div_iff hdenQ.ne', ← Nat.cast_inj (R := ℚ)]
    push_cast
    constructor <;> intro h <;> linarith
  rw [hlt, heq]
  have hnum : den * (num / den) + num % den = num := Nat.div_add_mod num den
  have hrest : num % den < den := Nat.mod_lt num hden
  unfold roundHalfEven
  simp only
  generalize num / den = whole at hnum ⊢
  generalize num % den = rest at hnum hrest ⊢
  have hmiddle : (2 * m + 1) * den = 2 * (den * m) + den := by ring
  -- the remainder and the parity decide only if `m` is the whole part itself
  rcases Nat.lt_trichotomy m whole with hbelow | rfl | habove
  · have hstep := Nat.mul_le_mul_left den (Nat.succ_le_of_lt hbelow)
    rw [Nat.mul_succ] at hstep
    split_ifs <;> omega
  · split_ifs <;> omega
  · have hstep := Nat.mul_le_mul_left den (Nat.succ_le_of_lt habove)
    rw [Nat.mul_succ] at hstep
    split_ifs <;> omega

theorem roundHalfEven_mono (hden : 0 < den) (hden' : 0 < den')
    (h : (num / den : ℚ) ≤ num' / den') : roundHalfEven num den ≤ roundHalfEven num' den' := by
  refine le_of_forall_lt fun m hm => ?_
  rw [lt_roundHalfEven_iff hden] at hm
  rw [lt_roundHalfEven_iff hden']
  rcases hm with hlt | ⟨heq, hodd⟩
  · exact Or.inl (hlt.trans_le h)
  · rw [← heq] at h
    exact h.lt_or_eq.imp_right fun htie => ⟨htie, hodd⟩

theorem roundHalfEven_one (n : Nat) : roundHalfEven n 1 = n := by
  simp [roundHalfEven, Nat.mod_one]

theorem roundHalfEven_le (hden : 0 < den) (h : (num / den : ℚ) ≤ m) :
    roundHalfEven num den ≤ m := by
  have hmono : roundHalfEven num den ≤ roundHalfEven m 1 :=
    roundHalfEven_mono hden Nat.one_pos (by simpa using h)
  rwa [roundHalfEven_one] at hmono

theorem le_roundHalfEven (hden : 0 < den) (h : (m : ℚ) ≤ num / den) :
    m ≤ roundHalfEven num den := by
  have hmono : roundHalfEven m 1 ≤ roundHalfEven num den :=
    roundHalfEven_mono Nat.one_pos hden (by simpa using h)
  rwa [roundHalfEven_one] at hmono

end RoundHalfEven

section Scale

variable {num den : Nat}

theorem scale_den_pos (num : Nat) (hden : 0 < den) (shift : ℤ) : 0 < (scale num den shift).2 := by
  unfold scale
  split
  · exact hden
  · exact Nat.mul_pos hden (twoTo_pos _)

theorem scale_value (num den : Nat) (shift : ℤ) :
    ((scale num den shift).1 / (scale num den shift).2 : ℚ) = num / den * 2 ^ shift := by
  unfold scale
  split_ifs with hshift
  · obtain ⟨n, rfl⟩ := Int.eq_ofNat_of_zero_le hshift
    simp only [Int.toNat_natCast, Nat.cast_mul, cast_twoTo, zpow_natCast]
    ring
  · obtain ⟨n, hn⟩ := Int.eq_ofNat_of_zero_le (by omega : 0 ≤ -shift)
    obtain rfl : shift = -n := by omega
    simp only [neg_neg, Int.toNat_natCast, Nat.cast_mul, cast_twoTo, zpow_neg, zpow_natCast]
    rw [← div_div, div_eq_mul_inv]

theorem two_zpow_le_iff {x : ℚ} {e : ℤ} (hx : 0 < x) : 2 ^ e ≤ x ↔ e ≤ Int.log 2 x := by
  exact_mod_cast Int.zpow_le_iff_le_log Nat.one_lt_two hx

theorem lt_two_zpow_iff {x : ℚ} {e : ℤ} (hx : 0 < x) : x < 2 ^ e ↔ Int.log 2 x < e := by
  exact_mod_cast Int.lt_zpow_iff_log_lt Nat.one_lt_two hx

/-- The exponents of two whole numbers leave two choices for that of their quotient. -/
theorem log_div_bounds (hnum : 0 < num) (hden : 0 < den) :
    (num.log2 : ℤ) - den.log2 - 1 ≤ Int.log 2 (num / den : ℚ) ∧
      Int.log 2 (num / den : ℚ) < (num.log2 : ℤ) - den.log2 + 1 := by
  have hnumQ : (0 : ℚ) < num := by exact_mod_cast hnum
  have hdenQ : (0 : ℚ) < den := by exact_mod_cast hden
  have hlow : (2 : ℚ) ^ num.log2 ≤ num := by exact_mod_cast Nat.log2_self_le hnum.ne'
  have hhigh : (num : ℚ) < 2 ^ (num.log2 + 1) := by exact_mod_cast Nat.lt_log2_self
  have hlow' : (2 : ℚ) ^ den.log2 ≤ den := by exact_mod_cast Nat.log2_self_le hden.ne'
  have hhigh' : (den : ℚ) < 2 ^ (den.log2 + 1) := by exact_mod_cast Nat.lt_log2_self
  have hquotient : ∀ k l : Nat, (2 : ℚ) ^ k / 2 ^ l = 2 ^ ((k : ℤ) - l) := by
    intro k l
    rw [zpow_sub₀ two_ne_zero, zpow_natCast, zpow_natCast]
  constructor
  · rw [← two_zpow_le_iff (div_pos hnumQ hdenQ), sub_sub, ← Nat.cast_succ, ← hquotient]
    exact div_le_div₀ hnumQ.le hlow hdenQ hhigh'.le
  · rw [← lt_two_zpow_iff (div_pos hnumQ hdenQ), sub_add_eq_add_sub, ← Nat.cast_succ, ← hquotient]
    exact div_lt_div₀ hhigh hlow' (by positivity) (by positivity)

theorem scale_le_iff (hnum : 0 < num) (hden : 0 < den) (e : ℤ) :
    (scale num den (-e)).2 ≤ (scale num den (-e)).1 ↔ e ≤ Int.log 2 (num / den : ℚ) := by
  have hpos : (0 : ℚ) < (scale num den (-e)).2 := by exact_mod_cast scale_den_pos num hden _
  have hquotient : (0 : ℚ) < num / den := by positivity
  rw [← Nat.cast_le (α := ℚ), ← one_le_div hpos, scale_value, zpow_neg, ← div_eq_mul_inv,
    one_le_div (by positivity), two_zpow_le_iff hquotient]

theorem floorLog2_eq (hnum : 0 < num) (hden : 0 < den) :
    floorLog2 num den = Int.log 2 (num / den : ℚ) := by
  obtain ⟨hlow, hhigh⟩ := log_div_bounds hnum hden
  -- of the two choices the comparison with the power of two picks one
  have hguess := scale_le_iff hnum hden ((num.log2 : ℤ) - den.log2)
  unfold floorLog2
  simp only
  split_ifs <;> omega

end Scale

section Nearest

variable {num den num' den' : Nat} {x y : ℚ}

/-- A number above zero is counted in steps, and the bits are those of the count. -/
theorem nearestMagnitude_eq (hnum : 0 < num) (hden : 0 < den) (hx : (num / den : ℚ) = x) :
    ∃ n d : Nat, 0 < d ∧ (n / d : ℚ) = x * 2 ^ (1074 - (roundingSpacing x : ℤ)) ∧
      nearestMagnitude num den =
        min (roundingSpacing x * twoTo 52 + roundHalfEven n d) infiniteMagnitude := by
  have hq : max (floorLog2 num den - 52) (-1074) = (roundingSpacing x : ℤ) - 1074 := by
    rw [floorLog2_eq hnum hden, hx, roundingSpacing]
    omega
  let shift : ℤ := 1074 - roundingSpacing x
  refine ⟨(scale num den shift).1, (scale num den shift).2, scale_den_pos num hden shift, ?_, ?_⟩
  · rw [scale_value, hx]
  · rw [nearestMagnitude, if_neg hnum.ne']
    simp only [hq, sub_add_cancel, Int.toNat_natCast, neg_sub]
    rfl

theorem roundingSpacing_mono (hx : 0 < x) (h : x ≤ y) : roundingSpacing x ≤ roundingSpacing y :=
  Int.toNat_le_toNat (add_le_add_left (Int.log_mono_right hx h) _)

/-- The steps are so long that there are fewer than this many to the number. -/
theorem steps_lt (hx : 0 < x) : x * 2 ^ (1074 - (roundingSpacing x : ℤ)) < twoTo 53 := by
  have hbound : x < twoTo 53 * 2 ^ (-(1074 - (roundingSpacing x : ℤ))) := by
    rw [cast_twoTo_mul_zpow, lt_two_zpow_iff hx, roundingSpacing]
    omega
  rwa [zpow_neg, ← div_eq_mul_inv, lt_div_iff₀ (by positivity)] at hbound

/-- They are no longer than that requires, except for the shortest. -/
theorem le_steps (hx : 0 < x) (h : 0 < roundingSpacing x) :
    (twoTo 52 : ℚ) ≤ x * 2 ^ (1074 - (roundingSpacing x : ℤ)) := by
  have hbound : twoTo 52 * 2 ^ (-(1074 - (roundingSpacing x : ℤ))) ≤ x := by
    rw [roundingSpacing] at h
    rw [cast_twoTo_mul_zpow, two_zpow_le_iff hx, roundingSpacing]
    omega
  rwa [zpow_neg, ← div_eq_mul_inv, div_le_iff₀ (by positivity)] at hbound

/-- Rounding keeps the order. Where the spacing changes, the greater number starts at least where
the smaller ones end. -/
theorem nearestMagnitude_mono (hden : 0 < den) (hden' : 0 < den')
    (h : (num / den : ℚ) ≤ num' / den') :
    nearestMagnitude num den ≤ nearestMagnitude num' den' := by
  have hdenQ : (0 : ℚ) < den := by exact_mod_cast hden
  have hdenQ' : (0 : ℚ) < den' := by exact_mod_cast hden'
  rcases Nat.eq_zero_or_pos num with rfl | hnum
  · exact Nat.zero_le _
  have hx : (0 : ℚ) < num / den := div_pos (by exact_mod_cast hnum) hdenQ
  have hnum' : 0 < num' := by
    have hpos := (div_pos_iff_of_pos_right hdenQ').mp (hx.trans_le h)
    exact_mod_cast hpos
  obtain ⟨n, d, hd, hsteps, hbits⟩ := nearestMagnitude_eq hnum hden rfl
  obtain ⟨n', d', hd', hsteps', hbits'⟩ := nearestMagnitude_eq hnum' hden' rfl
  rw [hbits, hbits']
  refine min_le_min_right _ ?_
  rcases (roundingSpacing_mono hx h).eq_or_lt with hsame | hless
  · rw [hsame] at hsteps ⊢
    refine Nat.add_le_add_left (roundHalfEven_mono hd hd' ?_) _
    rw [hsteps, hsteps']
    exact mul_le_mul_of_nonneg_right h (by positivity)
  · have hfew : roundHalfEven n d ≤ twoTo 53 :=
      roundHalfEven_le hd (hsteps.trans_le (steps_lt hx).le)
    have hmany : twoTo 52 ≤ roundHalfEven n' d' := by
      refine le_roundHalfEven hd' ?_
      rw [hsteps']
      exact le_steps (hx.trans_le h) (Nat.zero_lt_of_lt hless)
    have hnext := Nat.mul_le_mul_right (twoTo 52) (Nat.succ_le_of_lt hless)
    rw [Nat.succ_mul] at hnext
    have hdouble : twoTo 53 = twoTo 52 + twoTo 52 := by rw [twoTo_succ, Nat.mul_two]
    omega

theorem nearestMagnitude_congr (hden : 0 < den) (hden' : 0 < den')
    (h : (num / den : ℚ) = num' / den') : nearestMagnitude num den = nearestMagnitude num' den' :=
  Nat.le_antisymm (nearestMagnitude_mono hden hden' h.le) (nearestMagnitude_mono hden' hden h.ge)

theorem toNat_num_div_den (x : ℚ) : (x.num.toNat / x.den : ℚ) = max x 0 := by
  have hnum : (x.num.toNat : ℚ) = max (x.num : ℚ) 0 := by exact_mod_cast Int.toNat_eq_max x.num
  rw [hnum, ← max_div_div_right x.den.cast_nonneg, Rat.num_div_den, zero_div]

theorem nearestMagnitude_eq_roundedMagnitude (hden : 0 < den) :
    nearestMagnitude num den = roundedMagnitude (num / den) := by
  refine nearestMagnitude_congr hden (Rat.den_pos _) ?_
  rw [toNat_num_div_den, max_eq_left (by positivity)]

theorem roundedMagnitude_mono : Monotone roundedMagnitude := by
  intro x y h
  refine nearestMagnitude_mono x.den_pos y.den_pos ?_
  rw [toNat_num_div_den, toNat_num_div_den]
  exact max_le_max_right 0 h

theorem roundedMagnitude_le (x : ℚ) : roundedMagnitude x ≤ infiniteMagnitude := by
  unfold roundedMagnitude nearestMagnitude
  split
  · exact Nat.zero_le _
  · exact Nat.min_le_right _ _

end Nearest

section Value

variable {m : Nat}

theorem significand_cases (m : Nat) : spacing m * twoTo 52 + significand m = m ∧
    significand m < twoTo 53 ∧ (spacing m = 0 ∨ twoTo 52 ≤ significand m) := by
  rw [significand, spacing, twoTo_52, twoTo_53]
  omega

/-- The next double is one step away, also where the steps become longer. -/
theorem magnitudeValue_succ (m : Nat) :
    magnitudeValue (m + 1) = magnitudeValue m + 2 ^ ((spacing m : ℤ) - 1074) := by
  have hnext : spacing (m + 1) = spacing m ∧ significand (m + 1) = significand m + 1 ∨
      spacing (m + 1) = spacing m + 1 ∧ significand (m + 1) = twoTo 52 ∧
        significand m + 1 = twoTo 53 := by
    simp only [significand, spacing, twoTo_52, twoTo_53]
    omega
  unfold magnitudeValue
  rcases hnext with ⟨hspacing, hsteps⟩ | ⟨hspacing, hsteps, hfull⟩
  · rw [hspacing, hsteps]
    push_cast
    ring
  · have hlast : (significand m : ℚ) + 1 = 2 ^ 53 := by rw [← cast_twoTo, ← hfull]; push_cast; rfl
    rw [hspacing, hsteps, cast_twoTo, Nat.cast_succ, add_sub_right_comm, zpow_add_one₀ two_ne_zero]
    linear_combination -2 ^ ((spacing m : ℤ) - 1074) * hlast

theorem magnitudeValue_strictMono : StrictMono magnitudeValue :=
  strictMono_nat_of_lt_succ fun m => by
    rw [magnitudeValue_succ]
    exact lt_add_of_pos_right _ (by positivity)

theorem magnitudeValue_zero : magnitudeValue 0 = 0 := by
  simp [magnitudeValue, significand]

theorem magnitudeValue_nonneg (m : Nat) : 0 ≤ magnitudeValue m := by
  unfold magnitudeValue
  positivity

theorem magnitudeValue_pos (hm : 0 < m) : 0 < magnitudeValue m :=
  magnitudeValue_zero ▸ magnitudeValue_strictMono hm

theorem roundingSpacing_magnitudeValue (hm : 0 < m) :
    roundingSpacing (magnitudeValue m) = spacing m := by
  obtain ⟨-, hfew, hmany⟩ := significand_cases m
  have hpos := magnitudeValue_pos hm
  have hupper : magnitudeValue m < twoTo 53 * 2 ^ ((spacing m : ℤ) - 1074) :=
    mul_lt_mul_of_pos_right (by exact_mod_cast hfew) (by positivity)
  rw [cast_twoTo_mul_zpow, lt_two_zpow_iff hpos] at hupper
  rw [roundingSpacing]
  rcases hmany with hshortest | hmany
  · omega
  · have hlower : twoTo 52 * 2 ^ ((spacing m : ℤ) - 1074) ≤ magnitudeValue m :=
      mul_le_mul_of_nonneg_right (by exact_mod_cast hmany) (by positivity)
    rw [cast_twoTo_mul_zpow, two_zpow_le_iff hpos] at hlower
    omega

/-- What a double stands for is rounded to that double. -/
theorem roundedMagnitude_magnitudeValue (hm : m ≤ infiniteMagnitude) :
    roundedMagnitude (magnitudeValue m) = m := by
  rcases Nat.eq_zero_or_pos m with rfl | hpos
  · rw [magnitudeValue_zero]
    rfl
  have hvalue := magnitudeValue_pos hpos
  have hnum := Int.lt_toNat.mpr (Rat.num_pos.mpr hvalue)
  obtain ⟨n, d, hd, hsteps, hbits⟩ := nearestMagnitude_eq hnum (Rat.den_pos _)
    ((toNat_num_div_den _).trans (max_eq_left hvalue.le))
  rw [roundingSpacing_magnitudeValue hpos] at hsteps hbits
  have hwhole : (n / d : ℚ) = significand m := by
    rw [hsteps, magnitudeValue, mul_assoc, ← zpow_add₀ two_ne_zero, sub_add_sub_cancel, sub_self,
      zpow_zero, mul_one]
  have hcount : roundHalfEven n d = significand m :=
    Nat.le_antisymm (roundHalfEven_le hd hwhole.le) (le_roundHalfEven hd hwhole.ge)
  rw [roundedMagnitude, hbits, hcount, (significand_cases m).1, Nat.min_eq_left hm]

theorem roundedMagnitude_zero : roundedMagnitude 0 = 0 := rfl

/-- A number does not reach beyond the double it is rounded to, or it would be rounded further. -/
theorem lt_magnitudeValue_succ {x : ℚ} (hx : roundedMagnitude x < infiniteMagnitude) :
    x < magnitudeValue (roundedMagnitude x + 1) := by
  by_contra hbeyond
  have hfurther := roundedMagnitude_mono (not_lt.mp hbeyond)
  rw [roundedMagnitude_magnitudeValue (Nat.succ_le_of_lt hx)] at hfurther
  omega

/-- Nothing is lost on a whole number of steps. -/
theorem magnitudeValue_roundedMagnitude {x : ℚ} {steps : Nat} (hx : 0 < x)
    (hsteps : x * 2 ^ (1074 - (roundingSpacing x : ℤ)) = steps) (hfits : roundingSpacing x ≤ 2045) :
    magnitudeValue (roundedMagnitude x) = x := by
  have hfew : steps < twoTo 53 := by exact_mod_cast hsteps ▸ steps_lt hx
  have hmany : roundingSpacing x = 0 ∨ twoTo 52 ≤ steps :=
    (Nat.eq_zero_or_pos _).imp_right fun hlong => by exact_mod_cast hsteps ▸ le_steps hx hlong
  let m := roundingSpacing x * twoTo 52 + steps
  have hm : spacing m = roundingSpacing x ∧ significand m = steps ∧ m ≤ infiniteMagnitude := by
    rw [twoTo_53] at hfew
    rw [twoTo_52] at hmany
    simp only [m, significand, spacing, infiniteMagnitude, exponentOnes, twoTo_52]
    omega
  obtain ⟨hspacing, hsignificand, hfinite⟩ := hm
  have hvalue : magnitudeValue m = x := by
    rw [magnitudeValue, hspacing, hsignificand, ← hsteps, mul_assoc, ← zpow_add₀ two_ne_zero,
      sub_add_sub_cancel, sub_self, zpow_zero, mul_one]
  rw [← hvalue, roundedMagnitude_magnitudeValue hfinite]

/-- A whole number that has 53 binary digits, apart from zeros behind them, is that of a double. -/
theorem magnitudeValue_roundedMagnitude_natCast {n zeros : Nat} (hdvd : twoTo zeros ∣ n)
    (hn : n < twoTo (53 + zeros)) (hfits : zeros ≤ 971) :
    magnitudeValue (roundedMagnitude n) = n := by
  rcases Nat.eq_zero_or_pos n with rfl | hpos
  · rw [Nat.cast_zero, roundedMagnitude_zero, magnitudeValue_zero]
  have hposQ : (0 : ℚ) < n := by exact_mod_cast hpos
  have hspacing : roundingSpacing n ≤ 1074 + zeros := by
    have hlog : (n : ℚ) < 2 ^ ((53 + zeros : ℕ) : ℤ) := by
      rw [zpow_natCast, ← cast_twoTo]
      exact_mod_cast hn
    rw [lt_two_zpow_iff hposQ] at hlog
    rw [roundingSpacing]
    omega
  obtain ⟨k, hk⟩ := hdvd
  have hsteps : (n : ℚ) * 2 ^ (1074 - (roundingSpacing n : ℤ)) =
      (twoTo (1074 + zeros - roundingSpacing n) * k : ℕ) := by
    generalize roundingSpacing n = r at hspacing ⊢
    rw [hk, Nat.cast_mul, mul_right_comm, cast_twoTo_mul_zpow, Nat.cast_mul, cast_twoTo,
      ← zpow_natCast, Nat.cast_sub hspacing]
    congr 2
    push_cast
    ring
  exact magnitudeValue_roundedMagnitude hposQ hsteps (by omega)

theorem magnitude_one : one.magnitude = 1023 * twoTo 52 := by decide +kernel

theorem spacing_one : spacing one.magnitude = 1022 := by decide +kernel

theorem one_magnitude_le : one.magnitude ≤ infiniteMagnitude := by decide +kernel

theorem magnitudeValue_one : magnitudeValue one.magnitude = 1 := by
  have hsignificand : significand one.magnitude = twoTo 52 := by decide +kernel
  rw [magnitudeValue, hsignificand, spacing_one, cast_twoTo_mul_zpow]
  norm_num

theorem one_le_magnitudeValue (hm : one.magnitude ≤ m) : 1 ≤ magnitudeValue m :=
  magnitudeValue_one ▸ magnitudeValue_strictMono.monotone hm

theorem le_roundedMagnitude_mul {g : Nat} (hm : m ≤ infiniteMagnitude) (hg : one.magnitude ≤ g) :
    m ≤ roundedMagnitude (magnitudeValue m * magnitudeValue g) := by
  have hgrown := le_mul_of_one_le_right (magnitudeValue_nonneg m) (one_le_magnitudeValue hg)
  have hmono := roundedMagnitude_mono hgrown
  rwa [roundedMagnitude_magnitudeValue hm] at hmono

/-- A factor above one takes a double to the next one at least. -/
theorem magnitudeValue_succ_le_mul {g : Nat} (hm : one.magnitude ≤ m) (hg : one.magnitude < g) :
    magnitudeValue (m + 1) ≤ magnitudeValue m * magnitudeValue g := by
  have hnormal : twoTo 52 ≤ significand m := by
    refine (significand_cases m).2.2.resolve_left fun hshortest => ?_
    rw [spacing, twoTo_52] at hshortest
    rw [magnitude_one, twoTo_52] at hm
    omega
  have hfactor : 1 + 2 ^ (-52 : ℤ) ≤ magnitudeValue g := by
    have hnext := magnitudeValue_strictMono.monotone (Nat.succ_le_of_lt hg)
    rw [Nat.succ_eq_add_one, magnitudeValue_succ, magnitudeValue_one, spacing_one] at hnext
    exact hnext
  have hstep : (2 : ℚ) ^ ((spacing m : ℤ) - 1074) ≤ magnitudeValue m * 2 ^ (-52 : ℤ) := by
    have hmany : (twoTo 52 : ℚ) ≤ significand m := by exact_mod_cast hnormal
    have hunit : (twoTo 52 : ℚ) * 2 ^ (-52 : ℤ) = 1 := by
      rw [cast_twoTo_mul_zpow]
      norm_num
    calc (2 : ℚ) ^ ((spacing m : ℤ) - 1074)
        = twoTo 52 * 2 ^ ((spacing m : ℤ) - 1074) * 2 ^ (-52 : ℤ) := by
          rw [mul_right_comm, hunit, one_mul]
      _ ≤ significand m * 2 ^ ((spacing m : ℤ) - 1074) * 2 ^ (-52 : ℤ) := by gcongr
  calc magnitudeValue (m + 1) = magnitudeValue m + 2 ^ ((spacing m : ℤ) - 1074) :=
        magnitudeValue_succ m
    _ ≤ magnitudeValue m + magnitudeValue m * 2 ^ (-52 : ℤ) := by gcongr
    _ = magnitudeValue m * (1 + 2 ^ (-52 : ℤ)) := by ring
    _ ≤ magnitudeValue m * magnitudeValue g := by
        gcongr
        exact magnitudeValue_nonneg m

end Value

end Binary64

end ChannelMux
