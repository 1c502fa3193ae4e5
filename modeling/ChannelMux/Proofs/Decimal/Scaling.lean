import ChannelMux.Proofs.Decimal.Rounding
import Mathlib.Algebra.Order.Floor.Semifield

/-!
Numbers times a factor that does not shrink, cut to their whole part. What is cut off in rounding
keeps the order, and a factor above one makes up for it.
-/
namespace ChannelMux

namespace Binary64

section Operations

variable {x : Binary64} {m g limit : Nat}

theorem lt_twoTo_63 (hm : m ≤ infiniteMagnitude) : m < twoTo 63 :=
  lt_of_le_of_lt hm (by decide)

theorem toNat_bits_ofMagnitude (hm : m ≤ infiniteMagnitude) :
    (ofMagnitude false m).bits.toNat = m :=
  UInt64.toNat_ofNat_of_lt' ((lt_twoTo_63 hm).trans (by decide))

theorem magnitude_ofMagnitude (hm : m ≤ infiniteMagnitude) :
    (ofMagnitude false m).magnitude = m := by
  rw [magnitude, toNat_bits_ofMagnitude hm, Nat.mod_eq_of_lt (lt_twoTo_63 hm)]

theorem isNegative_ofMagnitude (hm : m ≤ infiniteMagnitude) :
    (ofMagnitude false m).isNegative = false := by
  rw [isNegative, toNat_bits_ofMagnitude hm]
  exact decide_eq_false (Nat.not_le.mpr (lt_twoTo_63 hm))

theorem ofMagnitude_magnitude (hx : x.isNegative = false) : ofMagnitude false x.magnitude = x := by
  have hfits : x.bits.toNat < twoTo 63 := Nat.not_le.mp (of_decide_eq_false hx)
  rw [magnitude, Nat.mod_eq_of_lt hfits]
  change Binary64.mk (UInt64.ofNat x.bits.toNat) = x
  rw [UInt64.ofNat_toNat]

theorem parts_eq (x : Binary64) :
    x.parts = (significand x.magnitude, (spacing x.magnitude : ℤ) - 1074) := by
  unfold parts significand spacing
  simp only
  split_ifs with hexponent
  · rw [twoTo_52] at hexponent ⊢
    rw [Prod.mk.injEq]
    omega
  · rw [twoTo_52] at hexponent ⊢
    rw [Prod.mk.injEq]
    omega

/-- The whole part of what magnitude bits stand for, kept to a limit, which is also what becomes of
infinity. -/
def wholePart (m limit : Nat) : Nat :=
  if m = infiniteMagnitude then limit else min ⌊magnitudeValue m⌋₊ limit

theorem wholePart_zero (limit : Nat) : wholePart 0 limit = 0 := by
  have hfinite : 0 ≠ infiniteMagnitude := by decide +kernel
  rw [wholePart, if_neg hfinite, magnitudeValue_zero, Nat.floor_zero, Nat.zero_min]

theorem wholePart_mono (hmg : m ≤ g) (hg : g ≤ infiniteMagnitude) :
    wholePart m limit ≤ wholePart g limit := by
  unfold wholePart
  split_ifs with hm hg'
  · exact le_rfl
  · omega
  · exact Nat.min_le_right _ _
  · exact min_le_min_right _ (Nat.floor_mono (magnitudeValue_strictMono.monotone hmg))

theorem le_wholePart {n : Nat} (hm : (n : ℚ) ≤ magnitudeValue m) (hlimit : n ≤ limit) :
    n ≤ wholePart m limit := by
  unfold wholePart
  split
  · exact hlimit
  · exact Nat.le_min.mpr ⟨Nat.le_floor hm, hlimit⟩

theorem isNaN_ofMagnitude (hm : m ≤ infiniteMagnitude) : (ofMagnitude false m).isNaN = false := by
  rw [isNaN, magnitude_ofMagnitude hm]
  exact decide_eq_false (Nat.not_lt.mpr hm)

theorem isInfinite_ofMagnitude (hm : m ≤ infiniteMagnitude) :
    (ofMagnitude false m).isInfinite = decide (m = infiniteMagnitude) := by
  rw [isInfinite, magnitude_ofMagnitude hm]

theorem isZero_ofMagnitude (hm : m ≤ infiniteMagnitude) :
    (ofMagnitude false m).isZero = decide (m = 0) := by
  rw [isZero, magnitude_ofMagnitude hm]

theorem scale_significand (m : Nat) :
    ((scale (significand m) 1 ((spacing m : ℤ) - 1074)).1 /
      (scale (significand m) 1 ((spacing m : ℤ) - 1074)).2 : ℚ) = magnitudeValue m := by
  rw [scale_value, Nat.cast_one, div_one]
  rfl

theorem toNatClamped_ofMagnitude (hm : m ≤ infiniteMagnitude) (limit : Nat) :
    (ofMagnitude false m).toNatClamped limit = wholePart m limit := by
  unfold toNatClamped wholePart
  simp only [isNaN_ofMagnitude hm, isNegative_ofMagnitude hm, isInfinite_ofMagnitude hm, parts_eq,
    magnitude_ofMagnitude hm, Bool.or_self, Bool.false_eq_true, if_false, decide_eq_true_eq]
  split_ifs
  · rfl
  · rw [← scale_significand, Nat.floor_div_eq_div]

/-- The product of finite numbers is rounded once. -/
theorem mul_ofMagnitude (hm : m < infiniteMagnitude) (hg : g < infiniteMagnitude) :
    (ofMagnitude false m).mul (ofMagnitude false g) =
      ofMagnitude false (roundedMagnitude (magnitudeValue m * magnitudeValue g)) := by
  unfold mul
  simp only [isNaN_ofMagnitude hm.le, isNaN_ofMagnitude hg.le, isInfinite_ofMagnitude hm.le,
    isInfinite_ofMagnitude hg.le, isNegative_ofMagnitude hm.le, isNegative_ofMagnitude hg.le,
    parts_eq, magnitude_ofMagnitude hm.le, magnitude_ofMagnitude hg.le, hm.ne, hg.ne, decide_false,
    Bool.or_self, Bool.false_eq_true, if_false, bne_self_eq_false, nearest]
  rw [nearestMagnitude_eq_roundedMagnitude (scale_den_pos _ Nat.one_pos _), scale_value]
  congr 2
  rw [magnitudeValue, magnitudeValue, Nat.cast_one, div_one, zpow_add₀ two_ne_zero, Nat.cast_mul]
  ring

theorem mul_of_infinite (hm : m ≤ infiniteMagnitude) (hg : g ≤ infiniteMagnitude)
    (hinfinite : m = infiniteMagnitude ∨ g = infiniteMagnitude) :
    (ofMagnitude false m).mul (ofMagnitude false g) =
      if m = 0 ∨ g = 0 then nan else infinity false := by
  unfold mul
  simp only [isNaN_ofMagnitude hm, isNaN_ofMagnitude hg, isInfinite_ofMagnitude hm,
    isInfinite_ofMagnitude hg, isNegative_ofMagnitude hm, isNegative_ofMagnitude hg,
    isZero_ofMagnitude hm, isZero_ofMagnitude hg, Bool.or_self, Bool.false_eq_true, if_false,
    bne_self_eq_false, Bool.or_eq_true, decide_eq_true_eq, hinfinite, if_true]

/-- The whole part of a product with a factor that does not shrink. Zero times infinity is no number
and counts as zero, which is what the bits say. -/
theorem toNatClamped_mul (hm : m ≤ infiniteMagnitude) (hm' : m = 0 ∨ one.magnitude ≤ m)
    (hg : g ≤ infiniteMagnitude) (hg' : one.magnitude ≤ g) (limit : Nat) :
    ((ofMagnitude false m).mul (ofMagnitude false g)).toNatClamped limit =
      wholePart (roundedMagnitude (magnitudeValue m * magnitudeValue g)) limit := by
  by_cases hinfinite : m = infiniteMagnitude ∨ g = infiniteMagnitude
  · rw [mul_of_infinite hm hg hinfinite]
    rcases hm' with rfl | hm'
    · have hnan : nan.isNaN = true := by decide +kernel
      rw [if_pos (Or.inl rfl), magnitudeValue_zero, zero_mul, roundedMagnitude_zero, wholePart_zero,
        toNatClamped, hnan]
      rfl
    · have hnonzero : ¬(m = 0 ∨ g = 0) := by
        have hone : 0 < one.magnitude := by decide +kernel
        omega
      -- `magnitudeValue` counts infinity as a power of two, so the product of the values, too, is
      -- rounded to infinity
      have hproduct :
          infiniteMagnitude ≤ roundedMagnitude (magnitudeValue m * magnitudeValue g) := by
        rcases hinfinite with rfl | rfl
        · exact le_roundedMagnitude_mul le_rfl hg'
        · exact mul_comm (magnitudeValue m) _ ▸ le_roundedMagnitude_mul le_rfl hm'
      rw [if_neg hnonzero, Nat.le_antisymm (roundedMagnitude_le _) hproduct]
      exact toNatClamped_ofMagnitude le_rfl limit
  · obtain ⟨hmFinite, hgFinite⟩ := not_or.mp hinfinite
    rw [mul_ofMagnitude (hm.lt_of_ne hmFinite) (hg.lt_of_ne hgFinite),
      toNatClamped_ofMagnitude (roundedMagnitude_le _)]

theorem ofNat_eq (n : Nat) : ofNat n = ofMagnitude false (roundedMagnitude n) := by
  rw [ofNat, nearest, nearestMagnitude_eq_roundedMagnitude Nat.one_pos, Nat.cast_one, div_one]

theorem one_le_roundedMagnitude {n : Nat} (hn : 0 < n) : one.magnitude ≤ roundedMagnitude n := by
  rw [← roundedMagnitude_magnitudeValue one_magnitude_le, magnitudeValue_one]
  exact roundedMagnitude_mono (by exact_mod_cast hn)

theorem toNatClamped_ofNat_mul (hg : g ≤ infiniteMagnitude) (hg' : one.magnitude ≤ g)
    (n limit : Nat) :
    ((ofNat n).mul (ofMagnitude false g)).toNatClamped limit =
      wholePart (roundedMagnitude (magnitudeValue (roundedMagnitude n) * magnitudeValue g))
        limit := by
  have hwhole : roundedMagnitude n = 0 ∨ one.magnitude ≤ roundedMagnitude n := by
    refine (Nat.eq_zero_or_pos n).imp (fun hzero => ?_) one_le_roundedMagnitude
    rw [hzero, Nat.cast_zero, roundedMagnitude_zero]
  rw [ofNat_eq]
  exact toNatClamped_mul (roundedMagnitude_le _) hwhole hg hg' limit

theorem atLeastOne_eq (x : Binary64) : ∃ g, one.magnitude ≤ g ∧ g ≤ infiniteMagnitude ∧
    x.atLeastOne = ofMagnitude false g := by
  unfold atLeastOne
  split_ifs with hsmall
  · exact ⟨one.magnitude, le_rfl, one_magnitude_le, rfl⟩
  · simp only [Bool.or_eq_true, decide_eq_true_eq, not_or, Bool.not_eq_true] at hsmall
    obtain ⟨⟨hnumber, hpositive⟩, hlarge⟩ := hsmall
    exact ⟨x.magnitude, Nat.le_of_not_lt hlarge, Nat.le_of_not_lt (of_decide_eq_false hnumber),
      (ofMagnitude_magnitude hpositive).symm⟩

end Operations

section Growth

variable (x : Binary64) {n n' limit : Nat}

theorem growth_mono (h : n ≤ n') :
    ((ofNat n).mul x.atLeastOne).toNatClamped limit ≤
      ((ofNat n').mul x.atLeastOne).toNatClamped limit := by
  obtain ⟨g, hg', hg, hfactor⟩ := x.atLeastOne_eq
  have hrounded : roundedMagnitude n ≤ roundedMagnitude n' :=
    roundedMagnitude_mono (by exact_mod_cast h)
  rw [hfactor, toNatClamped_ofNat_mul hg hg', toNatClamped_ofNat_mul hg hg']
  refine wholePart_mono (roundedMagnitude_mono ?_) (roundedMagnitude_le _)
  exact mul_le_mul_of_nonneg_right (magnitudeValue_strictMono.monotone hrounded)
    (magnitudeValue_nonneg g)

/-- A number that 53 binary digits can tell is not cut down. -/
theorem le_toNatClamped_ofNat {zeros : Nat} (hdvd : twoTo zeros ∣ n) (hn : n < twoTo (53 + zeros))
    (hfits : zeros ≤ 971) (hlimit : n ≤ limit) : n ≤ (ofNat n).toNatClamped limit := by
  rw [ofNat_eq, toNatClamped_ofMagnitude (roundedMagnitude_le _)]
  exact le_wholePart (magnitudeValue_roundedMagnitude_natCast hdvd hn hfits).ge hlimit

/-- A factor above one makes up for what the rounding of a number may take away from it. -/
theorem le_growth (hx : x.atLeastOne ≠ one) (hn : n ≤ limit) :
    n ≤ ((ofNat n).mul x.atLeastOne).toNatClamped limit := by
  obtain ⟨g, hg', hg, hfactor⟩ := x.atLeastOne_eq
  have habove : one.magnitude < g := hg'.lt_of_ne fun hsame => hx (hfactor.trans (hsame ▸ rfl))
  rw [hfactor, toNatClamped_ofNat_mul hg hg']
  rcases Nat.eq_zero_or_pos n with rfl | hpos
  · exact Nat.zero_le _
  have hm := one_le_roundedMagnitude hpos
  rcases (roundedMagnitude_le (n : ℚ)).lt_or_eq with hfinite | hinfinite
  · refine le_wholePart ?_ hn
    have hnext := roundedMagnitude_mono (magnitudeValue_succ_le_mul hm habove)
    rw [roundedMagnitude_magnitudeValue (Nat.succ_le_of_lt hfinite)] at hnext
    exact (lt_magnitudeValue_succ hfinite).le.trans (magnitudeValue_strictMono.monotone hnext)
  · have hstill : infiniteMagnitude ≤
        roundedMagnitude (magnitudeValue (roundedMagnitude n) * magnitudeValue g) :=
      hinfinite.ge.trans (le_roundedMagnitude_mul (roundedMagnitude_le _) hg')
    rw [Nat.le_antisymm (roundedMagnitude_le _) hstill, wholePart, if_pos rfl]
    exact hn

theorem growth_one (n limit : Nat) :
    ((ofNat n).mul one).toNatClamped limit = (ofNat n).toNatClamped limit := by
  have hself : one = ofMagnitude false one.magnitude := rfl
  rw [hself, toNatClamped_ofNat_mul one_magnitude_le le_rfl, magnitudeValue_one, mul_one,
    roundedMagnitude_magnitudeValue (roundedMagnitude_le _), ofNat_eq,
    toNatClamped_ofMagnitude (roundedMagnitude_le _)]

end Growth

end Binary64

end ChannelMux
