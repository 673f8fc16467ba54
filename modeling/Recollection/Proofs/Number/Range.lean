import Mathlib.Algebra.Order.Field.Basic
import Mathlib.Data.Rat.Cast.Order
import Mathlib.Tactic.Linarith
import Recollection.Proofs.Number.Order
/-!
# The range of finite numbers

A ratio is rounded to a finite number unless it comes up to half a step beyond the greatest one, and
to a positive one if it is above half the least of these. So it can be told from the digits of a
decimal and its exponent whether it is read as a finite number, and whether as one above zero; the
cut-offs of the reader do not show.
-/

set_option autoImplicit false

namespace Recollection

theorem roundHalfEven_pos_iff {numerator denominator : Nat} (hpos : 0 < denominator) :
    0 < roundHalfEven numerator denominator ↔ denominator < 2 * numerator := by
  rcases Nat.lt_or_ge numerator denominator with hbelow | habove
  · unfold roundHalfEven
    simp only [Nat.div_eq_of_lt hbelow, Nat.mod_eq_of_lt hbelow]
    split
    · omega
    · split <;> omega
  · have hone : 1 ≤ roundHalfEven numerator denominator := le_roundHalfEven hpos (by omega)
    omega

namespace Binary64

/-! ## Ratios -/

/-- Half a step beyond the greatest finite number. -/
def overflow : Nat := (2 ^ 54 - 1) * Nat.pow 2 970

/-- A limit, in units, is half a step beyond the last number on a grid. -/
def IsEndOf (limit grid : Nat) : Prop :=
  2 * limit + 2 ^ grid = 2 ^ 54 * 2 ^ grid

section Ratio

variable {numerator denominator : Nat}

/-- A ratio is rounded up from zero if it is above half a unit. -/
theorem roundUnits_pos_iff (hpos : 0 < denominator) :
    0 < roundUnits numerator denominator ↔ denominator < 2 * numerator := by
  rw [roundUnits_eq]
  rcases Nat.eq_zero_or_pos (gridExponent numerator denominator) with hfinest | hcoarse
  · rw [gridPlace, hfinest, Nat.zero_mul, Nat.zero_add, Nat.pow_zero, Nat.mul_one,
      roundHalfEven_pos_iff hpos]
  · have hplace := le_gridPlace hpos hcoarse
    have hweight : 0 < exponentWeight := by decide
    have hle : denominator ≤ numerator := by
      by_contra hless
      rw [gridExponent, Nat.div_eq_of_lt (Nat.lt_of_not_le hless), Nat.log2_zero] at hcoarse
      omega
    omega

/-- A ratio that comes up to the limit is rounded beyond the finite numbers. -/
theorem infinityMagnitude_le_roundUnits (hpos : 0 < denominator)
    (hle : overflow * unitsPerOne * denominator ≤ numerator) :
    infinityMagnitude ≤ roundUnits numerator denominator :=
  calc infinityMagnitude
      = roundUnits (overflow * unitsPerOne) 1 := by decide +kernel
    _ = roundUnits (overflow * unitsPerOne * denominator) (1 * denominator) :=
        (roundUnits_mul_right _ _ hpos).symm
    _ ≤ roundUnits numerator denominator := by
        rw [Nat.one_mul]
        exact roundUnits_mono hpos hle

section Grid

variable {limit grid : Nat} (hlimit : IsEndOf limit grid)
  (hless : numerator < limit * denominator) (hpos : 0 < denominator)

include hlimit hless hpos

/-- A ratio below the limit lies on the grid or on a finer one. -/
theorem gridExponent_le_of_lt : gridExponent numerator denominator ≤ grid := by
  have hbelow : limit < 2 ^ (grid + 53) := by
    have hstep := Nat.two_pow_pos grid
    unfold IsEndOf at hlimit
    rw [Nat.pow_add]
    linarith
  have hquotient : numerator / denominator < 2 ^ (grid + 53) :=
    Nat.lt_trans ((Nat.div_lt_iff_lt_mul hpos).2 hless) hbelow
  unfold gridExponent
  rcases Nat.eq_zero_or_pos (numerator / denominator) with hzero | hsome
  · rw [hzero, Nat.log2_zero]
    exact Nat.zero_le _
  · have hlog := (Nat.log2_lt (Nat.ne_of_gt hsome)).2 hquotient
    exact Nat.sub_le_of_le_add (Nat.le_of_lt_succ hlog)

/-- On that grid, the place of a ratio below the limit has fifty-three bits. -/
theorem gridPlace_lt_of_lt (hgrid : gridExponent numerator denominator = grid) :
    gridPlace numerator denominator < 2 ^ 53 := by
  have hscaled : 2 * (limit * denominator) + denominator * 2 ^ grid =
      2 ^ 54 * (denominator * 2 ^ grid) := by
    rw [← Nat.mul_assoc, Nat.mul_comm denominator, ← Nat.add_mul, show _ = _ from hlimit,
      Nat.mul_assoc]
  rw [gridPlace, hgrid]
  apply Nat.lt_succ_of_le
  apply roundHalfEven_le_of_lt (Nat.mul_pos hpos (Nat.two_pow_pos _))
  linarith

/-- A ratio below the limit is not rounded to the next grid. -/
theorem roundUnits_lt_of_lt : roundUnits numerator denominator < (grid + 2) * exponentWeight := by
  have hplace := gridPlace_le numerator hpos
  have hweight : exponentWeight = 2 ^ 52 := by decide
  rw [roundUnits_eq, Nat.add_mul]
  rcases Nat.lt_or_eq_of_le (gridExponent_le_of_lt hlimit hless hpos) with hfiner | hlast
  · have hbelow : (gridExponent numerator denominator + 1) * exponentWeight ≤
        grid * exponentWeight := Nat.mul_le_mul_right _ hfiner
    rw [Nat.add_mul, Nat.one_mul] at hbelow
    omega
  · have hfull := gridPlace_lt_of_lt hlimit hless hpos hlast
    rw [hlast]
    omega

end Grid

theorem magnitude_ofRatio (numerator denominator : Nat) :
    (ofRatio false numerator denominator).magnitude =
      min (roundUnits (numerator * unitsPerOne) denominator) infinityMagnitude := by
  have hsign : infinityMagnitude < signWeight := by decide
  rw [ofRatio, magnitude_ofMagnitude (Nat.lt_of_le_of_lt (Nat.min_le_right _ _) hsign)]

/-- A ratio is rounded to a finite number if it is below the limit. -/
theorem isFinite_ofRatio_iff (hpos : 0 < denominator) :
    (ofRatio false numerator denominator).isFinite = true ↔ numerator < overflow * denominator := by
  have hscale : numerator < overflow * denominator ↔
      numerator * unitsPerOne < overflow * unitsPerOne * denominator := by
    rw [Nat.mul_right_comm, Nat.mul_lt_mul_right unitsPerOne_pos]
  rw [isFinite, decide_eq_true_iff, magnitude_ofRatio, hscale]
  constructor
  · intro hfinite
    by_contra hnot
    have hbeyond := infinityMagnitude_le_roundUnits hpos (Nat.le_of_not_lt hnot)
    omega
  · intro hless
    have hlimit : IsEndOf (overflow * unitsPerOne) 2045 := by
      unfold IsEndOf
      decide +kernel
    have hinfinity : infinityMagnitude = (2045 + 2) * exponentWeight := by decide
    have hbelow := roundUnits_lt_of_lt hlimit hless hpos
    omega

/-- A number without a sign is above zero if it has a magnitude and is no NaN. -/
theorem zero_lt_iff {x : Binary64} (hsign : x.isNegative = false)
    (hnumber : x.magnitude ≤ infinityMagnitude) : zero.lt x = true ↔ 0 < x.magnitude := by
  have hzero : zero.isNaN = false := by decide
  have hzeroKey : zero.key = 0 := by decide
  have hnan : x.isNaN = false := decide_eq_false (Nat.not_lt.2 hnumber)
  rw [lt_iff_key_lt hzero hnan, hzeroKey, key, hsign, if_neg Bool.false_ne_true, Int.natCast_pos]

/-- A ratio is rounded to a number above zero if it is above half the least one. -/
theorem zero_lt_ofRatio_iff (hpos : 0 < denominator) :
    zero.lt (ofRatio false numerator denominator) = true ↔
      denominator < 2 * (numerator * unitsPerOne) := by
  have hmagnitude := magnitude_ofRatio numerator denominator
  have hinfinity : 0 < infinityMagnitude ∧ infinityMagnitude < signWeight := by decide
  have hsign : (ofRatio false numerator denominator).isNegative = false := by
    rw [ofRatio, isNegative_ofMagnitude (by omega)]
  rw [zero_lt_iff hsign (by omega), hmagnitude, ← roundUnits_pos_iff hpos]
  omega

end Ratio

/-! ## Decimals -/

/-- Half the least number above zero. -/
def halfUnit : ℚ :=
  1 / (2 * unitsPerOne)

/-- A number is finite, and above zero, as the value says that it was read from. -/
structure KeepsRange (x : Binary64) (value : ℚ) : Prop where
  /-- It is finite if the value is below the limit. -/
  finite_iff : x.isFinite = true ↔ value < overflow
  /-- It is above zero if the value is above half the least one. -/
  positive_iff : zero.lt x = true ↔ halfUnit < value

theorem two_mul_unitsPerOne_pos : (0 : ℚ) < 2 * unitsPerOne :=
  mul_pos two_pos (Nat.cast_pos.2 unitsPerOne_pos)

theorem halfUnit_lt_overflow : halfUnit < overflow := by
  have hless : 1 < overflow * (2 * unitsPerOne) := by decide +kernel
  rw [halfUnit, div_lt_iff₀ two_mul_unitsPerOne_pos]
  exact_mod_cast hless

section Value

variable {value : ℚ} {digits : Nat} {exponent : Int}

theorem keepsRange_zero (hsmall : value ≤ halfUnit) : KeepsRange (ofMagnitude false 0) value where
  finite_iff := iff_of_true (by decide) (hsmall.trans_lt halfUnit_lt_overflow)
  positive_iff := iff_of_false (by decide) (not_lt.2 hsmall)

theorem keepsRange_infinity (hgreat : overflow ≤ value) : KeepsRange (infinity false) value where
  finite_iff := iff_of_false (by decide) (not_lt.2 hgreat)
  positive_iff := iff_of_true (by decide) (halfUnit_lt_overflow.trans_le hgreat)

theorem keepsRange_ofRatio {numerator denominator : Nat} (hpos : 0 < denominator)
    (hvalue : value = numerator / denominator) :
    KeepsRange (ofRatio false numerator denominator) value := by
  have hcast : (0 : ℚ) < denominator := Nat.cast_pos.2 hpos
  constructor
  · rw [isFinite_ofRatio_iff hpos, hvalue, div_lt_iff₀ hcast]
    exact_mod_cast Iff.rfl
  · rw [zero_lt_ofRatio_iff hpos, hvalue, halfUnit, div_lt_div_iff₀ two_mul_unitsPerOne_pos hcast,
      one_mul, mul_left_comm]
    exact_mod_cast Iff.rfl

/-- Above the upper cut-off of the reader every decimal comes up to the limit. -/
theorem overflow_le_of_lt_exponent (hdigits : digits ≠ 0) (hgreat : 400 < exponent) :
    (overflow : ℚ) ≤ digits * 10 ^ exponent := by
  obtain ⟨places, rfl⟩ := Int.eq_ofNat_of_zero_le (show 0 ≤ exponent by omega)
  have hwhole : wholeDigitsLimit = 309 := rfl
  have hlimit : overflow ≤ 10 ^ wholeDigitsLimit := by decide +kernel
  have hvalue : overflow ≤ digits * 10 ^ places :=
    calc overflow
        ≤ 10 ^ wholeDigitsLimit := hlimit
      _ ≤ 10 ^ places := Nat.pow_le_pow_right (by decide) (by omega)
      _ ≤ digits * 10 ^ places := Nat.le_mul_of_pos_left _ (Nat.pos_of_ne_zero hdigits)
  rw [zpow_natCast]
  exact_mod_cast hvalue

/-- Below the lower cut-off of the reader no decimal comes above half the least number. -/
theorem le_halfUnit_of_exponent_lt (hsmall : exponent < -(digits.log2 : Int) - 1200) :
    (digits : ℚ) * 10 ^ exponent ≤ halfUnit := by
  obtain ⟨places, hplaces⟩ := Int.eq_ofNat_of_zero_le (show 0 ≤ -exponent by omega)
  obtain rfl : exponent = -(places : Int) := by omega
  have hfinest : finestPlaces = 1074 := rfl
  have hlimit : 2 * unitsPerOne ≤ 10 ^ finestPlaces := by decide +kernel
  have hdigits : digits ≤ 10 ^ (digits.log2 + 1) :=
    (Nat.lt_of_lt_of_le Nat.lt_log2_self (Nat.pow_le_pow_left (by decide) _)).le
  have hvalue : digits * (2 * unitsPerOne) ≤ 10 ^ places :=
    calc digits * (2 * unitsPerOne)
        ≤ 10 ^ (digits.log2 + 1) * 10 ^ finestPlaces := Nat.mul_le_mul hdigits hlimit
      _ = 10 ^ (digits.log2 + 1 + finestPlaces) := (Nat.pow_add 10 _ _).symm
      _ ≤ 10 ^ places := Nat.pow_le_pow_right (by decide) (by omega)
  rw [halfUnit, zpow_neg, zpow_natCast, ← div_eq_mul_inv,
    div_le_div_iff₀ (pow_pos (by norm_num) places) two_mul_unitsPerOne_pos, one_mul]
  exact_mod_cast hvalue

/-- A decimal without a sign is read as a number that is finite, and above zero, as its value
says. -/
theorem keepsRange_ofDecimal (digits : Nat) (exponent : Int) :
    KeepsRange (ofDecimal false digits exponent) (digits * 10 ^ exponent) := by
  have hten : ∀ places, Nat.pow 10 places = 10 ^ places := fun _ => rfl
  rw [ofDecimal]
  split
  · rename_i hzero
    apply keepsRange_zero
    rw [hzero, Nat.cast_zero, zero_mul]
    exact (div_pos one_pos two_mul_unitsPerOne_pos).le
  · rename_i hdigits
    split
    · rename_i hgreat
      exact keepsRange_infinity (overflow_le_of_lt_exponent hdigits hgreat)
    · split
      · rename_i hsmall
        exact keepsRange_zero (le_halfUnit_of_exponent_lt hsmall)
      · split
        · rename_i hnonneg
          obtain ⟨places, rfl⟩ := Int.eq_ofNat_of_zero_le hnonneg
          apply keepsRange_ofRatio Nat.one_pos
          rw [zpow_natCast, Int.toNat_natCast, hten, Nat.cast_mul, Nat.cast_pow, Nat.cast_one,
            div_one, Nat.cast_ofNat]
        · rename_i hneg
          obtain ⟨places, hplaces⟩ := Int.eq_ofNat_of_zero_le (show 0 ≤ -exponent by omega)
          obtain rfl : exponent = -(places : Int) := by omega
          apply keepsRange_ofRatio (ten_pow_pos _)
          rw [Int.neg_neg, Int.toNat_natCast, hten, zpow_neg, zpow_natCast, Nat.cast_pow,
            Nat.cast_ofNat, div_eq_mul_inv]

end Value

theorem isNegative_ofMagnitude_true {magnitude : Nat} (hless : magnitude < signWeight) :
    (ofMagnitude true magnitude).isNegative = true := by
  have hsize : UInt64.size = signWeight + signWeight := by decide
  rw [ofMagnitude, isNegative, if_pos rfl, UInt64.toNat_ofNat_of_lt' (by omega)]
  exact decide_eq_true (Nat.le_add_right _ _)

/-- What has a sign is not above zero. -/
theorem not_zero_lt_ofDecimal (digits : Nat) (exponent : Int) :
    ¬zero.lt (ofDecimal true digits exponent) = true := by
  intro hpositive
  have hless : (ofDecimal false digits exponent).magnitude < signWeight :=
    Nat.mod_lt _ (by decide)
  rw [ofDecimal_eq_ofMagnitude, lt, Bool.and_eq_true] at hpositive
  have hkeys := of_decide_eq_true hpositive.2
  have hzero : zero.key = 0 := by decide
  rw [hzero, key, isNegative_ofMagnitude_true hless, if_pos rfl] at hkeys
  omega

end Binary64

end Recollection
