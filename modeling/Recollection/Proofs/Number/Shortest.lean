import Recollection.Number.Shortest
import Recollection.Proofs.Number.Reading
import Recollection.Proofs.Number.Rounding
/-!
# Decimals that read back

Every finite magnitude is a whole number of units, so rounding leaves it as it is, and on the grid
of multiples of `10 ^ (-1074)` it is a decimal. The search for a shortest decimal comes to that grid
in the end; wherever it stops, the decimal that it stops at reads back as the number.
-/

set_option autoImplicit false

namespace Recollection

/-! ## Common factors -/

section Integer

variable (numerator denominator : Nat) {factor : Nat}

theorem roundHalfEven_mul_right (hpos : 0 < factor) :
    roundHalfEven (numerator * factor) (denominator * factor) =
      roundHalfEven numerator denominator := by
  have hquotient : numerator * factor / (denominator * factor) = numerator / denominator :=
    Nat.mul_div_mul_right _ _ hpos
  have hremainder : numerator * factor % (denominator * factor) =
      numerator % denominator * factor := Nat.mul_mod_mul_right ..
  have hbelow : 2 * (numerator % denominator * factor) < denominator * factor ↔
      2 * (numerator % denominator) < denominator := by
    rw [← Nat.mul_assoc, Nat.mul_lt_mul_right hpos]
  have habove : denominator * factor < 2 * (numerator % denominator * factor) ↔
      denominator < 2 * (numerator % denominator) := by
    rw [← Nat.mul_assoc, Nat.mul_lt_mul_right hpos]
  unfold roundHalfEven
  simp only [hquotient, hremainder, hbelow, habove]

theorem roundHalfEven_one : roundHalfEven numerator 1 = numerator := by
  simp [roundHalfEven, Nat.mod_one]

end Integer

namespace Binary64

theorem roundUnits_mul_right (numerator denominator : Nat) {factor : Nat} (hpos : 0 < factor) :
    roundUnits (numerator * factor) (denominator * factor) = roundUnits numerator denominator := by
  unfold roundUnits
  simp only [Nat.mul_div_mul_right _ _ hpos, Nat.mul_right_comm denominator factor,
    roundHalfEven_mul_right _ _ hpos]

theorem ofRatio_mul_right (negative : Bool) (numerator denominator : Nat) {factor : Nat}
    (hpos : 0 < factor) :
    ofRatio negative (numerator * factor) (denominator * factor) =
      ofRatio negative numerator denominator := by
  unfold ofRatio
  rw [Nat.mul_right_comm, roundUnits_mul_right _ _ hpos]

/-! ## Whole numbers of units -/

/-- A magnitude is the place of its units on their grid. -/
theorem roundUnits_units (x : Binary64) : roundUnits x.units 1 = x.magnitude := by
  have hweight : exponentWeight = 2 ^ 52 := by decide
  have hsplit := Nat.div_add_mod x.magnitude exponentWeight
  have hfraction : x.magnitude % exponentWeight < exponentWeight :=
    Nat.mod_lt _ (by decide)
  unfold units
  dsimp only
  split
  case isTrue hsubnormal =>
    have hgrid : (x.magnitude % exponentWeight).log2 - 52 = 0 := by
      rcases Nat.eq_zero_or_pos (x.magnitude % exponentWeight) with hzero | hpos
      · rw [hzero, Nat.log2_zero]
      · have := (Nat.log2_lt (Nat.ne_of_gt hpos)).2 (hweight ▸ hfraction)
        omega
    rw [hsubnormal, Nat.mul_zero, Nat.zero_add] at hsplit
    simp only [roundUnits, Nat.div_one, hgrid, Nat.zero_mul, Nat.zero_add, Nat.one_mul]
    exact (roundHalfEven_one _).trans hsplit
  case isFalse hnormal =>
    -- the significand has fifty-three bits, so the grid is that of the exponent
    obtain ⟨exponent, hexponent⟩ := Nat.exists_eq_succ_of_ne_zero hnormal
    rw [hexponent] at hsplit ⊢
    generalize x.magnitude % exponentWeight = fraction at hsplit hfraction ⊢
    have hlog : ((exponentWeight + fraction) * 2 ^ exponent).log2 = 52 + exponent := by
      rw [Nat.log2_eq_iff (Nat.mul_ne_zero (by omega) (Nat.ne_of_gt (Nat.two_pow_pos _)))]
      constructor
      · rw [Nat.pow_add]
        exact Nat.mul_le_mul_right _ (by omega)
      · rw [show 52 + exponent + 1 = 53 + exponent by omega, Nat.pow_add]
        exact Nat.mul_lt_mul_of_pos_right (by omega) (Nat.two_pow_pos _)
    have hpow : Nat.pow 2 exponent = 2 ^ exponent := rfl
    simp only [Nat.succ_sub_one, roundUnits, Nat.div_one, hpow, hlog, Nat.add_sub_cancel_left]
    rw [roundHalfEven_mul_right _ _ (Nat.two_pow_pos _), roundHalfEven_one, ← hsplit,
      Nat.succ_eq_add_one, Nat.mul_add, Nat.mul_one, Nat.mul_comm exponentWeight]
    omega

theorem ofMagnitude_magnitude (x : Binary64) : ofMagnitude x.isNegative x.magnitude = x := by
  have hword := x.bits.toNat_lt
  have hsign : (2 : Nat) ^ 64 = signWeight + signWeight := by decide
  have hwhole : (if x.isNegative then signWeight + x.magnitude else x.magnitude) =
      x.bits.toNat := by
    unfold isNegative magnitude
    split
    case isTrue hnegative =>
      have hle := of_decide_eq_true hnegative
      rw [Nat.mod_eq_sub_mod hle, Nat.mod_eq_of_lt (by omega)]
      omega
    case isFalse hpositive =>
      have hless : x.bits.toNat < signWeight := by
        simpa using hpositive
      exact Nat.mod_eq_of_lt hless
  rw [ofMagnitude, hwhole, UInt64.ofNat_toNat]

/-- Numbers that are equal and have one sign are the same. -/
theorem eq_of_same {x y : Binary64} (hsame : x.same y = true)
    (hsign : x.isNegative = y.isNegative) : x = y := by
  have hkey : x.key = y.key := by
    rw [same, Bool.and_eq_true] at hsame
    exact of_decide_eq_true hsame.2
  have hmagnitude : x.magnitude = y.magnitude := by
    unfold key at hkey
    rw [hsign] at hkey
    split at hkey <;> omega
  rw [← ofMagnitude_magnitude x, ← ofMagnitude_magnitude y, hsign, hmagnitude]

theorem units_eq_zero_iff (x : Binary64) : x.units = 0 ↔ x.magnitude = 0 := by
  constructor
  · intro hunits
    rw [← roundUnits_units, hunits]
    decide
  · intro hmagnitude
    simp [units, hmagnitude]

/-! ## Reading a decimal -/

/-- A sign is read apart from the digits. -/
theorem ofDecimal_eq_ofMagnitude (negative : Bool) (digits : Nat) (exponent : Int) :
    ofDecimal negative digits exponent =
      ofMagnitude negative (ofDecimal false digits exponent).magnitude := by
  have hsmall : infinityMagnitude < signWeight := by decide
  have hratio : ∀ numerator denominator, ofRatio negative numerator denominator =
      ofMagnitude negative (ofRatio false numerator denominator).magnitude := by
    intro numerator denominator
    unfold ofRatio
    rw [magnitude_ofMagnitude (Nat.lt_of_le_of_lt (Nat.min_le_right _ _) hsmall)]
  unfold ofDecimal
  split
  · rw [magnitude_ofMagnitude (by decide)]
  · split
    · rw [infinity, infinity, magnitude_ofMagnitude hsmall]
    · split
      · rw [magnitude_ofMagnitude (by decide)]
      · split
        · exact hratio _ _
        · exact hratio _ _

/-- A power of ten may be written as zeros instead, as long as it is not out of all proportion. -/
theorem ofDecimal_mul_ten_pow (negative : Bool) {digits : Nat} (hdigits : digits ≠ 0)
    {exponent : Nat} (hexponent : exponent ≤ 400) :
    ofDecimal negative (digits * 10 ^ (exponent + 1)) (-1) =
      ofDecimal negative digits exponent := by
  have hscaled : digits * 10 ^ (exponent + 1) ≠ 0 :=
    Nat.mul_ne_zero hdigits (Nat.ne_of_gt (Nat.pow_pos (by decide)))
  have hfactor : digits * 10 ^ (exponent + 1) = digits * 10 ^ exponent * 10 := by
    rw [Nat.pow_succ, Nat.mul_assoc]
  have hten : Nat.pow 10 (-(-1 : Int)).toNat = 1 * 10 := by decide
  rw [ofDecimal, if_neg hscaled, if_neg (by omega), if_neg (by omega), if_neg (by omega), ofDecimal,
    if_neg hdigits, if_neg (by omega), if_neg (by omega), if_pos (by omega), Int.toNat_natCast,
    hten, hfactor, ofRatio_mul_right _ _ _ (by decide)]
  rfl

/-! ## The last grid -/

/-- How many decimal places a multiple of the least positive number has. -/
def finestPlaces : Nat := 1074

theorem ten_pow_eq (places : Nat) : Nat.pow 10 places = 5 ^ places * Nat.pow 2 places :=
  Nat.mul_pow 5 2 places

theorem ten_pow_pos (places : Nat) : 0 < Nat.pow 10 places :=
  Nat.pow_pos (by decide)

theorem unitsPerOne_eq_two_pow : unitsPerOne = Nat.pow 2 finestPlaces := by
  decide +kernel

theorem unitsPerOne_pos : 0 < unitsPerOne := by
  have hpos : ∀ places, 0 < Nat.pow 2 places := Nat.two_pow_pos
  rw [unitsPerOne_eq_two_pow]
  exact hpos finestPlaces

/-- On the grid of multiples of `10 ^ (-1074)`, the nearer neighbour of a number is the number. -/
theorem head?_neighbours_last (rule : MiddleRule) (units : Nat) :
    (neighbours rule units (-finestPlaces)).head? = some (units * 5 ^ finestPlaces) := by
  have hbelow : ¬ (0 : Int) ≤ -finestPlaces := by decide
  have hten : units * Nat.pow 10 (-(-finestPlaces : Int)).toNat =
      units * 5 ^ finestPlaces * unitsPerOne := by
    rw [Int.neg_neg, Int.toNat_natCast, ten_pow_eq, unitsPerOne_eq_two_pow, Nat.mul_assoc]
  unfold neighbours
  simp only [hbelow, if_false, hten, Nat.mul_div_cancel _ unitsPerOne_pos, Nat.mul_mod_left,
    Nat.mul_zero, unitsPerOne_pos, decide_true, Bool.true_or, if_true, List.head?_cons]

theorem readsBack_last {x : Binary64} (hfinite : x.isFinite = true) :
    readsBack x.magnitude (-finestPlaces) (x.units * 5 ^ finestPlaces) = true := by
  have hsmall : x.magnitude < infinityMagnitude := of_decide_eq_true hfinite
  have hsign : infinityMagnitude < signWeight := by decide
  rw [readsBack, beq_iff_eq]
  by_cases hzero : x.units = 0
  · rw [hzero, Nat.zero_mul, (units_eq_zero_iff x).1 hzero, ofDecimal, if_pos rfl]
    decide
  · have hdigits : x.units * 5 ^ finestPlaces ≠ 0 :=
      Nat.mul_ne_zero hzero (Nat.ne_of_gt (Nat.pow_pos (by decide)))
    have hexact : roundUnits (x.units * 5 ^ finestPlaces * unitsPerOne)
        (Nat.pow 10 finestPlaces) = x.magnitude :=
      calc roundUnits (x.units * 5 ^ finestPlaces * unitsPerOne) (Nat.pow 10 finestPlaces)
          = roundUnits (x.units * Nat.pow 10 finestPlaces) (1 * Nat.pow 10 finestPlaces) := by
            rw [unitsPerOne_eq_two_pow, Nat.mul_assoc, ← ten_pow_eq, Nat.one_mul]
        _ = roundUnits x.units 1 := roundUnits_mul_right _ _ (ten_pow_pos _)
        _ = x.magnitude := roundUnits_units x
    have hplaces : (finestPlaces : Int) = 1074 := rfl
    rw [ofDecimal, if_neg hdigits, if_neg (by omega), if_neg (by omega), if_neg (by omega),
      Int.neg_neg, Int.toNat_natCast, ofRatio, hexact, Nat.min_eq_left (Nat.le_of_lt hsmall),
      magnitude_ofMagnitude (by omega)]

/-! ## The search -/

/-- Wherever a search stops that would come to the last grid, its decimal reads back. -/
theorem readsBack_searchDecimal (rule : MiddleRule) {x : Binary64} (hfinite : x.isFinite = true)
    (steps : Nat) {exponent : Int} (hlast : exponent - steps = -finestPlaces) :
    readsBack x.magnitude (searchDecimal rule x steps exponent).exponent
      (searchDecimal rule x steps exponent).digits = true := by
  induction steps generalizing exponent with
  | zero =>
    obtain rfl : exponent = -finestPlaces := by omega
    rw [searchDecimal, head?_neighbours_last, Option.getD_some]
    exact readsBack_last hfinite
  | succ steps ih =>
    rw [searchDecimal]
    split
    · rename_i digits hfound
      exact List.find?_some hfound
    · exact ih (by omega)

theorem neg_finestPlaces_le_decimalCeiling (x : Binary64) :
    -(finestPlaces : Int) ≤ x.decimalCeiling := by
  have hplaces : (finestPlaces : Int) = 1074 := rfl
  unfold decimalCeiling
  omega

theorem readsBack_shortestDecimal (rule : MiddleRule) {x : Binary64} (hfinite : x.isFinite = true) :
    readsBack x.magnitude (x.shortestDecimal rule).exponent (x.shortestDecimal rule).digits =
      true := by
  unfold shortestDecimal
  split
  case isTrue hzero =>
    rw [(units_eq_zero_iff x).1 hzero]
    decide
  case isFalse hpositive =>
    have hplaces : (finestPlaces : Int) = 1074 := rfl
    have hceiling := neg_finestPlaces_le_decimalCeiling x
    exact readsBack_searchDecimal rule hfinite _ (by omega)

/-- A finite number is read back from its shortest decimal and its sign. -/
theorem ofDecimal_shortestDecimal (rule : MiddleRule) {x : Binary64} (hfinite : x.isFinite = true) :
    ofDecimal x.isNegative (x.shortestDecimal rule).digits (x.shortestDecimal rule).exponent =
      x := by
  have hreads := readsBack_shortestDecimal rule hfinite
  rw [readsBack, beq_iff_eq] at hreads
  rw [ofDecimal_eq_ofMagnitude, hreads, ofMagnitude_magnitude]

/-- Only zero has no digits, and it is written without an exponent. -/
theorem shortestDecimal_eq_zero_or (rule : MiddleRule) {x : Binary64}
    (hfinite : x.isFinite = true) :
    x.shortestDecimal rule = ⟨0, 0⟩ ∨
      (x.shortestDecimal rule).digits ≠ 0 ∧
        (ofDecimal false (x.shortestDecimal rule).digits
          (x.shortestDecimal rule).exponent).isFinite = true := by
  have hreads := readsBack_shortestDecimal rule hfinite
  rw [readsBack, beq_iff_eq] at hreads
  by_cases hzero : x.units = 0
  · exact .inl (if_pos hzero)
  · refine .inr ⟨?_, ?_⟩
    · intro hdigits
      rw [hdigits, ofDecimal, if_pos rfl] at hreads
      exact hzero ((units_eq_zero_iff x).2 hreads.symm)
    · rw [isFinite, hreads]
      exact hfinite

/-! ## The size of a finite decimal -/

/-- Finite numbers have at most as many digits in front of the point. -/
def wholeDigitsLimit : Nat := 309

/-- A ratio is below a power of ten if it is rounded to a finite number. -/
theorem lt_of_isFinite_ofRatio {numerator denominator : Nat} (hpos : 0 < denominator)
    (hfinite : (ofRatio false numerator denominator).isFinite = true) :
    numerator < 10 ^ wholeDigitsLimit * denominator := by
  have hsign : infinityMagnitude < signWeight := by decide
  have hinfinity : infinityMagnitude = 2047 * exponentWeight := by decide
  have hplaces : finestPlaces = 1074 := rfl
  have hlimit : 2 ^ (finestPlaces + 1025) ≤ 10 ^ wholeDigitsLimit * unitsPerOne := by decide +kernel
  have hmagnitude : (ofRatio false numerator denominator).magnitude < infinityMagnitude :=
    of_decide_eq_true hfinite
  rw [ofRatio, magnitude_ofMagnitude (Nat.lt_of_le_of_lt (Nat.min_le_right _ _) hsign)]
    at hmagnitude
  have hunits : roundUnits (numerator * unitsPerOne) denominator < infinityMagnitude := by omega
  have hshift : (numerator * unitsPerOne / denominator).log2 - 52 < 2047 := by
    rw [hinfinity] at hunits
    exact Nat.lt_of_mul_lt_mul_right (Nat.lt_of_le_of_lt (Nat.le_add_right _ _) hunits)
  have hquotient : numerator * unitsPerOne / denominator < 2 ^ (finestPlaces + 1025) :=
    calc numerator * unitsPerOne / denominator
        < 2 ^ ((numerator * unitsPerOne / denominator).log2 + 1) := Nat.lt_log2_self
      _ ≤ 2 ^ (finestPlaces + 1025) := Nat.pow_le_pow_right (by decide) (by omega)
  have hproduct : numerator * unitsPerOne < 10 ^ wholeDigitsLimit * denominator * unitsPerOne :=
    calc numerator * unitsPerOne
        < 2 ^ (finestPlaces + 1025) * denominator := (Nat.div_lt_iff_lt_mul hpos).1 hquotient
      _ ≤ 10 ^ wholeDigitsLimit * unitsPerOne * denominator := Nat.mul_le_mul_right _ hlimit
      _ = 10 ^ wholeDigitsLimit * denominator * unitsPerOne := Nat.mul_right_comm _ _ _
  exact Nat.lt_of_mul_lt_mul_right hproduct

/-- A decimal that reads as a finite number has few digits in front of the point. -/
theorem length_add_exponent_le {digits : Nat} {exponent : Int} (hdigits : digits ≠ 0)
    (hfinite : (ofDecimal false digits exponent).isFinite = true) :
    ((toString digits).toList.length : Int) + exponent ≤ wholeDigitsLimit := by
  have hlimit : (wholeDigitsLimit : Int) = 309 := rfl
  have hnonempty := List.length_pos_iff.2 (Numeral.toString_ne_nil digits)
  have hlength : ∀ places : Nat, 0 < places → digits < 10 ^ places →
      (toString digits).toList.length ≤ places :=
    fun places hpos hless => (Numeral.length_toString_le_iff hpos).2 hless
  rw [ofDecimal, if_neg hdigits] at hfinite
  split at hfinite
  · exact absurd hfinite (by decide)
  · split at hfinite
    · -- the digits of so small a decimal do not come up to the point
      have hle := hlength (digits.log2 + 1) (by omega)
        (Nat.lt_of_lt_of_le Nat.lt_log2_self (Nat.pow_le_pow_left (by decide) _))
      omega
    · split at hfinite
      · obtain ⟨places, rfl⟩ := Int.eq_ofNat_of_zero_le ‹0 ≤ exponent›
        have hless := lt_of_isFinite_ofRatio Nat.one_pos hfinite
        rw [Int.toNat_natCast, Nat.mul_one] at hless
        have hten : 0 < 10 ^ places := Nat.pow_pos (by decide)
        have hbelow : places < wholeDigitsLimit := by
          refine Nat.lt_of_not_le fun habove => ?_
          have hpow : 10 ^ wholeDigitsLimit ≤ 10 ^ places :=
            Nat.pow_le_pow_right (by decide) habove
          have := Nat.le_mul_of_pos_left (10 ^ places) (Nat.pos_of_ne_zero hdigits)
          exact absurd (Nat.le_trans hpow this) (Nat.not_le.2 hless)
        have hsplit : 10 ^ wholeDigitsLimit = 10 ^ (wholeDigitsLimit - places) * 10 ^ places := by
          rw [← Nat.pow_add, Nat.sub_add_cancel (Nat.le_of_lt hbelow)]
        have hle := hlength (wholeDigitsLimit - places) (by omega)
          (Nat.lt_of_mul_lt_mul_right (hsplit ▸ hless))
        omega
      · obtain ⟨places, hplaces⟩ := Int.eq_ofNat_of_zero_le (show 0 ≤ -exponent by omega)
        have hless := lt_of_isFinite_ofRatio (Nat.pow_pos (by decide)) hfinite
        rw [hplaces, Int.toNat_natCast] at hless
        have hle := hlength (wholeDigitsLimit + places) (by omega) (Nat.pow_add _ _ _ ▸ hless)
        omega

end Binary64

end Recollection
