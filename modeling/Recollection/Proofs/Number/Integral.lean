import Recollection.Proofs.Number.Order
/-!
# Numbers that are integers

A finite number is a whole number of units, with a sign. Two numbers are equal exactly if they are
as many units, so `units` tells apart what the order of numbers tells apart; and a number is an
integer if it is that many times the units of one. Integers that are not too great are found, and
the nearest number to the integer that is found is the number.
-/

set_option autoImplicit false

namespace Recollection.Binary64

/-! ## Units with a sign -/

/-- How many times `2 ^ (-1074)` a finite number is. -/
def signedUnits (x : Binary64) : Int :=
  if x.isNegative then -(x.units : Int) else (x.units : Int)

/-- A finite number is an integer. -/
structure IsInteger (x : Binary64) (n : Int) : Prop where
  /-- It is neither NaN nor an infinity. -/
  finite : x.isFinite = true
  /-- It is as many times one. -/
  exact : x.signedUnits = n * unitsPerOne

theorem units_inj {x y : Binary64} : x.units = y.units ↔ x.magnitude = y.magnitude := by
  constructor
  · intro hunits
    rw [← roundUnits_units, ← roundUnits_units, hunits]
  · intro hmagnitude
    rw [units, units, hmagnitude]

/-- Places on the line are as far apart as numbers of units. -/
theorem key_eq_iff_signedUnits_eq {x y : Binary64} :
    x.key = y.key ↔ x.signedUnits = y.signedUnits := by
  have hunits : x.units = y.units ↔ x.magnitude = y.magnitude := units_inj
  have hx := units_eq_zero_iff x
  have hy := units_eq_zero_iff y
  unfold key signedUnits
  cases x.isNegative <;> cases y.isNegative <;> simp <;> omega

/-- Finite numbers are equal exactly if they are as many units. -/
theorem same_iff_signedUnits_eq {x y : Binary64} (hx : x.isFinite = true) (hy : y.isFinite = true) :
    x.same y = true ↔ x.signedUnits = y.signedUnits := by
  rw [same_iff_key_eq (isNaN_eq_false_of_isFinite hx) (isNaN_eq_false_of_isFinite hy),
    key_eq_iff_signedUnits_eq]

theorem same_refl {x : Binary64} (hx : x.isFinite = true) : x.same x = true :=
  (same_iff_signedUnits_eq hx hx).2 rfl

theorem same_comm {x y : Binary64} (hx : x.isFinite = true) (hy : y.isFinite = true) :
    x.same y = true ↔ y.same x = true := by
  rw [same_iff_signedUnits_eq hx hy, same_iff_signedUnits_eq hy hx, eq_comm]

/-- A number that is not finite is NaN or one of the infinities. -/
theorem isFinite_eq_false_iff (x : Binary64) :
    x.isFinite = false ↔ x.isNaN = true ∨ ∃ negative, x = infinity negative := by
  have hsplit : x.isFinite = false ↔ x.isNaN = true ∨ x.magnitude = infinityMagnitude := by
    rw [isFinite, isNaN, decide_eq_false_iff_not, decide_eq_true_iff]
    omega
  rw [hsplit]
  apply or_congr_right
  constructor
  · intro hmagnitude
    refine ⟨x.isNegative, ?_⟩
    rw [infinity, ← hmagnitude, ofMagnitude_magnitude]
  · rintro ⟨negative, rfl⟩
    cases negative <;> decide

/-! ## Integers -/

namespace IsInteger

variable {x y : Binary64} {n : Int}

theorem units_eq (hinteger : x.IsInteger n) : x.units = n.natAbs * unitsPerOne := by
  have hnatAbs := congrArg Int.natAbs hinteger.exact
  rw [Int.natAbs_mul, Int.natAbs_natCast] at hnatAbs
  rw [← hnatAbs, signedUnits]
  split
  · rw [Int.natAbs_neg, Int.natAbs_natCast]
  · rw [Int.natAbs_natCast]

/-- The sign of the number is that of the integer, unless they are zero. -/
theorem eq_natAbs (hinteger : x.IsInteger n) :
    n = if x.isNegative then -(n.natAbs : Int) else (n.natAbs : Int) := by
  have hone : (unitsPerOne : Int) ≠ 0 := Int.natCast_ne_zero.2 (Nat.ne_of_gt unitsPerOne_pos)
  apply Int.eq_of_mul_eq_mul_right hone
  rw [← hinteger.exact, signedUnits, hinteger.units_eq, Int.natCast_mul]
  split
  · rw [Int.neg_mul]
  · rfl

theorem same_iff (hx : x.IsInteger n) (hy : y.isFinite = true) :
    x.same y = true ↔ y.IsInteger n := by
  rw [same_iff_signedUnits_eq hx.finite hy, hx.exact]
  exact ⟨fun hunits => ⟨hy, hunits.symm⟩, fun hinteger => hinteger.exact.symm⟩

/-- The nearest number to an integer that is a number is that number. -/
theorem same_ofInt (hinteger : x.IsInteger n) : (ofInt n).same x = true := by
  have hsmall : x.magnitude < infinityMagnitude := of_decide_eq_true hinteger.finite
  have hnearest : ofInt n = ofMagnitude (decide (n < 0)) x.magnitude := by
    rw [ofInt, ofRatio, ← hinteger.units_eq, roundUnits_units, Nat.min_eq_left hsmall.le]
  have hvalue := hinteger.eq_natAbs
  by_cases hsign : x.isNegative = decide (n < 0)
  · rw [hnearest, ← hsign, ofMagnitude_magnitude]
    exact same_refl hinteger.finite
  · -- only the zero with a sign is nothing that the nearest number to an integer can be
    have hzero : x.isNegative = true ∧ n = 0 := by
      cases hnegative : x.isNegative with
      | false =>
        rw [hnegative, if_neg Bool.false_ne_true] at hvalue
        exact absurd (hnegative.trans (decide_eq_false (by omega)).symm) hsign
      | true =>
        rw [hnegative, if_pos rfl] at hvalue
        have hnonneg : ¬n < 0 := fun hless => hsign (hnegative.trans (decide_eq_true hless).symm)
        exact ⟨rfl, by omega⟩
    have hunits := hinteger.units_eq
    rw [hzero.2, Int.natAbs_zero, Nat.zero_mul, units_eq_zero_iff] at hunits
    rw [(eq_negativeZero_iff x).2 ⟨hzero.1, hunits⟩, hzero.2]
    decide +kernel

end IsInteger

/-- The integers of magnitude at most `2 ^ 53` are found. -/
theorem toInteger?_eq_some_iff {x : Binary64} {n : Int} :
    x.toInteger? = some n ↔ x.IsInteger n ∧ n.natAbs ≤ exactIntegerLimit := by
  unfold toInteger?
  dsimp only
  constructor
  · intro hfound
    obtain ⟨hcondition, hvalue⟩ := Option.ite_none_right_eq_some.1 hfound
    simp only [Bool.and_eq_true, beq_iff_eq, decide_eq_true_eq] at hcondition
    obtain ⟨⟨hfinite, hwhole⟩, hlimit⟩ := hcondition
    have hunits : x.units = x.units / unitsPerOne * unitsPerOne :=
      (Nat.div_mul_cancel (Nat.dvd_of_mod_eq_zero hwhole)).symm
    obtain rfl := Option.some.inj hvalue
    refine ⟨⟨hfinite, ?_⟩, ?_⟩
    · rw [signedUnits]
      split
      · rw [Int.neg_mul, ← Int.natCast_mul, ← hunits]
      · rw [← Int.natCast_mul, ← hunits]
    · split
      · rwa [Int.natAbs_neg, Int.natAbs_natCast]
      · rwa [Int.natAbs_natCast]
  · rintro ⟨hinteger, hlimit⟩
    rw [hinteger.units_eq, Nat.mul_mod_left, Nat.mul_div_cancel _ unitsPerOne_pos,
      ← hinteger.eq_natAbs, hinteger.finite, decide_eq_true hlimit]
    rfl

/-- A number of which no integer is found is one word only: it is none of the zeros. -/
theorem eq_of_same_of_toInteger?_eq_none {x y : Binary64} (hx : x.isFinite = true)
    (hy : y.isFinite = true) (hnone : x.toInteger? = none) (hsame : x.same y = true) : x = y := by
  rcases (same_iff (isNaN_eq_false_of_isFinite hx) (isNaN_eq_false_of_isFinite hy)).1 hsame with
    rfl | ⟨rfl, -⟩ | ⟨rfl, -⟩
  · rfl
  · exact absurd hnone (by decide +kernel)
  · exact absurd hnone (by decide +kernel)

end Recollection.Binary64
