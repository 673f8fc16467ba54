import Mathlib.Tactic.Ring
import Recollection.Number.Rounding
/-!
# Rounding keeps the order

Rounding to the nearest never turns an order around, and it keeps two numbers apart that differ by
more than one step of the grid on which the greater one lies. Shares of one whole differ by more
than that as long as the whole has fewer than `2 ^ 52` parts, so they are ordered as their parts.

The grid is what carries this: a ratio lies between multiples of `2 ^ gridExponent` units, and its
place among them has fifty-three bits, or fewer on the finest grid.
-/

set_option autoImplicit false

namespace Recollection

/-! ## Rounding to an integer -/

section Integer

variable (numerator : Nat) {denominator bound : Nat}

/-- A ratio is rounded down if it is at most halfway up, and up if it is at least halfway up. -/
theorem roundHalfEven_cases (denominator : Nat) :
    (roundHalfEven numerator denominator = numerator / denominator ∧
      2 * (numerator % denominator) ≤ denominator) ∨
    (roundHalfEven numerator denominator = numerator / denominator + 1 ∧
      denominator ≤ 2 * (numerator % denominator)) := by
  unfold roundHalfEven
  dsimp only
  split
  · exact .inl ⟨rfl, by omega⟩
  · split
    · exact .inr ⟨rfl, by omega⟩
    · rcases Nat.mod_two_eq_zero_or_one (numerator / denominator) with heven | hodd
      · exact .inl ⟨by rw [heven, Nat.add_zero], by omega⟩
      · exact .inr ⟨by rw [hodd], by omega⟩

/-- Rounding adds half at most. -/
theorem roundHalfEven_mul_le (hpos : 0 < denominator) :
    2 * (roundHalfEven numerator denominator * denominator) ≤ 2 * numerator + denominator := by
  have hsplit := Nat.div_add_mod' numerator denominator
  rcases roundHalfEven_cases numerator denominator with ⟨hdown, -⟩ | ⟨hup, hhalf⟩
  · rw [hdown]
    omega
  · rw [hup, Nat.add_mul, Nat.one_mul]
    omega

/-- Rounding takes away half at most. -/
theorem le_roundHalfEven_mul (hpos : 0 < denominator) :
    2 * numerator ≤ 2 * (roundHalfEven numerator denominator * denominator) + denominator := by
  have hsplit := Nat.div_add_mod' numerator denominator
  have hless := Nat.mod_lt numerator hpos
  rcases roundHalfEven_cases numerator denominator with ⟨hdown, hhalf⟩ | ⟨hup, -⟩
  · rw [hdown]
    omega
  · rw [hup, Nat.add_mul, Nat.one_mul]
    omega

variable {numerator}

/-- What lies below the middle of a step is not rounded up to the next one. -/
theorem roundHalfEven_le_of_lt (hpos : 0 < denominator)
    (hless : 2 * numerator < 2 * (bound * denominator) + denominator) :
    roundHalfEven numerator denominator ≤ bound := by
  by_contra hnot
  have hmore : (bound + 1) * denominator ≤ roundHalfEven numerator denominator * denominator :=
    Nat.mul_le_mul_right _ (by omega)
  have hround := roundHalfEven_mul_le numerator hpos
  rw [Nat.add_mul, Nat.one_mul] at hmore
  omega

theorem roundHalfEven_le (hpos : 0 < denominator) (hle : numerator ≤ bound * denominator) :
    roundHalfEven numerator denominator ≤ bound :=
  roundHalfEven_le_of_lt hpos (by omega)

theorem le_roundHalfEven (hpos : 0 < denominator) (hle : bound * denominator ≤ numerator) :
    bound ≤ roundHalfEven numerator denominator := by
  by_contra hnot
  have hless : (roundHalfEven numerator denominator + 1) * denominator ≤ bound * denominator :=
    Nat.mul_le_mul_right _ (by omega)
  have hround := le_roundHalfEven_mul numerator hpos
  rw [Nat.add_mul, Nat.one_mul] at hless
  omega

theorem roundHalfEven_mono (hpos : 0 < denominator) {greater : Nat} (hle : numerator ≤ greater) :
    roundHalfEven numerator denominator ≤ roundHalfEven greater denominator := by
  rcases Nat.eq_or_lt_of_le hle with rfl | hless
  · exact Nat.le_refl _
  · have hround := le_roundHalfEven_mul greater hpos
    exact roundHalfEven_le_of_lt hpos (by omega)

end Integer

/-! ## Rounding on the grid -/

namespace Binary64

/-- The grid on which a ratio is rounded: the multiples of this power of two. -/
def gridExponent (numerator denominator : Nat) : Nat :=
  (numerator / denominator).log2 - 52

/-- The place of a ratio on its grid. -/
def gridPlace (numerator denominator : Nat) : Nat :=
  roundHalfEven numerator (denominator * 2 ^ gridExponent numerator denominator)

theorem roundUnits_eq (numerator denominator : Nat) :
    roundUnits numerator denominator =
      gridExponent numerator denominator * exponentWeight + gridPlace numerator denominator :=
  rfl

section Grid

variable {numerator denominator greater : Nat}

theorem gridExponent_mono (hle : numerator ≤ greater) :
    gridExponent numerator denominator ≤ gridExponent greater denominator := by
  have hdiv : numerator / denominator ≤ greater / denominator := Nat.div_le_div_right hle
  have hlog : (numerator / denominator).log2 ≤ (greater / denominator).log2 := by
    by_cases hzero : numerator / denominator = 0
    · rw [hzero, Nat.log2_zero]
      exact Nat.zero_le _
    · have hne : greater / denominator ≠ 0 := Nat.ne_zero_of_lt (Nat.lt_of_lt_of_le
        (Nat.pos_of_ne_zero hzero) hdiv)
      exact (Nat.le_log2 hne).2 (Nat.le_trans (Nat.log2_self_le hzero) hdiv)
  unfold gridExponent
  omega

/-- The place of a ratio has fifty-three bits, or is rounded up to the next power of two. -/
theorem gridPlace_le (numerator : Nat) (hpos : 0 < denominator) :
    gridPlace numerator denominator ≤ 2 * exponentWeight := by
  apply roundHalfEven_le (Nat.mul_pos hpos (Nat.two_pow_pos _))
  have hless : numerator / denominator < 2 ^ (53 + gridExponent numerator denominator) :=
    Nat.lt_of_lt_of_le Nat.lt_log2_self
      (Nat.pow_le_pow_right (by decide) (by unfold gridExponent; omega))
  rw [Nat.div_lt_iff_lt_mul hpos, Nat.pow_add] at hless
  calc numerator ≤ 2 ^ 53 * 2 ^ gridExponent numerator denominator * denominator := hless.le
    _ = 2 * exponentWeight * (denominator * 2 ^ gridExponent numerator denominator) := by
        rw [exponentWeight]
        ring

/-- Above the finest grid, the place of a ratio has no fewer bits. -/
theorem le_gridPlace (hpos : 0 < denominator) (hgrid : 0 < gridExponent numerator denominator) :
    exponentWeight ≤ gridPlace numerator denominator := by
  apply le_roundHalfEven (Nat.mul_pos hpos (Nat.two_pow_pos _))
  have hlog : (numerator / denominator).log2 = 52 + gridExponent numerator denominator := by
    unfold gridExponent at hgrid ⊢
    omega
  have hne : numerator / denominator ≠ 0 := by
    intro hzero
    rw [hzero, Nat.log2_zero] at hlog
    omega
  have hle := Nat.log2_self_le hne
  rw [hlog, Nat.pow_add, Nat.le_div_iff_mul_le hpos] at hle
  calc exponentWeight * (denominator * 2 ^ gridExponent numerator denominator)
      = 2 ^ 52 * 2 ^ gridExponent numerator denominator * denominator := by
        rw [exponentWeight]
        ring
    _ ≤ numerator := hle

/-- On a coarser grid, a ratio is rounded to more units; or both are rounded to the power of two
between two grids that are neighbours. -/
theorem roundUnits_of_finer (hpos : 0 < denominator)
    (hfiner : gridExponent numerator denominator < gridExponent greater denominator) :
    roundUnits numerator denominator < roundUnits greater denominator ∨
      gridPlace numerator denominator = 2 * exponentWeight ∧
        gridPlace greater denominator = exponentWeight ∧
        gridExponent greater denominator = gridExponent numerator denominator + 1 := by
  have hplace := gridPlace_le numerator hpos
  have hplace' : exponentWeight ≤ gridPlace greater denominator := le_gridPlace hpos (by omega)
  have hstep : (gridExponent numerator denominator + 1) * exponentWeight ≤
      gridExponent greater denominator * exponentWeight := Nat.mul_le_mul_right _ hfiner
  rw [roundUnits_eq, roundUnits_eq]
  rcases Nat.lt_or_ge _ _ with hless | hnot
  · exact .inl hless
  · rw [Nat.add_mul, Nat.one_mul] at hstep
    refine .inr ⟨by omega, by omega, ?_⟩
    apply Nat.eq_of_mul_eq_mul_right (show 0 < exponentWeight by decide)
    rw [Nat.add_mul, Nat.one_mul]
    omega

/-- Rounding keeps the order. -/
theorem roundUnits_mono (hpos : 0 < denominator) (hle : numerator ≤ greater) :
    roundUnits numerator denominator ≤ roundUnits greater denominator := by
  rcases Nat.eq_or_lt_of_le (gridExponent_mono hle) with hsame | hfiner
  · rw [roundUnits_eq, roundUnits_eq, gridPlace, gridPlace, hsame]
    exact Nat.add_le_add_left
      (roundHalfEven_mono (Nat.mul_pos hpos (Nat.two_pow_pos _)) hle) _
  · rcases roundUnits_of_finer hpos hfiner with hless | ⟨hlast, hfirst, hnext⟩
    · exact Nat.le_of_lt hless
    · rw [roundUnits_eq, roundUnits_eq, hlast, hfirst, hnext, Nat.add_mul]
      omega

/-- Numbers that are more than one step apart on the grid of the greater one stay apart. -/
theorem roundUnits_lt (hpos : 0 < denominator)
    (hgap : numerator + denominator * 2 ^ gridExponent greater denominator < greater) :
    roundUnits numerator denominator < roundUnits greater denominator := by
  have hstep : 0 < denominator * 2 ^ gridExponent numerator denominator :=
    Nat.mul_pos hpos (Nat.two_pow_pos _)
  have hstep' : 0 < denominator * 2 ^ gridExponent greater denominator :=
    Nat.mul_pos hpos (Nat.two_pow_pos _)
  have hlow := roundHalfEven_mul_le numerator hstep
  have hhigh := le_roundHalfEven_mul greater hstep'
  have hgrid : gridExponent numerator denominator ≤ gridExponent greater denominator :=
    gridExponent_mono (by omega)
  rcases Nat.eq_or_lt_of_le hgrid with hsame | hfiner
  · rw [hsame] at hlow
    rw [roundUnits_eq, roundUnits_eq, gridPlace, gridPlace, hsame]
    apply Nat.add_lt_add_left
    by_contra hnot
    have hmore := Nat.mul_le_mul_right (denominator * 2 ^ gridExponent greater denominator)
      (Nat.le_of_not_lt hnot)
    omega
  · rcases roundUnits_of_finer hpos hfiner with hless | ⟨hlast, hfirst, hnext⟩
    · exact hless
    · -- from a power of two that both are rounded to, neither is further than half a step
      have hdouble : denominator * 2 ^ gridExponent greater denominator =
          2 * (denominator * 2 ^ gridExponent numerator denominator) := by
        rw [hnext, Nat.pow_succ]
        ring
      rw [gridPlace] at hlast hfirst
      rw [hlast, Nat.mul_assoc 2 exponentWeight] at hlow
      rw [hfirst, hdouble, Nat.mul_left_comm exponentWeight] at hhigh
      omega

end Grid

/-! ## Shares of a whole -/

/-- The grid on which one is the first place of full length. -/
def oneExponent : Nat := 1022

theorem log2_unitsPerOne : unitsPerOne.log2 - 52 = oneExponent := by
  decide +kernel

theorem unitsPerOne_eq : unitsPerOne = exponentWeight * 2 ^ oneExponent := by
  decide +kernel

theorem magnitude_ofMagnitude {magnitude : Nat} (hless : magnitude < signWeight) :
    (ofMagnitude false magnitude).magnitude = magnitude := by
  have hword : magnitude < UInt64.size := Nat.lt_trans hless (by decide)
  rw [ofMagnitude, Binary64.magnitude, if_neg (by decide), UInt64.toNat_ofNat_of_lt' hword]
  exact Nat.mod_eq_of_lt hless

theorem isNegative_ofMagnitude {magnitude : Nat} (hless : magnitude < signWeight) :
    (ofMagnitude false magnitude).isNegative = false := by
  have hword : magnitude < UInt64.size := Nat.lt_trans hless (by decide)
  rw [ofMagnitude, isNegative, if_neg (by decide), UInt64.toNat_ofNat_of_lt' hword]
  exact decide_eq_false (Nat.not_le_of_lt hless)

section Share

variable {part other whole : Nat}

/-- The whole is rounded to one. -/
theorem roundUnits_whole (hpos : 0 < whole) :
    roundUnits (whole * unitsPerOne) whole = one.magnitude := by
  have hgrid : gridExponent (whole * unitsPerOne) whole = oneExponent := by
    rw [gridExponent, Nat.mul_div_cancel_left _ hpos, log2_unitsPerOne]
  have hexact : whole * unitsPerOne = exponentWeight * (whole * 2 ^ oneExponent) := by
    rw [unitsPerOne_eq, Nat.mul_left_comm]
  have hstep : 0 < whole * 2 ^ oneExponent := Nat.mul_pos hpos (Nat.two_pow_pos _)
  have hplace : gridPlace (whole * unitsPerOne) whole = exponentWeight := by
    rw [gridPlace, hgrid]
    exact Nat.le_antisymm (roundHalfEven_le hstep hexact.le) (le_roundHalfEven hstep hexact.ge)
  rw [roundUnits_eq, hgrid, hplace]
  decide

theorem roundUnits_part_le (hpos : 0 < whole) (hle : part ≤ whole) :
    roundUnits (part * unitsPerOne) whole ≤ one.magnitude := by
  rw [← roundUnits_whole hpos]
  exact roundUnits_mono hpos (Nat.mul_le_mul_right _ hle)

theorem share_eq (hpos : 0 < whole) (hle : part ≤ whole) :
    share part whole = ofMagnitude false (roundUnits (part * unitsPerOne) whole) := by
  have hbound := roundUnits_part_le hpos hle
  have hinfinity : one.magnitude ≤ infinityMagnitude := by decide
  rw [share, if_neg (Nat.ne_of_gt hpos), ofRatio, Nat.min_eq_left (by omega)]

theorem magnitude_share (hpos : 0 < whole) (hle : part ≤ whole) :
    (share part whole).magnitude = roundUnits (part * unitsPerOne) whole := by
  have hbound := roundUnits_part_le hpos hle
  have hone : one.magnitude < signWeight := by decide
  rw [share_eq hpos hle, magnitude_ofMagnitude (by omega)]

theorem isNegative_share (hpos : 0 < whole) (hle : part ≤ whole) :
    (share part whole).isNegative = false := by
  have hbound := roundUnits_part_le hpos hle
  have hone : one.magnitude < signWeight := by decide
  rw [share_eq hpos hle, isNegative_ofMagnitude (by omega)]

theorem rank_share (hpos : 0 < whole) (hle : part ≤ whole) :
    (share part whole).rank = (roundUnits (part * unitsPerOne) whole : Int) := by
  rw [rank, isNegative_share hpos hle, magnitude_share hpos hle, if_neg (by decide)]

theorem key_share (hpos : 0 < whole) (hle : part ≤ whole) :
    (share part whole).key = (roundUnits (part * unitsPerOne) whole : Int) := by
  rw [key, isNegative_share hpos hle, magnitude_share hpos hle, if_neg (by decide)]

theorem isFinite_share (hpos : 0 < whole) (hle : part ≤ whole) :
    (share part whole).isFinite = true := by
  have hbound := roundUnits_part_le hpos hle
  have hone : one.magnitude < infinityMagnitude := by decide
  rw [isFinite, magnitude_share hpos hle]
  exact decide_eq_true (by omega)

theorem isNaN_eq_false_of_isFinite {x : Binary64} (hfinite : x.isFinite = true) :
    x.isNaN = false :=
  decide_eq_false (Nat.not_lt_of_lt (of_decide_eq_true hfinite))

/-- What is between zero and one is finite. -/
theorem isFinite_of_mem_unitInterval {x : Binary64} (hzero : zero.le x = true)
    (hone : x.le one = true) : x.isFinite = true := by
  have hzeroKey : zero.key = 0 := by decide
  have honeKey : one.key = 0x3FF0000000000000 := by decide
  simp only [le, Bool.and_eq_true, decide_eq_true_eq, hzeroKey, honeKey] at hzero hone
  have hlow := hzero.2
  have hhigh := hone.2
  apply decide_eq_true
  unfold infinityMagnitude
  cases hsign : x.isNegative with
  | true =>
    have hkey : x.key = -(x.magnitude : Int) := if_pos hsign
    omega
  | false =>
    have hkey : x.key = (x.magnitude : Int) := if_neg (by simp [hsign])
    omega

/-- A share is between zero and one. -/
theorem share_mem_unitInterval (hpos : 0 < whole) (hle : part ≤ whole) :
    zero.le (share part whole) = true ∧ (share part whole).le one = true := by
  have hbound := roundUnits_part_le hpos hle
  have hnumber := isNaN_eq_false_of_isFinite (isFinite_share hpos hle)
  have hkey := key_share hpos hle
  have hzeroKey : zero.key = 0 := by decide
  have honeKey : one.key = (one.magnitude : Int) := by decide
  have hzeroNumber : zero.isNaN = false := by decide
  have honeNumber : one.isNaN = false := by decide
  constructor
  · simp [le, hnumber, hzeroNumber, hkey, hzeroKey]
  · simpa [le, hnumber, honeNumber, hkey, honeKey] using hbound

/-- Shares of one whole are ordered as their parts. -/
theorem roundUnits_part_lt_iff (hpos : 0 < whole) (hfew : whole < 2 ^ 52)
    (hother : other ≤ whole) :
    roundUnits (part * unitsPerOne) whole < roundUnits (other * unitsPerOne) whole ↔
      part < other := by
  constructor
  · intro hless
    by_contra hnot
    have hmono : roundUnits (other * unitsPerOne) whole ≤ roundUnits (part * unitsPerOne) whole :=
      roundUnits_mono hpos (Nat.mul_le_mul_right _ (Nat.le_of_not_lt hnot))
    omega
  · intro hless
    apply roundUnits_lt hpos
    -- one part is more than a step of the grid at one, the coarsest that shares lie on
    have hgrid : gridExponent (other * unitsPerOne) whole ≤ oneExponent := by
      have hmono : gridExponent (other * unitsPerOne) whole ≤
          gridExponent (whole * unitsPerOne) whole :=
        gridExponent_mono (Nat.mul_le_mul_right _ hother)
      rwa [gridExponent.eq_def (whole * unitsPerOne), Nat.mul_div_cancel_left _ hpos,
        log2_unitsPerOne] at hmono
    have hstep : whole * 2 ^ gridExponent (other * unitsPerOne) whole < unitsPerOne :=
      calc whole * 2 ^ gridExponent (other * unitsPerOne) whole
          ≤ whole * 2 ^ oneExponent :=
            Nat.mul_le_mul_left _ (Nat.pow_le_pow_right (by decide) hgrid)
        _ < exponentWeight * 2 ^ oneExponent := Nat.mul_lt_mul_of_pos_right hfew (Nat.two_pow_pos _)
        _ = unitsPerOne := unitsPerOne_eq.symm
    have hpart : (part + 1) * unitsPerOne ≤ other * unitsPerOne := Nat.mul_le_mul_right _ hless
    rw [Nat.add_mul, Nat.one_mul] at hpart
    omega

theorem share_zero_whole (part : Nat) : share part 0 = zero :=
  rfl

theorem rank_share_lt_iff (hfew : whole < 2 ^ 52) (hle : part ≤ whole) (hother : other ≤ whole) :
    (share part whole).rank < (share other whole).rank ↔ part < other := by
  rcases Nat.eq_zero_or_pos whole with rfl | hpos
  · rw [share_zero_whole, share_zero_whole]
    omega
  · rw [rank_share hpos hle, rank_share hpos hother, Int.ofNat_lt]
    exact roundUnits_part_lt_iff hpos hfew hother

/-- A share is positive exactly when the part is. -/
theorem zero_lt_share_iff (hfew : whole < 2 ^ 52) (hle : part ≤ whole) :
    zero.lt (share part whole) = true ↔ 0 < part := by
  rcases Nat.eq_zero_or_pos whole with rfl | hpos
  · have hzero : zero.lt zero = false := by decide
    rw [share_zero_whole, hzero, Nat.le_zero.1 hle]
    simp
  · have hnumber := isNaN_eq_false_of_isFinite (isFinite_share hpos hle)
    have hzeroKey : zero.key = 0 := by decide
    have hzeroNumber : zero.isNaN = false := by decide
    have hzero : roundUnits (0 * unitsPerOne) whole = 0 := by
      simp [roundUnits, roundHalfEven]
    have horder : roundUnits (0 * unitsPerOne) whole < roundUnits (part * unitsPerOne) whole ↔
        0 < part := roundUnits_part_lt_iff hpos hfew hle
    rw [hzero] at horder
    simpa [lt, hnumber, hzeroNumber, key_share hpos hle, hzeroKey] using horder

/-- The share of the whole is one, however large the whole is. -/
theorem share_whole (hpos : 0 < whole) : share whole whole = one := by
  rw [share_eq hpos (Nat.le_refl _), roundUnits_whole hpos]
  decide

/-- Of a whole that is not too large, no less than the whole has a share of one. -/
theorem share_eq_one_iff (hpos : 0 < whole) (hfew : whole < 2 ^ 52) (hle : part ≤ whole) :
    share part whole = one ↔ part = whole := by
  constructor
  · intro hone
    refine Nat.le_antisymm hle (Nat.le_of_not_lt fun hless => ?_)
    have hrank := (rank_share_lt_iff hfew hle (Nat.le_refl _)).2 hless
    rw [hone, share_whole hpos] at hrank
    exact Int.lt_irrefl _ hrank
  · rintro rfl
    exact share_whole hpos

end Share

end Binary64

end Recollection
