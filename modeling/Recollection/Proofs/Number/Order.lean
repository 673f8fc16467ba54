import Recollection.Proofs.Number.Shortest
/-!
# The two orders of numbers

Numbers are compared by their places on the line, where both zeros share one. Words are ordered by
their ranks, which tell any two of them apart. On words that are numbers the two orders agree, but
for the zeros: the one with a sign comes right before the one without.
-/

set_option autoImplicit false

namespace Recollection.Binary64

/-- Zero with a sign. As a number it is zero. -/
def negativeZero : Binary64 :=
  ofMagnitude true 0

theorem eq_zero_iff (x : Binary64) : x = zero ↔ x.isNegative = false ∧ x.magnitude = 0 := by
  constructor
  · rintro rfl
    decide
  · rintro ⟨hsign, hmagnitude⟩
    rw [← ofMagnitude_magnitude x, hsign, hmagnitude]
    rfl

theorem eq_negativeZero_iff (x : Binary64) :
    x = negativeZero ↔ x.isNegative = true ∧ x.magnitude = 0 := by
  constructor
  · rintro rfl
    decide
  · rintro ⟨hsign, hmagnitude⟩
    rw [← ofMagnitude_magnitude x, hsign, hmagnitude]
    rfl

/-- No two words have one rank. -/
theorem rank_inj {x y : Binary64} : x.rank = y.rank ↔ x = y := by
  constructor
  · intro hrank
    unfold rank at hrank
    have hsign : x.isNegative = y.isNegative := by
      cases hx : x.isNegative <;> cases hy : y.isNegative <;> simp [hx, hy] at hrank ⊢ <;> omega
    have hmagnitude : x.magnitude = y.magnitude := by
      rw [hsign] at hrank
      split at hrank <;> omega
    rw [← ofMagnitude_magnitude x, ← ofMagnitude_magnitude y, hsign, hmagnitude]
  · rintro rfl
    rfl

theorem totalLe_refl (x : Binary64) : x.totalLe x = true :=
  decide_eq_true (Int.le_refl _)

theorem totalLe_trans {x y z : Binary64} (hxy : x.totalLe y = true) (hyz : y.totalLe z = true) :
    x.totalLe z = true :=
  decide_eq_true (Int.le_trans (of_decide_eq_true hxy) (of_decide_eq_true hyz))

theorem totalLe_total (x y : Binary64) : (x.totalLe y || y.totalLe x) = true := by
  rw [Bool.or_eq_true, totalLe, totalLe, decide_eq_true_iff, decide_eq_true_iff]
  exact Int.le_total _ _

theorem totalLe_antisymm {x y : Binary64} (hxy : x.totalLe y = true) (hyx : y.totalLe x = true) :
    x = y :=
  rank_inj.1 (Int.le_antisymm (of_decide_eq_true hxy) (of_decide_eq_true hyx))

/-- The total order refines the order of numbers, in which both zeros have one place. -/
theorem key_le_of_totalLe {x y : Binary64} (hle : x.totalLe y = true) : x.key ≤ y.key := by
  have hranks := of_decide_eq_true hle
  simp only [rank, key] at hranks ⊢
  cases hx : x.isNegative <;> cases hy : y.isNegative <;> simp [hx, hy] at hranks ⊢ <;> omega

theorem le_trans {x y z : Binary64} (hxy : x.le y = true) (hyz : y.le z = true) :
    x.le z = true := by
  simp only [le, Bool.and_eq_true, decide_eq_true_eq] at hxy hyz ⊢
  exact ⟨⟨hxy.1.1, hyz.1.2⟩, Int.le_trans hxy.2 hyz.2⟩

section Numbers

variable {x y : Binary64} (hx : x.isNaN = false) (hy : y.isNaN = false)

include hx hy

theorem le_iff_key_le : x.le y = true ↔ x.key ≤ y.key := by
  rw [le, hx, hy]
  exact decide_eq_true_iff

theorem le_of_totalLe (hle : x.totalLe y = true) : x.le y = true :=
  (le_iff_key_le hx hy).2 (key_le_of_totalLe hle)

theorem lt_iff_key_lt : x.lt y = true ↔ x.key < y.key := by
  rw [lt, hx, hy]
  exact decide_eq_true_iff

theorem same_iff_key_eq : x.same y = true ↔ x.key = y.key := by
  rw [same, hx, hy]
  exact decide_eq_true_iff

/-- Of two numbers, the one is less or the other is at most it. -/
theorem lt_iff_not_le : x.lt y = true ↔ ¬ y.le x = true := by
  rw [lt_iff_key_lt hx hy, le_iff_key_le hy hx, Int.not_le]

/-- A number comes before another one in the total order if it is less, or if they are the two
zeros and it is the one with a sign. -/
theorem rank_lt_rank_iff :
    x.rank < y.rank ↔ x.lt y = true ∨ x = negativeZero ∧ y = zero := by
  rw [lt_iff_key_lt hx hy, eq_negativeZero_iff, eq_zero_iff, rank, rank, key, key]
  cases x.isNegative <;> cases y.isNegative <;> simp <;> omega

/-- Numbers are equal if they are one word or the two zeros. -/
theorem same_iff :
    x.same y = true ↔ x = y ∨ x = negativeZero ∧ y = zero ∨ x = zero ∧ y = negativeZero := by
  rw [same_iff_key_eq hx hy, ← rank_inj, eq_negativeZero_iff, eq_zero_iff, eq_zero_iff,
    eq_negativeZero_iff, rank, rank, key, key]
  cases x.isNegative <;> cases y.isNegative <;> simp <;> omega

end Numbers

/-- A share is zero or positive. -/
theorem share_eq_zero_or_lt {part whole : Nat} (hle : part ≤ whole) :
    share part whole = zero ∨ zero.lt (share part whole) = true := by
  rcases Nat.eq_zero_or_pos whole with rfl | hpos
  · exact .inl (share_zero_whole part)
  · have hnumber := isNaN_eq_false_of_isFinite (isFinite_share hpos hle)
    have hzero : zero.isNaN = false := by decide
    have hzeroKey : zero.key = 0 := by decide
    rw [eq_zero_iff, lt_iff_key_lt hzero hnumber, hzeroKey, key_share hpos hle,
      magnitude_share hpos hle, and_iff_right (isNegative_share hpos hle)]
    omega

end Recollection.Binary64
