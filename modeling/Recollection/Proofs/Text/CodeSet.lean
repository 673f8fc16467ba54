import Recollection.Text.Alphanumeric
import Recollection.Text.Blank
/-!
# Sets of code points by their ranges

The code points of a set lie in ranges from one bound to the next. That all of a range belong to
another set, or none of them, is read off the bounds of that set without looking at each of them. So
white space is not alphanumeric.
-/

set_option autoImplicit false

namespace Recollection.Text

namespace CodeSet

/-- Whether all code points from one up to another lie in one range of a set. -/
def encloses (low high : Nat) : List Nat → Bool
  | [] => false
  | [first] => first ≤ low
  | first :: behind :: rest =>
    first ≤ low && if behind ≤ low then encloses low high rest else high < behind

theorem memberFrom_of_encloses {low high point : Nat} (hlow : low ≤ point) (hhigh : point ≤ high) :
    ∀ {bounds : List Nat}, encloses low high bounds = true → memberFrom point bounds = true
  | [], hencloses => by cases hencloses
  | [first], hencloses => by
    have hfirst : first ≤ low := of_decide_eq_true hencloses
    rw [memberFrom, if_neg (by omega), memberFrom, Bool.not_false]
  | first :: behind :: rest, hencloses => by
    rw [encloses, Bool.and_eq_true, decide_eq_true_iff] at hencloses
    obtain ⟨hfirst, hencloses⟩ := hencloses
    rw [memberFrom, if_neg (by omega), memberFrom]
    split at hencloses
    · rw [if_neg (by omega), memberFrom_of_encloses hlow hhigh hencloses]
      rfl
    · rw [decide_eq_true_iff] at hencloses
      rw [if_pos (by omega), Bool.not_false]

/-- The ranges of a set, each with its first code point and the first one behind it. -/
def ranges : List Nat → List (Nat × Nat)
  | [] => []
  | [_] => []
  | first :: behind :: rest => (first, behind) :: ranges rest

/-- A set that ends with a bound has no members outside its ranges. -/
theorem exists_range_of_memberFrom {point : Nat} : ∀ {bounds : List Nat}, bounds.length % 2 = 0 →
    memberFrom point bounds = true → ∃ range ∈ ranges bounds, range.1 ≤ point ∧ point < range.2
  | [], _, hmember => by cases hmember
  | [bound], heven, _ => by cases heven
  | first :: behind :: rest, heven, hmember => by
    have hrest : rest.length % 2 = 0 := by
      rw [List.length_cons, List.length_cons] at heven
      omega
    simp only [memberFrom] at hmember
    split at hmember
    · cases hmember
    · rename_i hfirst
      split at hmember
      · rename_i hbehind
        exact ⟨(first, behind), List.mem_cons_self, Nat.le_of_not_lt hfirst, hbehind⟩
      · rw [Bool.not_not] at hmember
        obtain ⟨range, hrange, hinside⟩ := exists_range_of_memberFrom hrest hmember
        exact ⟨range, List.mem_cons_of_mem _ hrange, hinside⟩

/-- Whether the ranges of a set lie between those of another one. A bound in front of all others
turns membership around. -/
def avoids (set other : CodeSet) : Bool :=
  (ranges set.bounds).all fun range => encloses range.1 (range.2 - 1) (0 :: other.bounds)

theorem contains_eq_false_of_avoids {set other : CodeSet} (heven : set.bounds.length % 2 = 0)
    (havoids : set.avoids other = true) {c : Char} (hmember : set.contains c = true) :
    other.contains c = false := by
  obtain ⟨range, hrange, hfirst, hbehind⟩ := exists_range_of_memberFrom heven hmember
  have houtside := memberFrom_of_encloses hfirst (Nat.le_sub_one_of_lt hbehind)
    (List.all_eq_true.1 havoids range hrange)
  rwa [memberFrom, if_neg (Nat.not_lt_zero _), Bool.not_eq_true'] at houtside

end CodeSet

theorem whiteSpace_avoids_alphanumeric : whiteSpace.avoids alphanumeric = true := by
  decide +kernel

/-- White space does not stand in words. -/
theorem isBlank_eq_false_of_isAlphanumeric {c : Char} (hc : isAlphanumeric c = true) :
    isBlank c = false := by
  rw [← Bool.not_eq_true]
  intro hblank
  have hnot : isAlphanumeric c = false :=
    CodeSet.contains_eq_false_of_avoids (by decide) whiteSpace_avoids_alphanumeric hblank
  rw [hc] at hnot
  cases hnot

end Recollection.Text
