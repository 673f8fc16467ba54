import Recollection.Proofs.Digest.Canonical
import Recollection.Proofs.Number.Integral
/-!
# Numbers as values

A number becomes an integer if it is one that is not too great, and stays what it is otherwise; so a
number has one value, whichever zero it is, and one canonical text. Different numbers have different
values, and these have different texts.
-/

set_option autoImplicit false

namespace Recollection.Json

/-- A value is that of a finite number: an integer if the number is one of magnitude at most
`2 ^ 53`, and else the number itself. -/
inductive IsNumberOf (x : Binary64) : Json → Prop
  /-- An integer. -/
  | integer {n : Int} : x.IsInteger n → n.natAbs ≤ Binary64.exactIntegerLimit →
    IsNumberOf x (.integer n)
  /-- Any other finite number. -/
  | double : x.isFinite = true → x.toInteger? = none → IsNumberOf x (.double x)

theorem ofNumber?_eq_some_iff {x : Binary64} {value : Json} :
    ofNumber? x = some value ↔ IsNumberOf x value := by
  unfold ofNumber?
  constructor
  · intro hvalue
    obtain ⟨hfinite, hvalue⟩ := Option.ite_none_right_eq_some.1 hvalue
    split at hvalue
    · rename_i n hinteger
      obtain ⟨hexact, hlimit⟩ := Binary64.toInteger?_eq_some_iff.1 hinteger
      obtain rfl := Option.some.inj hvalue
      exact .integer hexact hlimit
    · rename_i hnone
      obtain rfl := Option.some.inj hvalue
      exact .double hfinite hnone
  · rintro (⟨hexact, hlimit⟩ | ⟨hfinite, hnone⟩)
    · rw [hexact.finite, Binary64.toInteger?_eq_some_iff.2 ⟨hexact, hlimit⟩]
      rfl
    · rw [hfinite, hnone]
      rfl

theorem ofNumber?_eq_none_iff {x : Binary64} : ofNumber? x = none ↔ x.isFinite = false := by
  unfold ofNumber?
  cases x.isFinite with
  | false => simp
  | true => cases x.toInteger? <;> simp

namespace IsNumberOf

variable {x y : Binary64} {value other : Json}

theorem finite (hvalue : IsNumberOf x value) : x.isFinite = true := by
  cases hvalue with
  | integer hexact _ => exact hexact.finite
  | double hfinite _ => exact hfinite

theorem wellFormed (hvalue : IsNumberOf x value) : value.WellFormed := by
  cases hvalue with
  | integer _ _ => trivial
  | double hfinite _ => exact hfinite

theorem normal (hvalue : IsNumberOf x value) : value.normal = value := by
  cases hvalue <;> rfl

/-- It is an integer if the number is one that is not too great. -/
theorem eq_integer_iff (hvalue : IsNumberOf x value) {n : Int} :
    value = .integer n ↔ x.IsInteger n ∧ n.natAbs ≤ Binary64.exactIntegerLimit := by
  rw [← Binary64.toInteger?_eq_some_iff]
  cases hvalue with
  | integer hexact hlimit =>
    rw [Binary64.toInteger?_eq_some_iff.2 ⟨hexact, hlimit⟩, Option.some.injEq, Json.integer.injEq]
  | double _ hnone => simp [hnone]

/-- Read as a number again, it is equal to the number. -/
theorem number? (hvalue : IsNumberOf x value) :
    ∃ y, value.number? = some y ∧ y.same x = true := by
  cases hvalue with
  | integer hexact _ => exact ⟨_, rfl, hexact.same_ofInt⟩
  | double hfinite _ => exact ⟨_, rfl, Binary64.same_refl hfinite⟩

/-- Equal numbers have one value. -/
theorem eq_of_same (hx : IsNumberOf x value) (hy : IsNumberOf y other)
    (hsame : x.same y = true) : value = other := by
  cases hx with
  | integer hexact hlimit =>
    exact (hy.eq_integer_iff.2 ⟨(hexact.same_iff hy.finite).1 hsame, hlimit⟩).symm
  | double hfinite hnone =>
    cases hy with
    | integer hexact hlimit =>
      have hinteger := (hexact.same_iff hfinite).1
        ((Binary64.same_comm hfinite hexact.finite).1 hsame)
      rw [Binary64.toInteger?_eq_some_iff.2 ⟨hinteger, hlimit⟩] at hnone
      cases hnone
    | double hother _ =>
      rw [Binary64.eq_of_same_of_toInteger?_eq_none hfinite hother hnone hsame]

/-- Values that are equal as values are those of equal numbers. -/
theorem same_of_sameValue (hx : IsNumberOf x value) (hy : IsNumberOf y other)
    (hequal : value.sameValue other = true) : x.same y = true := by
  rw [sameValue, hx.normal, hy.normal] at hequal
  cases hx with
  | integer hexact _ =>
    cases hy with
    | integer hother _ =>
      obtain rfl := eq_of_beq hequal
      exact (hexact.same_iff hother.finite).2 hother
    | double _ _ => cases hequal
  | double _ _ =>
    cases hy with
    | integer _ _ => cases hequal
    | double _ _ => exact hequal

theorem sameValue_self (hvalue : IsNumberOf x value) : value.sameValue value = true := by
  rw [sameValue, hvalue.normal]
  cases hvalue with
  | integer _ _ => exact beq_self_eq_true _
  | double hfinite _ => exact Binary64.same_refl hfinite

/-- Numbers are equal exactly if their values are. -/
theorem same_iff_sameValue (hx : IsNumberOf x value) (hy : IsNumberOf y other) :
    x.same y = true ↔ value.sameValue other = true := by
  refine ⟨fun hsame => ?_, hx.same_of_sameValue hy⟩
  rw [← hx.eq_of_same hy hsame]
  exact hx.sameValue_self

/-- Numbers are equal exactly if their values have one canonical text. -/
theorem same_iff_canonical_eq (hx : IsNumberOf x value) (hy : IsNumberOf y other) :
    x.same y = true ↔ value.canonical = other.canonical := by
  refine ⟨fun hsame => congrArg canonical (hx.eq_of_same hy hsame), fun htext => ?_⟩
  rw [canonical_eq_iff_normal_eq hx.wellFormed hy.wellFormed, hx.normal, hy.normal] at htext
  subst htext
  exact hx.same_of_sameValue hy hx.sameValue_self

end IsNumberOf

/-- Only NaN and the infinities have no value. The value of any other number is read as a number
that is equal to it, and it is an integer exactly if the number is one of magnitude at most
`2 ^ 53`. Numbers are equal exactly if their values are, and exactly if these have one canonical
text. -/
theorem numbers_canonical :
    (∀ x, ofNumber? x = none ↔ x.isNaN = true ∨ ∃ negative, x = .infinity negative) ∧
    (∀ x value, ofNumber? x = some value →
      (∃ y, value.number? = some y ∧ y.same x = true) ∧
      ∀ n, value = .integer n ↔ x.IsInteger n ∧ n.natAbs ≤ 2 ^ 53) ∧
    ∀ x y value other, ofNumber? x = some value → ofNumber? y = some other →
      (x.same y = true ↔ value.sameValue other = true) ∧
      (value.sameValue other = true ↔ value.canonical = other.canonical) := by
  refine ⟨?_, ?_, ?_⟩
  · intro x
    rw [ofNumber?_eq_none_iff, Binary64.isFinite_eq_false_iff]
  · intro x value hvalue
    have hnumber := ofNumber?_eq_some_iff.1 hvalue
    exact ⟨hnumber.number?, fun n => hnumber.eq_integer_iff⟩
  · intro x y value other hvalue hother
    have hx := ofNumber?_eq_some_iff.1 hvalue
    have hy := ofNumber?_eq_some_iff.1 hother
    refine ⟨hx.same_iff_sameValue hy, ?_⟩
    rw [← hx.same_iff_sameValue hy, hx.same_iff_canonical_eq hy]

/-- Zero with a sign has the value of zero without one; the number behind `2 ^ 53` is no integer any
more. -/
example : ofNumber? Binary64.negativeZero = some (.integer 0) ∧
    ofNumber? (.ofNat (2 ^ 53)) = some (.integer (2 ^ 53)) ∧
    ofNumber? (.ofNat (2 ^ 53 + 2)) = some (.double (.ofNat (2 ^ 53 + 2))) := by
  decide +kernel

end Recollection.Json
