import Mathlib.Data.List.Forall2
import Recollection.Text.Blank
/-!
# Equality up to ASCII case

Two texts are equal up to ASCII case if they are equal letter by letter, where a capital of the
basic Latin alphabet counts as its small letter and no other character counts as another. Texts are
compared this way by lowering their ASCII capitals.
-/

set_option autoImplicit false

namespace Recollection.Text

/-- A character is the ASCII capital of another, which comes 32 code points behind it. -/
def IsCapitalOf (c d : Char) : Prop :=
  65 ≤ c.toNat ∧ c.toNat ≤ 90 ∧ d.toNat = c.toNat + 32

/-- Two characters are equal, or one is the ASCII capital of the other. -/
def SameLetter (c d : Char) : Prop :=
  c = d ∨ IsCapitalOf c d ∨ IsCapitalOf d c

/-- Two texts are equal letter by letter, up to ASCII case. -/
def EqualUpToCase (a b : String) : Prop :=
  List.Forall₂ SameLetter a.toList b.toList

theorem toNat_toLower (c : Char) :
    c.toLower.toNat = if 65 ≤ c.toNat ∧ c.toNat ≤ 90 then c.toNat + 32 else c.toNat := by
  unfold Char.toLower
  split
  · rename_i hcapital
    have hbounds : 65 ≤ c.toNat ∧ c.toNat ≤ 90 := by
      simpa [UInt32.le_iff_toNat_le] using hcapital
    rw [if_pos hbounds]
    -- a capital is far below the end of the 32-bit range
    have hsmall : c.val.toNat + 32 < 2 ^ 32 :=
      Nat.lt_of_le_of_lt (Nat.add_le_add_right hbounds.2 32) (by decide)
    exact (UInt32.toNat_add c.val 32).trans (Nat.mod_eq_of_lt hsmall)
  · rename_i hother
    have hbounds : ¬(65 ≤ c.toNat ∧ c.toNat ≤ 90) := by
      simpa [UInt32.le_iff_toNat_le] using hother
    rw [if_neg hbounds]

theorem toLower_eq_toLower_iff (c d : Char) : c.toLower = d.toLower ↔ SameLetter c d := by
  rw [← Char.toNat_inj, toNat_toLower, toNat_toLower, SameLetter, IsCapitalOf, IsCapitalOf,
    ← Char.toNat_inj]
  split <;> split <;> omega

/-- Texts that are the same after lowering ASCII capitals are those that are equal up to case. -/
theorem lowerAscii_eq_lowerAscii_iff (a b : String) :
    lowerAscii a = lowerAscii b ↔ EqualUpToCase a b := by
  rw [lowerAscii, lowerAscii, String.ofList_inj, ← List.forall₂_eq_eq_eq,
    List.forall₂_map_left_iff, List.forall₂_map_right_iff]
  simp only [toLower_eq_toLower_iff]
  rfl

end Recollection.Text
