import Mathlib.Data.String.Basic
/-!
# Texts in the order of their bytes

Texts are ordered as lists of characters, and UTF-8 is made so that this is the order of their bytes
too: of two characters the greater one has the greater encoding, whatever follows them.
-/

set_option autoImplicit false

namespace Recollection.Text

/-- The bytes of a text in UTF-8. -/
def bytes (text : String) : List UInt8 :=
  text.toByteArray.data.toList

theorem bytes_eq_flatMap (text : String) :
    bytes text = text.toList.flatMap String.utf8EncodeChar := by
  have hencoded : text.toByteArray = text.toList.utf8Encode := by
    rw [← String.toByteArray_ofList, String.ofList_toList]
  rw [bytes, hencoded, List.utf8Encode]
  simp

/-- A greater character has a greater encoding, at the first byte in which the two differ. -/
theorem utf8EncodeChar_append_lt {c d : Char} (hless : c < d) (rest other : List UInt8) :
    String.utf8EncodeChar c ++ rest < String.utf8EncodeChar d ++ other := by
  have hvalue : c.val.toNat < d.val.toNat := UInt32.lt_iff_toNat_lt.1 hless
  have hbound : d.val.toNat < 0x110000 := by
    rcases d.valid with hlow | hhigh
    · exact hlow.trans (by decide)
    · exact hhigh.2
  -- The digits in base 64 are taken off one by one, which is what the arithmetic below can follow.
  have hsecond (n : Nat) : n / 4096 = n / 64 / 64 := by omega
  have hthird (n : Nat) : n / 262144 = n / 64 / 64 / 64 := by omega
  have hbyte (n : Nat) (hsmall : n < 256) : (UInt8.ofNat n).toNat = n :=
    UInt8.toNat_ofNat_of_lt' hsmall
  unfold String.utf8EncodeChar
  generalize c.val.toNat = first at *
  generalize d.val.toNat = second at *
  simp only [hsecond, hthird]
  split_ifs <;>
    simp (disch := omega) only [List.cons_append, List.nil_append, List.cons_lt_cons_iff,
      UInt8.lt_iff_toNat_lt, ← UInt8.toNat_inj, hbyte] <;>
    omega

theorem flatMap_utf8EncodeChar_lt {text other : List Char} (hless : text < other) :
    text.flatMap String.utf8EncodeChar < other.flatMap String.utf8EncodeChar := by
  induction text generalizing other with
  | nil =>
    cases other with
    | nil => exact absurd hless (List.not_lt_nil _)
    | cons d rest =>
      obtain ⟨byte, more, hencoded⟩ :=
        List.exists_cons_of_ne_nil (String.utf8EncodeChar_ne_nil (c := d))
      rw [List.flatMap_cons, hencoded]
      exact List.nil_lt_cons _ _
  | cons c text ih =>
    cases other with
    | nil => exact absurd hless (List.not_lt_nil _)
    | cons d rest =>
      rw [List.flatMap_cons, List.flatMap_cons]
      rcases List.cons_lt_cons_iff.1 hless with hchar | ⟨rfl, hrest⟩
      · exact utf8EncodeChar_append_lt hchar _ _
      · exact List.append_left_lt (ih hrest)

/-- The order of texts is the order of their bytes. -/
theorem bytes_lt_bytes_iff {text other : String} : bytes text < bytes other ↔ text < other := by
  have hmono {first second : String} (hless : first < second) : bytes first < bytes second := by
    rw [bytes_eq_flatMap, bytes_eq_flatMap]
    exact flatMap_utf8EncodeChar_lt (String.lt_iff_toList_lt.1 hless)
  refine ⟨?_, hmono⟩
  intro hbytes
  rcases lt_trichotomy text other with hless | rfl | hgreater
  · exact hless
  · exact absurd hbytes (List.lt_irrefl _)
  · exact absurd hbytes (List.lt_asymm (hmono hgreater))

end Recollection.Text
