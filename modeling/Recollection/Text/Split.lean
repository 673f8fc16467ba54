/-!
# Splitting text

Text is split at a marker, at its first occurrence or at all occurrences of one character.
-/

set_option autoImplicit false

namespace Recollection.Text

/-- The text before and behind the first occurrence of a marker. -/
def splitAround? (marker : List Char) : List Char → Option (List Char × List Char)
  | [] => none
  | c :: rest =>
    if marker.isPrefixOf (c :: rest) then some ([], (c :: rest).drop marker.length)
    else (splitAround? marker rest).map fun (before, behind) => (c :: before, behind)

/-- The parts of a text between the occurrences of a character; at least one. -/
def splitOn (separator : Char) : List Char → List (List Char)
  | [] => [[]]
  | c :: rest =>
    if c == separator then [] :: splitOn separator rest
    else
      match splitOn separator rest with
      | [] => [[c]]
      | part :: parts => (c :: part) :: parts

theorem append_of_splitAround? {marker text before behind : List Char}
    (h : splitAround? marker text = some (before, behind)) : before ++ marker ++ behind = text := by
  induction text generalizing before with
  | nil => simp [splitAround?] at h
  | cons c rest ih =>
    simp only [splitAround?] at h
    split at h
    · rename_i atStart
      obtain ⟨suffix, same⟩ := List.isPrefixOf_iff_prefix.mp atStart
      simp only [Option.some.injEq, Prod.mk.injEq] at h
      obtain ⟨rfl, rfl⟩ := h
      rw [← same]
      simp
    · simp only [Option.map_eq_some_iff, Prod.mk.injEq, Prod.exists] at h
      obtain ⟨inner, tail, found, rfl, rfl⟩ := h
      simp [← ih found]

/-- What is behind a marker is shorter than the text, if there is anything to a marker. -/
theorem length_lt_of_splitAround? {marker text before behind : List Char} (visible : marker ≠ [])
    (h : splitAround? marker text = some (before, behind)) : behind.length < text.length := by
  have := List.length_pos_iff.mpr visible
  rw [← append_of_splitAround? h]
  simp only [List.length_append]
  omega

end Recollection.Text
