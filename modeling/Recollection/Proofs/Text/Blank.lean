import Recollection.Identity.Identifier
/-!
# Visible text

A text is visible if it holds something besides white space. Trimming leaves nothing of a text
exactly when it is not visible, so an identifier can be built from every visible text; and a text is
visible if any part of it is.
-/

set_option autoImplicit false

namespace Recollection

namespace Text

theorem trimEndChars_eq_nil_iff (text : List Char) :
    trimEndChars text = [] ↔ ∀ c ∈ text, isBlank c = true := by
  induction text with
  | nil => simp [trimEndChars]
  | cons c rest ih =>
    rw [List.forall_mem_cons, ← ih, trimEndChars]
    cases trimEndChars rest with
    | nil => simp
    | cons d kept => simp

/-- Trimming leaves nothing exactly of the texts without anything but white space. -/
theorem trim_eq_empty_iff (text : String) : trim text = "" ↔ isBlankText text = true := by
  rw [trim, String.ofList_eq_empty_iff, trimChars, trimEndChars_eq_nil_iff, isBlankText,
    List.all_eq_true]
  constructor
  · intro hbehind c hmem
    rw [← List.takeWhile_append_dropWhile (p := isBlank) (l := text.toList),
      List.mem_append] at hmem
    rcases hmem with hfront | hmem
    · exact List.all_eq_true.1 List.all_takeWhile c hfront
    · exact hbehind c hmem
  · intro hblank c hmem
    exact hblank c ((List.dropWhile_sublist isBlank).mem hmem)

theorem isBlankText_eq_false_iff (text : String) :
    isBlankText text = false ↔ ∃ c ∈ text.toList, isBlank c = false := by
  rw [isBlankText, List.all_eq_false]
  simp only [Bool.not_eq_true]

/-- A trimmed text that is not empty is visible. -/
theorem isBlankText_of_trimmed {text : String} (htrimmed : trim text = text)
    (hnonempty : text ≠ "") : isBlankText text = false := by
  rw [Bool.eq_false_iff, ne_eq, ← trim_eq_empty_iff, htrimmed]
  exact hnonempty

/-- Trimming a visible text leaves it visible. -/
theorem isBlankText_trim {text : String} (hvisible : isBlankText text = false) :
    isBlankText (trim text) = false := by
  apply isBlankText_of_trimmed (trim_trim text)
  rw [ne_eq, trim_eq_empty_iff, hvisible]
  exact Bool.false_ne_true

/-- Words in a row are visible if the first of them is. -/
theorem isBlankText_intercalate {separator first : String} (rest : List String)
    (hfirst : isBlankText first = false) :
    isBlankText (separator.intercalate (first :: rest)) = false := by
  obtain ⟨c, hmem, hvisible⟩ := (isBlankText_eq_false_iff first).1 hfirst
  refine (isBlankText_eq_false_iff _).2 ⟨c, ?_, hvisible⟩
  cases rest with
  | nil => rwa [String.intercalate_singleton]
  | cons second rest =>
    rw [String.intercalate_cons_cons, String.toList_append, String.toList_append]
    exact List.mem_append_left _ (List.mem_append_left _ hmem)

end Text

/-- A visible text stands for an identifier. -/
theorem Identifier.exists_ofText (kind : IdentifierKind) {raw : String}
    (hvisible : Text.isBlankText raw = false) :
    ∃ identifier, ofText kind raw = .ok identifier := by
  have hnonempty : Text.trim raw ≠ "" := by
    rw [ne_eq, Text.trim_eq_empty_iff, hvisible]
    exact Bool.false_ne_true
  refine ⟨⟨Text.trim raw, Text.trim_trim raw, hnonempty⟩, ?_⟩
  rw [ofText, ofText?, dif_neg hnonempty]

end Recollection
