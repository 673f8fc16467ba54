import Mathlib.Data.List.Infix
import Recollection.Text.Split
/-!
# Where markers occur

Splitting a text finds the first occurrence of a marker: the one before which none begins, not even
one that reaches over the end of what stands before it (`NoneBegins`).

Where texts are joined, a marker occurs that occurs in one of them, or one that is formed across a
joint. Texts of which neither holds a marker can make one up together, unless the second of them
starts with a character that is no part of it.

A text that is split at every occurrence of one character has as its parts the only texts without
that character which the character between them makes up into the text.
-/

set_option autoImplicit false

namespace Recollection.Text

variable {marker part rest text before behind front back : List Char}

/-! ## Occurrences that begin in a part of a text -/

/-- No occurrence of a marker begins in a part of a text that goes on with the rest. -/
def NoneBegins (marker part rest : List Char) : Prop :=
  ∀ tail, tail <:+ part → tail ≠ [] → ¬ marker <+: tail ++ rest

instance (marker part rest : List Char) : Decidable (NoneBegins marker part rest) :=
  decidable_of_iff (∀ tail ∈ part.tails, tail ≠ [] → ¬ marker <+: tail ++ rest)
    (forall_congr' fun tail => by rw [List.mem_tails])

theorem noneBegins_nil (marker rest : List Char) : NoneBegins marker [] rest := by
  intro tail htail hne
  exact absurd (List.suffix_nil.1 htail) hne

theorem noneBegins_cons_iff {c : Char} :
    NoneBegins marker (c :: part) rest ↔
      ¬ marker <+: c :: (part ++ rest) ∧ NoneBegins marker part rest := by
  constructor
  · intro hnone
    refine ⟨hnone _ (List.suffix_refl _) (List.cons_ne_nil _ _), fun tail htail => ?_⟩
    exact hnone tail (htail.trans (List.suffix_cons c part))
  · rintro ⟨hhere, hlater⟩ tail htail hne
    rcases List.suffix_cons_iff.1 htail with rfl | htail
    · exact hhere
    · exact hlater tail htail hne

/-- No occurrence begins where its first character is not found. -/
theorem noneBegins_of_not_mem {c : Char} (hnot : c ∉ part) (marker rest : List Char) :
    NoneBegins (c :: marker) part rest := by
  intro tail htail hne hbegins
  obtain ⟨d, tail, rfl⟩ := List.exists_cons_of_ne_nil hne
  obtain rfl := (List.cons_prefix_cons.1 hbegins).1
  exact hnot (htail.subset List.mem_cons_self)

/-- No occurrence begins in a text that does not hold the marker and stands before a character that
is no part of it. -/
theorem noneBegins_append_singleton {c : Char} (hc : c ∉ marker) (hnone : ¬ marker <:+: part)
    (rest : List Char) : NoneBegins marker (part ++ [c]) rest := by
  rintro tail htail hne ⟨more, hbegins⟩
  rcases List.suffix_concat_iff.1 htail with rfl | ⟨front, rfl, hfront⟩
  · exact hne rfl
  · rw [List.append_assoc] at hbegins
    rcases List.append_eq_append_iff.1 hbegins with ⟨gap, rfl, -⟩ | ⟨gap, rfl, hgap⟩
    · exact hnone ((List.prefix_append marker gap).isInfix.trans hfront.isInfix)
    · cases gap with
      | nil =>
        rw [List.append_nil] at hnone
        exact hnone hfront.isInfix
      | cons d gap =>
        obtain rfl := (List.cons.inj hgap).1
        simp at hc

/-- Where a text ends, an occurrence that begins in it stands in it. -/
theorem noneBegins_end_iff (hmarker : marker ≠ []) :
    NoneBegins marker part [] ↔ ¬ marker <:+: part := by
  simp only [NoneBegins, List.append_nil, List.infix_iff_prefix_suffix, not_exists, not_and]
  constructor
  · intro hnone tail hbegins htail
    refine hnone tail htail ?_ hbegins
    rintro rfl
    exact hmarker (List.prefix_nil.1 hbegins)
  · intro hnone tail htail _ hbegins
    exact hnone tail hbegins htail

/-- What stands before the first occurrence of a marker does not hold it, not even together with a
piece of that occurrence. -/
theorem NoneBegins.not_infix_append (hnone : NoneBegins marker before (marker ++ behind))
    (hpiece : part <+: marker) (hproper : part.length < marker.length) :
    ¬ marker <:+: before ++ part := by
  rintro ⟨start, more, hoccurs⟩
  rw [List.append_assoc] at hoccurs
  rcases List.append_eq_append_iff.1 hoccurs with ⟨tail, rfl, htail⟩ | ⟨gap, -, hgap⟩
  · cases tail with
    | nil =>
      have hlength := congrArg List.length htail
      rw [List.nil_append, List.length_append] at hlength
      omega
    | cons c tail =>
      refine hnone (c :: tail) (List.suffix_append _ _) (List.cons_ne_nil _ _) ?_
      have hbegins : marker <+: (c :: tail) ++ part := ⟨more, htail⟩
      refine hbegins.trans ((List.prefix_append_right_inj _).2 ?_)
      exact hpiece.trans (List.prefix_append _ _)
  · have hlength := congrArg List.length hgap
    rw [List.length_append, List.length_append] at hlength
    omega

/-! ## Splitting -/

theorem splitAround?_eq_none_iff (hmarker : marker ≠ []) :
    splitAround? marker text = none ↔ ¬ marker <:+: text := by
  induction text with
  | nil => simp [splitAround?, hmarker]
  | cons c text ih =>
    rw [splitAround?, List.infix_cons_iff]
    by_cases hhere : marker <+: c :: text
    · have hfound := List.isPrefixOf_iff_prefix.2 hhere
      simp [hfound, hhere]
    · rw [if_neg (mt List.isPrefixOf_iff_prefix.1 hhere), Option.map_eq_none_iff, ih]
      simp [hhere]

/-- A text is split around the first occurrence of a marker. -/
theorem splitAround?_eq_some_iff (hmarker : marker ≠ []) :
    splitAround? marker text = some (before, behind) ↔
      text = before ++ marker ++ behind ∧ NoneBegins marker before (marker ++ behind) := by
  constructor
  · intro hsplit
    obtain rfl := append_of_splitAround? hsplit
    refine ⟨rfl, ?_⟩
    induction before with
    | nil => exact noneBegins_nil _ _
    | cons c before ih =>
      rw [List.cons_append, List.cons_append, splitAround?] at hsplit
      rw [noneBegins_cons_iff, ← List.append_assoc]
      split at hsplit
      · simp at hsplit
      · rename_i hnot
        refine ⟨mt List.isPrefixOf_iff_prefix.2 hnot, ih ?_⟩
        obtain ⟨⟨front, back⟩, hfound, heq⟩ := Option.map_eq_some_iff.1 hsplit
        simp only [Prod.mk.injEq, List.cons.injEq, true_and] at heq
        obtain ⟨rfl, rfl⟩ := heq
        exact hfound
  · rintro ⟨rfl, hnone⟩
    induction before with
    | nil =>
      obtain ⟨c, marker, rfl⟩ := List.exists_cons_of_ne_nil hmarker
      rw [List.nil_append, List.cons_append, splitAround?, if_pos]
      · rw [← List.cons_append, List.drop_left]
      · exact List.isPrefixOf_iff_prefix.2 (List.prefix_append (c :: marker) behind)
    | cons c before ih =>
      rw [noneBegins_cons_iff, ← List.append_assoc] at hnone
      rw [List.cons_append, List.cons_append, splitAround?,
        if_neg (mt List.isPrefixOf_iff_prefix.1 hnone.1), ih hnone.2]
      rfl

/-! ## Occurrences in texts that are joined -/

/-- A marker is formed where two texts are joined. -/
def FormedAcross (marker front back : List Char) : Prop :=
  ∃ head tail, head ≠ [] ∧ tail ≠ [] ∧ marker = head ++ tail ∧ head <:+ front ∧ tail <+: back

theorem infix_append_iff :
    marker <:+: front ++ back ↔
      marker <:+: front ∨ marker <:+: back ∨ FormedAcross marker front back := by
  rw [List.infix_append_iff]
  constructor
  · rintro (hfront | hback | ⟨head, tail, rfl, hhead, htail⟩)
    · exact .inl hfront
    · exact .inr (.inl hback)
    · by_cases hnil : head = []
      · subst hnil
        exact .inr (.inl htail.isInfix)
      · by_cases hempty : tail = []
        · subst hempty
          rw [List.append_nil]
          exact .inl hhead.isInfix
        · exact .inr (.inr ⟨head, tail, hnil, hempty, rfl, hhead, htail⟩)
  · rintro (hfront | hback | ⟨head, tail, -, -, hmarker, hhead, htail⟩)
    · exact .inl hfront
    · exact .inr (.inl hback)
    · exact .inr (.inr ⟨head, tail, hmarker, hhead, htail⟩)

/-- No marker is formed across a joint behind which there is a character that is no part of it. -/
theorem infix_append_iff_of_head (hhead : ∀ c ∈ back.head?, c ∉ marker) :
    marker <:+: front ++ back ↔ marker <:+: front ∨ marker <:+: back := by
  have hnot : ¬ FormedAcross marker front back := by
    rintro ⟨head, tail, -, hne, rfl, -, htail⟩
    obtain ⟨c, tail, rfl⟩ := List.exists_cons_of_ne_nil hne
    obtain ⟨more, rfl⟩ := htail
    exact hhead c rfl (by simp)
  rw [infix_append_iff, or_iff_left hnot]

/-- A marker is formed at one of the joints of some pieces of text. -/
def FormedAtJoint (marker : List Char) (pieces : List (List Char)) : Prop :=
  ∃ earlier later, pieces = earlier ++ later ∧
    FormedAcross marker earlier.flatten later.flatten

theorem FormedAtJoint.infix_flatten {pieces : List (List Char)}
    (hformed : FormedAtJoint marker pieces) : marker <:+: pieces.flatten := by
  obtain ⟨earlier, later, rfl, hacross⟩ := hformed
  rw [List.flatten_append, infix_append_iff]
  exact .inr (.inr hacross)

/-- In pieces that are joined, a marker occurs that none of them holds only where it is formed at a
joint. -/
theorem infix_flatten_iff {pieces : List (List Char)} (hmarker : marker ≠ [])
    (hnone : ∀ piece ∈ pieces, ¬ marker <:+: piece) :
    marker <:+: pieces.flatten ↔ FormedAtJoint marker pieces := by
  refine ⟨fun hoccurs => ?_, FormedAtJoint.infix_flatten⟩
  induction pieces with
  | nil => exact absurd (List.infix_nil.1 hoccurs) hmarker
  | cons piece pieces ih =>
    rw [List.forall_mem_cons] at hnone
    rw [List.flatten_cons, infix_append_iff] at hoccurs
    rcases hoccurs with hpiece | hlater | hacross
    · exact absurd hpiece hnone.1
    · obtain ⟨earlier, later, rfl, head, tail, hhead, htail, rfl, hbefore, hbehind⟩ :=
        ih hnone.2 hlater
      refine ⟨piece :: earlier, later, rfl, head, tail, hhead, htail, rfl, ?_, hbehind⟩
      exact hbefore.trans (List.suffix_append piece _)
    · refine ⟨[piece], pieces, rfl, ?_⟩
      rwa [List.flatten_singleton]

/-! ## Parts between the occurrences of one character -/

/-- The parts of a text between the occurrences of a character. -/
structure IsSplit (separator : Char) (text : List Char) (parts : List (List Char)) : Prop where
  /-- The character between any two of them makes up the text. -/
  joined : [separator].intercalate parts = text
  /-- The character is in none of them. -/
  clean : ∀ part ∈ parts, separator ∉ part
  /-- There is at least one. -/
  nonempty : parts ≠ []

variable {separator : Char} {parts : List (List Char)}

theorem splitOn_of_notMem (hclean : separator ∉ part) : splitOn separator part = [part] := by
  induction part with
  | nil => rfl
  | cons c part ih =>
    rw [List.mem_cons, not_or] at hclean
    rw [splitOn, if_neg (by simpa using Ne.symm hclean.1), ih hclean.2]

/-- The first part ends where the character occurs first. -/
theorem splitOn_append_cons (hclean : separator ∉ part) (rest : List Char) :
    splitOn separator (part ++ separator :: rest) = part :: splitOn separator rest := by
  induction part with
  | nil => rw [List.nil_append, splitOn, if_pos (by simp)]
  | cons c part ih =>
    rw [List.mem_cons, not_or] at hclean
    rw [List.cons_append, splitOn, if_neg (by simpa using Ne.symm hclean.1), ih hclean.2]

theorem isSplit_splitOn (separator : Char) (text : List Char) :
    IsSplit separator text (splitOn separator text) := by
  induction text with
  | nil => exact ⟨rfl, by simp [splitOn], by simp [splitOn]⟩
  | cons c rest ih =>
    obtain ⟨first, others, hsplit⟩ := List.exists_cons_of_ne_nil ih.nonempty
    rw [hsplit] at ih
    rw [splitOn, hsplit]
    split
    · rename_i hseparator
      obtain rfl := eq_of_beq hseparator
      refine ⟨?_, List.forall_mem_cons.2 ⟨List.not_mem_nil, ih.clean⟩, List.cons_ne_nil _ _⟩
      rw [List.intercalate_cons_cons, ih.joined]
      rfl
    · rename_i hother
      obtain ⟨hfirst, hothers⟩ := List.forall_mem_cons.1 ih.clean
      refine ⟨?_, List.forall_mem_cons.2 ⟨?_, hothers⟩, List.cons_ne_nil _ _⟩
      · rw [← ih.joined]
        cases others <;> simp [List.intercalate]
      · rw [List.mem_cons, not_or]
        exact ⟨fun hsame => hother (beq_iff_eq.2 hsame.symm), hfirst⟩

/-- A text is split into its parts. -/
theorem splitOn_eq_iff : splitOn separator text = parts ↔ IsSplit separator text parts := by
  constructor
  · rintro rfl
    exact isSplit_splitOn separator text
  · rintro ⟨rfl, hclean, hne⟩
    induction parts with
    | nil => exact absurd rfl hne
    | cons first others ih =>
      obtain ⟨hfirst, hothers⟩ := List.forall_mem_cons.1 hclean
      cases others with
      | nil => rw [List.intercalate_singleton, splitOn_of_notMem hfirst]
      | cons second others =>
        rw [List.intercalate_cons_cons, List.append_assoc, List.singleton_append,
          splitOn_append_cons hfirst, ih hothers (List.cons_ne_nil _ _)]

end Recollection.Text
