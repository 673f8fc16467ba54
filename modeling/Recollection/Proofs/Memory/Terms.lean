import Recollection.Memory.Terms
import Recollection.Proofs.Collection.SortedSet
import Recollection.Proofs.Number.Rounding
import Recollection.Proofs.Text.Words
/-!
# Words in documents

The terms of a memory are the words of every string that its payload holds, however deep. How well
the memory answers a text is the number of words that the two share, as a share of the words of the
text.
-/

set_option autoImplicit false

namespace Recollection

/-! ## Strings in documents -/

/-- Whether a document holds a string: it is the string, or one of its items or members holds it. -/
inductive Json.Holds (text : String) : Json → Prop
  /-- The string itself. -/
  | here : Holds text (.string text)
  /-- A list holds what its items hold. -/
  | item {items : List Json} {item : Json} (hmem : item ∈ items) (hholds : Holds text item) :
    Holds text (.array items)
  /-- An object holds what its values hold; its keys do not count. -/
  | member {members : List (String × Json)} {key : String} {value : Json}
    (hmem : (key, value) ∈ members) (hholds : Holds text value) : Holds text (.object members)

namespace Json

variable {text : String}

theorem itemTexts_eq (items : List Json) : itemTexts items = items.flatMap texts := by
  induction items with
  | nil => rfl
  | cons item rest ih => rw [itemTexts, ih, List.flatMap_cons]

theorem memberTexts_eq (members : List (String × Json)) :
    memberTexts members = members.flatMap fun member => member.2.texts := by
  induction members with
  | nil => rfl
  | cons member rest ih => rw [memberTexts, ih, List.flatMap_cons]

theorem mem_texts_of_holds {document : Json} (hholds : Holds text document) :
    text ∈ document.texts := by
  induction hholds with
  | here => exact List.mem_singleton_self text
  | item hmem _ ih =>
    rw [texts, itemTexts_eq]
    exact List.mem_flatMap.2 ⟨_, hmem, ih⟩
  | member hmem _ ih =>
    rw [texts, memberTexts_eq]
    exact List.mem_flatMap.2 ⟨_, hmem, ih⟩

mutual

theorem holds_of_mem_texts : {document : Json} → text ∈ document.texts → Holds text document
  | .string value, hmem => by
    rw [texts, List.mem_singleton] at hmem
    rw [hmem]
    exact .here
  | .array items, hmem => by
    obtain ⟨item, hitem, hholds⟩ := exists_item_of_mem_itemTexts hmem
    exact .item hitem hholds
  | .object members, hmem => by
    obtain ⟨key, value, hmember, hholds⟩ := exists_member_of_mem_memberTexts hmem
    exact .member hmember hholds

theorem exists_item_of_mem_itemTexts : {items : List Json} → text ∈ itemTexts items →
    ∃ item ∈ items, Holds text item
  | item :: rest, hmem => by
    rcases List.mem_append.1 hmem with hfirst | hrest
    · exact ⟨item, List.mem_cons_self, holds_of_mem_texts hfirst⟩
    · obtain ⟨later, hlater, hholds⟩ := exists_item_of_mem_itemTexts hrest
      exact ⟨later, List.mem_cons_of_mem _ hlater, hholds⟩

theorem exists_member_of_mem_memberTexts : {members : List (String × Json)} →
    text ∈ memberTexts members → ∃ key value, (key, value) ∈ members ∧ Holds text value
  | (key, value) :: rest, hmem => by
    rcases List.mem_append.1 hmem with hfirst | hrest
    · exact ⟨key, value, List.mem_cons_self, holds_of_mem_texts hfirst⟩
    · obtain ⟨other, later, hlater, hholds⟩ := exists_member_of_mem_memberTexts hrest
      exact ⟨other, later, List.mem_cons_of_mem _ hlater, hholds⟩

end

/-- The strings that are collected from a document are those that it holds. -/
theorem mem_texts_iff (document : Json) : text ∈ document.texts ↔ Holds text document :=
  ⟨holds_of_mem_texts, mem_texts_of_holds⟩

/-- The words of all strings in a document. -/
def wordSet (document : Json) : Set String :=
  {word | ∃ text, Holds text document ∧ word ∈ Text.wordSet text}

end Json

/-! ## Terms -/

/-- The number of words that a text shares with a document. -/
noncomputable def Text.sharedWords (text : String) (document : Json) : Nat :=
  (wordSet text ∩ document.wordSet).ncard

namespace Terms

theorem elements_ofText (text : String) : (ofText text).elements = Text.wordSet text := by
  ext word
  rw [ofText, SortedSet.elements_ofList]
  exact Text.mem_words_iff text word

theorem elements_ofDocument (document : Json) :
    (ofDocument document).elements = document.wordSet := by
  ext word
  rw [ofDocument, SortedSet.elements_ofList, Set.mem_ofPred_eq, List.mem_flatMap]
  simp only [Json.mem_texts_iff, Text.mem_words_iff]
  rfl

theorem size_ofText (text : String) : (ofText text).size = (Text.wordSet text).ncard := by
  rw [SortedSet.size_eq_ncard, elements_ofText]

theorem sharedSize_eq_sharedWords (text : String) (document : Json) :
    (ofText text).sharedSize (ofDocument document) = Text.sharedWords text document := by
  rw [SortedSet.sharedSize_eq_ncard, elements_ofText, elements_ofDocument, Text.sharedWords]

theorem sharedWords_le (text : String) (document : Json) :
    Text.sharedWords text document ≤ (Text.wordSet text).ncard := by
  rw [← sharedSize_eq_sharedWords, ← size_ofText]
  exact SortedSet.sharedSize_le_size _ _

theorem finite_wordSet (text : String) : (Text.wordSet text).Finite := by
  rw [← elements_ofText, ofText, SortedSet.elements_ofList]
  exact List.finite_toSet _

theorem ncard_wordSet_pos_iff (text : String) :
    0 < (Text.wordSet text).ncard ↔ Text.words text ≠ [] := by
  rw [Set.ncard_pos (finite_wordSet text)]
  constructor
  · rintro ⟨word, hword⟩ hnone
    rw [← Text.mem_words_iff, hnone] at hword
    cases hword
  · intro hwords
    obtain ⟨word, hword⟩ := List.exists_mem_of_ne_nil _ hwords
    exact ⟨word, (Text.mem_words_iff text word).1 hword⟩

/-- Words are shared exactly when there is one that is. -/
theorem sharedWords_pos_iff (text : String) (document : Json) :
    0 < Text.sharedWords text document ↔ (Text.wordSet text ∩ document.wordSet).Nonempty := by
  exact Set.ncard_pos ((finite_wordSet text).inter_of_left _)

/-- All words are shared exactly when each of them is. -/
theorem sharedWords_eq_iff (text : String) (document : Json) :
    Text.sharedWords text document = (Text.wordSet text).ncard ↔
      Text.wordSet text ⊆ document.wordSet := by
  have hfinite := finite_wordSet text
  rw [← Set.inter_eq_left, Text.sharedWords]
  constructor
  · intro hcount
    exact Set.eq_of_subset_of_ncard_le Set.inter_subset_left hcount.ge hfinite
  · intro hshared
    rw [hshared]

/-- Without any wanted words the share is zero, as there is no whole. -/
theorem overlap_eq_share (wanted present : Terms) :
    wanted.overlap present = .share (wanted.sharedSize present) wanted.size := by
  unfold overlap
  split
  · rename_i hnone
    rw [hnone, Binary64.share, if_pos rfl]
  · rfl

end Terms

end Recollection
