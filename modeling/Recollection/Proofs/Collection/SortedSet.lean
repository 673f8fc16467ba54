import Mathlib.Data.Set.Card
import Recollection.Collection.SortedSet
import Recollection.Proofs.Collection.SortedMap
/-!
# Sorted sets as sets

What a sorted set counts are its elements: its size is their number, and what it shares with another
set is the number of the elements of both. What it has and another set has not begins with the least
such element.
-/

set_option autoImplicit false

namespace Recollection.SortedSet

/-- The length of a list without repeats is the number of its elements. -/
theorem ncard_mem_eq_length {α : Type} [DecidableEq α] {items : List α} (hnodup : items.Nodup) :
    {item | item ∈ items}.ncard = items.length := by
  rw [← List.coe_toFinset, Set.ncard_coe_finset, List.toFinset_card_of_nodup hnodup]

variable {κ : Type} [Ord κ]

/-- The elements of a sorted set. -/
def elements (set : SortedSet κ) : Set κ :=
  {element | set.contains element = true}

theorem sharedSize_le_size (set other : SortedSet κ) : set.sharedSize other ≤ set.size :=
  List.length_filter_le _ _

theorem nodup_toList [Std.LawfulEqOrd κ] (set : SortedSet κ) : set.toList.Nodup :=
  SortedMap.nodup_keys set.members

theorem pairwise_toList (set : SortedSet κ) :
    set.toList.Pairwise fun a b => compare a b = .lt :=
  List.pairwise_map.2 set.members.ordered

variable [Std.TransOrd κ] [Std.LawfulEqOrd κ]

theorem mem_toList_iff (set : SortedSet κ) (element : κ) :
    element ∈ set.toList ↔ element ∈ set.elements := by
  rw [toList, SortedMap.keys, List.mem_map, elements, Set.mem_ofPred_eq, contains,
    Option.isSome_iff_exists]
  constructor
  · rintro ⟨⟨key, value⟩, hmem, rfl⟩
    exact ⟨value, (SortedMap.mem_entries_iff _ _ _).1 hmem⟩
  · rintro ⟨value, hget⟩
    exact ⟨(element, value), (SortedMap.mem_entries_iff _ _ _).2 hget, rfl⟩

theorem difference_eq_nil_iff (set other : SortedSet κ) :
    set.difference other = [] ↔ set.elements ⊆ other.elements := by
  rw [difference, List.filter_eq_nil_iff]
  simp only [Bool.not_eq_true', Bool.not_eq_false]
  constructor
  · intro hnone element hmem
    exact hnone element ((mem_toList_iff set element).2 hmem)
  · intro hsubset element hmem
    exact hsubset ((mem_toList_iff set element).1 hmem)

/-- An element of a set that comes after no other element of it. -/
def IsLeastOf (element : κ) (elements : Set κ) : Prop :=
  element ∈ elements ∧ ∀ other ∈ elements, (compare element other).isLE = true

theorem mem_difference_iff (set other : SortedSet κ) (element : κ) :
    element ∈ set.difference other ↔ element ∈ set.elements \ other.elements := by
  rw [difference, List.mem_filter, mem_toList_iff, Set.mem_sdiff, elements, elements,
    Set.mem_ofPred_eq, Set.mem_ofPred_eq, Bool.not_eq_true']
  simp

/-- A difference is listed in ascending order, so it begins with its least element. -/
theorem head?_difference_eq_some_iff (set other : SortedSet κ) (element : κ) :
    (set.difference other).head? = some element ↔
      IsLeastOf element (set.elements \ other.elements) := by
  have hordered : (set.difference other).Pairwise fun a b => compare a b = .lt :=
    (pairwise_toList set).filter _
  simp only [IsLeastOf, ← mem_difference_iff]
  cases hlist : set.difference other with
  | nil => simp
  | cons first rest =>
    rw [hlist] at hordered
    have hlater := (List.pairwise_cons.1 hordered).1
    rw [List.head?_cons, Option.some.injEq]
    constructor
    · rintro rfl
      refine ⟨List.mem_cons_self, ?_⟩
      intro other hmem
      rcases List.mem_cons.1 hmem with rfl | hrest
      · rw [Std.compare_self]
        rfl
      · rw [hlater other hrest]
        rfl
    · rintro ⟨hmem, hleast⟩
      rcases List.mem_cons.1 hmem with rfl | hrest
      · rfl
      · have hfirst := hleast first List.mem_cons_self
        rw [Std.OrientedOrd.eq_swap, hlater element hrest] at hfirst
        cases hfirst

variable [DecidableEq κ]

theorem size_eq_ncard (set : SortedSet κ) : set.size = set.elements.ncard := by
  have helements : set.elements = {element | element ∈ set.toList} := by
    ext element
    exact (mem_toList_iff set element).symm
  rw [helements, ncard_mem_eq_length (nodup_toList set), size]

theorem sharedSize_eq_ncard (set other : SortedSet κ) :
    set.sharedSize other = (set.elements ∩ other.elements).ncard := by
  have helements : set.elements ∩ other.elements =
      {element | element ∈ set.toList.filter other.contains} := by
    ext element
    rw [Set.mem_inter_iff, ← mem_toList_iff, Set.mem_ofPred_eq, List.mem_filter]
    rfl
  rw [helements, ncard_mem_eq_length ((nodup_toList set).filter _), sharedSize]

theorem elements_ofList (items : List κ) : (ofList items).elements = {item | item ∈ items} := by
  ext item
  simp [elements, contains_ofList]

/-- Sets of lists are listed alike exactly when the lists have the same elements. -/
theorem toList_ofList_eq_iff (items others : List κ) :
    (ofList items).toList = (ofList others).toList ↔ ∀ item, item ∈ items ↔ item ∈ others := by
  have hmem (items : List κ) (item : κ) : item ∈ (ofList items).toList ↔ item ∈ items := by
    rw [mem_toList_iff, elements_ofList]
    rfl
  constructor
  · intro hsame item
    rw [← hmem items, hsame, hmem others]
  · intro hsame
    have hperm : (ofList items).toList.Perm (ofList others).toList := by
      refine (List.perm_ext_iff_of_nodup (nodup_toList _) (nodup_toList _)).2 ?_
      intro item
      rw [hmem, hmem, hsame]
    refine hperm.eq_of_pairwise ?_ (pairwise_toList _) (pairwise_toList _)
    intro a b _ _ hless hmore
    rw [Std.OrientedOrd.eq_swap, hmore] at hless
    cases hless

end Recollection.SortedSet
