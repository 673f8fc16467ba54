import Recollection.Collection.SortedMap
/-!
# Sorted sets

A finite set as its elements in ascending order: the keys of a sorted map. The words of a memory
are such a set.
-/

set_option autoImplicit false

namespace Recollection

/-- A finite set, listed in ascending order. -/
structure SortedSet (κ : Type) [Ord κ] where
  /-- The elements, as the keys of a map. -/
  members : SortedMap κ Unit

namespace SortedSet

variable {κ : Type} [Ord κ]

/-- The set without elements. -/
def empty : SortedSet κ :=
  ⟨.empty⟩

instance : Inhabited (SortedSet κ) := ⟨empty⟩

/-- The elements, in ascending order. -/
def toList (set : SortedSet κ) : List κ :=
  set.members.keys

/-- Whether an element is in the set. -/
def contains (set : SortedSet κ) (element : κ) : Bool :=
  (set.members.get? element).isSome

/-- The set with one more element. -/
def insert [Std.TransOrd κ] [Std.LawfulEqOrd κ] (set : SortedSet κ) (element : κ) : SortedSet κ :=
  ⟨set.members.insert element ()⟩

/-- The set of the elements of a list. -/
def ofList [Std.TransOrd κ] [Std.LawfulEqOrd κ] (elements : List κ) : SortedSet κ :=
  elements.foldl insert empty

/-- The number of elements. -/
def size (set : SortedSet κ) : Nat :=
  set.toList.length

/-- The elements that are not in another set, in ascending order. -/
def difference (set other : SortedSet κ) : List κ :=
  set.toList.filter fun element => !other.contains element

/-- The number of elements that are in another set too. -/
def sharedSize (set other : SortedSet κ) : Nat :=
  (set.toList.filter other.contains).length

theorem contains_insert [Std.TransOrd κ] [Std.LawfulEqOrd κ] [DecidableEq κ] (set : SortedSet κ)
    (element other : κ) :
    (set.insert element).contains other = (decide (other = element) || set.contains other) := by
  simp only [contains, insert, SortedMap.get?_insert]
  split <;> simp_all

theorem contains_foldl_insert [Std.TransOrd κ] [Std.LawfulEqOrd κ] [DecidableEq κ]
    (elements : List κ) (set : SortedSet κ) (other : κ) :
    (elements.foldl insert set).contains other =
      (set.contains other || decide (other ∈ elements)) := by
  induction elements generalizing set with
  | nil => simp
  | cons element rest ih =>
    simp only [List.foldl_cons, ih, contains_insert, List.mem_cons, Bool.decide_or]
    cases set.contains other <;> simp

/-- The set of a list holds exactly the elements of the list. -/
theorem contains_ofList [Std.TransOrd κ] [Std.LawfulEqOrd κ] [DecidableEq κ] (elements : List κ)
    (other : κ) : (ofList elements).contains other = decide (other ∈ elements) := by
  rw [ofList, contains_foldl_insert]
  simp [empty, contains]

end SortedSet

end Recollection
