import Recollection.Collection.Repeat
import Recollection.Collection.SortedSet
/-!
# Lists without repeats

The search for a first repeat walks a list with what it has seen. It ends at the least index whose
element equals one at an earlier index, and it finds none exactly when the list has no duplicates.

What was seen may as well be kept in an ordered set, into which an element is put in the same step
that asks whether it is new. Up to a repeat the set holds exactly the elements looked at, so that
this search ends at the same element.
-/

set_option autoImplicit false

namespace Recollection

/-! ## Repeats by index -/

section Index

variable {α β : Type}

/-- Whether the entry at an index equals one at an earlier index. -/
def RepeatsAt (entry : Nat → Option α) (index : Nat) : Prop :=
  ∃ earlier < index, ∃ item, entry earlier = some item ∧ entry index = some item

/-- Repeats are found by looking at the entries before. -/
instance [DecidableEq α] (entry : Nat → Option α) (index : Nat) :
    Decidable (RepeatsAt entry index) :=
  decidable_of_iff
    (∃ earlier < index, (entry index).isSome = true ∧ entry earlier = entry index) <| by
      unfold RepeatsAt
      simp only [Option.isSome_iff_exists]
      constructor
      · rintro ⟨earlier, hlt, ⟨item, hitem⟩, hsame⟩
        exact ⟨earlier, hlt, item, hsame.trans hitem, hitem⟩
      · rintro ⟨earlier, hlt, item, hearlier, hitem⟩
        exact ⟨earlier, hlt, ⟨item, hitem⟩, hearlier.trans hitem.symm⟩

/-- Whether an entry and its index are those of the first entry that equals an earlier one. -/
structure IsFirstRepeat (entry : Nat → Option α) (index : Nat) (item : α) : Prop where
  /-- It is the entry at the index. -/
  entry_eq : entry index = some item
  /-- It equals an earlier one. -/
  repeats : RepeatsAt entry index
  /-- No entry before it does. -/
  least : ∀ earlier < index, ¬ RepeatsAt entry earlier

/-- Where there is a repeat there is a first one. -/
theorem exists_isFirstRepeat {entry : Nat → Option α} {index : Nat}
    (hrepeats : RepeatsAt entry index) : ∃ first item, IsFirstRepeat entry first item := by
  induction index using Nat.strongRecOn with
  | ind index ih =>
    by_cases hearlier : ∃ earlier < index, RepeatsAt entry earlier
    · obtain ⟨earlier, hlt, hrepeats⟩ := hearlier
      exact ih earlier hlt hrepeats
    · obtain ⟨earlier, hlt, item, hentry, hindex⟩ := hrepeats
      refine ⟨index, item, hindex, ⟨earlier, hlt, item, hentry, hindex⟩, ?_⟩
      intro other hother hfound
      exact hearlier ⟨other, hother, hfound⟩

/-- Entries repeat where what tells them apart does. -/
theorem repeatsAt_map_iff {rename : α → β} (hinjective : ∀ a b, rename a = rename b → a = b)
    (entry : Nat → Option α) (index : Nat) :
    RepeatsAt (fun i => (entry i).map rename) index ↔ RepeatsAt entry index := by
  unfold RepeatsAt
  simp only [Option.map_eq_some_iff]
  constructor
  · rintro ⟨earlier, hlt, _, ⟨first, hfirst, rfl⟩, second, hsecond, hsame⟩
    obtain rfl := hinjective _ _ hsame
    exact ⟨earlier, hlt, second, hfirst, hsecond⟩
  · rintro ⟨earlier, hlt, item, hfirst, hsecond⟩
    exact ⟨earlier, hlt, rename item, ⟨item, hfirst, rfl⟩, item, hsecond, rfl⟩

theorem isFirstRepeat_map_iff {rename : α → β} (hinjective : ∀ a b, rename a = rename b → a = b)
    (entry : Nat → Option α) (index : Nat) (item : β) :
    IsFirstRepeat (fun i => (entry i).map rename) index item ↔
      ∃ original, rename original = item ∧ IsFirstRepeat entry index original := by
  constructor
  · rintro ⟨hentry, hrepeats, hleast⟩
    obtain ⟨original, horiginal, rfl⟩ := Option.map_eq_some_iff.1 hentry
    simp only [repeatsAt_map_iff hinjective] at hrepeats hleast
    exact ⟨original, rfl, horiginal, hrepeats, hleast⟩
  · rintro ⟨original, rfl, hentry, hrepeats, hleast⟩
    refine ⟨Option.map_eq_some_iff.2 ⟨original, hentry, rfl⟩, ?_, ?_⟩
    · exact (repeatsAt_map_iff hinjective entry index).2 hrepeats
    · intro earlier hlt hearlier
      exact hleast earlier hlt ((repeatsAt_map_iff hinjective entry earlier).1 hearlier)

/-- A list has no duplicates exactly when no index repeats an earlier one. -/
theorem nodup_iff_not_repeatsAt (items : List α) :
    items.Nodup ↔ ∀ index, ¬ RepeatsAt (items[·]?) index := by
  constructor
  · rintro hnodup index ⟨earlier, hlt, item, hearlier, hindex⟩
    obtain ⟨hbound, -⟩ := List.getElem?_eq_some_iff.1 hearlier
    have hsame : earlier = index := (List.getElem?_inj hbound hnodup).1 (hearlier.trans hindex.symm)
    exact Nat.ne_of_lt hlt hsame
  · intro hnone
    unfold List.Nodup
    rw [List.pairwise_iff_getElem]
    intro earlier index hearlier hindex hlt hsame
    refine hnone index ⟨earlier, hlt, items[index], ?_, List.getElem?_eq_getElem hindex⟩
    exact (List.getElem?_eq_getElem hearlier).trans (congrArg some hsame)

/-- The first repeat of a list stands behind a front part that has no duplicates and holds it. -/
theorem isFirstRepeat_iff_split (items : List α) (index : Nat) (item : α) :
    IsFirstRepeat (items[·]?) index item ↔
      ∃ front back, items = front ++ item :: back ∧ front.length = index ∧ front.Nodup ∧
        item ∈ front := by
  constructor
  · rintro ⟨hentry, ⟨earlier, hlt, other, hearlier, hother⟩, hleast⟩
    obtain ⟨hbound, hitem⟩ := List.getElem?_eq_some_iff.1 hentry
    obtain rfl : other = item := Option.some.inj (hother.symm.trans hentry)
    refine ⟨items.take index, items.drop (index + 1), ?_, ?_, ?_, ?_⟩
    · rw [← hitem, List.getElem_cons_drop, List.take_append_drop]
    · rw [List.length_take, Nat.min_eq_left (Nat.le_of_lt hbound)]
    · -- An index of the front part that repeats one before it would come before the first.
      rw [nodup_iff_not_repeatsAt]
      rintro place ⟨before, hbefore, copy, hcopy, hplace⟩
      simp only [List.getElem?_take, Option.ite_none_right_eq_some] at hcopy hplace
      exact hleast place hplace.1 ⟨before, hbefore, copy, hcopy.2, hplace.2⟩
    · exact List.mem_of_getElem? ((List.getElem?_take_of_lt hlt).trans hearlier)
  · rintro ⟨front, back, rfl, rfl, hnodup, hmem⟩
    obtain ⟨earlier, hlt, hearlier⟩ := List.mem_iff_getElem.1 hmem
    have hentry : (front ++ item :: back)[front.length]? = some item := by
      rw [List.getElem?_append_right (Nat.le_refl _), Nat.sub_self, List.getElem?_cons_zero]
    have hfront (place : Nat) (hplace : place < front.length) :
        (front ++ item :: back)[place]? = front[place]? :=
      List.getElem?_append_left hplace
    have hrepeats : front[earlier]? = some item := List.getElem?_eq_some_iff.2 ⟨hlt, hearlier⟩
    refine ⟨hentry, ⟨earlier, hlt, item, (hfront earlier hlt).trans hrepeats, hentry⟩, ?_⟩
    · rintro place hplace ⟨before, hbefore, copy, hcopy, hfound⟩
      refine (nodup_iff_not_repeatsAt front).1 hnodup place ⟨before, hbefore, copy, ?_, ?_⟩
      · exact (hfront before (Nat.lt_trans hbefore hplace)).symm.trans hcopy
      · exact (hfront place hplace).symm.trans hfound

end Index

/-! ## The search -/

section Search

variable {α : Type} [DecidableEq α]

theorem firstRepeatAfter?_eq_none_iff (seen : List α) (index : Nat) (rest : List α) :
    firstRepeatAfter? seen index rest = none ↔ rest.Nodup ∧ ∀ item ∈ rest, item ∉ seen := by
  induction rest generalizing seen index with
  | nil => simp [firstRepeatAfter?]
  | cons head rest ih =>
    rw [firstRepeatAfter?]
    by_cases hseen : head ∈ seen
    · simp [hseen]
    · rw [if_neg hseen, ih, List.nodup_cons]
      grind

/-- There is no first repeat exactly in a list without duplicates. -/
theorem firstRepeat?_eq_none_iff (items : List α) : firstRepeat? items = none ↔ items.Nodup := by
  simp [firstRepeat?, firstRepeatAfter?_eq_none_iff]

/-- The search passes over elements that are new, and has seen them from then on. -/
theorem firstRepeatAfter?_append {seen front : List α} (hnodup : front.Nodup)
    (hnew : ∀ item ∈ front, item ∉ seen) (index : Nat) (rest : List α) :
    firstRepeatAfter? seen index (front ++ rest) =
      firstRepeatAfter? (front.reverse ++ seen) (index + front.length) rest := by
  induction front generalizing seen index with
  | nil => rfl
  | cons head front ih =>
    obtain ⟨hhead, hfront⟩ := List.nodup_cons.1 hnodup
    obtain ⟨hunseen, hnew⟩ := List.forall_mem_cons.1 hnew
    have hlater : ∀ item ∈ front, item ∉ head :: seen := by
      intro item hmem hseen
      rcases List.mem_cons.1 hseen with rfl | hseen
      · exact hhead hmem
      · exact hnew item hmem hseen
    rw [List.cons_append, firstRepeatAfter?, if_neg hunseen, ih hfront hlater, List.reverse_cons,
      List.append_assoc, List.singleton_append, List.length_cons, Nat.add_assoc,
      Nat.add_comm 1]

theorem firstRepeat?_of_isFirstRepeat {items : List α} {index : Nat} {item : α}
    (hfirst : IsFirstRepeat (items[·]?) index item) : firstRepeat? items = some (index, item) := by
  obtain ⟨front, back, rfl, rfl, hnodup, hmem⟩ := (isFirstRepeat_iff_split _ _ _).1 hfirst
  rw [firstRepeat?, firstRepeatAfter?_append hnodup (fun _ _ => List.not_mem_nil),
    firstRepeatAfter?, if_pos (by simpa using hmem), Nat.zero_add]

/-- The search finds the element that repeats an earlier one at the least index. -/
theorem firstRepeat?_eq_some_iff (items : List α) (index : Nat) (item : α) :
    firstRepeat? items = some (index, item) ↔ IsFirstRepeat (items[·]?) index item := by
  refine ⟨?_, firstRepeat?_of_isFirstRepeat⟩
  intro hfound
  -- Something repeats, so there is a first repeat, and that is what the search finds.
  have hrepeats : ¬ items.Nodup := by
    rw [← firstRepeat?_eq_none_iff, hfound]
    exact nofun
  obtain ⟨place, hplace⟩ := Classical.not_forall.1 (mt (nodup_iff_not_repeatsAt items).2 hrepeats)
  obtain ⟨first, other, hfirst⟩ := exists_isFirstRepeat (Classical.not_not.1 hplace)
  have hsame := hfound.symm.trans (firstRepeat?_of_isFirstRepeat hfirst)
  obtain ⟨rfl, rfl⟩ := Prod.mk.inj (Option.some.inj hsame)
  exact hfirst

end Search

/-! ## The search with an ordered set -/

section Ordered

variable {α : Type} [Ord α] [Std.TransOrd α] [Std.LawfulEqOrd α]

/-- Whether an element is in the set of those that were looked at, into which it is put. -/
def SortedSet.lookAt (item : α) : StateM (SortedSet α) Bool := do
  let seen ← get
  set (seen.insert item)
  return seen.contains item

/-- The first element that was looked at before, with its index counted from `index`. -/
def searchRepeatFrom (index : Nat) (rest : List α) : StateM (SortedSet α) (Option (α × Nat)) :=
  (rest.zipIdx index).findM? fun entry => SortedSet.lookAt entry.1

variable [DecidableEq α]

theorem SortedSet.run_lookAt (known : List α) (item : α) :
    (SortedSet.lookAt item).run (.ofList known) =
      (decide (item ∈ known), SortedSet.ofList (known ++ [item])) := by
  rw [← SortedSet.contains_ofList, SortedSet.ofList, SortedSet.ofList, List.foldl_append]
  rfl

/-- What one step does: it ends the search at an element of the set, and goes on with any other one
put into the set. -/
theorem run_searchRepeatFrom_cons (known : List α) (index : Nat) (item : α) (rest : List α) :
    (searchRepeatFrom index (item :: rest)).run (.ofList known) =
      if item ∈ known then (some (item, index), SortedSet.ofList (known ++ [item]))
      else (searchRepeatFrom (index + 1) rest).run (.ofList (known ++ [item])) := by
  unfold searchRepeatFrom
  rw [List.zipIdx_cons, List.findM?, StateT.run_bind, SortedSet.run_lookAt]
  by_cases hknown : item ∈ known
  · rw [decide_eq_true hknown, if_pos hknown]
    rfl
  · rw [decide_eq_false hknown, if_neg hknown]
    rfl

/-- While the elements are new, the search goes on, and its set holds exactly those looked at. -/
theorem run_searchRepeatFrom_append (known front rest : List α) (hnodup : (known ++ front).Nodup)
    (index : Nat) :
    (searchRepeatFrom index (front ++ rest)).run (.ofList known) =
      (searchRepeatFrom (index + front.length) rest).run (.ofList (known ++ front)) := by
  induction front generalizing known index with
  | nil => rw [List.nil_append, List.append_nil, List.length_nil, Nat.add_zero]
  | cons item front ih =>
    have hnew : item ∉ known := by
      intro hmem
      exact (List.nodup_append.1 hnodup).2.2 item hmem item List.mem_cons_self rfl
    rw [← List.singleton_append, ← List.append_assoc] at hnodup
    rw [List.cons_append, run_searchRepeatFrom_cons, if_neg hnew, ih _ hnodup, List.append_assoc,
      List.singleton_append, List.length_cons, Nat.add_assoc, Nat.add_comm 1]

/-- The search with a set finds what the search without one finds. It has then looked at the
elements up to the one it found, or at all of them, and its set holds these. -/
theorem run_searchRepeatFrom (items : List α) :
    (searchRepeatFrom 0 items).run .empty =
      ((firstRepeat? items).map Prod.swap,
        SortedSet.ofList (items.take ((firstRepeat? items).elim items.length (·.1 + 1)))) := by
  have hempty : (SortedSet.empty : SortedSet α) = .ofList [] := rfl
  rw [hempty]
  cases hfound : firstRepeat? items with
  | none =>
    have hnodup := (firstRepeat?_eq_none_iff items).1 hfound
    have hpassed := run_searchRepeatFrom_append [] items [] hnodup 0
    rw [List.append_nil, List.nil_append] at hpassed
    rw [hpassed, Option.elim_none, List.take_length]
    rfl
  | some found =>
    obtain ⟨index, item⟩ := found
    obtain ⟨front, back, rfl, rfl, hnodup, hmem⟩ :=
      (isFirstRepeat_iff_split _ _ _).1 ((firstRepeat?_eq_some_iff items index item).1 hfound)
    have hlooked : (front ++ item :: back).take (front.length + 1) = front ++ [item] := by
      rw [List.append_cons]
      exact List.take_left' List.length_append
    rw [run_searchRepeatFrom_append [] front _ hnodup, List.nil_append,
      run_searchRepeatFrom_cons, if_pos hmem, Option.elim_some, hlooked, Nat.zero_add]
    rfl

end Ordered

end Recollection
