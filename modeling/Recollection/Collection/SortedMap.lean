/-!
# Sorted maps

A finite map as its entries in ascending order of their keys. The order is part of the type, so a
map has one representation: two maps with the same look-ups are equal (`SortedMap.ext_get?`), and
whatever is listed from a map is listed in the order of its keys.
-/

set_option autoImplicit false

namespace Recollection

/-- A finite map, by its entries in ascending order of the keys. -/
structure SortedMap (κ α : Type) [Ord κ] where
  /-- The entries. -/
  entries : List (κ × α)
  /-- Every key is less than the keys after it. -/
  ordered : entries.Pairwise fun a b => compare a.1 b.1 = .lt

namespace SortedMap

variable {κ α : Type} [Ord κ]

/-! ## Operations on entries -/

/-- The value under a key in ordered entries. -/
def lookup (key : κ) : List (κ × α) → Option α
  | [] => none
  | (other, value) :: rest =>
    match compare key other with
    | .lt => none
    | .eq => some value
    | .gt => lookup key rest

/-- Puts an entry at its place in ordered entries, in place of the one with its key. -/
def insertEntry (key : κ) (value : α) : List (κ × α) → List (κ × α)
  | [] => [(key, value)]
  | (other, present) :: rest =>
    match compare key other with
    | .lt => (key, value) :: (other, present) :: rest
    | .eq => (key, value) :: rest
    | .gt => (other, present) :: insertEntry key value rest

theorem mem_insertEntry {key : κ} {value : α} {entries : List (κ × α)} {entry : κ × α}
    (h : entry ∈ insertEntry key value entries) : entry = (key, value) ∨ entry ∈ entries := by
  induction entries with
  | nil => simpa [insertEntry] using h
  | cons head rest ih =>
    obtain ⟨other, present⟩ := head
    simp only [insertEntry] at h
    split at h
    · simpa using h
    · rcases List.mem_cons.1 h with h | h
      · exact .inl h
      · exact .inr (List.mem_cons_of_mem _ h)
    · rcases List.mem_cons.1 h with h | h
      · exact .inr (by simp [h])
      · rcases ih h with h | h
        · exact .inl h
        · exact .inr (List.mem_cons_of_mem _ h)

theorem insertEntry_ordered [Std.TransOrd κ] [Std.LawfulEqOrd κ] (key : κ) (value : α)
    {entries : List (κ × α)} (h : entries.Pairwise fun a b => compare a.1 b.1 = .lt) :
    (insertEntry key value entries).Pairwise fun a b => compare a.1 b.1 = .lt := by
  induction entries with
  | nil => simp [insertEntry]
  | cons head rest ih =>
    obtain ⟨other, present⟩ := head
    have later := List.pairwise_cons.1 h
    simp only [insertEntry]
    split
    · rename_i less
      refine List.pairwise_cons.2 ⟨fun entry mem => ?_, h⟩
      rcases List.mem_cons.1 mem with rfl | mem
      · exact less
      · exact Std.TransCmp.lt_trans less (later.1 entry mem)
    · rename_i same
      obtain rfl := Std.LawfulEqOrd.eq_of_compare same
      exact List.pairwise_cons.2 ⟨later.1, later.2⟩
    · rename_i more
      refine List.pairwise_cons.2 ⟨fun entry mem => ?_, ih later.2⟩
      rcases mem_insertEntry mem with rfl | mem
      · exact Std.OrientedCmp.gt_iff_lt.1 more
      · exact later.1 entry mem

theorem lookup_insertEntry [Std.TransOrd κ] [Std.LawfulEqOrd κ] [DecidableEq κ] (key other : κ)
    (value : α) {entries : List (κ × α)}
    (h : entries.Pairwise fun a b => compare a.1 b.1 = .lt) :
    lookup other (insertEntry key value entries) =
      if other = key then some value else lookup other entries := by
  induction entries with
  | nil =>
    simp only [insertEntry, lookup]
    split
    · rename_i less
      rw [if_neg (by rintro rfl; simp at less)]
    · rename_i same
      rw [if_pos (Std.LawfulEqOrd.eq_of_compare same)]
    · rename_i more
      rw [if_neg (by rintro rfl; simp at more)]
  | cons head rest ih =>
    obtain ⟨first, present⟩ := head
    have later := List.pairwise_cons.1 h
    have step := ih later.2
    simp only [insertEntry]
    split
    · rename_i less
      by_cases same : other = key
      · subst same; simp [lookup]
      · rw [if_neg same]
        cases h : compare other key with
        | lt => simp [lookup, h, Std.TransCmp.lt_trans h less]
        | eq => exact absurd (Std.LawfulEqOrd.eq_of_compare h) same
        | gt => simp [lookup, h]
    · rename_i equal
      obtain rfl := Std.LawfulEqOrd.eq_of_compare equal
      by_cases same : other = key
      · subst same; simp [lookup]
      · rw [if_neg same]
        simp only [lookup]
        split
        · rfl
        · rename_i equal
          exact absurd (Std.LawfulEqOrd.eq_of_compare equal) same
        · rfl
    · rename_i more
      simp only [lookup]
      split
      · rename_i before
        rw [if_neg]
        rintro rfl
        rw [more] at before
        cases before
      · rename_i equal
        rw [if_neg]
        rintro rfl
        rw [more] at equal
        cases equal
      · exact step

theorem lookup_eq_none_of_lt [Std.TransOrd κ] {key : κ} {entries : List (κ × α)}
    (h : ∀ entry ∈ entries, compare key entry.1 = .lt) : lookup key entries = none := by
  cases entries with
  | nil => rfl
  | cons head rest =>
    obtain ⟨other, present⟩ := head
    simp [lookup, h (other, present) (by simp)]

theorem entries_eq_of_lookup_eq [Std.TransOrd κ] [Std.LawfulEqOrd κ] {as bs : List (κ × α)}
    (ha : as.Pairwise fun a b => compare a.1 b.1 = .lt)
    (hb : bs.Pairwise fun a b => compare a.1 b.1 = .lt)
    (same : ∀ key, lookup key as = lookup key bs) : as = bs := by
  induction as generalizing bs with
  | nil =>
    cases bs with
    | nil => rfl
    | cons b bs => simpa [lookup] using same b.1
  | cons a as ih =>
    cases bs with
    | nil => simpa [lookup] using same a.1
    | cons b bs =>
      obtain ⟨i, x⟩ := a
      obtain ⟨j, y⟩ := b
      have laterA := List.pairwise_cons.1 ha
      have laterB := List.pairwise_cons.1 hb
      have keys : i = j := by
        have atI := same i
        have atJ := same j
        simp only [lookup, Std.compare_self] at atI atJ
        cases h : compare i j with
        | lt => simp [h] at atI
        | eq => exact Std.LawfulEqOrd.eq_of_compare h
        | gt => simp [Std.OrientedCmp.gt_iff_lt.1 h] at atJ
      subst keys
      have values : x = y := by
        have atI := same i
        simpa [lookup] using atI
      subst values
      have rests : as = bs := by
        refine ih laterA.2 laterB.2 fun key => ?_
        have atKey := same key
        simp only [lookup] at atKey
        cases h : compare key i with
        | lt =>
          rw [lookup_eq_none_of_lt fun entry mem => Std.TransCmp.lt_trans h (laterA.1 entry mem),
            lookup_eq_none_of_lt fun entry mem => Std.TransCmp.lt_trans h (laterB.1 entry mem)]
        | eq =>
          obtain rfl := Std.LawfulEqOrd.eq_of_compare h
          rw [lookup_eq_none_of_lt laterA.1, lookup_eq_none_of_lt laterB.1]
        | gt => simpa [h] using atKey
      rw [rests]

/-! ## Operations on maps -/

/-- The map without entries. -/
def empty : SortedMap κ α :=
  ⟨[], .nil⟩

instance : EmptyCollection (SortedMap κ α) := ⟨empty⟩

instance : Inhabited (SortedMap κ α) := ⟨empty⟩

/-- The value under a key. -/
def get? (map : SortedMap κ α) (key : κ) : Option α :=
  lookup key map.entries

/-- The map with one value put under a key. -/
def insert [Std.TransOrd κ] [Std.LawfulEqOrd κ] (map : SortedMap κ α) (key : κ) (value : α) :
    SortedMap κ α :=
  ⟨insertEntry key value map.entries, insertEntry_ordered key value map.ordered⟩

/-- The map of a list of entries; the last one of each key counts. -/
def ofList [Std.TransOrd κ] [Std.LawfulEqOrd κ] (entries : List (κ × α)) : SortedMap κ α :=
  entries.foldl (fun map entry => map.insert entry.1 entry.2) empty

/-- The keys, in ascending order. -/
def keys (map : SortedMap κ α) : List κ :=
  map.entries.map Prod.fst

@[simp] theorem get?_empty (key : κ) : (empty : SortedMap κ α).get? key = none :=
  rfl

theorem get?_insert [Std.TransOrd κ] [Std.LawfulEqOrd κ] [DecidableEq κ] (map : SortedMap κ α)
    (key other : κ) (value : α) :
    (map.insert key value).get? other = if other = key then some value else map.get? other :=
  lookup_insertEntry key other value map.ordered

/-- Maps with the same look-ups are equal. -/
theorem ext_get? [Std.TransOrd κ] [Std.LawfulEqOrd κ] {a b : SortedMap κ α}
    (h : ∀ key, a.get? key = b.get? key) : a = b := by
  obtain ⟨entries, ordered⟩ := a
  obtain ⟨others, ordered'⟩ := b
  have := entries_eq_of_lookup_eq ordered ordered' h
  subst this
  rfl

end SortedMap

end Recollection
