import Recollection.Collection.SortedMap
/-!
# Entries of sorted maps

The entries of a sorted map are its look-ups: an entry is listed exactly when looking up its key
gives its value, and no key is listed twice. Values that are put under different keys may be put in
either order.
-/

set_option autoImplicit false

namespace Recollection

namespace SortedMap

variable {κ α : Type} [Ord κ] [Std.TransOrd κ] [Std.LawfulEqOrd κ]

/-- In ordered entries, an entry is found under its key and nothing else is. -/
theorem mem_iff_lookup_eq_some {key : κ} {value : α} {entries : List (κ × α)}
    (hordered : entries.Pairwise fun a b => compare a.1 b.1 = .lt) :
    (key, value) ∈ entries ↔ lookup key entries = some value := by
  induction entries with
  | nil => simp [lookup]
  | cons head rest ih =>
    obtain ⟨other, present⟩ := head
    have hlater := List.pairwise_cons.1 hordered
    rw [List.mem_cons, lookup]
    cases hcompare : compare key other with
    | lt =>
      have hne : key ≠ other := by
        rintro rfl
        simp at hcompare
      have hnot : (key, value) ∉ rest := by
        intro hmem
        have hless := Std.TransCmp.lt_trans hcompare (hlater.1 _ hmem)
        simp at hless
      simp [hne, hnot]
    | eq =>
      obtain rfl := Std.LawfulEqOrd.eq_of_compare hcompare
      have hnot : (key, value) ∉ rest := by
        intro hmem
        have hless := hlater.1 _ hmem
        simp at hless
      simp [hnot, eq_comm]
    | gt =>
      have hne : key ≠ other := by
        rintro rfl
        simp at hcompare
      simp [hne, ih hlater.2]

/-- The entries of a map are its look-ups. -/
theorem mem_entries_iff (map : SortedMap κ α) (key : κ) (value : α) :
    (key, value) ∈ map.entries ↔ map.get? key = some value :=
  mem_iff_lookup_eq_some map.ordered

omit [Std.TransOrd κ] in
/-- No key is listed twice. -/
theorem nodup_keys (map : SortedMap κ α) : map.keys.Nodup := by
  rw [keys, List.Nodup, List.pairwise_map]
  refine map.ordered.imp ?_
  intro a b hless hsame
  rw [hsame] at hless
  simp at hless

/-- Putting a value where it is already changes nothing. -/
theorem insert_of_get?_eq_some [DecidableEq κ] {map : SortedMap κ α} {key : κ} {value : α}
    (hpresent : map.get? key = some value) : map.insert key value = map := by
  apply ext_get?
  intro other
  rw [get?_insert]
  by_cases hsame : other = key
  · rw [if_pos hsame, hsame, hpresent]
  · rw [if_neg hsame]

section Insert

variable [DecidableEq κ] (map : SortedMap κ α) (key : κ)

/-- Of two values that are put under one key, the later one stays. -/
theorem insert_insert (value later : α) :
    (map.insert key value).insert key later = map.insert key later := by
  apply ext_get?
  intro asked
  rw [get?_insert, get?_insert, get?_insert]
  split
  · rfl
  · rfl

/-- Values may be put under different keys in either order. -/
theorem insert_comm {other : κ} (hother : key ≠ other) (value present : α) :
    (map.insert key value).insert other present = (map.insert other present).insert key value := by
  apply ext_get?
  intro asked
  simp only [get?_insert]
  by_cases hasked : asked = key
  · rw [if_neg (hasked ▸ hother), if_pos hasked, if_pos hasked]
  · rw [if_neg hasked, if_neg hasked]

end Insert

end SortedMap

end Recollection
