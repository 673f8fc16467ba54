import Mathlib.Data.Set.Card
import Recollection.Memory.Store
import Recollection.Proofs.Collection.SortedMap
/-!
# What the store holds

A memory can be seen in three ways: by its key, in the list of all memories, and in their number.
The three agree. A write depends on what is there only through the live version.
-/

set_option autoImplicit false

namespace Recollection

namespace Store

/-! ## Live memories -/

/-- The version of the live memory with a key. -/
def liveVersion? (store : Store) (key : MemoryKey) : Option UInt64 :=
  (store.get? key).map StoredMemory.version

/-- The memories that are listed are the live ones. -/
theorem mem_entries_iff (store : Store) (key : MemoryKey) (memory : StoredMemory) :
    (key, memory) ∈ store.entries ↔ store.get? key = some memory := by
  rw [entries, List.mem_filterMap, get?, Option.bind_eq_some_iff]
  constructor
  · rintro ⟨⟨other, slot⟩, hslot, hlive⟩
    obtain ⟨found, hfound, hsame⟩ := Option.map_eq_some_iff.1 hlive
    obtain ⟨rfl, rfl⟩ := Prod.mk.inj hsame
    exact ⟨slot, (SortedMap.mem_entries_iff _ _ _).1 hslot, hfound⟩
  · rintro ⟨slot, hslot, hlive⟩
    exact ⟨(key, slot), (SortedMap.mem_entries_iff _ _ _).2 hslot, by simp [hlive]⟩

/-- No key is listed twice. -/
theorem nodup_entries_keys (store : Store) : (store.entries.map Prod.fst).Nodup := by
  have hsublist : (store.entries.map Prod.fst).Sublist store.slots.keys := by
    rw [entries, SortedMap.keys]
    induction store.slots.entries with
    | nil => exact .slnil
    | cons entry rest ih =>
      obtain ⟨key, version, live⟩ := entry
      cases live with
      | none => exact ih.cons _
      | some memory => exact ih.cons_cons _
  exact hsublist.nodup (SortedMap.nodup_keys _)

/-- The size of a store is the number of keys under which a memory is live. -/
theorem size_eq_encard (store : Store) :
    (store.size : ENat) = {key | (store.get? key).isSome}.encard := by
  have hkeys : {key | (store.get? key).isSome} =
      ((store.entries.map Prod.fst).toFinset : Set MemoryKey) := by
    ext key
    rw [List.coe_toFinset, Set.mem_ofPred_eq, Set.mem_ofPred_eq, List.mem_map,
      Option.isSome_iff_exists]
    constructor
    · rintro ⟨memory, hmemory⟩
      exact ⟨(key, memory), (mem_entries_iff _ _ _).2 hmemory, rfl⟩
    · rintro ⟨⟨other, memory⟩, hmemory, rfl⟩
      exact ⟨memory, (mem_entries_iff _ _ _).1 hmemory⟩
  rw [hkeys, Set.encard_coe_eq_coe_finsetCard,
    List.toFinset_card_of_nodup (nodup_entries_keys store), List.length_map, size]

/-! ## Writes and removals -/

/-- A write that expects a version goes ahead when that version is live, and when none is and none
was expected. -/
theorem checkVersion_eq_ok_iff (key : MemoryKey) (expected : UInt64) (live : Option UInt64) :
    checkVersion key (some expected) live = .ok () ↔
      live = some expected ∨ (expected = 0 ∧ live = none) := by
  cases live with
  | none => by_cases hzero : expected = 0 <;> simp [checkVersion, hzero]
  | some actual => by_cases hsame : expected = actual <;> simp [checkVersion, hsame, eq_comm]

/-- Otherwise it is refused, as a version is live or none is. -/
theorem checkVersion_eq_error_iff (key : MemoryKey) (expected : UInt64) (live : Option UInt64)
    (fault : Storage.Fault) :
    checkVersion key (some expected) live = .error fault ↔
      (live = none ∧ expected ≠ 0 ∧ fault = .notFound ⟨key.spaceId, key.memoryId⟩) ∨
        ∃ actual, live = some actual ∧ expected ≠ actual ∧
          fault = .conflict ⟨key.spaceId, key.memoryId, expected, actual⟩ := by
  cases live with
  | none => by_cases hzero : expected = 0 <;> simp [checkVersion, hzero, eq_comm]
  | some actual => by_cases hsame : expected = actual <;> simp [checkVersion, hsame, eq_comm]

theorem get?_put (store : Store) (key other : MemoryKey) (layer : MemoryLayer) (payload : Json)
    (now : EpochMillis) :
    (store.put key layer payload now).2.get? other =
      if other = key then some (store.put key layer payload now).1 else store.get? other := by
  rw [get?, slot?_put]
  split <;> rfl

/-- Memories with different keys may be written in either order. -/
theorem put_comm (store : Store) {key other : MemoryKey} (hother : key ≠ other)
    (layer otherLayer : MemoryLayer) (payload otherPayload : Json) (now later : EpochMillis) :
    ((store.put key layer payload now).2.put other otherLayer otherPayload later).2 =
      ((store.put other otherLayer otherPayload later).2.put key layer payload now).2 := by
  have hfirst : (store.put key layer payload now).2.slot? other = store.slot? other := by
    rw [slot?_put, if_neg hother.symm]
  have hsecond : (store.put other otherLayer otherPayload later).2.slot? key = store.slot? key := by
    rw [slot?_put, if_neg hother]
  simp only [put] at hfirst hsecond ⊢
  rw [hfirst, hsecond, SortedMap.insert_comm _ _ hother]

theorem get?_remove (store : Store) (key other : MemoryKey) :
    (store.remove key).2.get? other = if other = key then none else store.get? other := by
  rw [get?, slot?_remove]
  split
  · cases store.slot? key <;> rfl
  · rfl

/-- A removal says whether the memory was live. -/
theorem remove_eq_isSome (store : Store) (key : MemoryKey) :
    (store.remove key).1 = (store.get? key).isSome := by
  unfold remove get?
  cases hslot : store.slot? key with
  | none => rfl
  | some slot =>
    obtain ⟨version, live⟩ := slot
    cases live <;> rfl

/-- Removing what is not live leaves the store as it is. -/
theorem remove_of_not_live {store : Store} {key : MemoryKey}
    (habsent : (store.remove key).1 = false) : (store.remove key).2 = store := by
  unfold remove at habsent ⊢
  split at habsent
  · simp at habsent
  · rfl

end Store

end Recollection
