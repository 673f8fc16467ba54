import Recollection.Proofs.Memory.Store
/-!
# Spaces in the store

The live memories of a space are listed in the order of their identifiers, each one once. The list
depends on nothing but the slots of that space: stores that agree on them have the same list, and
what is written or removed elsewhere leaves it alone. Without a space, a memory is found in the
first one that has it.
-/

set_option autoImplicit false

namespace Recollection

theorem MemoryKey.compare_of_spaceId_eq {spaceId : SpaceId} (id other : MemoryId) :
    Ord.compare (⟨spaceId, id⟩ : MemoryKey) ⟨spaceId, other⟩ = Ord.compare id other := by
  show (Ord.compare spaceId spaceId).then (Ord.compare id other) = Ord.compare id other
  rw [Std.compare_self]
  rfl

theorem MemoryKey.compare_of_memoryId_eq {id : MemoryId} (spaceId other : SpaceId) :
    Ord.compare (⟨spaceId, id⟩ : MemoryKey) ⟨other, id⟩ = Ord.compare spaceId other := by
  show (Ord.compare spaceId other).then (Ord.compare id id) = Ord.compare spaceId other
  rw [Std.compare_self]
  cases Ord.compare spaceId other <;> rfl

namespace Store

/-! ## The list of a space -/

/-- The memories that are listed for a space are the live ones of that space. -/
theorem mem_inSpace_iff (store : Store) (spaceId : SpaceId) (id : MemoryId)
    (memory : StoredMemory) :
    (id, memory) ∈ store.inSpace spaceId ↔ store.get? ⟨spaceId, id⟩ = some memory := by
  rw [← mem_entries_iff, inSpace, List.mem_filterMap]
  constructor
  · rintro ⟨⟨⟨space, other⟩, found⟩, hentry, hsome⟩
    dsimp only at hsome
    split at hsome
    · rename_i hspace
      obtain ⟨rfl, rfl⟩ := Prod.mk.inj (Option.some.inj hsome)
      exact hspace ▸ hentry
    · cases hsome
  · intro hentry
    exact ⟨_, hentry, if_pos rfl⟩

theorem pairwise_entries (store : Store) :
    store.entries.Pairwise fun a b => compare a.1 b.1 = .lt := by
  rw [entries, List.pairwise_filterMap]
  refine store.slots.ordered.imp ?_
  rintro ⟨key, slot⟩ ⟨other, later⟩ hless ⟨_, memory⟩ hfirst ⟨_, found⟩ hsecond
  dsimp only at hfirst hsecond
  obtain ⟨_, _, hfirst⟩ := Option.map_eq_some_iff.1 hfirst
  obtain ⟨_, _, hsecond⟩ := Option.map_eq_some_iff.1 hsecond
  obtain ⟨rfl, -⟩ := Prod.mk.inj hfirst
  obtain ⟨rfl, -⟩ := Prod.mk.inj hsecond
  exact hless

/-- The list of a space is in the order of the identifiers. -/
theorem pairwise_inSpace (store : Store) (spaceId : SpaceId) :
    (store.inSpace spaceId).Pairwise fun a b => compare a.1 b.1 = .lt := by
  rw [inSpace, List.pairwise_filterMap]
  refine store.pairwise_entries.imp ?_
  rintro ⟨⟨space, id⟩, memory⟩ ⟨⟨otherSpace, other⟩, found⟩ hless _ hfirst _ hsecond
  dsimp only at hfirst hsecond
  split at hfirst
  · split at hsecond
    · rename_i hspace hotherSpace
      obtain rfl := Option.some.inj hfirst
      obtain rfl := Option.some.inj hsecond
      subst hspace hotherSpace
      rwa [MemoryKey.compare_of_spaceId_eq] at hless
    · cases hsecond
  · cases hfirst

theorem nodup_inSpace (store : Store) (spaceId : SpaceId) :
    ((store.inSpace spaceId).map Prod.fst).Nodup := by
  rw [List.Nodup, List.pairwise_map]
  refine (store.pairwise_inSpace spaceId).imp ?_
  intro first second hless hsame
  rw [hsame, Std.compare_self] at hless
  cases hless

theorem length_inSpace_le (store : Store) (spaceId : SpaceId) :
    (store.inSpace spaceId).length ≤ store.size :=
  List.length_filterMap_le _ _

/-! ## Finding a memory -/

/-- Whether a space is looked into: the given one is, and without one they all are. -/
def LooksInto (asked : Option SpaceId) (spaceId : SpaceId) : Prop :=
  ∀ given ∈ asked, spaceId = given

/-- A memory is the live one with an identifier in the first space that has one, among those that
are looked into. -/
structure FoundIn (store : Store) (asked : Option SpaceId) (id : MemoryId) (spaceId : SpaceId)
    (memory : StoredMemory) : Prop where
  /-- The space is looked into. -/
  within : LooksInto asked spaceId
  /-- The memory is live there. -/
  live : store.get? ⟨spaceId, id⟩ = some memory
  /-- No other space that has one comes before it. -/
  first : ∀ other, LooksInto asked other → (store.get? ⟨other, id⟩).isSome = true →
    (compare spaceId other).isLE = true

/-- There is at most one such memory. -/
theorem FoundIn.unique {store : Store} {asked : Option SpaceId} {id : MemoryId}
    {spaceId other : SpaceId} {memory found : StoredMemory}
    (hmemory : store.FoundIn asked id spaceId memory)
    (hfound : store.FoundIn asked id other found) : memory = found := by
  have hle := hmemory.first other hfound.within (by rw [hfound.live]; rfl)
  have hge := hfound.first spaceId hmemory.within (by rw [hmemory.live]; rfl)
  obtain rfl := Std.LawfulEqCmp.eq_of_compare (Std.OrientedCmp.isLE_antisymm hle hge)
  exact Option.some.inj (hmemory.live.symm.trans hfound.live)

/-- Nothing is found exactly if no space that is looked into has a live memory. -/
theorem find?_eq_none_iff (store : Store) (asked : Option SpaceId) (id : MemoryId) :
    store.find? asked id = none ↔
      ∀ spaceId, LooksInto asked spaceId → store.get? ⟨spaceId, id⟩ = none := by
  cases asked with
  | some given => simp [find?, LooksInto]
  | none =>
    rw [find?, Option.map_eq_none_iff, List.find?_eq_none]
    constructor
    · intro hnone spaceId _
      by_contra hlive
      obtain ⟨memory, hmemory⟩ := Option.ne_none_iff_exists'.1 hlive
      exact hnone _ ((mem_entries_iff _ _ _).2 hmemory) (decide_eq_true rfl)
    · rintro hnone ⟨⟨spaceId, other⟩, memory⟩ hentry hsame
      obtain rfl := of_decide_eq_true hsame
      have hlive := (mem_entries_iff _ _ _).1 hentry
      rw [hnone spaceId (by simp [LooksInto])] at hlive
      cases hlive

theorem exists_foundIn_of_find? {store : Store} {asked : Option SpaceId} {id : MemoryId}
    {memory : StoredMemory} (hfind : store.find? asked id = some memory) :
    ∃ spaceId, store.FoundIn asked id spaceId memory := by
  cases asked with
  | some given =>
    refine ⟨given, fun _ hgiven => Option.some.inj hgiven, hfind, fun other hother _ => ?_⟩
    rw [hother given rfl, Std.compare_self]
    rfl
  | none =>
    obtain ⟨⟨⟨spaceId, other⟩, found⟩, hfirst, rfl⟩ := Option.map_eq_some_iff.1 hfind
    obtain ⟨hsame, earlier, later, hentries, hearlier⟩ := List.find?_eq_some_iff_append.1 hfirst
    obtain rfl := of_decide_eq_true hsame
    have hordered := store.pairwise_entries
    rw [hentries, List.pairwise_append, List.pairwise_cons] at hordered
    refine ⟨spaceId, by simp [LooksInto], ?_, fun another _ hsome => ?_⟩
    · rw [← mem_entries_iff, hentries]
      exact List.mem_append_right _ List.mem_cons_self
    · -- entries are ordered by spaces first, and no earlier one has the identifier
      obtain ⟨present, hpresent⟩ := Option.isSome_iff_exists.1 hsome
      rw [← mem_entries_iff, hentries, List.mem_append, List.mem_cons] at hpresent
      rcases hpresent with hbefore | hhere | hbehind
      · simpa using hearlier _ hbefore
      · obtain ⟨rfl, -⟩ := MemoryKey.mk.inj (Prod.mk.inj hhere).1
        rw [Std.compare_self]
        rfl
      · have hless := hordered.2.1.1 _ hbehind
        rw [MemoryKey.compare_of_memoryId_eq] at hless
        rw [hless]
        rfl

/-- What is found is the live memory in the first space that has one. -/
theorem find?_eq_some_iff (store : Store) (asked : Option SpaceId) (id : MemoryId)
    (memory : StoredMemory) :
    store.find? asked id = some memory ↔ ∃ spaceId, store.FoundIn asked id spaceId memory := by
  refine ⟨exists_foundIn_of_find?, ?_⟩
  rintro ⟨spaceId, hmemory⟩
  cases hfind : store.find? asked id with
  | none =>
    have hlive := hmemory.live
    rw [(find?_eq_none_iff store asked id).1 hfind spaceId hmemory.within] at hlive
    cases hlive
  | some found =>
    obtain ⟨other, hfound⟩ := exists_foundIn_of_find? hfind
    rw [hfound.unique hmemory]

/-! ## Stores that agree on a space -/

/-- Whether two stores hold the same slots for a space, live or not. -/
def AgreeOn (spaceId : SpaceId) (store other : Store) : Prop :=
  ∀ id, store.slot? ⟨spaceId, id⟩ = other.slot? ⟨spaceId, id⟩

theorem agreeOn_refl (spaceId : SpaceId) (store : Store) : AgreeOn spaceId store store :=
  fun _ => rfl

namespace AgreeOn

variable {spaceId : SpaceId} {store other : Store}

theorem trans {third : Store} (hagree : AgreeOn spaceId store other)
    (hmore : AgreeOn spaceId other third) : AgreeOn spaceId store third :=
  fun id => (hagree id).trans (hmore id)

theorem symm (hagree : AgreeOn spaceId store other) : AgreeOn spaceId other store :=
  fun id => (hagree id).symm

theorem get?_eq (hagree : AgreeOn spaceId store other) (id : MemoryId) :
    store.get? ⟨spaceId, id⟩ = other.get? ⟨spaceId, id⟩ := by
  rw [get?, get?, hagree id]

/-- The list of a space is the same. -/
theorem inSpace_eq (hagree : AgreeOn spaceId store other) :
    store.inSpace spaceId = other.inSpace spaceId := by
  have hperm : (store.inSpace spaceId).Perm (other.inSpace spaceId) := by
    rw [List.perm_ext_iff_of_nodup (List.Nodup.of_map _ (nodup_inSpace store spaceId))
      (List.Nodup.of_map _ (nodup_inSpace other spaceId))]
    rintro ⟨id, memory⟩
    rw [mem_inSpace_iff, mem_inSpace_iff, hagree.get?_eq]
  refine hperm.eq_of_pairwise ?_ (store.pairwise_inSpace spaceId) (other.pairwise_inSpace spaceId)
  intro first second _ _ hless hgreater
  exact absurd hgreater (Std.OrientedCmp.not_lt_of_lt hless)

/-- Writing in the space writes the same into both stores. -/
theorem put (hagree : AgreeOn spaceId store other) (id : MemoryId) (layer : MemoryLayer)
    (payload : Json) (now : EpochMillis) :
    (store.put ⟨spaceId, id⟩ layer payload now).1 = (other.put ⟨spaceId, id⟩ layer payload now).1 ∧
      AgreeOn spaceId (store.put ⟨spaceId, id⟩ layer payload now).2
        (other.put ⟨spaceId, id⟩ layer payload now).2 := by
  have hmemory : (store.put ⟨spaceId, id⟩ layer payload now).1 =
      (other.put ⟨spaceId, id⟩ layer payload now).1 := by
    rw [Store.put, Store.put, hagree id]
  refine ⟨hmemory, fun asked => ?_⟩
  rw [slot?_put, slot?_put, hmemory, hagree asked]

/-- Removing in the space removes the same from both stores. -/
theorem remove (hagree : AgreeOn spaceId store other) (id : MemoryId) :
    (store.remove ⟨spaceId, id⟩).1 = (other.remove ⟨spaceId, id⟩).1 ∧
      AgreeOn spaceId (store.remove ⟨spaceId, id⟩).2 (other.remove ⟨spaceId, id⟩).2 := by
  refine ⟨?_, fun asked => ?_⟩
  · rw [remove_eq_isSome, remove_eq_isSome, hagree.get?_eq]
  · rw [slot?_remove, slot?_remove, hagree id, hagree asked]

end AgreeOn

section Elsewhere

variable {spaceId : SpaceId} {key : MemoryKey}

/-- Writing elsewhere leaves the slots of a space alone. -/
theorem agreeOn_put (store : Store) (helsewhere : key.spaceId ≠ spaceId) (layer : MemoryLayer)
    (payload : Json) (now : EpochMillis) :
    AgreeOn spaceId (store.put key layer payload now).2 store := by
  intro id
  rw [slot?_put, if_neg]
  rintro rfl
  exact helsewhere rfl

/-- So does removing elsewhere. -/
theorem agreeOn_remove (store : Store) (helsewhere : key.spaceId ≠ spaceId) :
    AgreeOn spaceId (store.remove key).2 store := by
  intro id
  rw [slot?_remove, if_neg]
  rintro rfl
  exact helsewhere rfl

/-- Writing the same into both of two stores keeps them alike, wherever it is. -/
theorem AgreeOn.put_both {store other : Store} (hagree : AgreeOn spaceId store other)
    (key : MemoryKey) (layer : MemoryLayer) (payload : Json) (now : EpochMillis) :
    AgreeOn spaceId (store.put key layer payload now).2 (other.put key layer payload now).2 := by
  by_cases hspace : key.spaceId = spaceId
  · subst hspace
    exact (hagree.put key.memoryId layer payload now).2
  · have hstore := agreeOn_put store hspace layer payload now
    have hother := agreeOn_put other hspace layer payload now
    exact (hstore.trans hagree).trans hother.symm

end Elsewhere

end Store

end Recollection
