import Recollection.Proofs.Boundary.HitOrder
import Recollection.Proofs.Memory.Space
import Recollection.Service.InMemory.Retrieval
/-!
# The hits of a query

A query has one hit for every live memory of its space that answers it. The order of hits tells any
two of them apart, so that there is exactly one list of them in order; all pages are cut from it.
-/

set_option autoImplicit false

namespace Recollection

namespace InMemory

open Retrieval (Hit)

/-! ## Hits in a store -/

/-- A hit of a query: the one that a live memory of the space makes. -/
def IsHit (store : Store) (spaceId : SpaceId) (text : String) (hit : Hit) : Prop :=
  ∃ memory, store.get? ⟨spaceId, hit.memoryId⟩ = some memory ∧
    hit? (.ofText text) hit.memoryId memory = some hit

theorem hit?_eq_some_iff (wanted : Terms) (id : MemoryId) (memory : StoredMemory) (hit : Hit) :
    hit? wanted id memory = some hit ↔
      Binary64.zero.lt (wanted.overlap memory.terms) = true ∧
        hit = ⟨id, memory.layer, wanted.overlap memory.terms⟩ := by
  unfold hit?
  by_cases hfound : Binary64.zero.lt (wanted.overlap memory.terms) = true
  · simp [hfound, eq_comm]
  · simp [hfound]

section Hits

variable (store : Store) (spaceId : SpaceId) (text : String)

theorem mem_allHits_iff (hit : Hit) :
    hit ∈ allHits store spaceId text ↔ IsHit store spaceId text hit := by
  rw [allHits, Retrieval.rankHits, List.mem_mergeSort, List.mem_filterMap]
  constructor
  · rintro ⟨⟨id, memory⟩, hmem, hmade⟩
    obtain ⟨-, rfl⟩ := (hit?_eq_some_iff _ _ _ _).1 hmade
    exact ⟨memory, (store.mem_inSpace_iff _ _ _).1 hmem, hmade⟩
  · rintro ⟨memory, hlive, hmade⟩
    exact ⟨_, (store.mem_inSpace_iff _ _ _).2 hlive, hmade⟩

theorem nodup_hits :
    (((store.inSpace spaceId).filterMap fun (id, memory) =>
      hit? (.ofText text) id memory).map Hit.memoryId).Nodup := by
  rw [List.Nodup, List.pairwise_map, List.pairwise_filterMap]
  have hids := store.nodup_inSpace spaceId
  rw [List.Nodup, List.pairwise_map] at hids
  refine hids.imp ?_
  intro first second hother hit hmade other hmade'
  obtain ⟨-, rfl⟩ := (hit?_eq_some_iff _ _ _ _).1 hmade
  obtain ⟨-, rfl⟩ := (hit?_eq_some_iff _ _ _ _).1 hmade'
  exact hother

/-- All hits stand in order, each one strictly after those before it. -/
theorem pairwise_allHits :
    (allHits store spaceId text).Pairwise fun first second => first.compare second = .lt :=
  Retrieval.pairwise_lt_rankHits (nodup_hits store spaceId text)

theorem nodup_allHits : ((allHits store spaceId text).map Hit.memoryId).Nodup :=
  Retrieval.nodup_rankHits (nodup_hits store spaceId text)

theorem length_allHits_le : (allHits store spaceId text).length ≤ store.size := by
  rw [allHits, Retrieval.rankHits, List.length_mergeSort]
  exact Nat.le_trans (List.length_filterMap_le _ _) (store.length_inSpace_le spaceId)

/-- All hits of a query: each of them once, in order. -/
structure IsHitList (hits : List Hit) : Prop where
  /-- They are the hits of the query. -/
  mem_iff : ∀ hit, hit ∈ hits ↔ IsHit store spaceId text hit
  /-- No memory is found twice. -/
  nodup : (hits.map Hit.memoryId).Nodup
  /-- Each one stands strictly after those before it. -/
  ordered : hits.Pairwise fun first second => first.compare second = .lt

theorem isHitList_allHits : IsHitList store spaceId text (allHits store spaceId text) where
  mem_iff := mem_allHits_iff store spaceId text
  nodup := nodup_allHits store spaceId text
  ordered := pairwise_allHits store spaceId text

variable {store spaceId text}

/-- There is only one list of all hits. -/
theorem IsHitList.eq_allHits {hits : List Hit} (hlist : IsHitList store spaceId text hits) :
    hits = allHits store spaceId text := by
  have hall := isHitList_allHits store spaceId text
  have hperm : hits.Perm (allHits store spaceId text) := by
    rw [List.perm_ext_iff_of_nodup (hlist.nodup.of_map _) (hall.nodup.of_map _)]
    exact fun hit => (hlist.mem_iff hit).trans (hall.mem_iff hit).symm
  refine hperm.eq_of_pairwise ?_ hlist.ordered hall.ordered
  intro first second _ _ hless hgreater
  exact absurd hgreater (Hit.compare_eq_lt_asymm hless)

end Hits

end InMemory

end Recollection
