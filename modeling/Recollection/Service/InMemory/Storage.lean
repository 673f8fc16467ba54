import Recollection.Service.Basic
import Recollection.Service.Clock
import Recollection.Service.InMemory.State
/-!
# Storage in memory

Versioned storage: a write goes ahead only if the caller has seen the live version.
-/

set_option autoImplicit false

namespace Recollection.InMemory

/-- Writes a memory into the store. -/
def upsert (clock : Clock) :
    Call State Storage.UpsertRequest Storage.Fault Storage.UpsertResponse :=
  fun timeOfDay request state =>
    match Storage.UpsertRequest.contract.validate request with
    | .error rejection => (.error (.rejected rejection), state)
    | .ok () =>
      let key := ⟨request.spaceId, request.memoryId⟩
      match state.store.write key request.layer request.payload request.expectedVersion
          (clock.read timeOfDay) with
      | (.error fault, store) => (.error fault, { state with store })
      | (.ok memory, store) =>
        (.ok ⟨request.spaceId, request.memoryId, true, memory.persistedAtMillis, memory.version⟩,
          { state with store })

/-- Removes a memory from the store. -/
def delete : Call State Storage.DeleteRequest Storage.Fault Storage.DeleteResponse :=
  fun _ request state =>
    match Storage.DeleteRequest.contract.validate request with
    | .error rejection => (.error (.rejected rejection), state)
    | .ok () =>
      let (deleted, store) := state.store.remove ⟨request.spaceId, request.memoryId⟩
      (.ok ⟨request.spaceId, request.memoryId, deleted⟩, { state with store })

/-- Storage over the shared store. -/
def storage (clock : Clock) : StorageService State :=
  ⟨upsert clock, delete⟩

end Recollection.InMemory
