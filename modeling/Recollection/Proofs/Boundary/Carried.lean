import Recollection.Boundary.Evaluation
import Recollection.Boundary.Ingestion
import Recollection.Boundary.Policy
import Recollection.Boundary.Retrieval
import Recollection.Boundary.Storage
import Recollection.Proofs.Contract.Naming
import Recollection.Proofs.Contract.RoundTrip
/-!
# Requests and responses that are read back

Every request and every response is carried by the shape of its contract, as long as its scores are
finite. So a service has the request that a client has encoded, and the client the response of the
service.
-/

set_option autoImplicit false

namespace Recollection

open Leaf (read_write_identifier read_write_word32 read_write_word64 read_write_number)

/-! ## Storage -/

theorem Storage.UpsertRequest.carried (request : UpsertRequest) :
    UpsertRequest.contract.shape.Carries request := by
  refine ⟨by decide, ⟨?_, ?_, ?_, rfl, ?_, trivial⟩, rfl⟩
  · exact read_write_identifier request.spaceId
  · exact read_write_identifier request.memoryId
  · exact MemoryLayer.isNaming.read_write_named request.layer
  · intro version _
    exact ⟨read_write_word64 version, nofun⟩

theorem Storage.UpsertResponse.carried (response : UpsertResponse) :
    UpsertResponse.contract.shape.Carries response := by
  refine ⟨by decide, ⟨?_, ?_, rfl, ?_, ?_, trivial⟩, rfl⟩
  · exact read_write_identifier response.spaceId
  · exact read_write_identifier response.memoryId
  · exact read_write_word64 response.persistedAtMillis
  · exact read_write_word64 response.version

theorem Storage.DeleteRequest.carried (request : DeleteRequest) :
    DeleteRequest.contract.shape.Carries request := by
  refine ⟨by decide, ⟨?_, ?_, trivial⟩, rfl⟩
  · exact read_write_identifier request.spaceId
  · exact read_write_identifier request.memoryId

theorem Storage.DeleteResponse.carried (response : DeleteResponse) :
    DeleteResponse.contract.shape.Carries response := by
  refine ⟨by decide, ⟨?_, ?_, rfl, trivial⟩, rfl⟩
  · exact read_write_identifier response.spaceId
  · exact read_write_identifier response.memoryId

/-! ## Retrieval -/

theorem Retrieval.Request.carried (request : Request) :
    Request.contract.shape.Carries request := by
  refine ⟨by decide, ⟨?_, rfl, ?_, ?_, trivial⟩, rfl⟩
  · exact read_write_identifier request.spaceId
  · exact read_write_word32 request.limit
  · intro cursor _
    exact ⟨rfl, nofun⟩

theorem Retrieval.Hit.carried {hit : Hit} (hfinite : hit.score.isFinite = true) :
    Hit.shape.Carries hit := by
  refine ⟨by decide, ⟨?_, ?_, ?_, trivial⟩, rfl⟩
  · exact read_write_identifier hit.memoryId
  · exact MemoryLayer.isNaming.read_write_named hit.layer
  · exact read_write_number hfinite

theorem Retrieval.Response.carried {response : Response}
    (hfinite : ∀ hit ∈ response.hits, hit.score.isFinite = true) :
    Response.contract.shape.Carries response := by
  refine ⟨by decide, ⟨?_, ?_, ?_, ?_, trivial⟩, rfl⟩
  · exact read_write_identifier response.spaceId
  · intro hit hmem
    exact Hit.carried (hfinite hit hmem)
  · exact read_write_word64 response.totalHits
  · intro cursor _
    refine ⟨rfl, ?_⟩
    rintro ⟨⟩

/-! ## Evaluation -/

theorem Evaluation.Request.carried {request : Request}
    (hfinite : request.minimumScore.isFinite = true) :
    Request.contract.shape.Carries request := by
  refine ⟨by decide, ⟨rfl, ?_, ?_, ?_, trivial⟩, rfl⟩
  · intro id _
    exact read_write_identifier id
  · exact read_write_number hfinite
  · intro spaceId _
    exact ⟨read_write_identifier spaceId, nofun⟩

theorem Evaluation.Result.carried {result : Result} (hfinite : result.score.isFinite = true) :
    Result.shape.Carries result := by
  refine ⟨by decide, ⟨?_, ?_, trivial⟩, rfl⟩
  · exact read_write_identifier result.memoryId
  · exact read_write_number hfinite

theorem Evaluation.Response.carried {response : Response}
    (hfinite : ∀ result ∈ response.results, result.score.isFinite = true) :
    Response.contract.shape.Carries response := by
  refine ⟨by decide, ⟨?_, ?_, trivial⟩, rfl⟩
  · intro result hmem
    exact Result.carried (hfinite result hmem)
  · intro id _
    exact read_write_identifier id

/-! ## Policy -/

theorem Policy.Request.carried (request : Request) :
    Request.contract.shape.Carries request := by
  refine ⟨by decide, ⟨?_, ?_, rfl, ?_, ?_, rfl, trivial⟩, rfl⟩
  · exact read_write_identifier request.spaceId
  · exact read_write_identifier request.actorId
  · exact read_write_identifier request.resourceId
  · intro id _
    exact read_write_identifier id

theorem Policy.Response.carried (response : Response) :
    Response.contract.shape.Carries response := by
  refine ⟨by decide, ⟨?_, ?_, ?_, trivial⟩, rfl⟩
  · exact Policy.Decision.isNaming.read_write_named response.decision
  · intro code _
    rfl
  · exact read_write_word64 response.evaluatedAtMillis

/-! ## Ingestion -/

theorem Ingestion.Record.carried (record : Record) : Record.shape.Carries record := by
  refine ⟨by decide, ⟨?_, ?_, ?_, rfl, trivial⟩, rfl⟩
  · exact read_write_identifier record.recordId
  · exact read_write_identifier record.spaceId
  · exact MemoryLayer.isNaming.read_write_named record.layer

theorem Ingestion.Request.carried (request : Request) :
    Request.contract.shape.Carries request := by
  refine ⟨by decide, ⟨rfl, rfl, ?_, ?_, trivial⟩, rfl⟩
  · exact read_write_word64 request.occurredAtMillis
  · intro record _
    exact record.carried

theorem Ingestion.Response.carried (response : Response) :
    Response.contract.shape.Carries response := by
  refine ⟨by decide, ⟨?_, ?_, ?_, trivial⟩, rfl⟩
  · intro id _
    exact read_write_identifier id
  · intro id _
    exact read_write_identifier id
  · exact read_write_word64 response.ingestedAtMillis

end Recollection
