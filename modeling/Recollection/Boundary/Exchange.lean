import Recollection.Boundary.Evaluation
import Recollection.Boundary.Ingestion
import Recollection.Boundary.Policy
import Recollection.Boundary.Retrieval
import Recollection.Boundary.Storage
/-!
# Exchanges

What crosses a boundary in one call: a request and a response, each with its contract, and, for all
boundaries but policy, what makes a response an answer to its request.
-/

set_option autoImplicit false

namespace Recollection

/-- A request and its response. -/
structure Exchange (ρ α : Type) where
  /-- The contract of the request. -/
  request : Contract ρ
  /-- The contract of the response. -/
  response : Contract α
  /-- Whether a response answers a request, where there is more to it than the contracts. -/
  conformsTo? : Option (α → ρ → Except Rejection Unit)

/-- Writing a memory. -/
def Storage.upserting : Exchange Storage.UpsertRequest Storage.UpsertResponse :=
  ⟨UpsertRequest.contract, UpsertResponse.contract, some UpsertResponse.conformsTo⟩

/-- Removing a memory. -/
def Storage.deleting : Exchange Storage.DeleteRequest Storage.DeleteResponse :=
  ⟨DeleteRequest.contract, DeleteResponse.contract, some DeleteResponse.conformsTo⟩

/-- Running a query. -/
def Retrieval.querying : Exchange Retrieval.Request Retrieval.Response :=
  ⟨Request.contract, Response.contract, some Response.conformsTo⟩

/-- Scoring candidates. -/
def Evaluation.evaluating : Exchange Evaluation.Request Evaluation.Response :=
  ⟨Request.contract, Response.contract, some Response.conformsTo⟩

/-- Deciding on an action. -/
def Policy.deciding : Exchange Policy.Request Policy.Response :=
  ⟨Request.contract, Response.contract, none⟩

/-- Taking in a batch. -/
def Ingestion.ingesting : Exchange Ingestion.Request Ingestion.Response :=
  ⟨Request.contract, Response.contract, some Response.conformsTo⟩

end Recollection
