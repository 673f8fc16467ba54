import Recollection.Boundary.Evaluation
import Recollection.Boundary.Fault
import Recollection.Boundary.Ingestion
import Recollection.Boundary.Policy
import Recollection.Boundary.Retrieval
import Recollection.Boundary.Storage
/-!
# Services

A service answers the requests of one boundary. A call takes the time of day and the state that the
services share, and gives the answer and the state after it; a service may fail only with a fault of
its boundary. Calls are atomic, so any number of clients amounts to one sequence of calls.
-/

set_option autoImplicit false

namespace Recollection

/-- Answers a request at a time of day in a state. -/
abbrev Call (σ ρ φ α : Type) : Type :=
  EpochMillis → ρ → σ → Except φ α × σ

/-- Writes and removes memories. -/
structure StorageService (σ : Type) where
  /-- Writes one memory. -/
  upsert : Call σ Storage.UpsertRequest Storage.Fault Storage.UpsertResponse
  /-- Removes one memory. -/
  delete : Call σ Storage.DeleteRequest Storage.Fault Storage.DeleteResponse

/-- Finds memories. -/
structure RetrievalService (σ : Type) where
  /-- Runs a query against one space. -/
  query : Call σ Retrieval.Request Retrieval.Fault Retrieval.Response

/-- Scores memories. -/
structure EvaluationService (σ : Type) where
  /-- Scores candidates and selects among them. -/
  evaluate : Call σ Evaluation.Request Evaluation.Fault Evaluation.Response

/-- Decides on actions. -/
structure PolicyService (σ : Type) where
  /-- Decides whether an action may proceed. -/
  decide : Call σ Policy.Request Policy.Fault Policy.Response

/-- Takes in batches of records. -/
structure IngestionService (σ : Type) where
  /-- Classifies and stores a batch. -/
  ingest : Call σ Ingestion.Request Ingestion.Fault Ingestion.Response

/-- A service for every boundary. -/
structure ServiceSet (σ : Type) where
  /-- The storage boundary. -/
  storage : StorageService σ
  /-- The retrieval boundary. -/
  retrieval : RetrievalService σ
  /-- The evaluation boundary. -/
  evaluation : EvaluationService σ
  /-- The policy boundary. -/
  policy : PolicyService σ
  /-- The ingestion boundary. -/
  ingestion : IngestionService σ

/-- The denial that a decision amounts to, unless it allows the action. -/
def Policy.Response.toDenial? (response : Policy.Response) (request : Policy.Request) :
    Option Policy.Denial :=
  if response.decision = .allow then none
  else some ⟨request.spaceId, request.actorId, request.action, response.decision,
    response.reasonCodes⟩

/-- Asks for a decision, and fails unless it allows the action. -/
def PolicyService.enforce {σ : Type} (service : PolicyService σ) :
    Call σ Policy.Request Policy.Fault Policy.Response := fun timeOfDay request state =>
  match service.decide timeOfDay request state with
  | (.error fault, state) => (.error fault, state)
  | (.ok response, state) =>
    match response.toDenial? request with
    | some denial => (.error (.denied denial), state)
    | none => (.ok response, state)

end Recollection
