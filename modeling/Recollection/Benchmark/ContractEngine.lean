import Recollection.Assembly.Basic
import Recollection.Benchmark.Engine
/-!
# The engine over contracts

The engine that is measured here stands on the ingestion and the retrieval boundary of an assembly.
Every event becomes a batch of one sanitized record under the identifier of the event, so an event
that is sent again is a duplicate. A recall answers with the best hits, as many as its two bounds
allow; a token stands for four bytes.
-/

set_option autoImplicit false

namespace Recollection.Benchmark.ContractEngine

variable {σ : Type}

/-- What the engine says it is. -/
def identity : EngineIdentity :=
  ⟨"mnem-runtime", "ContractEngine"⟩

/-- The batch for an event whose text was sanitized. -/
def batch (event : Event) (text : String) : Except InvalidIdentifier Ingestion.Request := do
  let recordId ← Identifier.ofText .memory event.eventId
  let spaceId ← Identifier.ofText .space event.storeId
  return {
    source := "mnem-bench"
    idempotencyKey := event.eventId
    occurredAtMillis := event.occurredAtMillis
    records := [⟨recordId, spaceId, event.layer, .object [("text", .string text)]⟩] }

/-- The outcome of a batch. -/
def ingestOutcome (sanitized : Sanitized) (response : Ingestion.Response) : IngestOutcome where
  duplicates := .ofNat response.duplicateRecordIds.length
  extra := [("accepted", .integer response.acceptedRecordIds.length),
    ("redacted", .integer sanitized.redacted), ("stripped", .integer sanitized.stripped)]

/-- Takes in an event. -/
def ingest (assembly : Assembly σ) (timeOfDay : EpochMillis) (event : Event) (state : σ) :
    Except EngineFault IngestOutcome × σ :=
  let sanitized := sanitize event.text
  match batch event sanitized.text with
  | .error invalid => (.error ⟨.ingest, event.storeId, invalid.message⟩, state)
  | .ok request =>
    match assembly.services.ingestion.ingest timeOfDay request state with
    | (.error fault, state) => (.error ⟨.ingest, event.storeId, fault.report.message⟩, state)
    | (.ok response, state) => (.ok (ingestOutcome sanitized response), state)

/-- The tokens that an item counts for. -/
def tokens (item : Json) : Nat :=
  (item.compactSize + 3) / 4

/-- The items at the front of a list that stay within a budget, with the tokens spent in the end. -/
def withinBudget (budget : Nat) : (spent : Nat) → List Json → List Json × Nat
  | spent, [] => ([], spent)
  | spent, item :: rest =>
    if budget < spent + tokens item then ([], spent)
    else
      let (kept, total) := withinBudget budget (spent + tokens item) rest
      (item :: kept, total)

/-- The retrieval for a query: at least one item and at most a page. -/
def retrieval (maxLimit : UInt32) (spaceId : SpaceId) (query : Query) : Retrieval.Request where
  spaceId := spaceId
  query := query.query
  limit := min (max query.maxItems 1) maxLimit
  cursor := none

/-- The outcome of a retrieval. -/
def recallOutcome (query : Query) (response : Retrieval.Response) : RecallOutcome :=
  let (items, spent) := withinBudget query.tokenBudget.toNat 0
    (response.hits.map Retrieval.Hit.shape.encode)
  { items := some items
    payloadBytes := none
    extra := [("totalHits", .ofUInt64 response.totalHits), ("tokens", .integer spent)] }

/-- Answers a query. -/
def recollect (assembly : Assembly σ) (timeOfDay : EpochMillis) (query : Query) (state : σ) :
    Except EngineFault RecallOutcome × σ :=
  match Identifier.ofText .space query.storeId with
  | .error invalid => (.error ⟨.recollect, query.storeId, invalid.message⟩, state)
  | .ok spaceId =>
    let request := retrieval assembly.settings.maxLimit spaceId query
    match assembly.services.retrieval.query timeOfDay request state with
    | (.error fault, state) => (.error ⟨.recollect, query.storeId, fault.report.message⟩, state)
    | (.ok response, state) => (.ok (recallOutcome query response), state)

/-- The engine over an assembly, at a time of day. -/
def engine (assembly : Assembly σ) (timeOfDay : EpochMillis) : Engine σ where
  identity := identity
  ingest := ingest assembly timeOfDay
  recollect := recollect assembly timeOfDay

/-- The engine over services in memory, with the settings and the clock of reproducible runs. -/
def inMemory : Engine InMemory.State :=
  engine (.inMemory .deterministic .deterministic) 0

/-- How the engine over an assembly is shown. -/
def shown (assembly : Assembly σ) : String :=
  Text.shown "ContractEngine" [("runtime", assembly.shown)] false

end Recollection.Benchmark.ContractEngine
