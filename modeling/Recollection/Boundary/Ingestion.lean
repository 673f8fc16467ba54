import Recollection.Collection.SortedSet
import Recollection.Contract.Basic
import Recollection.Identity.Identifier
import Recollection.Memory.Layer
/-!
# The ingestion boundary

Records are taken in by batches, and a batch may be sent again. Under one idempotency key, a record
that was accepted before is a duplicate, and the accepted and duplicate records of a response
together are exactly the records of the batch.
-/

set_option autoImplicit false

namespace Recollection.Ingestion

/-- One record of a batch. -/
structure Record where
  /-- The memory it is stored as. -/
  recordId : MemoryId
  /-- The space it is stored in. -/
  spaceId : SpaceId
  /-- The layer it belongs to. -/
  layer : MemoryLayer
  /-- The content. -/
  payload : Json
deriving DecidableEq

/-- A batch of records from one source. -/
structure Request where
  /-- Who sends the batch. -/
  source : String
  /-- What names the attempt, so that it can be repeated. -/
  idempotencyKey : String
  /-- When the events took place. -/
  occurredAtMillis : EpochMillis
  /-- The records. -/
  records : List Record
deriving DecidableEq

/-- How the records of a batch were classified. -/
structure Response where
  /-- The records that were new. -/
  acceptedRecordIds : List MemoryId
  /-- The records that had been accepted before under the same key. -/
  duplicateRecordIds : List MemoryId
  /-- When the batch was taken in. -/
  ingestedAtMillis : EpochMillis
deriving DecidableEq

/-- The identifiers of the records, in the order of the batch. -/
def Request.recordIds (request : Request) : List MemoryId :=
  request.records.map Record.recordId

/-! ## Contracts -/

/-- The shape of a record. -/
def Record.shape : Shape Record :=
  .record
    (.required "recordId" (.leaf (Identifier.leaf .memory)) <|
      .required "spaceId" (.leaf (Identifier.leaf .space)) <|
      .required "layer" (.leaf MemoryLayer.leaf) <|
      .required "payload" (.leaf .document) .done)
    (fun (recordId, spaceId, layer, payload, ()) => ⟨recordId, spaceId, layer, payload⟩)
    (fun record => (record.recordId, record.spaceId, record.layer, record.payload, ()))

/-- No record of a batch has the identifier of an earlier one. -/
def requireDistinctRecords (request : Request) : Except Mismatch Unit :=
  match firstRepeat? request.recordIds with
  | some (index, id) =>
    .error ⟨((Path.root.member "records").item index).member "recordId",
      "a record id not used earlier in the batch", "repeated id " ++ id.text⟩
  | none => .ok ()

/-- The contract of batches: source and key are visible, and no record occurs twice. -/
def Request.contract : Contract Request where
  name := "IngestionRequest"
  shape := .record
    (.required "source" (.leaf .text) <|
      .required "idempotencyKey" (.leaf .text) <|
      .required "occurredAtMillis" (.leaf .word64) <|
      .required "records" (.list Record.shape) .done)
    (fun (source, idempotencyKey, occurredAtMillis, records, ()) =>
      ⟨source, idempotencyKey, occurredAtMillis, records⟩)
    (fun request => (request.source, request.idempotencyKey, request.occurredAtMillis,
      request.records, ()))
  check request := do
    requireVisible (Path.root.member "source") request.source
    requireVisible (Path.root.member "idempotencyKey") request.idempotencyKey
    requireDistinctRecords request

/-- No identifier, from `index` on, is among the accepted ones. -/
def requireNotAccepted (path : Path) (accepted : List MemoryId) :
    Nat → List MemoryId → Except Mismatch Unit
  | _, [] => .ok ()
  | index, id :: rest =>
    if id ∈ accepted then .error ⟨path.item index, "an id not also accepted", id.text⟩
    else requireNotAccepted path accepted (index + 1) rest

/-- The contract of responses: no record is listed twice, in one list or in both. -/
def Response.contract : Contract Response where
  name := "IngestionResponse"
  shape := .record
    (.required "acceptedRecordIds" (.list (.leaf (Identifier.leaf .memory))) <|
      .required "duplicateRecordIds" (.list (.leaf (Identifier.leaf .memory))) <|
      .required "ingestedAtMillis" (.leaf .word64) .done)
    (fun (acceptedRecordIds, duplicateRecordIds, ingestedAtMillis, ()) =>
      ⟨acceptedRecordIds, duplicateRecordIds, ingestedAtMillis⟩)
    (fun response => (response.acceptedRecordIds, response.duplicateRecordIds,
      response.ingestedAtMillis, ()))
  check response := do
    let duplicates := Path.root.member "duplicateRecordIds"
    requireDistinct Identifier.text (Path.root.member "acceptedRecordIds")
      response.acceptedRecordIds
    requireDistinct Identifier.text duplicates response.duplicateRecordIds
    requireNotAccepted duplicates response.acceptedRecordIds 0 response.duplicateRecordIds

/-! ## Answers to batches -/

/-- The response that accepts every record. -/
def Response.acceptAll (request : Request) (ingestedAtMillis : EpochMillis) : Response :=
  ⟨request.recordIds, [], ingestedAtMillis⟩

/-- Whether a response answers a batch: it classifies every submitted record and no other. -/
def Response.conformsTo (response : Response) (request : Request) : Except Rejection Unit :=
  Except.mapError Response.contract.pairingRejection do
    let submitted := SortedSet.ofList request.recordIds
    let classified := SortedSet.ofList (response.acceptedRecordIds ++ response.duplicateRecordIds)
    match classified.difference submitted with
    | id :: _ => .error ⟨.root, "only submitted record ids", "unsubmitted id " ++ id.text⟩
    | [] =>
      match submitted.difference classified with
      | id :: _ =>
        .error ⟨.root, "every submitted record id classified", "unclassified id " ++ id.text⟩
      | [] => .ok ()

end Recollection.Ingestion
