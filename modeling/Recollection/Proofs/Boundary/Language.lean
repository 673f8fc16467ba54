import Mathlib.Tactic.MkIffOfInductiveProp
import Recollection.Proofs.Boundary.HitOrder
import Recollection.Proofs.Boundary.Invariants
import Recollection.Proofs.Contract.Language
import Recollection.Proofs.Number.Rounding
/-!
# The documents that the contracts accept

For each of the twelve contracts: which documents are written for a value, member by member, and
which invariants the value keeps. Identifiers are compared as they are after trimming, and the hits
of a page are in order as a whole, not only neighbour by neighbour.

An object is told by what it has under each name. Should its members give one name twice, the first
of them counts; an object that was read from a text has no such names.
-/

set_option autoImplicit false

namespace Recollection

open Binary64 (isFinite_of_mem_unitInterval)

/-- Whether a text holds something besides white space. -/
def IsVisible (text : String) : Prop :=
  Text.isBlankText text = false

/-- Whether a score or a threshold lies between zero and one. -/
def InUnitInterval (score : Binary64) : Prop :=
  Binary64.zero.le score = true ∧ score.le .one = true

/-- A number between zero and one is finite. -/
theorem standsFor_score {score : Binary64} (hrange : InUnitInterval score) :
    (Shape.leaf Leaf.number).StandsFor score = IsNumber score :=
  Shape.standsFor_number (isFinite_of_mem_unitInterval hrange.1 hrange.2)

@[simp]
theorem standsFor_layer : (Shape.leaf MemoryLayer.leaf).StandsFor = IsNamed MemoryLayer.name :=
  Shape.standsFor_named MemoryLayer.isNaming

@[simp]
theorem standsFor_decision :
    (Shape.leaf Policy.Decision.leaf).StandsFor = IsNamed Policy.Decision.name :=
  Shape.standsFor_named Policy.Decision.isNaming

/-! ## Storage -/

namespace Storage

/-- The documents that stand for a request to write. -/
def UpsertRequest.Written (request : UpsertRequest) : Json → Prop :=
  IsRecord [
    .required "spaceId" (IsIdentifier request.spaceId),
    .required "memoryId" (IsIdentifier request.memoryId),
    .required "layer" (IsNamed MemoryLayer.name request.layer),
    .required "payload" (IsDocument request.payload),
    .optional "expectedVersion" IsWord64 request.expectedVersion]

theorem UpsertRequest.recognizes :
    UpsertRequest.contract.Recognizes UpsertRequest.Written fun _ => True := by
  apply Contract.recognizes rfl (fun _ => rfl) (fun _ => rfl)
  · exact fun request => iff_true_intro rfl
  · intro request _
    simp [Members.rules, UpsertRequest.Written]

/-- The documents that stand for the outcome of a write. -/
def UpsertResponse.Written (response : UpsertResponse) : Json → Prop :=
  IsRecord [
    .required "spaceId" (IsIdentifier response.spaceId),
    .required "memoryId" (IsIdentifier response.memoryId),
    .required "accepted" (IsFlag response.accepted),
    .required "persistedAtMillis" (IsWord64 response.persistedAtMillis),
    .required "version" (IsWord64 response.version)]

/-- A write that took place made a version. -/
def UpsertResponse.Keeps (response : UpsertResponse) : Prop :=
  response.accepted = true → 1 ≤ response.version.toNat

theorem UpsertResponse.recognizes :
    UpsertResponse.contract.Recognizes UpsertResponse.Written UpsertResponse.Keeps := by
  apply Contract.recognizes rfl (fun _ => rfl) (fun _ => rfl)
  · intro response
    rw [UpsertResponse.validate_eq_ok_iff, Keeps, Nat.one_le_iff_ne_zero, ne_eq, ne_eq,
      ← UInt64.toNat_inj]
    rfl
  · intro response _
    simp [Members.rules, UpsertResponse.Written]

/-- The documents that stand for a request to remove. -/
def DeleteRequest.Written (request : DeleteRequest) : Json → Prop :=
  IsRecord [
    .required "spaceId" (IsIdentifier request.spaceId),
    .required "memoryId" (IsIdentifier request.memoryId)]

theorem DeleteRequest.recognizes :
    DeleteRequest.contract.Recognizes DeleteRequest.Written fun _ => True := by
  apply Contract.recognizes rfl (fun _ => rfl) (fun _ => rfl)
  · exact fun request => iff_true_intro rfl
  · intro request _
    simp [Members.rules, DeleteRequest.Written]

/-- The documents that stand for the outcome of a removal. -/
def DeleteResponse.Written (response : DeleteResponse) : Json → Prop :=
  IsRecord [
    .required "spaceId" (IsIdentifier response.spaceId),
    .required "memoryId" (IsIdentifier response.memoryId),
    .required "deleted" (IsFlag response.deleted)]

theorem DeleteResponse.recognizes :
    DeleteResponse.contract.Recognizes DeleteResponse.Written fun _ => True := by
  apply Contract.recognizes rfl (fun _ => rfl) (fun _ => rfl)
  · exact fun response => iff_true_intro rfl
  · intro response _
    simp [Members.rules, DeleteResponse.Written]

end Storage

/-! ## Retrieval -/

namespace Retrieval

/-- The documents that stand for a query. -/
def Request.Written (request : Request) : Json → Prop :=
  IsRecord [
    .required "spaceId" (IsIdentifier request.spaceId),
    .required "query" (IsText request.query),
    .required "limit" (IsWord32 request.limit),
    .optional "cursor" IsText request.cursor]

/-- What a query keeps. -/
@[mk_iff]
structure Request.Keeps (request : Request) : Prop where
  /-- The text is visible. -/
  query : IsVisible request.query
  /-- The page is neither empty nor too large. -/
  limit : 1 ≤ request.limit.toNat ∧ request.limit.toNat ≤ 1000
  /-- A cursor is visible. -/
  cursor : ∀ cursor, request.cursor = some cursor → IsVisible cursor

theorem Request.recognizes : Request.contract.Recognizes Request.Written Request.Keeps := by
  apply Contract.recognizes rfl (fun _ => rfl) (fun _ => rfl)
  · intro request
    rw [Request.validate_eq_ok_iff, keeps_iff]
    rfl
  · intro request _
    simp [Members.rules, Request.Written]

/-- The documents that stand for a hit. -/
def Hit.Written (hit : Hit) : Json → Prop :=
  IsRecord [
    .required "memoryId" (IsIdentifier hit.memoryId),
    .required "layer" (IsNamed MemoryLayer.name hit.layer),
    .required "score" (IsNumber hit.score)]

theorem Hit.standsFor_shape {hit : Hit} (hrange : InUnitInterval hit.score) :
    Hit.shape.StandsFor hit = hit.Written := by
  refine (Shape.standsFor_record (fun _ => rfl) (fun _ => rfl) hit).trans ?_
  simp [Members.rules, standsFor_score hrange, Hit.Written]

/-- The documents that stand for a page. -/
def Response.Written (response : Response) : Json → Prop :=
  IsRecord [
    .required "spaceId" (IsIdentifier response.spaceId),
    .required "hits" (IsList Hit.Written response.hits),
    .required "totalHits" (IsWord64 response.totalHits),
    .optional "nextCursor" IsText response.nextCursor]

/-- What a page keeps. -/
@[mk_iff]
structure Response.Keeps (response : Response) : Prop where
  /-- Scores are in range. -/
  scores : ∀ hit ∈ response.hits, InUnitInterval hit.score
  /-- No memory is found twice. -/
  nodup : (response.hits.map Hit.memoryId).Nodup
  /-- Of any two hits the earlier one may stand before the later one. -/
  ordered : response.hits.Pairwise fun first second => first.notAfter second = true
  /-- The total counts the hits of the page. -/
  total : response.hits.length ≤ response.totalHits.toNat

theorem Response.recognizes : Response.contract.Recognizes Response.Written Response.Keeps := by
  apply Contract.recognizes rfl (fun _ => rfl) (fun _ => rfl)
  · intro response
    rw [Response.validate_eq_ok_iff, keeps_iff, isChain_iff_pairwise_notAfter]
    rfl
  · intro response hkeeps
    have hhits : IsList Hit.shape.StandsFor response.hits = IsList Hit.Written response.hits :=
      isList_congr fun hit hmem => Hit.standsFor_shape (hkeeps.scores hit hmem)
    simp [Members.rules, hhits, Response.Written]

end Retrieval

/-! ## Evaluation -/

namespace Evaluation

/-- The documents that stand for a request to score candidates. -/
def Request.Written (request : Request) : Json → Prop :=
  IsRecord [
    .required "objective" (IsText request.objective),
    .required "candidateMemoryIds" (IsList IsIdentifier request.candidateMemoryIds),
    .required "minimumScore" (IsNumber request.minimumScore),
    .optional "spaceId" IsIdentifier request.spaceId]

/-- What a request to score candidates keeps. -/
@[mk_iff]
structure Request.Keeps (request : Request) : Prop where
  /-- The objective is visible. -/
  objective : IsVisible request.objective
  /-- No candidate is listed twice. -/
  nodup : request.candidateMemoryIds.Nodup
  /-- The minimum is in range. -/
  minimum : InUnitInterval request.minimumScore

theorem Request.recognizes : Request.contract.Recognizes Request.Written Request.Keeps := by
  apply Contract.recognizes rfl (fun _ => rfl) (fun _ => rfl)
  · intro request
    rw [Request.validate_eq_ok_iff, keeps_iff]
    rfl
  · intro request hkeeps
    simp [Members.rules, standsFor_score hkeeps.minimum, Request.Written]

/-- The documents that stand for a result. -/
def Result.Written (result : Result) : Json → Prop :=
  IsRecord [
    .required "memoryId" (IsIdentifier result.memoryId),
    .required "score" (IsNumber result.score)]

theorem Result.standsFor_shape {result : Result} (hrange : InUnitInterval result.score) :
    Result.shape.StandsFor result = result.Written := by
  refine (Shape.standsFor_record (fun _ => rfl) (fun _ => rfl) result).trans ?_
  simp [Members.rules, standsFor_score hrange, Result.Written]

/-- The documents that stand for the scores of candidates. -/
def Response.Written (response : Response) : Json → Prop :=
  IsRecord [
    .required "results" (IsList Result.Written response.results),
    .required "selectedMemoryIds" (IsList IsIdentifier response.selectedMemoryIds)]

/-- What the scores of candidates keep. -/
@[mk_iff]
structure Response.Keeps (response : Response) : Prop where
  /-- Scores are in range. -/
  scores : ∀ result ∈ response.results, InUnitInterval result.score
  /-- No candidate is scored twice. -/
  nodup : (response.results.map Result.memoryId).Nodup
  /-- No candidate is selected twice. -/
  nodup_selected : response.selectedMemoryIds.Nodup
  /-- What is selected was scored. -/
  selected : ∀ id ∈ response.selectedMemoryIds, id ∈ response.results.map Result.memoryId

theorem Response.recognizes : Response.contract.Recognizes Response.Written Response.Keeps := by
  apply Contract.recognizes rfl (fun _ => rfl) (fun _ => rfl)
  · intro response
    rw [Response.validate_eq_ok_iff, keeps_iff]
    rfl
  · intro response hkeeps
    have hresults : IsList Result.shape.StandsFor response.results =
        IsList Result.Written response.results :=
      isList_congr fun result hmem => Result.standsFor_shape (hkeeps.scores result hmem)
    simp [Members.rules, hresults, Response.Written]

end Evaluation

/-! ## Policy -/

namespace Policy

/-- The documents that stand for a request for a decision. -/
def Request.Written (request : Request) : Json → Prop :=
  IsRecord [
    .required "spaceId" (IsIdentifier request.spaceId),
    .required "actorId" (IsIdentifier request.actorId),
    .required "action" (IsText request.action),
    .required "resourceId" (IsIdentifier request.resourceId),
    .required "evidenceIds" (IsList IsIdentifier request.evidenceIds),
    .required "context" (IsDocument request.context)]

/-- What a request for a decision keeps. -/
@[mk_iff]
structure Request.Keeps (request : Request) : Prop where
  /-- The action is visible. -/
  action : IsVisible request.action
  /-- The context is an object. -/
  context : ∃ members, request.context = .object members

theorem Request.validate_eq_ok_iff (request : Request) :
    Request.contract.validate request = .ok () ↔ request.Keeps := by
  rw [Contract.validate_eq_ok_iff, keeps_iff]
  simp only [Request.contract, sequence_eq_ok_iff, requireVisible_eq_ok_iff, guard_eq_ok_iff]
  cases request.context <;> simp [Json.members?, IsVisible]

theorem Request.recognizes : Request.contract.Recognizes Request.Written Request.Keeps := by
  apply Contract.recognizes rfl (fun _ => rfl) (fun _ => rfl)
  · exact Request.validate_eq_ok_iff
  · intro request _
    simp [Members.rules, Request.Written]

/-- The documents that stand for a decision that was taken. -/
def Response.Written (response : Response) : Json → Prop :=
  IsRecord [
    .required "decision" (IsNamed Decision.name response.decision),
    .required "reasonCodes" (IsList IsText response.reasonCodes),
    .required "evaluatedAtMillis" (IsWord64 response.evaluatedAtMillis)]

/-- What a decision keeps. -/
@[mk_iff]
structure Response.Keeps (response : Response) : Prop where
  /-- There are reasons unless the action is allowed. -/
  reasons : response.decision = .allow ∨ response.reasonCodes ≠ []
  /-- Every reason is visible. -/
  codes : ∀ code ∈ response.reasonCodes, IsVisible code

theorem Response.recognizes : Response.contract.Recognizes Response.Written Response.Keeps := by
  apply Contract.recognizes rfl (fun _ => rfl) (fun _ => rfl)
  · intro response
    rw [Response.validate_eq_ok_iff, keeps_iff]
    rfl
  · intro response _
    simp [Members.rules, Response.Written]

end Policy

/-! ## Ingestion -/

namespace Ingestion

/-- The documents that stand for a record. -/
def Record.Written (record : Record) : Json → Prop :=
  IsRecord [
    .required "recordId" (IsIdentifier record.recordId),
    .required "spaceId" (IsIdentifier record.spaceId),
    .required "layer" (IsNamed MemoryLayer.name record.layer),
    .required "payload" (IsDocument record.payload)]

@[simp]
theorem Record.standsFor_shape : Record.shape.StandsFor = Record.Written := by
  funext record
  refine (Shape.standsFor_record (fun _ => rfl) (fun _ => rfl) record).trans ?_
  simp [Members.rules, Record.Written]

/-- The documents that stand for a batch. -/
def Request.Written (request : Request) : Json → Prop :=
  IsRecord [
    .required "source" (IsText request.source),
    .required "idempotencyKey" (IsText request.idempotencyKey),
    .required "occurredAtMillis" (IsWord64 request.occurredAtMillis),
    .required "records" (IsList Record.Written request.records)]

/-- What a batch keeps. -/
@[mk_iff]
structure Request.Keeps (request : Request) : Prop where
  /-- The source is visible. -/
  source : IsVisible request.source
  /-- The key is visible. -/
  key : IsVisible request.idempotencyKey
  /-- No record occurs twice. -/
  nodup : request.recordIds.Nodup

theorem Request.recognizes : Request.contract.Recognizes Request.Written Request.Keeps := by
  apply Contract.recognizes rfl (fun _ => rfl) (fun _ => rfl)
  · intro request
    rw [Request.validate_eq_ok_iff, keeps_iff]
    rfl
  · intro request _
    simp [Members.rules, Request.Written]

/-- The documents that stand for the classification of a batch. -/
def Response.Written (response : Response) : Json → Prop :=
  IsRecord [
    .required "acceptedRecordIds" (IsList IsIdentifier response.acceptedRecordIds),
    .required "duplicateRecordIds" (IsList IsIdentifier response.duplicateRecordIds),
    .required "ingestedAtMillis" (IsWord64 response.ingestedAtMillis)]

/-- What the classification of a batch keeps. -/
@[mk_iff]
structure Response.Keeps (response : Response) : Prop where
  /-- No record is accepted twice. -/
  nodup_accepted : response.acceptedRecordIds.Nodup
  /-- No record is a duplicate twice. -/
  nodup_duplicate : response.duplicateRecordIds.Nodup
  /-- No duplicate is accepted. -/
  disjoint : ∀ id ∈ response.duplicateRecordIds, id ∉ response.acceptedRecordIds

theorem Response.recognizes : Response.contract.Recognizes Response.Written Response.Keeps := by
  apply Contract.recognizes rfl (fun _ => rfl) (fun _ => rfl)
  · intro response
    rw [Response.validate_eq_ok_iff, keeps_iff]
  · intro response _
    simp [Members.rules, Response.Written]

end Ingestion

/-! ## All contracts -/

/-- Each of the twelve contracts accepts the documents that are written for a value, as that value,
if the value keeps the invariants, and no others. -/
theorem contracts_recognize :
    Storage.UpsertRequest.contract.Recognizes Storage.UpsertRequest.Written (fun _ => True) ∧
    Storage.UpsertResponse.contract.Recognizes Storage.UpsertResponse.Written
      Storage.UpsertResponse.Keeps ∧
    Storage.DeleteRequest.contract.Recognizes Storage.DeleteRequest.Written (fun _ => True) ∧
    Storage.DeleteResponse.contract.Recognizes Storage.DeleteResponse.Written (fun _ => True) ∧
    Retrieval.Request.contract.Recognizes Retrieval.Request.Written Retrieval.Request.Keeps ∧
    Retrieval.Response.contract.Recognizes Retrieval.Response.Written Retrieval.Response.Keeps ∧
    Evaluation.Request.contract.Recognizes Evaluation.Request.Written Evaluation.Request.Keeps ∧
    Evaluation.Response.contract.Recognizes Evaluation.Response.Written
      Evaluation.Response.Keeps ∧
    Policy.Request.contract.Recognizes Policy.Request.Written Policy.Request.Keeps ∧
    Policy.Response.contract.Recognizes Policy.Response.Written Policy.Response.Keeps ∧
    Ingestion.Request.contract.Recognizes Ingestion.Request.Written Ingestion.Request.Keeps ∧
    Ingestion.Response.contract.Recognizes Ingestion.Response.Written Ingestion.Response.Keeps :=
  ⟨Storage.UpsertRequest.recognizes, Storage.UpsertResponse.recognizes,
    Storage.DeleteRequest.recognizes, Storage.DeleteResponse.recognizes,
    Retrieval.Request.recognizes, Retrieval.Response.recognizes,
    Evaluation.Request.recognizes, Evaluation.Response.recognizes,
    Policy.Request.recognizes, Policy.Response.recognizes,
    Ingestion.Request.recognizes, Ingestion.Response.recognizes⟩

end Recollection
