import Recollection.Boundary.Policy
/-!
# Faults of the boundaries

There are seven kinds of fault. Every boundary may reject its input, and has one or two kinds of its
own; it fails with one of these and with nothing else. A fault has a text for people and the same
facts as a document for transport.
-/

set_option autoImplicit false

namespace Recollection

/-- The kinds of fault. -/
inductive FaultKind
  /-- A contract does not accept the input. -/
  | contractValidation
  /-- A write expected another version than the stored one. -/
  | storageConflict
  /-- A write expected a version of a memory that does not exist. -/
  | storageNotFound
  /-- A query cannot be run as written. -/
  | retrievalQuery
  /-- No candidate reaches the minimum where one has to. -/
  | evaluationThreshold
  /-- A decision refuses the action. -/
  | policyDenied
  /-- A record was sent again with another content. -/
  | ingestionDuplicate
deriving DecidableEq, Repr

namespace FaultKind

/-- Every kind. -/
def all : List FaultKind :=
  [.contractValidation, .storageConflict, .storageNotFound, .retrievalQuery, .evaluationThreshold,
    .policyDenied, .ingestionDuplicate]

/-- The name under which a kind travels. -/
def tag : FaultKind → String
  | .contractValidation => "ContractValidationError"
  | .storageConflict => "StorageConflictError"
  | .storageNotFound => "StorageNotFoundError"
  | .retrievalQuery => "RetrievalQueryError"
  | .evaluationThreshold => "EvaluationThresholdError"
  | .policyDenied => "PolicyDeniedError"
  | .ingestionDuplicate => "IngestionDuplicateError"

end FaultKind

/-- A fault as it leaves a boundary. -/
structure FaultReport where
  /-- Its kind. -/
  kind : FaultKind
  /-- Its text. -/
  message : String
  /-- Its facts. -/
  data : Json

/-- A rejection as it leaves a boundary. -/
def Rejection.report (rejection : Rejection) : FaultReport where
  kind := .contractValidation
  message := rejection.message
  data := .object [("contract", .string rejection.contract),
    ("message", .string rejection.summary), ("details", .string rejection.details)]

/-! ## Storage -/

namespace Storage

/-- Another version is stored than the write expected. -/
structure Conflict where
  /-- The space of the memory. -/
  spaceId : SpaceId
  /-- The memory. -/
  memoryId : MemoryId
  /-- The version the write expected. -/
  expectedVersion : UInt64
  /-- The version that is stored. -/
  actualVersion : UInt64
deriving DecidableEq

/-- A write expected a memory that does not exist. -/
structure NotFound where
  /-- The space of the memory. -/
  spaceId : SpaceId
  /-- The memory. -/
  memoryId : MemoryId
deriving DecidableEq

/-- The faults of the storage boundary. -/
inductive Fault
  /-- The request is not accepted. -/
  | rejected (rejection : Rejection)
  /-- Another version is stored. -/
  | conflict (conflict : Conflict)
  /-- The memory does not exist. -/
  | notFound (notFound : NotFound)
deriving DecidableEq

namespace Fault

/-- The kinds of fault of this boundary. -/
def kinds : List FaultKind :=
  [.contractValidation, .storageConflict, .storageNotFound]

/-- The fault as it leaves the boundary. -/
def report : Fault → FaultReport
  | rejected rejection => rejection.report
  | conflict c => {
      kind := .storageConflict
      message := "version conflict on " ++ c.spaceId.text ++ "/" ++ c.memoryId.text ++
        ": expected " ++ toString c.expectedVersion.toNat ++ ", stored " ++
        toString c.actualVersion.toNat
      data := .object [("spaceId", .string c.spaceId.text), ("memoryId", .string c.memoryId.text),
        ("expectedVersion", .ofUInt64 c.expectedVersion),
        ("actualVersion", .ofUInt64 c.actualVersion)] }
  | notFound n => {
      kind := .storageNotFound
      message := "memory " ++ n.spaceId.text ++ "/" ++ n.memoryId.text ++ " not found"
      data := .object [("spaceId", .string n.spaceId.text),
        ("memoryId", .string n.memoryId.text)] }

end Fault

end Storage

/-! ## Retrieval -/

namespace Retrieval

/-- A query that cannot be run as written. -/
structure QueryRefusal where
  /-- The space queried. -/
  spaceId : SpaceId
  /-- Why it cannot be run. -/
  reason : String
deriving DecidableEq

/-- The faults of the retrieval boundary. -/
inductive Fault
  /-- The request is not accepted. -/
  | rejected (rejection : Rejection)
  /-- The query cannot be run. -/
  | refused (refusal : QueryRefusal)
deriving DecidableEq

namespace Fault

/-- The kinds of fault of this boundary. -/
def kinds : List FaultKind :=
  [.contractValidation, .retrievalQuery]

/-- The fault as it leaves the boundary. -/
def report : Fault → FaultReport
  | rejected rejection => rejection.report
  | refused refusal => {
      kind := .retrievalQuery
      message := "query against " ++ refusal.spaceId.text ++ " rejected: " ++ refusal.reason
      data := .object [("spaceId", .string refusal.spaceId.text),
        ("reason", .string refusal.reason)] }

end Fault

end Retrieval

/-! ## Evaluation -/

namespace Evaluation

/-- No candidate reaches the minimum. -/
structure Threshold where
  /-- What the candidates were judged against. -/
  objective : String
  /-- The minimum. -/
  minimumScore : Binary64
  /-- The greatest score, if any candidate was scored. -/
  bestScore : Option Binary64
deriving DecidableEq

/-- The faults of the evaluation boundary. -/
inductive Fault
  /-- The request is not accepted. -/
  | rejected (rejection : Rejection)
  /-- The minimum is not reached. -/
  | threshold (threshold : Threshold)
deriving DecidableEq

namespace Fault

/-- The kinds of fault of this boundary. -/
def kinds : List FaultKind :=
  [.contractValidation, .evaluationThreshold]

/-- The text of a greatest score. -/
def bestScoreText : Option Binary64 → String
  | some score => "Some(" ++ score.render .tagged ++ ")"
  | none => "None"

/-- The fault as it leaves the boundary. -/
def report : Fault → FaultReport
  | rejected rejection => rejection.report
  | threshold t => {
      kind := .evaluationThreshold
      message := "no candidate for `" ++ t.objective ++ "` reached " ++
        t.minimumScore.render .plain ++ " (best: " ++ bestScoreText t.bestScore ++ ")"
      data := .object [("objective", .string t.objective),
        ("minimumScore", .ofBinary64 t.minimumScore),
        ("bestScore", t.bestScore.elim .null .ofBinary64)] }

end Fault

end Evaluation

/-! ## Policy -/

namespace Policy

/-- A decision that does not allow the action. -/
structure Denial where
  /-- The space of the memory. -/
  spaceId : SpaceId
  /-- Who wanted to act. -/
  actorId : UserId
  /-- What was to be done. -/
  action : String
  /-- The decision. -/
  decision : Decision
  /-- The reasons for it. -/
  reasonCodes : List String
deriving DecidableEq

/-- The faults of the policy boundary. -/
inductive Fault
  /-- The request is not accepted. -/
  | rejected (rejection : Rejection)
  /-- The action is not allowed. -/
  | denied (denial : Denial)
deriving DecidableEq

namespace Fault

/-- The kinds of fault of this boundary. -/
def kinds : List FaultKind :=
  [.contractValidation, .policyDenied]

/-- The fault as it leaves the boundary. -/
def report : Fault → FaultReport
  | rejected rejection => rejection.report
  | denied d => {
      kind := .policyDenied
      message := d.actorId.text ++ " may not `" ++ d.action ++ "` in " ++ d.spaceId.text ++ ": " ++
        d.decision.name ++ " (" ++ Text.quotedList d.reasonCodes ++ ")"
      data := .object [("spaceId", .string d.spaceId.text), ("actorId", .string d.actorId.text),
        ("action", .string d.action), ("decision", .string d.decision.name),
        ("reasonCodes", .ofTexts d.reasonCodes)] }

end Fault

end Policy

/-! ## Ingestion -/

namespace Ingestion

/-- Records that were sent again with another content. -/
structure Divergence where
  /-- The key of the attempt. -/
  idempotencyKey : String
  /-- The records. -/
  recordIds : List MemoryId
deriving DecidableEq

/-- The faults of the ingestion boundary. -/
inductive Fault
  /-- The request is not accepted. -/
  | rejected (rejection : Rejection)
  /-- Some records have changed. -/
  | diverged (divergence : Divergence)
deriving DecidableEq

namespace Fault

/-- The kinds of fault of this boundary. -/
def kinds : List FaultKind :=
  [.contractValidation, .ingestionDuplicate]

/-- The text of a memory that a fault lists. -/
def memoryText (id : MemoryId) : String :=
  "MemoryId(" ++ Text.quoted id.text ++ ")"

/-- The fault as it leaves the boundary. -/
def report : Fault → FaultReport
  | rejected rejection => rejection.report
  | diverged d => {
      kind := .ingestionDuplicate
      message := "idempotency key `" ++ d.idempotencyKey ++ "` replayed with changed records: [" ++
        ", ".intercalate (d.recordIds.map memoryText) ++ "]"
      data := .object [("idempotencyKey", .string d.idempotencyKey),
        ("recordIds", .ofTexts (d.recordIds.map Identifier.text))] }

end Fault

end Ingestion

end Recollection
