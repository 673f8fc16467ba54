import Recollection.Contract.Basic
import Recollection.Identity.Identifier
import Recollection.Memory.Layer
/-!
# The policy boundary

A policy decides whether an actor may do something with a memory. A decision other than to allow
comes with reasons.
-/

set_option autoImplicit false

namespace Recollection.Policy

/-- A decision. -/
inductive Decision
  /-- The action may proceed. -/
  | allow
  /-- Someone has to look at it first. -/
  | review
  /-- The action is refused. -/
  | deny
deriving DecidableEq, Repr, Inhabited

namespace Decision

/-- Every decision. -/
def all : List Decision :=
  [.allow, .review, .deny]

/-- The name of a decision. -/
def name : Decision → String
  | .allow => "allow"
  | .review => "review"
  | .deny => "deny"

/-- The decision with a given name. -/
def ofName? (text : String) : Option Decision :=
  all.find? fun decision => decision.name == text

/-- Decisions in documents. -/
def leaf : Leaf Decision :=
  .named name all

/-- Loads a decision by its name. -/
def load : Load Decision :=
  .named name all

end Decision

/-- Ask for a decision. -/
structure Request where
  /-- The space the memory lives in. -/
  spaceId : SpaceId
  /-- Who wants to act. -/
  actorId : UserId
  /-- What is to be done. -/
  action : String
  /-- The memory it is to be done to. -/
  resourceId : MemoryId
  /-- The evidence offered for it. -/
  evidenceIds : List EvidenceId
  /-- What else bears on the decision. -/
  context : Json
deriving DecidableEq

/-- A decision that was taken. -/
structure Response where
  /-- The decision. -/
  decision : Decision
  /-- The reasons for it. -/
  reasonCodes : List String
  /-- When it was taken. -/
  evaluatedAtMillis : EpochMillis
deriving DecidableEq

/-- The contract of requests: the action is visible and the context is an object. -/
def Request.contract : Contract Request where
  name := "PolicyRequest"
  shape := .record
    (.required "spaceId" (.leaf (Identifier.leaf .space)) <|
      .required "actorId" (.leaf (Identifier.leaf .user)) <|
      .required "action" (.leaf .text) <|
      .required "resourceId" (.leaf (Identifier.leaf .memory)) <|
      .required "evidenceIds" (.list (.leaf (Identifier.leaf .evidence))) <|
      .required "context" (.leaf .document) .done)
    (fun (spaceId, actorId, action, resourceId, evidenceIds, context, ()) =>
      ⟨spaceId, actorId, action, resourceId, evidenceIds, context⟩)
    (fun request => (request.spaceId, request.actorId, request.action, request.resourceId,
      request.evidenceIds, request.context, ()))
  check request := do
    requireVisible (Path.root.member "action") request.action
    if request.context.members?.isNone then
      .error ⟨Path.root.member "context", "mapping", request.context.kind⟩

/-- The codes from `index` on are visible. -/
def requireCodes (path : Path) : Nat → List String → Except Mismatch Unit
  | _, [] => .ok ()
  | index, code :: rest => do
    requireVisible (path.item index) code
    requireCodes path (index + 1) rest

/-- The contract of decisions: there are reasons unless the action is allowed, and they are
visible. -/
def Response.contract : Contract Response where
  name := "PolicyResponse"
  shape := .record
    (.required "decision" (.leaf Decision.leaf) <|
      .required "reasonCodes" (.list (.leaf .text)) <|
      .required "evaluatedAtMillis" (.leaf .word64) .done)
    (fun (decision, reasonCodes, evaluatedAtMillis, ()) =>
      ⟨decision, reasonCodes, evaluatedAtMillis⟩)
    (fun response => (response.decision, response.reasonCodes, response.evaluatedAtMillis, ()))
  check response := do
    let codes := Path.root.member "reasonCodes"
    if response.decision ≠ .allow ∧ response.reasonCodes = [] then
      .error ⟨codes, "at least one reason code for a " ++ response.decision.name ++ " decision",
        "an empty list"⟩
    requireCodes codes 0 response.reasonCodes

/-- To allow without conditions. -/
def Response.allowed (evaluatedAtMillis : EpochMillis) : Response :=
  ⟨.allow, [], evaluatedAtMillis⟩

end Recollection.Policy
