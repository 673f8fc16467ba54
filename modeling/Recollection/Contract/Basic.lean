import Recollection.Contract.Leaf
import Recollection.Collection.Repeat
import Recollection.Json.Reader
import Recollection.Text.Blank
/-!
# Contracts

A contract is a name, a shape and the invariants that go beyond shape. A document is accepted if it
has the shape and the value it stands for keeps the invariants; otherwise the rejection says which
of the two failed and describes the first mismatch. Shape comes first: the invariants of a document
of the wrong shape are never looked at.
-/

set_option autoImplicit false

namespace Recollection

/-- Why a document or a value was not accepted. -/
structure Rejection where
  /-- The contract that does not accept it. -/
  contract : String
  /-- Which stage failed, in one line. -/
  summary : String
  /-- The first mismatch. -/
  details : String
deriving DecidableEq, Repr

/-- The text of a rejection. -/
def Rejection.message (rejection : Rejection) : String :=
  rejection.contract ++ ": " ++ rejection.summary ++ " (" ++ rejection.details ++ ")"

/-- What a boundary requires of the documents that cross it. -/
structure Contract (α : Type) where
  /-- The name that rejections give. -/
  name : String
  /-- The documents that stand for a value. -/
  shape : Shape α
  /-- The invariants of a value, and the first one that fails. -/
  check : α → Except Mismatch Unit

namespace Contract

variable {α : Type}

/-- The rejection of a document that has not the shape. -/
def shapeRejection (contract : Contract α) (mismatch : Mismatch) : Rejection :=
  ⟨contract.name, "payload does not match the contract shape", mismatch.message⟩

/-- The rejection of a value that breaks an invariant. -/
def invariantRejection (contract : Contract α) (mismatch : Mismatch) : Rejection :=
  ⟨contract.name, "payload violates a contract invariant", mismatch.message⟩

/-- The rejection of a response that does not answer its request. -/
def pairingRejection (contract : Contract α) (mismatch : Mismatch) : Rejection :=
  ⟨contract.name, "response does not conform to its request", mismatch.message⟩

/-- The rejection of a text that is no document. -/
def syntaxRejection (contract : Contract α) (fault : String) : Rejection :=
  ⟨contract.name, "payload is not valid JSON",
    "at $: expected JSON document, found syntax error (" ++ fault ++ ")"⟩

/-- The value that a document stands for, its invariants unchecked. -/
def decode (contract : Contract α) (document : Json) : Except Mismatch α :=
  contract.shape.decode .root document

/-- The document that stands for a value. -/
def encode (contract : Contract α) (value : α) : Json :=
  contract.shape.encode value

/-- Accepts a value that keeps the invariants. -/
def validate (contract : Contract α) (value : α) : Except Rejection Unit :=
  (contract.check value).mapError contract.invariantRejection

/-- Accepts a document that has the shape and keeps the invariants. -/
def accept (contract : Contract α) (document : Json) : Except Rejection α := do
  let value ← (contract.decode document).mapError contract.shapeRejection
  contract.validate value
  return value

/-- Accepts the text of a document. -/
def acceptText (contract : Contract α) (text : String) : Except Rejection α :=
  match Json.read text with
  | .ok document => contract.accept document
  | .error fault => .error (contract.syntaxRejection (fault.message text))

/-- Accepts a document that is known to be right; the error is the message of a programming
mistake. -/
def acceptTrusted (contract : Contract α) (document : Json) : Except String α :=
  (contract.accept document).mapError fun rejection =>
    "strict decode failed: " ++ rejection.message

end Contract

/-! ## Invariants that contracts share -/

/-- Text must hold something besides white space. -/
def requireVisible (path : Path) (text : String) : Except Mismatch Unit :=
  if Text.isBlankText text then .error ⟨path, "non-blank text", Text.quoted text⟩ else .ok ()

/-- Scores and thresholds lie between zero and one. -/
def requireScore (path : Path) (score : Binary64) : Except Mismatch Unit :=
  if Binary64.zero.le score && score.le .one then .ok ()
  else .error ⟨path, "a number in [0, 1]", score.render .plain⟩

/-- Scores in a list of results, each in the member `score` of its item. -/
def requireScores (path : Path) : Nat → List Binary64 → Except Mismatch Unit
  | _, [] => .ok ()
  | index, score :: rest => do
    requireScore ((path.item index).member "score") score
    requireScores path (index + 1) rest

/-- No element of a list equals an earlier one. -/
def requireDistinct {α : Type} [DecidableEq α] (render : α → String) (path : Path)
    (items : List α) : Except Mismatch Unit :=
  match firstRepeat? items with
  | some (index, item) =>
    .error ⟨path.item index, "an id not listed earlier", "repeated id " ++ render item⟩
  | none => .ok ()

end Recollection
