import Recollection.Boundary.Contracts
import Recollection.Proofs.Boundary.Carried
import Recollection.Proofs.Boundary.Invariants
import Recollection.Proofs.Number.Rounding
/-!
# Round trips of the contracts

What keeps a contract is accepted, unchanged, from the document that it is encoded as. Nothing but
scores could get in the way, since a number that is not finite is written as null; but a score that
keeps its contract lies between zero and one.

A document that is accepted need not be the one that its value is encoded as: identifiers may have
white space around them, absent members may be null, and members come in any order. Encoding the
value makes all of this regular, and once is enough.
-/

set_option autoImplicit false

namespace Recollection

open Binary64 (isFinite_of_mem_unitInterval)

/-! ## Valid values are carried -/

theorem Retrieval.Response.carried_of_valid {response : Response}
    (hvalid : Response.contract.validate response = .ok ()) :
    Response.contract.shape.Carries response := by
  rw [Response.validate_eq_ok_iff] at hvalid
  apply Response.carried
  intro hit hmem
  obtain ⟨hlow, hhigh⟩ := hvalid.1 hit hmem
  exact isFinite_of_mem_unitInterval hlow hhigh

theorem Evaluation.Request.carried_of_valid {request : Request}
    (hvalid : Request.contract.validate request = .ok ()) :
    Request.contract.shape.Carries request := by
  rw [Request.validate_eq_ok_iff] at hvalid
  obtain ⟨-, -, hlow, hhigh⟩ := hvalid
  exact Request.carried (isFinite_of_mem_unitInterval hlow hhigh)

theorem Evaluation.Response.carried_of_valid {response : Response}
    (hvalid : Response.contract.validate response = .ok ()) :
    Response.contract.shape.Carries response := by
  rw [Response.validate_eq_ok_iff] at hvalid
  apply Response.carried
  intro result hmem
  obtain ⟨hlow, hhigh⟩ := hvalid.1 result hmem
  exact isFinite_of_mem_unitInterval hlow hhigh

/-- Every contract carries the values that keep it. -/
theorem SomeContract.carries_of_valid :
    ∀ some ∈ all, ∀ value, some.contract.validate value = .ok () →
      some.contract.shape.Carries value := by
  simp only [all, List.forall_mem_cons, List.not_mem_nil, false_implies, implies_true, and_true]
  refine ⟨?_, ?_, ?_, ?_, ?_, ?_, ?_, ?_, ?_, ?_, ?_, ?_⟩
  · exact fun request _ => request.carried
  · exact fun response _ => response.carried
  · exact fun request _ => request.carried
  · exact fun response _ => response.carried
  · exact fun request _ => request.carried
  · exact fun _ hvalid => Retrieval.Response.carried_of_valid hvalid
  · exact fun _ hvalid => Evaluation.Request.carried_of_valid hvalid
  · exact fun _ hvalid => Evaluation.Response.carried_of_valid hvalid
  · exact fun request _ => request.carried
  · exact fun response _ => response.carried
  · exact fun request _ => request.carried
  · exact fun response _ => response.carried

/-! ## Accepting -/

/-- Whatever keeps one of the twelve contracts is accepted from the document that it is encoded as,
and so is whatever was accepted from any document at all. -/
theorem contracts_round_trip :
    ∀ some ∈ SomeContract.all,
      (∀ value, some.contract.validate value = .ok () →
        some.contract.accept (some.contract.encode value) = .ok value) ∧
      ∀ document value, some.contract.accept document = .ok value →
        some.contract.accept (some.contract.encode value) = .ok value := by
  intro some hmem
  have hround : ∀ value, some.contract.validate value = .ok () →
      some.contract.accept (some.contract.encode value) = .ok value := by
    intro value hvalid
    exact Contract.accept_encode (SomeContract.carries_of_valid some hmem value hvalid) hvalid
  refine ⟨hround, ?_⟩
  intro document value haccept
  exact hround value (Contract.accept_eq_ok_iff.1 haccept).2

/-! ## A document that is made regular -/

/-- The identifier of a memory in the document. -/
def kettle : MemoryId :=
  ⟨"kettle", by decide +kernel, by decide⟩

/-- The identifier of a space in the document. -/
def kitchen : SpaceId :=
  ⟨"kitchen", by decide +kernel, by decide⟩

/-- A request to write, with members out of order, white space around an identifier, a version that
is null and a nested payload. -/
def looseRequest : Json :=
  .object [("layer", .string "working"), ("expectedVersion", .null),
    ("payload", .object [("words", .array [.string "whistle", .null, .object []]),
      ("heat", .double ⟨0x8000000000000000⟩)]),
    ("memoryId", .string "\tkettle "), ("spaceId", .string "kitchen")]

/-- The request that the document stands for. -/
def kettleRequest : Storage.UpsertRequest where
  spaceId := kitchen
  memoryId := kettle
  layer := .working
  payload := .object [("words", .array [.string "whistle", .null, .object []]),
    ("heat", .double ⟨0x8000000000000000⟩)]
  expectedVersion := none

/-- The document is accepted as the request, and so is the one that the request is encoded as. -/
theorem kettleRequest_round_trip :
    Storage.UpsertRequest.contract.accept looseRequest = .ok kettleRequest ∧
      Storage.UpsertRequest.contract.validate kettleRequest = .ok () ∧
      Storage.UpsertRequest.contract.encode kettleRequest ≠ looseRequest ∧
      Storage.UpsertRequest.contract.accept
        (Storage.UpsertRequest.contract.encode kettleRequest) = .ok kettleRequest := by
  have haccept : Storage.UpsertRequest.contract.accept looseRequest = .ok kettleRequest := by
    decide +kernel
  refine ⟨haccept, rfl, by decide +kernel, ?_⟩
  exact (contracts_round_trip ⟨_, Storage.UpsertRequest.contract⟩ List.mem_cons_self).2
    looseRequest kettleRequest haccept

end Recollection
