import Recollection.Service.Basic
import Recollection.Service.InMemory.State
/-!
# Evaluation in memory

The score of a candidate is the share of the words of the objective that its memory holds, and zero
if there is no such memory. A strict evaluation fails if no candidate is selected.
-/

set_option autoImplicit false

namespace Recollection.InMemory

/-- The score of a candidate. -/
def candidateScore (store : Store) (spaceId : Option SpaceId) (wanted : Terms) (id : MemoryId) :
    Binary64 :=
  match store.find? spaceId id with
  | some memory => wanted.overlap memory.terms
  | none => .zero

/-- The result of every candidate, in the order of the request. -/
def results (store : Store) (request : Evaluation.Request) : List Evaluation.Result :=
  let wanted := Terms.ofText request.objective
  request.candidateMemoryIds.map fun id =>
    ⟨id, candidateScore store request.spaceId wanted id⟩

/-- Scores and selects candidates from a store. -/
def evaluate (strict : Bool) (store : Store) (request : Evaluation.Request) :
    Except Evaluation.Fault Evaluation.Response := do
  (Evaluation.Request.contract.validate request).mapError .rejected
  let response := Evaluation.Response.select (results store request) request.minimumScore
  if strict && response.selectedMemoryIds.isEmpty then
    .error (.threshold ⟨request.objective, request.minimumScore, response.bestScore?⟩)
  return response

/-- Evaluation over the shared store. -/
def evaluation (strict : Bool) : EvaluationService State where
  evaluate _ request state := (evaluate strict state.store request, state)

end Recollection.InMemory
