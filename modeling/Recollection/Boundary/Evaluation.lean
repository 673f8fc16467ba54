import Recollection.Collection.SortedSet
import Recollection.Contract.Basic
import Recollection.Identity.Identifier
/-!
# The evaluation boundary

Candidate memories are scored against an objective, and those that reach a minimum are selected. A
response answers a request if it scores candidates only and selects exactly the results that reach
the minimum.
-/

set_option autoImplicit false

namespace Recollection.Evaluation

/-- Score some candidates. -/
structure Request where
  /-- What the candidates are judged against. -/
  objective : String
  /-- The memories to score. -/
  candidateMemoryIds : List MemoryId
  /-- The least score that is selected. -/
  minimumScore : Binary64
  /-- The space the candidates live in, if the caller knows it. -/
  spaceId : Option SpaceId
deriving DecidableEq

/-- The score of one candidate. -/
structure Result where
  /-- The candidate. -/
  memoryId : MemoryId
  /-- Its score. -/
  score : Binary64
deriving DecidableEq

/-- The scores, and the candidates that were selected. -/
structure Response where
  /-- The result of every candidate that was scored. -/
  results : List Result
  /-- The candidates that reach the minimum. -/
  selectedMemoryIds : List MemoryId
deriving DecidableEq

/-! ## Selection -/

/-- Whether a result reaches a minimum. -/
def Result.reaches (minimumScore : Binary64) (result : Result) : Bool :=
  minimumScore.le result.score

/-- The response that selects every result that reaches a minimum, in the order of the results. -/
def Response.select (results : List Result) (minimumScore : Binary64) : Response :=
  ⟨results, (results.filter (Result.reaches minimumScore)).map Result.memoryId⟩

/-- The greater of two numbers in the total order, the second one if they are equal. -/
def laterGreatest (a b : Binary64) : Binary64 :=
  if a.totalLe b then b else a

/-- The greatest score among the results. -/
def Response.bestScore? (response : Response) : Option Binary64 :=
  match response.results.map Result.score with
  | [] => none
  | score :: rest => some (rest.foldl laterGreatest score)

/-! ## Contracts -/

/-- The contract of requests: the objective is visible, no candidate is listed twice, and the
minimum is in range. -/
def Request.contract : Contract Request where
  name := "EvaluationRequest"
  shape := .record
    (.required "objective" (.leaf .text) <|
      .required "candidateMemoryIds" (.list (.leaf (Identifier.leaf .memory))) <|
      .required "minimumScore" (.leaf .number) <|
      .optional "spaceId" .omitted (.leaf (Identifier.leaf .space)) .done)
    (fun (objective, candidateMemoryIds, minimumScore, spaceId, ()) =>
      ⟨objective, candidateMemoryIds, minimumScore, spaceId⟩)
    (fun request => (request.objective, request.candidateMemoryIds, request.minimumScore,
      request.spaceId, ()))
  check request := do
    requireVisible (Path.root.member "objective") request.objective
    requireDistinct Identifier.text (Path.root.member "candidateMemoryIds")
      request.candidateMemoryIds
    requireScore (Path.root.member "minimumScore") request.minimumScore

/-- The shape of a result. -/
def Result.shape : Shape Result :=
  .record
    (.required "memoryId" (.leaf (Identifier.leaf .memory)) <|
      .required "score" (.leaf .number) .done)
    (fun (memoryId, score, ()) => ⟨memoryId, score⟩)
    (fun result => (result.memoryId, result.score, ()))

/-- Every identifier of a list, from `index` on, is among some identifiers. -/
def requireAmong (path : Path) (known : List MemoryId) :
    Nat → List MemoryId → Except Mismatch Unit
  | _, [] => .ok ()
  | index, id :: rest =>
    if id ∈ known then requireAmong path known (index + 1) rest
    else .error ⟨path.item index, "an id that has a result", id.text⟩

/-- The contract of responses: scores are in range, no candidate is scored or selected twice, and
what is selected was scored. -/
def Response.contract : Contract Response where
  name := "EvaluationResponse"
  shape := .record
    (.required "results" (.list Result.shape) <|
      .required "selectedMemoryIds" (.list (.leaf (Identifier.leaf .memory))) .done)
    (fun (results, selectedMemoryIds, ()) => ⟨results, selectedMemoryIds⟩)
    (fun response => (response.results, response.selectedMemoryIds, ()))
  check response := do
    let results := Path.root.member "results"
    let selected := Path.root.member "selectedMemoryIds"
    let scored := response.results.map Result.memoryId
    requireScores results 0 (response.results.map Result.score)
    requireDistinct Identifier.text results scored
    requireDistinct Identifier.text selected response.selectedMemoryIds
    requireAmong selected scored 0 response.selectedMemoryIds

/-! ## Answers to requests -/

/-- Every result, from `index` on, is about a candidate. -/
def requireCandidates (candidates : List MemoryId) : Nat → List Result → Except Mismatch Unit
  | _, [] => .ok ()
  | index, result :: rest =>
    if result.memoryId ∈ candidates then requireCandidates candidates (index + 1) rest
    else .error ⟨((Path.root.member "results").item index).member "memoryId",
      "one of the candidate memory ids", result.memoryId.text⟩

/-- A set of identifiers between brackets. -/
def renderSet (ids : SortedSet MemoryId) : String :=
  "[" ++ ", ".intercalate (ids.toList.map Identifier.text) ++ "]"

/-- Whether a response answers a request. -/
def Response.conformsTo (response : Response) (request : Request) : Except Rejection Unit :=
  Except.mapError Response.contract.pairingRejection do
    requireCandidates request.candidateMemoryIds 0 response.results
    let expected := SortedSet.ofList
      ((response.results.filter (Result.reaches request.minimumScore)).map Result.memoryId)
    let selected := SortedSet.ofList response.selectedMemoryIds
    if selected.toList ≠ expected.toList then
      .error ⟨Path.root.member "selectedMemoryIds",
        "exactly the results scoring at least " ++ request.minimumScore.render .plain ++ ": " ++
          renderSet expected,
        renderSet selected⟩

end Recollection.Evaluation
