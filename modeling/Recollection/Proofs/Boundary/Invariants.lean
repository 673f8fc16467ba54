import Recollection.Boundary.Evaluation
import Recollection.Boundary.Policy
import Recollection.Boundary.Retrieval
import Recollection.Boundary.Storage
import Recollection.Proofs.Collection.SortedSet
import Recollection.Proofs.Contract.Check
/-!
# What contracts require

Every contract checks its requirements one after the other and reports the first that fails. Here
they are read as one proposition about the whole value, and so is what makes a response an answer to
its request.
-/

set_option autoImplicit false

namespace Recollection

/-! ## Requirements that contracts share -/

theorem requireScore_eq_ok_iff (path : Path) (score : Binary64) :
    requireScore path score = .ok () ↔ Binary64.zero.le score = true ∧ score.le .one = true := by
  unfold requireScore
  rw [← Bool.and_eq_true]
  split
  · rename_i hrange
    simp only [hrange]
  · rename_i hrange
    simp only [hrange, reduceCtorEq, Bool.false_eq_true]

theorem requireScores_eq_ok_iff (path : Path) (index : Nat) (scores : List Binary64) :
    requireScores path index scores = .ok () ↔
      ∀ score ∈ scores, Binary64.zero.le score = true ∧ score.le .one = true := by
  induction scores generalizing index with
  | nil => simp [requireScores]
  | cons score rest ih =>
    rw [requireScores, sequence_eq_ok_iff, requireScore_eq_ok_iff, ih, List.forall_mem_cons]

theorem requireDistinct_eq_ok_iff {α : Type} [DecidableEq α] (render : α → String) (path : Path)
    (items : List α) : requireDistinct render path items = .ok () ↔ items.Nodup := by
  rw [← firstRepeat?_eq_none_iff, requireDistinct]
  cases firstRepeat? items <;> simp

/-- A list with a repeat is reported at the first one. -/
theorem requireDistinct_eq_error_iff {α : Type} [DecidableEq α] (render : α → String) (path : Path)
    (items : List α) (mismatch : Mismatch) :
    requireDistinct render path items = .error mismatch ↔
      ∃ index item, IsFirstRepeat (items[·]?) index item ∧
        mismatch = ⟨path.item index, "an id not listed earlier",
          "repeated id " ++ render item⟩ := by
  simp only [← firstRepeat?_eq_some_iff, requireDistinct]
  rcases firstRepeat? items with _ | ⟨index, item⟩
  · simp
  · simp [eq_comm, and_assoc]

section Guard

variable {ε : Type} {fails : Prop} [Decidable fails] {fault : ε}

/-- A check that ends with a requirement. -/
theorem guard_eq_ok_iff :
    (if fails then Except.error fault else pure PUnit.unit) = Except.ok PUnit.unit ↔ ¬ fails := by
  split
  · rename_i hfails
    simp only [reduceCtorEq, hfails, not_true]
  · rename_i hholds
    simp only [hholds, not_false_eq_true, iff_true]
    rfl

theorem guard_eq_error_iff {cause : ε} :
    (if fails then Except.error fault else pure PUnit.unit) = Except.error cause ↔
      fails ∧ fault = cause := by
  split
  · rename_i hfails
    simp only [Except.error.injEq, hfails, true_and]
  · rename_i hholds
    simp only [hholds, false_and, iff_false]
    exact nofun

/-- A check that goes on after a requirement. -/
theorem guarded_eq_ok_iff {rest : Except ε Unit} :
    (if fails then (do Except.error fault; rest) else rest) = .ok () ↔
      ¬ fails ∧ rest = .ok () := by
  split
  · rename_i hfails
    simp [hfails, bind, Except.bind]
  · rename_i hholds
    simp only [hholds, not_false_eq_true, true_and]

end Guard

/-! ## Storage -/

namespace Storage

theorem UpsertResponse.validate_eq_ok_iff (response : UpsertResponse) :
    UpsertResponse.contract.validate response = .ok () ↔
      (response.accepted = true → response.version ≠ 0) := by
  rw [Contract.validate_eq_ok_iff]
  cases haccepted : response.accepted <;> simp [UpsertResponse.contract, haccepted]

theorem requireTarget_eq_ok_iff {spaceId requestedSpace : SpaceId}
    {memoryId requestedMemory : MemoryId} :
    requireTarget spaceId requestedSpace memoryId requestedMemory = .ok () ↔
      spaceId = requestedSpace ∧ memoryId = requestedMemory := by
  unfold requireTarget
  by_cases hspace : spaceId = requestedSpace
  · by_cases hmemory : memoryId = requestedMemory
    · simp [hspace, hmemory]
    · simp [hspace, hmemory]
  · simp [hspace]

theorem requireAdvance_eq_ok_iff {response : UpsertResponse} {expectedVersion : Option UInt64} :
    requireAdvance response expectedVersion = .ok () ↔
      (response.accepted = true → ∀ expected, expectedVersion = some expected →
        expected < response.version) := by
  unfold requireAdvance
  cases haccepted : response.accepted <;> cases expectedVersion <;> simp

theorem UpsertResponse.conformsTo_eq_ok_iff (response : UpsertResponse) (request : UpsertRequest) :
    response.conformsTo request = .ok () ↔
      (response.spaceId = request.spaceId ∧ response.memoryId = request.memoryId) ∧
        (response.accepted = true → ∀ expected, request.expectedVersion = some expected →
          expected < response.version) := by
  rw [UpsertResponse.conformsTo, mapError_eq_ok_iff, sequence_eq_ok_iff, requireTarget_eq_ok_iff,
    requireAdvance_eq_ok_iff]

theorem DeleteResponse.conformsTo_eq_ok_iff (response : DeleteResponse) (request : DeleteRequest) :
    response.conformsTo request = .ok () ↔
      response.spaceId = request.spaceId ∧ response.memoryId = request.memoryId := by
  rw [DeleteResponse.conformsTo, mapError_eq_ok_iff, requireTarget_eq_ok_iff]

end Storage

/-! ## Retrieval -/

namespace Retrieval

theorem Request.validate_eq_ok_iff (request : Request) :
    Request.contract.validate request = .ok () ↔
      Text.isBlankText request.query = false ∧ (1 ≤ request.limit ∧ request.limit ≤ maxLimit) ∧
        ∀ cursor, request.cursor = some cursor → Text.isBlankText cursor = false := by
  rw [Contract.validate_eq_ok_iff]
  simp only [Request.contract, sequence_eq_ok_iff, requireVisible_eq_ok_iff]
  rw [guarded_eq_ok_iff, not_or, UInt32.not_lt, UInt32.not_lt]
  cases request.cursor with
  | none => simp
  | some cursor => simp [requireVisible_eq_ok_iff]

theorem requireOrder_eq_ok_iff (path : Path) (index : Nat) (last : Hit) (hits : List Hit) :
    requireOrder path index last hits = .ok () ↔
      (last :: hits).IsChain fun first second => first.compare second ≠ .gt := by
  induction hits generalizing index last with
  | nil => simp [requireOrder]
  | cons hit rest ih =>
    rw [requireOrder, List.isChain_cons_cons]
    split
    · rename_i hgreater
      simp [hgreater]
    · rename_i hordered
      rw [ih]
      simp [hordered]

theorem requireRanked_eq_ok_iff (path : Path) (hits : List Hit) :
    requireRanked path hits = .ok () ↔
      hits.IsChain fun first second => first.compare second ≠ .gt := by
  cases hits with
  | nil => simp [requireRanked]
  | cons hit rest => rw [requireRanked, requireOrder_eq_ok_iff]

/-- A page keeps its contract when its scores are in range, its hits are of different memories and
in order, and there are no more of them than in total. -/
theorem Response.validate_eq_ok_iff (response : Response) :
    Response.contract.validate response = .ok () ↔
      (∀ hit ∈ response.hits, Binary64.zero.le hit.score = true ∧ hit.score.le .one = true) ∧
        (response.hits.map Hit.memoryId).Nodup ∧
        (response.hits.IsChain fun first second => first.compare second ≠ .gt) ∧
        response.hits.length ≤ response.totalHits.toNat := by
  rw [Contract.validate_eq_ok_iff]
  simp only [Response.contract, sequence_eq_ok_iff, requireScores_eq_ok_iff,
    requireDistinct_eq_ok_iff, requireRanked_eq_ok_iff, guard_eq_ok_iff, List.forall_mem_map,
    Nat.not_lt]

theorem Response.conformsTo_eq_ok_iff (response : Response) (request : Request) :
    response.conformsTo request = .ok () ↔
      response.spaceId = request.spaceId ∧ response.hits.length ≤ request.limit.toNat := by
  rw [Response.conformsTo, mapError_eq_ok_iff, guarded_eq_ok_iff, guard_eq_ok_iff,
    Decidable.not_not, Nat.not_lt]

end Retrieval

/-! ## Evaluation -/

namespace Evaluation

theorem requireAmong_eq_ok_iff (path : Path) (known : List MemoryId) (index : Nat)
    (ids : List MemoryId) :
    requireAmong path known index ids = .ok () ↔ ∀ id ∈ ids, id ∈ known := by
  induction ids generalizing index with
  | nil => simp [requireAmong]
  | cons id rest ih =>
    rw [requireAmong, List.forall_mem_cons]
    split
    · rename_i hknown
      rw [ih]
      simp only [hknown, true_and]
    · rename_i hunknown
      simp only [reduceCtorEq, hunknown, false_and]

theorem requireCandidates_eq_ok_iff (candidates : List MemoryId) (index : Nat)
    (results : List Result) :
    requireCandidates candidates index results = .ok () ↔
      ∀ result ∈ results, result.memoryId ∈ candidates := by
  induction results generalizing index with
  | nil => simp [requireCandidates]
  | cons result rest ih =>
    rw [requireCandidates, List.forall_mem_cons]
    split
    · rename_i hcandidate
      rw [ih]
      simp only [hcandidate, true_and]
    · rename_i hother
      simp only [reduceCtorEq, hother, false_and]

theorem Request.validate_eq_ok_iff (request : Request) :
    Request.contract.validate request = .ok () ↔
      Text.isBlankText request.objective = false ∧ request.candidateMemoryIds.Nodup ∧
        Binary64.zero.le request.minimumScore = true ∧ request.minimumScore.le .one = true := by
  rw [Contract.validate_eq_ok_iff]
  simp only [Request.contract, sequence_eq_ok_iff, requireVisible_eq_ok_iff,
    requireDistinct_eq_ok_iff, requireScore_eq_ok_iff]

/-- A response keeps its contract when its scores are in range, nothing is scored or selected twice,
and only what is scored is selected. -/
theorem Response.validate_eq_ok_iff (response : Response) :
    Response.contract.validate response = .ok () ↔
      (∀ result ∈ response.results,
          Binary64.zero.le result.score = true ∧ result.score.le .one = true) ∧
        (response.results.map Result.memoryId).Nodup ∧ response.selectedMemoryIds.Nodup ∧
        ∀ id ∈ response.selectedMemoryIds, id ∈ response.results.map Result.memoryId := by
  rw [Contract.validate_eq_ok_iff]
  simp only [Response.contract, sequence_eq_ok_iff, requireScores_eq_ok_iff,
    requireDistinct_eq_ok_iff, requireAmong_eq_ok_iff, List.forall_mem_map]

/-- A response answers a request when only candidates are scored, and selected are those that reach
the minimum. -/
theorem Response.conformsTo_eq_ok_iff (response : Response) (request : Request) :
    response.conformsTo request = .ok () ↔
      (∀ result ∈ response.results, result.memoryId ∈ request.candidateMemoryIds) ∧
        (SortedSet.ofList response.selectedMemoryIds).toList =
          (SortedSet.ofList ((response.results.filter
            (Result.reaches request.minimumScore)).map Result.memoryId)).toList := by
  rw [Response.conformsTo, mapError_eq_ok_iff, sequence_eq_ok_iff, requireCandidates_eq_ok_iff,
    guard_eq_ok_iff, Decidable.not_not]

end Evaluation

/-! ## Policy -/

namespace Policy

theorem requireCodes_eq_ok_iff (path : Path) (index : Nat) (codes : List String) :
    requireCodes path index codes = .ok () ↔ ∀ code ∈ codes, Text.isBlankText code = false := by
  induction codes generalizing index with
  | nil => simp [requireCodes]
  | cons code rest ih =>
    rw [requireCodes, sequence_eq_ok_iff, requireVisible_eq_ok_iff, ih, List.forall_mem_cons]

/-- A decision keeps its contract when there are reasons unless the action is allowed, and all of
them are visible. -/
theorem Response.validate_eq_ok_iff (response : Response) :
    Response.contract.validate response = .ok () ↔
      (response.decision = .allow ∨ response.reasonCodes ≠ []) ∧
        ∀ code ∈ response.reasonCodes, Text.isBlankText code = false := by
  rw [Contract.validate_eq_ok_iff]
  simp only [Response.contract]
  rw [guarded_eq_ok_iff, requireCodes_eq_ok_iff, Decidable.not_and_iff_not_or_not,
    Decidable.not_not]

end Policy

/-! ## Ingestion -/

namespace Ingestion

theorem requireNotAccepted_eq_ok_iff (path : Path) (accepted : List MemoryId) (index : Nat)
    (ids : List MemoryId) :
    requireNotAccepted path accepted index ids = .ok () ↔ ∀ id ∈ ids, id ∉ accepted := by
  induction ids generalizing index with
  | nil => exact iff_of_true rfl fun _ hmem => (List.not_mem_nil hmem).elim
  | cons id rest ih =>
    show (if id ∈ accepted then Except.error _ else
      requireNotAccepted path accepted (index + 1) rest) = .ok () ↔ _
    rw [List.forall_mem_cons]
    split
    · rename_i haccepted
      simp only [reduceCtorEq, haccepted, not_true, false_and]
    · rename_i hother
      rw [ih]
      simp only [hother, not_false_eq_true, true_and]

/-- A response keeps its contract when no record is listed twice, in one list or in both. -/
theorem Response.validate_eq_ok_iff (response : Response) :
    Response.contract.validate response = .ok () ↔
      response.acceptedRecordIds.Nodup ∧ response.duplicateRecordIds.Nodup ∧
        ∀ id ∈ response.duplicateRecordIds, id ∉ response.acceptedRecordIds := by
  rw [Contract.validate_eq_ok_iff]
  simp only [Response.contract, sequence_eq_ok_iff, requireDistinct_eq_ok_iff,
    requireNotAccepted_eq_ok_iff]

/-- A response answers a batch when its two lists hold the records of the batch and no others. -/
theorem Response.conformsTo_eq_ok_iff (response : Response) (request : Request) :
    response.conformsTo request = .ok () ↔
      ∀ id, id ∈ response.acceptedRecordIds ++ response.duplicateRecordIds ↔
        id ∈ request.recordIds := by
  have hsubsets (ids others : List MemoryId) :
      (SortedSet.ofList ids).difference (.ofList others) = [] ↔ ∀ id ∈ ids, id ∈ others := by
    rw [SortedSet.difference_eq_nil_iff, SortedSet.elements_ofList, SortedSet.elements_ofList]
    rfl
  rw [Response.conformsTo, mapError_eq_ok_iff]
  simp only [iff_def, forall_and]
  rw [← hsubsets, ← hsubsets]
  split
  · rename_i id rest hunsubmitted
    simp [hunsubmitted]
  · rename_i hsubmitted
    split
    · rename_i id rest hunclassified
      simp [hunclassified]
    · rename_i hclassified
      simp [hsubmitted, hclassified]

end Ingestion

end Recollection
