import Mathlib.Data.List.Forall2
import Recollection.Proofs.Service.Contracts
import Recollection.Proofs.Service.Ranking
/-!
# Scores of candidates

An evaluation scores every candidate by the memory that is found for it: the one in the space that
is given, or else the one in the first space that has it. Its score is the share of the words of the
objective that the memory holds, which is the score of the hit that it would be for the same text.

What is selected reaches the minimum and nothing else does. Only a strict evaluation fails, and only
if there is nothing to select; then the fault tells by how much the best candidate falls short.
-/

set_option autoImplicit false

namespace Recollection.InMemory

open Retrieval (Hit)
open Evaluation (Result)

/-! ## The score of a candidate -/

/-- What a candidate scores. -/
inductive Scores (store : Store) (request : Evaluation.Request) (id : MemoryId) : Binary64 → Prop
  /-- Nothing, if no space that is looked into has it. -/
  | absent (hnone : ∀ spaceId, Store.LooksInto request.spaceId spaceId →
      store.get? ⟨spaceId, id⟩ = none) :
    Scores store request id .zero
  /-- Else the share of the words of the objective that are in its memory. -/
  | present {spaceId : SpaceId} {memory : StoredMemory}
    (hfound : store.FoundIn request.spaceId id spaceId memory) :
    Scores store request id
      (.share (Text.sharedWords request.objective memory.payload)
        (Text.wordSet request.objective).ncard)

/-- There is one result for every candidate, in their order, and it has the score of the
candidate. -/
def ScoresAll (store : Store) (request : Evaluation.Request) (results : List Result) : Prop :=
  List.Forall₂ (fun id result => result.memoryId = id ∧ Scores store request id result.score)
    request.candidateMemoryIds results

section Scores

variable {store : Store} {request : Evaluation.Request}

theorem candidateScore_of_live {asked : Option SpaceId} {id : MemoryId} {memory : StoredMemory}
    (hfind : store.find? asked id = some memory) (wanted : Terms) :
    candidateScore store asked wanted id = wanted.overlap memory.terms := by
  rw [candidateScore, hfind]

theorem candidateScore_of_none {asked : Option SpaceId} {id : MemoryId}
    (hfind : store.find? asked id = none) (wanted : Terms) :
    candidateScore store asked wanted id = .zero := by
  rw [candidateScore, hfind]

theorem scores_candidateScore (hcurrent : TermsCurrent store) (id : MemoryId) :
    Scores store request id
      (candidateScore store request.spaceId (.ofText request.objective) id) := by
  cases hfind : store.find? request.spaceId id with
  | none =>
    rw [candidateScore_of_none hfind]
    exact .absent ((store.find?_eq_none_iff _ _).1 hfind)
  | some memory =>
    obtain ⟨spaceId, hfound⟩ := (store.find?_eq_some_iff _ _ _).1 hfind
    rw [candidateScore_of_live hfind, overlap_eq_sharedWords hcurrent hfound.live]
    exact .present hfound

theorem scoresAll_results (hcurrent : TermsCurrent store) :
    ScoresAll store request (results store request) := by
  rw [ScoresAll, results, List.forall₂_map_right_iff, List.forall₂_same]
  exact fun id _ => ⟨rfl, scores_candidateScore hcurrent id⟩

end Scores

/-! ## Scores and hits -/

/-- A hit on a page that a query for a text in a space is answered with. -/
def OnPage (maxLimit : UInt32) (store : Store) (spaceId : SpaceId) (text : String) (hit : Hit) :
    Prop :=
  ∃ limit cursor page,
    query maxLimit store ⟨spaceId, text, limit, cursor⟩ = .ok page ∧ hit ∈ page.hits

section Pages

variable {maxLimit : UInt32} {store : Store} {spaceId : SpaceId} {text : String} {hit : Hit}

theorem isHit_of_onPage (hpage : OnPage maxLimit store spaceId text hit) :
    IsHit store spaceId text hit := by
  obtain ⟨limit, cursor, page, hanswered, hmem⟩ := hpage
  obtain ⟨offset, -, -, rfl⟩ := exists_cut_of_query hanswered
  exact (mem_allHits_iff _ _ _ _).1 ((hits_cut_sublist _ _ _ _).subset hmem)

/-- Every hit is on a page of its own. -/
theorem onPage_of_isHit (hvisible : Text.isBlankText text = false) (hlimit : 1 ≤ maxLimit)
    (hsize : store.size < UInt64.size) (hhit : IsHit store spaceId text hit) :
    OnPage maxLimit store spaceId text hit := by
  obtain ⟨position, hposition, rfl⟩ :=
    List.getElem_of_mem ((mem_allHits_iff store spaceId text hit).2 hhit)
  have haskable : Askable maxLimit text fun _ => 1 :=
    ⟨hvisible, fun _ => ⟨UInt32.le_refl 1, hlimit, by decide⟩⟩
  have hpoints := pointsAt_toString (Nat.le_of_lt hposition)
    (Nat.lt_of_le_of_lt (length_allHits_le store spaceId text) hsize)
  refine ⟨1, _, _, askPage_eq_cut haskable 0 hpoints, ?_⟩
  have hstop : min (position + (1 : UInt32).toNat) (allHits store spaceId text).length =
      position + 1 := Nat.min_eq_left hposition
  rw [hstop, cut, List.extract_eq_take_drop, Nat.add_sub_cancel_left,
    List.drop_eq_getElem_cons hposition]
  exact List.mem_cons_self

end Pages

/-- A result has the score that a retrieval for the same text gives its memory. -/
structure AsRetrieved (store : Store) (spaceId : SpaceId) (text : String) (result : Result) :
    Prop where
  /-- It has the score of its hit, on whatever page that is. -/
  found : ∀ maxLimit hit, OnPage maxLimit store spaceId text hit →
    hit.memoryId = result.memoryId → result.score = hit.score
  /-- Its score is zero if it is on no page. The number of memories is one that a machine word can
  hold, as all of them can be paged through. -/
  missed : ∀ maxLimit, 1 ≤ maxLimit → store.size < UInt64.size →
    (∀ hit, OnPage maxLimit store spaceId text hit → hit.memoryId ≠ result.memoryId) →
      result.score = .zero

/-- In a given space, the score of a candidate is the one of the hit that it is. -/
theorem asRetrieved {store : Store} {request : Evaluation.Request} {spaceId : SpaceId}
    (hspace : request.spaceId = some spaceId)
    (hvisible : Text.isBlankText request.objective = false) {result : Result}
    (hmem : result ∈ results store request) :
    AsRetrieved store spaceId request.objective result := by
  obtain ⟨id, -, rfl⟩ := List.mem_map.1 hmem
  have hfind : store.find? request.spaceId id = store.get? ⟨spaceId, id⟩ := by
    rw [hspace, Store.find?]
  constructor
  case found =>
    intro maxLimit hit hpage hsame
    obtain ⟨memory, hlive, hmade⟩ := isHit_of_onPage hpage
    obtain ⟨-, hhit⟩ := (hit?_eq_some_iff _ _ _ _).1 hmade
    rw [hsame] at hlive
    rw [hhit]
    exact candidateScore_of_live (hfind.trans hlive) _
  case missed =>
    intro maxLimit hlimit hsize hnone
    cases hlive : store.get? ⟨spaceId, id⟩ with
    | none => exact candidateScore_of_none (hfind.trans hlive) _
    | some memory =>
      have hle := SortedSet.sharedSize_le_size (Terms.ofText request.objective) memory.terms
      have hscore := candidateScore_of_live (hfind.trans hlive) (.ofText request.objective)
      rw [Terms.overlap_eq_share] at hscore
      refine hscore.trans ((Binary64.share_eq_zero_or_lt hle).resolve_right fun hpositive => ?_)
      -- a memory that scores is a hit, and every hit is on a page
      rw [← Terms.overlap_eq_share] at hpositive
      have hhit : IsHit store spaceId request.objective ⟨id, memory.layer, _⟩ :=
        ⟨memory, hlive, (hit?_eq_some_iff _ _ _ _).2 ⟨hpositive, rfl⟩⟩
      exact hnone _ (onPage_of_isHit hvisible hlimit hsize hhit) rfl

/-! ## Answers -/

/-- The best of some scores that all fall short of a minimum; without results there is none. -/
structure FallsShort (minimumScore : Binary64) (results : List Result) (best : Option Binary64) :
    Prop where
  /-- There is one exactly if there are results. -/
  absent_iff : best = none ↔ results = []
  /-- It is the score of a result. -/
  mem : ∀ score, best = some score → score ∈ results.map Result.score
  /-- It is the greatest. -/
  greatest : ∀ score, best = some score → ∀ result ∈ results, result.score.le score = true
  /-- It is strictly below the minimum. -/
  below : ∀ score, best = some score → score.lt minimumScore = true

/-- How a request is answered, given the results of its candidates. -/
structure AnswersScores (strict : Bool) (request : Evaluation.Request) (results : List Result)
    (answer : Except Evaluation.Fault Evaluation.Response) : Prop where
  /-- It fails exactly in strict mode and where no score reaches the minimum. -/
  failed_iff : (∃ fault, answer = .error fault) ↔
    strict = true ∧ ∀ result ∈ results, ¬ request.minimumScore.le result.score = true
  /-- The fault tells the best score. -/
  failed : ∀ fault, answer = .error fault → ∃ best,
    fault = .threshold ⟨request.objective, request.minimumScore, best⟩ ∧
      FallsShort request.minimumScore results best
  /-- Otherwise all results are given, and selected are the candidates that reach the minimum. -/
  selected : ∀ response, answer = .ok response → response.results = results ∧
    response.selectedMemoryIds.Sublist request.candidateMemoryIds ∧
      ∀ result ∈ results, result.memoryId ∈ response.selectedMemoryIds ↔
        request.minimumScore.le result.score = true

section Answer

variable {strict : Bool} {store : Store} {request : Evaluation.Request}
  (hvalid : Evaluation.Request.contract.validate request = .ok ())

include hvalid

/-- A request that keeps its contract fails as strict mode says, or is answered by selecting. -/
theorem evaluate_cases :
    (strict = true ∧
        (∀ result ∈ results store request, ¬ request.minimumScore.le result.score = true) ∧
      evaluate strict store request = .error (.threshold ⟨request.objective, request.minimumScore,
        (Evaluation.Response.select (results store request) request.minimumScore).bestScore?⟩)) ∨
    (¬ (strict = true ∧
        ∀ result ∈ results store request, ¬ request.minimumScore.le result.score = true) ∧
      evaluate strict store request =
        .ok (.select (results store request) request.minimumScore)) := by
  rw [← Evaluation.selectedMemoryIds_select_eq_nil_iff, ← List.isEmpty_iff, ← and_assoc,
    ← Bool.and_eq_true, evaluate, hvalid]
  by_cases hnone : (strict && (Evaluation.Response.select (results store request)
      request.minimumScore).selectedMemoryIds.isEmpty) = true
  · exact .inl ⟨hnone, if_pos hnone⟩
  · exact .inr ⟨hnone, if_neg hnone⟩

/-- Scores are numbers, so where none of them reaches the minimum the greatest is below it. -/
theorem fallsShort_bestScore?
    (hnone : ∀ result ∈ results store request, ¬ request.minimumScore.le result.score = true) :
    FallsShort request.minimumScore (results store request)
      (Evaluation.Response.select (results store request)
        request.minimumScore).bestScore? := by
  obtain ⟨-, -, hzero, hone⟩ := (Evaluation.Request.validate_eq_ok_iff request).1 hvalid
  have hminimum := Binary64.isNaN_eq_false_of_isFinite
    (Binary64.isFinite_of_mem_unitInterval hzero hone)
  have hnumber : ∀ result ∈ results store request, result.score.isNaN = false := by
    intro result hmem
    have hscore := score_mem_unitInterval hmem
    exact Binary64.isNaN_eq_false_of_isFinite
      (Binary64.isFinite_of_mem_unitInterval hscore.1 hscore.2)
  constructor
  case absent_iff => exact Evaluation.bestScore?_eq_none_iff _
  case mem => exact fun score hbest => (Evaluation.greatest_of_bestScore? hbest).1
  case greatest =>
    intro score hbest result hmem
    obtain ⟨hscore, hgreatest⟩ := Evaluation.greatest_of_bestScore? hbest
    obtain ⟨best, hbestMem, rfl⟩ := List.mem_map.1 hscore
    exact Binary64.le_of_totalLe (hnumber _ hmem) (hnumber _ hbestMem) (hgreatest _ hmem)
  case below =>
    intro score hbest
    obtain ⟨best, hmem, rfl⟩ := List.mem_map.1 (Evaluation.greatest_of_bestScore? hbest).1
    exact (Binary64.lt_iff_not_le (hnumber _ hmem) hminimum).2 (hnone _ hmem)

theorem answersScores_evaluate :
    AnswersScores strict request (results store request) (evaluate strict store request) := by
  have hids := memoryIds_results store request
  rcases @evaluate_cases strict store request hvalid with
    ⟨hstrict, hnone, hfailed⟩ | ⟨hnot, hselected⟩
  · constructor
    case failed_iff => exact iff_of_true ⟨_, hfailed⟩ ⟨hstrict, hnone⟩
    case failed =>
      intro fault hfault
      obtain rfl := Except.error.inj (hfailed.symm.trans hfault)
      exact ⟨_, rfl, fallsShort_bestScore? hvalid hnone⟩
    case selected =>
      intro response hresponse
      cases hfailed.symm.trans hresponse
  · constructor
    case failed_iff =>
      refine iff_of_false ?_ hnot
      rintro ⟨fault, hfault⟩
      cases hselected.symm.trans hfault
    case failed =>
      intro fault hfault
      cases hselected.symm.trans hfault
    case selected =>
      intro response hresponse
      obtain rfl := Except.ok.inj (hselected.symm.trans hresponse)
      have hnodup := ((Evaluation.Request.validate_eq_ok_iff request).1 hvalid).2.1
      rw [← hids] at hnodup ⊢
      exact ⟨rfl, Evaluation.selectedMemoryIds_select_sublist _ _,
        fun result hmem => Evaluation.memoryId_mem_filter_iff hnodup hmem⟩

end Answer

/-- In every state that can be reached, an evaluation has one result for every candidate, with the
share of the words of the objective that are in its memory; in a given space that is the score of
the hit that a retrieval for the objective makes of it. What reaches the minimum is selected, and
the evaluation fails only if it is strict and nothing does. -/
theorem evaluation_scores (settings : Settings) (clock : Clock) (moves : List Move) (strict : Bool)
    (timeOfDay : EpochMillis) {request : Evaluation.Request}
    (hvalid : Evaluation.Request.contract.validate request = .ok ()) :
    ∃ results, ScoresAll (systemAfter settings clock moves).state.store request results ∧
      (∀ spaceId, request.spaceId = some spaceId → ∀ result ∈ results,
        AsRetrieved (systemAfter settings clock moves).state.store spaceId request.objective
          result) ∧
      AnswersScores strict request results
        ((evaluation strict).evaluate timeOfDay request
          (systemAfter settings clock moves).state).1 := by
  have hcurrent := termsCurrent_of_follows (follows_schedule settings clock moves)
  have hvisible := ((Evaluation.Request.validate_eq_ok_iff request).1 hvalid).1
  exact ⟨_, scoresAll_results hcurrent, fun spaceId hspace result => asRetrieved hspace hvisible,
    answersScores_evaluate hvalid⟩

/-- A request for two memories that hold all words of an objective. -/
def heavyObjective : Evaluation.Request :=
  ⟨"Heavy, old!", [anvil, chisel], .one, some village⟩

/-- After the first batch of the small run, one of them holds half of the words and the other one is
not there, so a strict evaluation fails. -/
theorem heavyObjective_scored :
    Evaluation.Request.contract.validate heavyObjective = .ok () ∧
      ((evaluation true).evaluate 0 heavyObjective
          (systemAfter .deterministic .deterministic smithyIntake).state).1 =
        .error (.threshold ⟨"Heavy, old!", .one, some half⟩) ∧
      ∃ results,
        ScoresAll (systemAfter .deterministic .deterministic smithyIntake).state.store
          heavyObjective results ∧
        (∀ result ∈ results,
          AsRetrieved (systemAfter .deterministic .deterministic smithyIntake).state.store village
            "Heavy, old!" result) ∧
        FallsShort .one results (some half) := by
  have hvalid : Evaluation.Request.contract.validate heavyObjective = .ok () := by decide +kernel
  have hanswer : ((evaluation true).evaluate 0 heavyObjective
      (systemAfter .deterministic .deterministic smithyIntake).state).1 =
        .error (.threshold ⟨"Heavy, old!", .one, some half⟩) := by
    decide +kernel
  obtain ⟨results, hscores, hretrieved, hanswered⟩ :=
    evaluation_scores .deterministic .deterministic smithyIntake true 0 hvalid
  obtain ⟨best, hfault, hshort⟩ := hanswered.failed _ hanswer
  have hbest : some half = best :=
    congrArg Evaluation.Threshold.bestScore (Evaluation.Fault.threshold.inj hfault)
  rw [← hbest] at hshort
  exact ⟨hvalid, hanswer, results, hscores, hretrieved village rfl, hshort⟩

end Recollection.InMemory
