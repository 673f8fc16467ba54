import Recollection.Proofs.Boundary.Language
import Recollection.Proofs.Service.Transcript
/-!
# Scores and what they select

A response to a request for scores is an answer if it scores candidates only and if, of everything
it scores, it selects what reaches the minimum and nothing else. Answers are compared as sets of
identifiers, while a result is more than its identifier; the contract makes up the difference,
because it lets no candidate be scored twice and nothing be selected without a score.

The response that is made by selecting is such an answer, and it keeps the order of the results. Its
best score is the greatest of them.
-/

set_option autoImplicit false

namespace Recollection.Evaluation

/-- Among results of different candidates, one is told by its candidate. -/
theorem memoryId_mem_filter_iff {results : List Result} {reaches : Result → Bool}
    (hnodup : (results.map Result.memoryId).Nodup) {result : Result} (hmem : result ∈ results) :
    result.memoryId ∈ (results.filter reaches).map Result.memoryId ↔ reaches result = true := by
  constructor
  · intro hselected
    obtain ⟨other, hother, hsame⟩ := List.mem_map.1 hselected
    obtain ⟨hscored, hreaches⟩ := List.mem_filter.1 hother
    obtain rfl := List.inj_on_of_nodup_map hnodup hscored hmem hsame
    exact hreaches
  · intro hreaches
    exact List.mem_map_of_mem (List.mem_filter.2 ⟨hmem, hreaches⟩)

/-! ## Responses to a request -/

/-- A response that keeps its contract is an answer when it scores candidates and, result by result,
selects those that reach the minimum. -/
theorem conformsTo_eq_ok_iff_selects {response : Response}
    (hresponse : Response.contract.validate response = .ok ()) (request : Request) :
    response.conformsTo request = .ok () ↔
      (∀ result ∈ response.results, result.memoryId ∈ request.candidateMemoryIds) ∧
        ∀ result ∈ response.results, result.memoryId ∈ response.selectedMemoryIds ↔
          request.minimumScore.le result.score = true := by
  obtain ⟨-, hnodup, -, hscored⟩ := (Response.validate_eq_ok_iff response).1 hresponse
  rw [Response.conformsTo_eq_ok_iff, SortedSet.toList_ofList_eq_iff]
  refine and_congr_right fun _ => ⟨?_, ?_⟩
  · intro hsame result hmem
    rw [hsame, memoryId_mem_filter_iff hnodup hmem]
    rfl
  · intro hselects id
    constructor
    · intro hselected
      -- Nothing is selected without a score, so what is selected has a result.
      obtain ⟨result, hmem, rfl⟩ := List.mem_map.1 (hscored id hselected)
      exact (memoryId_mem_filter_iff hnodup hmem).2 ((hselects result hmem).1 hselected)
    · intro hreaching
      obtain ⟨result, hresult, rfl⟩ := List.mem_map.1 hreaching
      obtain ⟨hmem, hreaches⟩ := List.mem_filter.1 hresult
      exact (hselects result hmem).2 hreaches

/-- What an answer selects are candidates. -/
theorem selected_subset_of_conforms {response : Response} {request : Request}
    (hresponse : Response.contract.validate response = .ok ())
    (hconforms : response.conformsTo request = .ok ()) :
    response.selectedMemoryIds ⊆ request.candidateMemoryIds := by
  intro id hselected
  obtain ⟨result, hmem, rfl⟩ :=
    List.mem_map.1 (((Response.validate_eq_ok_iff response).1 hresponse).2.2.2 id hselected)
  exact ((Response.conformsTo_eq_ok_iff response request).1 hconforms).1 result hmem

/-! ## Responses that are made by selecting -/

theorem selectedMemoryIds_select_sublist (results : List Result) (minimumScore : Binary64) :
    (Response.select results minimumScore).selectedMemoryIds.Sublist
      (results.map Result.memoryId) :=
  List.filter_sublist.map _

/-- Scores in range that are of different candidates make a response that keeps its contract,
whatever the minimum. -/
theorem validate_select {results : List Result} (minimumScore : Binary64)
    (hscores : ∀ result ∈ results, InUnitInterval result.score)
    (hnodup : (results.map Result.memoryId).Nodup) :
    Response.contract.validate (.select results minimumScore) = .ok () := by
  have hselected := selectedMemoryIds_select_sublist results minimumScore
  rw [Response.validate_eq_ok_iff]
  exact ⟨hscores, hnodup, hnodup.sublist hselected, hselected.subset⟩

theorem conformsTo_select {results : List Result} {request : Request}
    (hcandidates : ∀ result ∈ results, result.memoryId ∈ request.candidateMemoryIds) :
    (Response.select results request.minimumScore).conformsTo request = .ok () := by
  rw [Response.conformsTo_eq_ok_iff]
  exact ⟨hcandidates, rfl⟩

/-- Nothing is selected exactly if no result reaches the minimum. -/
theorem selectedMemoryIds_select_eq_nil_iff (results : List Result) (minimumScore : Binary64) :
    (Response.select results minimumScore).selectedMemoryIds = [] ↔
      ∀ result ∈ results, ¬ minimumScore.le result.score = true := by
  rw [Response.select, List.map_eq_nil_iff, List.filter_eq_nil_iff]
  rfl

/-! ## The best score -/

/-- The greatest of some scores in the total order is one of them, and no other is above it. -/
theorem foldl_laterGreatest (score : Binary64) (rest : List Binary64) :
    rest.foldl laterGreatest score ∈ score :: rest ∧
      ∀ other ∈ score :: rest, other.totalLe (rest.foldl laterGreatest score) = true := by
  induction rest generalizing score with
  | nil => simpa using Binary64.totalLe_refl score
  | cons next rest ih =>
    obtain ⟨hmem, hgreatest⟩ := ih (laterGreatest score next)
    rw [List.forall_mem_cons] at hgreatest
    obtain ⟨hstart, hrest⟩ := hgreatest
    have hchosen : laterGreatest score next ∈ [score, next] ∧
        score.totalLe (laterGreatest score next) = true ∧
          next.totalLe (laterGreatest score next) = true := by
      unfold laterGreatest
      split
      · rename_i hle
        exact ⟨by simp, hle, Binary64.totalLe_refl next⟩
      · rename_i hnot
        have htotal := Binary64.totalLe_total score next
        rw [Bool.eq_false_iff.2 hnot, Bool.false_or] at htotal
        exact ⟨by simp, Binary64.totalLe_refl score, htotal⟩
    rw [List.foldl_cons]
    refine ⟨?_, ?_⟩
    · rcases List.mem_cons.1 hmem with heq | hmem
      · rw [heq]
        exact List.mem_append_left rest hchosen.1
      · exact List.mem_cons_of_mem _ (List.mem_cons_of_mem _ hmem)
    · rw [List.forall_mem_cons, List.forall_mem_cons]
      exact ⟨Binary64.totalLe_trans hchosen.2.1 hstart, Binary64.totalLe_trans hchosen.2.2 hstart,
        hrest⟩

theorem bestScore?_eq_none_iff (response : Response) :
    response.bestScore? = none ↔ response.results = [] := by
  rw [Response.bestScore?]
  cases response.results <;> simp

/-- The best score is that of a result, and no other is above it. -/
theorem greatest_of_bestScore? {response : Response} {best : Binary64}
    (hbest : response.bestScore? = some best) :
    best ∈ response.results.map Result.score ∧
      ∀ result ∈ response.results, result.score.totalLe best = true := by
  rw [Response.bestScore?] at hbest
  cases hscores : response.results.map Result.score with
  | nil =>
    rw [hscores] at hbest
    cases hbest
  | cons score rest =>
    rw [hscores] at hbest
    obtain rfl := Option.some.inj hbest
    obtain ⟨hmem, hgreatest⟩ := foldl_laterGreatest score rest
    rw [← hscores] at hgreatest
    exact ⟨hmem, List.forall_mem_map.1 hgreatest⟩

/-! ## Selecting is the answer -/

/-- A response that keeps its contract is an answer to a request exactly when everything it scores
is a candidate, and is selected exactly if its score reaches the minimum; then what it selects are
candidates, each of them once. And whatever results there are of different candidates, with scores
in range, selecting among them by a minimum keeps the contract, answers every request that has these
candidates and this minimum, and lists what reaches it in the order of the results. -/
theorem conforms_iff_selection {response : Response}
    (hresponse : Response.contract.validate response = .ok ()) (request : Request) :
    (response.conformsTo request = .ok () ↔
      (∀ result ∈ response.results, result.memoryId ∈ request.candidateMemoryIds) ∧
        ∀ result ∈ response.results, result.memoryId ∈ response.selectedMemoryIds ↔
          request.minimumScore.le result.score = true) ∧
    (response.conformsTo request = .ok () →
      response.selectedMemoryIds.Nodup ∧
        response.selectedMemoryIds ⊆ request.candidateMemoryIds) ∧
    ∀ (results : List Result) (minimumScore : Binary64),
      (∀ result ∈ results, InUnitInterval result.score) →
      (results.map Result.memoryId).Nodup →
        (Response.select results minimumScore).results = results ∧
        Response.contract.validate (.select results minimumScore) = .ok () ∧
        (∀ asked : Request, asked.minimumScore = minimumScore →
          (∀ result ∈ results, result.memoryId ∈ asked.candidateMemoryIds) →
            (Response.select results minimumScore).conformsTo asked = .ok ()) ∧
        (Response.select results minimumScore).selectedMemoryIds.Sublist
          (results.map Result.memoryId) ∧
        ∀ result ∈ results,
          result.memoryId ∈ (Response.select results minimumScore).selectedMemoryIds ↔
            minimumScore.le result.score = true := by
  refine ⟨conformsTo_eq_ok_iff_selects hresponse request, ?answer, ?select⟩
  case answer =>
    intro hconforms
    have hnodup := ((Response.validate_eq_ok_iff response).1 hresponse).2.2.1
    exact ⟨hnodup, selected_subset_of_conforms hresponse hconforms⟩
  case select =>
    intro results minimumScore hscores hnodup
    refine ⟨rfl, validate_select minimumScore hscores hnodup, ?_,
      selectedMemoryIds_select_sublist results minimumScore,
      fun _ => memoryId_mem_filter_iff hnodup⟩
    rintro asked rfl hcandidates
    exact conformsTo_select hcandidates

open InMemory (anvil bellows chisel half)

/-- A request for the scores of three memories, of which those of at least one half are selected. -/
def threeCandidates : Request :=
  ⟨"forge", [anvil, bellows, chisel], half, none⟩

/-- The scores of three memories, with some that are selected. -/
def threeScores (selectedMemoryIds : List MemoryId) : Response :=
  ⟨[⟨anvil, .one⟩, ⟨bellows, half⟩, ⟨chisel, .zero⟩], selectedMemoryIds⟩

/-- Of scores of one, one half and zero, the first two are selected, in either order; the first one
alone is no answer, and selecting them is one. -/
theorem threeScores_selected :
    Response.contract.validate (threeScores [bellows, anvil]) = .ok () ∧
      (threeScores [bellows, anvil]).conformsTo threeCandidates = .ok () ∧
      Response.contract.validate (threeScores [anvil]) = .ok () ∧
      (threeScores [anvil]).conformsTo threeCandidates ≠ .ok () ∧
      (Response.select (threeScores []).results half).conformsTo threeCandidates = .ok () := by
  have hboth : Response.contract.validate (threeScores [bellows, anvil]) = .ok () := by
    decide +kernel
  have hone : Response.contract.validate (threeScores [anvil]) = .ok () := by
    decide +kernel
  have hscores : ∀ result ∈ (threeScores []).results, InUnitInterval result.score := by
    unfold InUnitInterval
    decide +kernel
  have hselect := (conforms_iff_selection hboth threeCandidates).2.2 _ half hscores (by decide)
  refine ⟨hboth, ?_, hone, ?_, hselect.2.2.1 threeCandidates rfl (by decide)⟩
  · refine (conforms_iff_selection hboth threeCandidates).1.2 ?_
    decide +kernel
  · intro hconforms
    have hselects := ((conforms_iff_selection hone threeCandidates).1.1 hconforms).2
    revert hselects
    decide +kernel

end Recollection.Evaluation
