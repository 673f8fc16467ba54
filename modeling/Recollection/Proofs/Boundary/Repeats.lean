import Recollection.Proofs.Boundary.Language
import Recollection.Proofs.Boundary.Listing
import Recollection.Proofs.Service.Transcript
/-!
# The lists without repeats

Seven lists in the values of five contracts name no memory twice: the hits of a page, the candidates
of a request for scores, the results and the selection of its response, the records of a batch, and
the two lists that classify them. Each of them is searched in one way, and for each it is said here
what its contract requires before and after that.
-/

set_option autoImplicit false

namespace Recollection

open Listing

/-! ## Pages -/

namespace Retrieval

theorem onlyExpects_requireOrder (path : Path) (index : Nat) (last : Hit) (hits : List Hit) :
    OnlyExpects "hits ordered by descending score, then ascending memory id"
      (requireOrder path index last hits) := by
  induction hits generalizing index last with
  | nil => exact .ok
  | cons hit rest ih =>
    unfold requireOrder
    split
    · exact .error _ _
    · exact ih (index + 1) hit

theorem onlyExpects_requireRanked (path : Path) (hits : List Hit) :
    OnlyExpects "hits ordered by descending score, then ascending memory id"
      (requireRanked path hits) := by
  cases hits with
  | nil => exact .ok
  | cons hit rest => exact onlyExpects_requireOrder path 1 hit rest

theorem Hit.names_shape : Hit.shape.Names [.member "memoryId"] Hit.memoryId :=
  Shape.names_record (fun _ => rfl) (fun _ => rfl) fun hit => by simp [Members.rules]

/-- The memories that are found on a page. -/
def Response.hitListing : Listing Response where
  contract := Response.contract
  name := "hits"
  ids response := response.hits.map Hit.memoryId
  idPlace := [.member "memoryId"]
  reportPlace := []
  expected := "an id not listed earlier"
  Before response := ∀ hit ∈ response.hits, InUnitInterval hit.score
  After response :=
    (response.hits.Pairwise fun first second => first.notAfter second = true) ∧
      response.hits.length ≤ response.totalHits.toNat

theorem Response.isGuarded_hitListing : hitListing.IsGuarded := by
  refine isGuarded ?accepts ?reports ?texts
  case accepts =>
    intro response
    rw [hitListing, Response.validate_eq_ok_iff, isChain_iff_pairwise_notAfter]
    rfl
  case reports =>
    intro response
    have hscores : hitListing.Misses (requireScores (Path.root.member "hits") 0
        (response.hits.map Hit.score)) :=
      misses_of_onlyExpects (onlyExpects_requireScores _ _ _) (by decide)
    have hrepeats : hitListing.ReportsFirst response True (requireDistinct Identifier.text
        (Path.root.member "hits") (response.hits.map Hit.memoryId)) :=
      reportsFirst_requireDistinct _ _ rfl rfl
    have hranked : hitListing.Misses (requireRanked (Path.root.member "hits") response.hits) :=
      misses_of_onlyExpects (onlyExpects_requireRanked _ _) (by decide)
    refine ReportsFirst.congr ((hrepeats.andThen (hranked.sequence ?total)).after hscores
      (requireScores_eq_ok_iff _ _ _)) ?before
    case total =>
      intro index text hfails
      obtain ⟨-, hsame⟩ := guard_eq_error_iff.1 hfails
      simp [Listing.mismatch, Path.member, Path.root] at hsame
    case before =>
      rw [and_true, List.forall_mem_map]
      rfl
  case texts =>
    intro document value hdecode
    exact trimmedAt_eq rfl (fun _ => rfl) (fun _ => rfl) Hit.names_shape (fun _ => rfl)
      (fun response => by simp [Members.rules, hitListing]) hdecode

end Retrieval

/-! ## Scores -/

namespace Evaluation

theorem onlyExpects_requireAmong (path : Path) (known : List MemoryId) (index : Nat)
    (ids : List MemoryId) :
    OnlyExpects "an id that has a result" (requireAmong path known index ids) := by
  induction ids generalizing index with
  | nil => exact .ok
  | cons id rest ih =>
    unfold requireAmong
    split
    · exact ih (index + 1)
    · exact .error _ _

theorem Result.names_shape : Result.shape.Names [.member "memoryId"] Result.memoryId :=
  Shape.names_record (fun _ => rfl) (fun _ => rfl) fun result => by simp [Members.rules]

/-- The memories that are to be scored. -/
def Request.candidateListing : Listing Request where
  contract := Request.contract
  name := "candidateMemoryIds"
  ids := Request.candidateMemoryIds
  idPlace := []
  reportPlace := []
  expected := "an id not listed earlier"
  Before request := IsVisible request.objective
  After request := InUnitInterval request.minimumScore

theorem Request.isGuarded_candidateListing : candidateListing.IsGuarded := by
  refine isGuarded ?accepts ?reports ?texts
  case accepts =>
    exact fun request => Request.validate_eq_ok_iff request
  case reports =>
    intro request
    have hobjective : candidateListing.Misses
        (requireVisible (Path.root.member "objective") request.objective) :=
      misses_of_onlyExpects (onlyExpects_requireVisible _ _) (by decide)
    have hrepeats : candidateListing.ReportsFirst request True (requireDistinct Identifier.text
        (Path.root.member "candidateMemoryIds") request.candidateMemoryIds) :=
      reportsFirst_requireDistinct _ _ rfl rfl
    have hminimum : candidateListing.Misses
        (requireScore (Path.root.member "minimumScore") request.minimumScore) :=
      misses_of_onlyExpects (onlyExpects_requireScore _ _) (by decide)
    refine ReportsFirst.congr ((hrepeats.andThen hminimum).after hobjective
      (requireVisible_eq_ok_iff _ _)) ?_
    rw [and_true]
    rfl
  case texts =>
    intro document value hdecode
    exact trimmedAt_eq_of_ids rfl (fun _ => rfl) (fun _ => rfl) rfl
      (fun request => by simp [Members.rules, candidateListing]) hdecode

/-- The memories that have a result. -/
def Response.resultListing : Listing Response where
  contract := Response.contract
  name := "results"
  ids response := response.results.map Result.memoryId
  idPlace := [.member "memoryId"]
  reportPlace := []
  expected := "an id not listed earlier"
  Before response := ∀ result ∈ response.results, InUnitInterval result.score
  After response := response.selectedMemoryIds.Nodup ∧
    ∀ id ∈ response.selectedMemoryIds, id ∈ response.results.map Result.memoryId

theorem Response.isGuarded_resultListing : resultListing.IsGuarded := by
  refine isGuarded ?accepts ?reports ?texts
  case accepts =>
    exact fun response => Response.validate_eq_ok_iff response
  case reports =>
    intro response
    have hscores : resultListing.Misses (requireScores (Path.root.member "results") 0
        (response.results.map Result.score)) :=
      misses_of_onlyExpects (onlyExpects_requireScores _ _ _) (by decide)
    have hrepeats : resultListing.ReportsFirst response True (requireDistinct Identifier.text
        (Path.root.member "results") (response.results.map Result.memoryId)) :=
      reportsFirst_requireDistinct _ _ rfl rfl
    have hselected : resultListing.Misses (requireDistinct Identifier.text
        (Path.root.member "selectedMemoryIds") response.selectedMemoryIds) :=
      misses_requireDistinct (by decide) _
    have hamong : resultListing.Misses (requireAmong (Path.root.member "selectedMemoryIds")
        (response.results.map Result.memoryId) 0 response.selectedMemoryIds) :=
      misses_of_onlyExpects (onlyExpects_requireAmong _ _ _ _) (by decide)
    refine ReportsFirst.congr ((hrepeats.andThen (hselected.sequence hamong)).after hscores
      (requireScores_eq_ok_iff _ _ _)) ?_
    rw [and_true, List.forall_mem_map]
    rfl
  case texts =>
    intro document value hdecode
    exact trimmedAt_eq rfl (fun _ => rfl) (fun _ => rfl) Result.names_shape (fun _ => rfl)
      (fun response => by simp [Members.rules, resultListing]) hdecode

/-- The memories that are selected. -/
def Response.selectionListing : Listing Response where
  contract := Response.contract
  name := "selectedMemoryIds"
  ids := Response.selectedMemoryIds
  idPlace := []
  reportPlace := []
  expected := "an id not listed earlier"
  Before response := (∀ result ∈ response.results, InUnitInterval result.score) ∧
    (response.results.map Result.memoryId).Nodup
  After response := ∀ id ∈ response.selectedMemoryIds, id ∈ response.results.map Result.memoryId

theorem Response.isGuarded_selectionListing : selectionListing.IsGuarded := by
  refine isGuarded ?accepts ?reports ?texts
  case accepts =>
    intro response
    exact (Response.validate_eq_ok_iff response).trans and_assoc.symm
  case reports =>
    intro response
    have hscores : selectionListing.Misses (requireScores (Path.root.member "results") 0
        (response.results.map Result.score)) :=
      misses_of_onlyExpects (onlyExpects_requireScores _ _ _) (by decide)
    have hresults : selectionListing.Misses (requireDistinct Identifier.text
        (Path.root.member "results") (response.results.map Result.memoryId)) :=
      misses_requireDistinct (by decide) _
    have hrepeats : selectionListing.ReportsFirst response True (requireDistinct Identifier.text
        (Path.root.member "selectedMemoryIds") response.selectedMemoryIds) :=
      reportsFirst_requireDistinct _ _ rfl rfl
    have hamong : selectionListing.Misses (requireAmong (Path.root.member "selectedMemoryIds")
        (response.results.map Result.memoryId) 0 response.selectedMemoryIds) :=
      misses_of_onlyExpects (onlyExpects_requireAmong _ _ _ _) (by decide)
    refine ReportsFirst.congr (((hrepeats.andThen hamong).after hresults
      (requireDistinct_eq_ok_iff _ _ _)).after hscores (requireScores_eq_ok_iff _ _ _)) ?_
    rw [and_true, List.forall_mem_map]
    rfl
  case texts =>
    intro document value hdecode
    exact trimmedAt_eq_of_ids rfl (fun _ => rfl) (fun _ => rfl) rfl
      (fun response => by simp [Members.rules, selectionListing]) hdecode

end Evaluation

/-! ## Batches -/

namespace Ingestion

theorem onlyExpects_requireNotAccepted (path : Path) (accepted : List MemoryId) (index : Nat)
    (ids : List MemoryId) :
    OnlyExpects "an id not also accepted" (requireNotAccepted path accepted index ids) := by
  induction ids generalizing index with
  | nil => exact .ok
  | cons id rest ih =>
    show OnlyExpects _ (if id ∈ accepted then Except.error _ else
      requireNotAccepted path accepted (index + 1) rest)
    split
    · exact .error _ _
    · exact ih (index + 1)

theorem Record.names_shape : Record.shape.Names [.member "recordId"] Record.recordId :=
  Shape.names_record (fun _ => rfl) (fun _ => rfl) fun record => by simp [Members.rules]

/-- The records of a batch. -/
def Request.recordListing : Listing Request where
  contract := Request.contract
  name := "records"
  ids := Request.recordIds
  idPlace := [.member "recordId"]
  reportPlace := [.member "recordId"]
  expected := "a record id not used earlier in the batch"
  Before request := IsVisible request.source ∧ IsVisible request.idempotencyKey
  After _ := True

theorem Request.isGuarded_recordListing : recordListing.IsGuarded := by
  refine isGuarded ?accepts ?reports ?texts
  case accepts =>
    intro request
    rw [recordListing, Request.validate_eq_ok_iff, and_true, and_assoc]
    rfl
  case reports =>
    intro request
    have hsource : recordListing.Misses
        (requireVisible (Path.root.member "source") request.source) :=
      misses_of_onlyExpects (onlyExpects_requireVisible _ _) (by decide)
    have hkey : recordListing.Misses
        (requireVisible (Path.root.member "idempotencyKey") request.idempotencyKey) :=
      misses_of_onlyExpects (onlyExpects_requireVisible _ _) (by decide)
    have hrepeats : recordListing.ReportsFirst request True (requireDistinctRecords request) :=
      reportsFirst_of_search (requireDistinctRecords_eq_error_iff request)
    refine ReportsFirst.congr ((hrepeats.after hkey (requireVisible_eq_ok_iff _ _)).after hsource
      (requireVisible_eq_ok_iff _ _)) ?_
    rw [and_true]
    rfl
  case texts =>
    intro document value hdecode
    exact trimmedAt_eq rfl (fun _ => rfl) (fun _ => rfl) Record.names_shape (fun _ => rfl)
      (fun request => by simp [Members.rules, recordListing]) hdecode

/-- The records that are accepted. -/
def Response.acceptedListing : Listing Response where
  contract := Response.contract
  name := "acceptedRecordIds"
  ids := Response.acceptedRecordIds
  idPlace := []
  reportPlace := []
  expected := "an id not listed earlier"
  Before _ := True
  After response := response.duplicateRecordIds.Nodup ∧
    ∀ id ∈ response.duplicateRecordIds, id ∉ response.acceptedRecordIds

theorem Response.isGuarded_acceptedListing : acceptedListing.IsGuarded := by
  refine isGuarded ?accepts ?reports ?texts
  case accepts =>
    intro response
    exact (Response.validate_eq_ok_iff response).trans (iff_of_eq (true_and _)).symm
  case reports =>
    intro response
    have hrepeats : acceptedListing.ReportsFirst response True (requireDistinct Identifier.text
        (Path.root.member "acceptedRecordIds") response.acceptedRecordIds) :=
      reportsFirst_requireDistinct _ _ rfl rfl
    have hduplicates : acceptedListing.Misses (requireDistinct Identifier.text
        (Path.root.member "duplicateRecordIds") response.duplicateRecordIds) :=
      misses_requireDistinct (by decide) _
    have hdisjoint : acceptedListing.Misses (requireNotAccepted
        (Path.root.member "duplicateRecordIds") response.acceptedRecordIds 0
        response.duplicateRecordIds) :=
      misses_of_onlyExpects (onlyExpects_requireNotAccepted _ _ _ _) (by decide)
    exact hrepeats.andThen (hduplicates.sequence hdisjoint)
  case texts =>
    intro document value hdecode
    exact trimmedAt_eq_of_ids rfl (fun _ => rfl) (fun _ => rfl) rfl
      (fun response => by simp [Members.rules, acceptedListing]) hdecode

/-- The records that are duplicates. -/
def Response.duplicateListing : Listing Response where
  contract := Response.contract
  name := "duplicateRecordIds"
  ids := Response.duplicateRecordIds
  idPlace := []
  reportPlace := []
  expected := "an id not listed earlier"
  Before response := response.acceptedRecordIds.Nodup
  After response := ∀ id ∈ response.duplicateRecordIds, id ∉ response.acceptedRecordIds

theorem Response.isGuarded_duplicateListing : duplicateListing.IsGuarded := by
  refine isGuarded ?accepts ?reports ?texts
  case accepts =>
    exact fun response => Response.validate_eq_ok_iff response
  case reports =>
    intro response
    have haccepted : duplicateListing.Misses (requireDistinct Identifier.text
        (Path.root.member "acceptedRecordIds") response.acceptedRecordIds) :=
      misses_requireDistinct (by decide) _
    have hrepeats : duplicateListing.ReportsFirst response True (requireDistinct Identifier.text
        (Path.root.member "duplicateRecordIds") response.duplicateRecordIds) :=
      reportsFirst_requireDistinct _ _ rfl rfl
    have hdisjoint : duplicateListing.Misses (requireNotAccepted
        (Path.root.member "duplicateRecordIds") response.acceptedRecordIds 0
        response.duplicateRecordIds) :=
      misses_of_onlyExpects (onlyExpects_requireNotAccepted _ _ _ _) (by decide)
    refine ReportsFirst.congr ((hrepeats.andThen hdisjoint).after haccepted
      (requireDistinct_eq_ok_iff _ _ _)) ?_
    rw [and_true]
    rfl
  case texts =>
    intro document value hdecode
    exact trimmedAt_eq_of_ids rfl (fun _ => rfl) (fun _ => rfl) rfl
      (fun response => by simp [Members.rules, duplicateListing]) hdecode

end Ingestion

/-! ## Every repeat is located -/

/-- Of a list the search finds the element at the least index that repeats an earlier one, and it
finds nothing exactly if the elements are pairwise distinct. Looking at the elements one by one and
putting each into an ordered set leads to the same element, and up to it the set holds just what was
looked at. The check for distinct elements passes the lists without repeats and reports the first
repeat of any other; and so do the contracts for each of their lists of memories, whose identifiers
are trimmed in documents. -/
theorem repeats_located {α : Type} [DecidableEq α] [Ord α] [Std.TransOrd α] [Std.LawfulEqOrd α]
    (items : List α) :
    (∀ index item, firstRepeat? items = some (index, item) ↔
      IsFirstRepeat (items[·]?) index item) ∧
    (firstRepeat? items = none ↔ items.Nodup) ∧
    (searchRepeatFrom 0 items).run .empty =
      ((firstRepeat? items).map Prod.swap,
        SortedSet.ofList (items.take ((firstRepeat? items).elim items.length (·.1 + 1)))) ∧
    (∀ (render : α → String) (path : Path),
      (requireDistinct render path items = .ok () ↔ items.Nodup) ∧
      ∀ mismatch, requireDistinct render path items = .error mismatch ↔
        ∃ index item, IsFirstRepeat (items[·]?) index item ∧
          mismatch = ⟨path.item index, "an id not listed earlier",
            "repeated id " ++ render item⟩) ∧
    Retrieval.Response.hitListing.IsGuarded ∧
    Evaluation.Request.candidateListing.IsGuarded ∧
    Evaluation.Response.resultListing.IsGuarded ∧
    Evaluation.Response.selectionListing.IsGuarded ∧
    Ingestion.Request.recordListing.IsGuarded ∧
    Ingestion.Response.acceptedListing.IsGuarded ∧
    Ingestion.Response.duplicateListing.IsGuarded := by
  refine ⟨firstRepeat?_eq_some_iff items, firstRepeat?_eq_none_iff items,
    run_searchRepeatFrom items, ?distinct, Retrieval.Response.isGuarded_hitListing,
    Evaluation.Request.isGuarded_candidateListing, Evaluation.Response.isGuarded_resultListing,
    Evaluation.Response.isGuarded_selectionListing, Ingestion.Request.isGuarded_recordListing,
    Ingestion.Response.isGuarded_acceptedListing, Ingestion.Response.isGuarded_duplicateListing⟩
  case distinct =>
    intro render path
    refine ⟨requireDistinct_eq_ok_iff render path items, ?_⟩
    exact requireDistinct_eq_error_iff render path items

open InMemory (anvil bellows batchOf)

/-- A batch whose third record has the identifier of the first one, with white space around it. -/
def paddedBatch : Json :=
  .object [("source", .string "smithy"), ("idempotencyKey", .string "delivery"),
    ("occurredAtMillis", .integer 0), ("records", .array
      (["anvil", "bellows", " anvil\t", "bellows"].map fun id =>
        .object [("recordId", .string id), ("spaceId", .string "village"),
          ("layer", .string "episodic"), ("payload", .string "old")]))]

/-- The third record is the first repeat, although its text is not that of the first record. -/
theorem paddedBatch_rejected :
    firstRepeat? ["a", "b", "a", "b"] = some (2, "a") ∧
      firstRepeat? ["anvil", "bellows", " anvil\t"] = none ∧
      Ingestion.Request.contract.accept paddedBatch = .error ⟨"IngestionRequest",
        "payload violates a contract invariant",
        "at $.records[2].recordId: expected a record id not used earlier in the batch, " ++
          "found repeated id anvil"⟩ := by
  obtain ⟨hfound, -⟩ := repeats_located ["a", "b", "a", "b"]
  obtain ⟨-, hnone, -, -, -, -, -, -, hrecords, -⟩ :=
    repeats_located ["anvil", "bellows", " anvil\t"]
  refine ⟨(hfound 2 "a").2 ⟨by decide, by decide, by decide⟩, hnone.2 (by decide), ?_⟩
  have hdecode : Ingestion.Request.contract.decode paddedBatch = .ok (batchOf
      [(anvil, "old"), (bellows, "old"), (anvil, "old"), (bellows, "old")]) := by
    decide +kernel
  have hvisible : IsVisible "smithy" ∧ IsVisible "delivery" := by
    unfold IsVisible
    decide +kernel
  have hfirst : IsFirstRepeat (Ingestion.Request.recordListing.trimmedAt paddedBatch) 2 "anvil" :=
    ⟨by decide +kernel, by decide +kernel, by decide +kernel⟩
  refine (hrecords.rejectsDocument _ _ hdecode hvisible 2 "anvil" hfirst).trans ?_
  decide +kernel

end Recollection
