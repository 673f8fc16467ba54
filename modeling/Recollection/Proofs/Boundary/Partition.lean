import Recollection.Proofs.Boundary.Invariants
import Recollection.Proofs.Service.Transcript
/-!
# Batches and their classification

A response classifies a batch if every submitted record is in one of its two lists, once, and no
other record is. Its contract keeps records from being listed twice, what makes it an answer keeps
the lists from holding too little or too much, and only together do they say that the lists are a
permutation of the batch.

A response that is no answer is rejected for the least record that was not submitted, and for the
least one that is not classified only if all that is classified was submitted.
-/

set_option autoImplicit false

namespace Recollection.Ingestion

open SortedSet (IsLeastOf)

/-- The records that are classified. -/
def Response.classified (response : Response) : List MemoryId :=
  response.acceptedRecordIds ++ response.duplicateRecordIds

/-- The records that are classified and were not submitted. -/
def Response.unsubmitted (response : Response) (request : Request) : Set MemoryId :=
  {id | id ∈ response.classified} \ {id | id ∈ request.recordIds}

/-- The records that were submitted and are not classified. -/
def Response.unclassified (response : Response) (request : Request) : Set MemoryId :=
  {id | id ∈ request.recordIds} \ {id | id ∈ response.classified}

/-- The rejection of a response that classifies a record which was not submitted. -/
def unsubmittedRejection (id : MemoryId) : Rejection :=
  ⟨"IngestionResponse", "response does not conform to its request",
    "at $: expected only submitted record ids, found unsubmitted id " ++ id.text⟩

/-- The rejection of a response that does not classify a record which was submitted. -/
def unclassifiedRejection (id : MemoryId) : Rejection :=
  ⟨"IngestionResponse", "response does not conform to its request",
    "at $: expected every submitted record id classified, found unclassified id " ++ id.text⟩

/-- What a response is rejected for concerns the whole of it. -/
theorem pairingRejection_root (expected naming : String) (id : MemoryId) :
    Response.contract.pairingRejection ⟨.root, expected, naming ++ id.text⟩ =
      ⟨"IngestionResponse", "response does not conform to its request",
        "at $: expected " ++ expected ++ ", found " ++ naming ++ id.text⟩ := by
  rw [Contract.pairingRejection, Mismatch.message_eq, ← String.append_assoc]
  rfl

variable {request : Request} {response : Response}

/-- The lists of a response that keeps its contract hold no record twice. -/
theorem nodup_classified (hresponse : Response.contract.validate response = .ok ()) :
    response.classified.Nodup := by
  obtain ⟨haccepted, hduplicate, hdisjoint⟩ := (Response.validate_eq_ok_iff response).1 hresponse
  refine List.nodup_append.2 ⟨haccepted, hduplicate, ?_⟩
  rintro id hmem _ hother rfl
  exact hdisjoint id hother hmem

/-- Between lists without repeats, to hold the same records is to be a permutation. -/
theorem conformsTo_eq_ok_iff_perm (hrequest : Request.contract.validate request = .ok ())
    (hresponse : Response.contract.validate response = .ok ()) :
    response.conformsTo request = .ok () ↔ response.classified.Perm request.recordIds := by
  have hsubmitted := ((Request.validate_eq_ok_iff request).1 hrequest).2.2
  rw [Response.conformsTo_eq_ok_iff,
    List.perm_ext_iff_of_nodup (nodup_classified hresponse) hsubmitted]
  rfl

/-- What is rejected is rejected for the least record that is at fault, and a record that was not
submitted comes before every one that is not classified. -/
theorem conformsTo_eq_error_iff (response : Response) (request : Request) (rejection : Rejection) :
    response.conformsTo request = .error rejection ↔
      (∃ id, IsLeastOf id (response.unsubmitted request) ∧ rejection = unsubmittedRejection id) ∨
        response.unsubmitted request = ∅ ∧
          ∃ id, IsLeastOf id (response.unclassified request) ∧
            rejection = unclassifiedRejection id := by
  have hdifference (ids others : List MemoryId) (id : MemoryId) :
      IsLeastOf id ({id | id ∈ ids} \ {id | id ∈ others}) ↔
        ((SortedSet.ofList ids).difference (.ofList others)).head? = some id := by
    rw [SortedSet.head?_difference_eq_some_iff, SortedSet.elements_ofList,
      SortedSet.elements_ofList]
  have hempty (ids others : List MemoryId) :
      ({id | id ∈ ids} \ {id | id ∈ others} : Set MemoryId) = ∅ ↔
        (SortedSet.ofList ids).difference (.ofList others) = [] := by
    rw [SortedSet.difference_eq_nil_iff, SortedSet.elements_ofList, SortedSet.elements_ofList,
      Set.sdiff_eq_empty]
  -- The check branches on the differences of sorted sets, so both sides are told by these.
  rw [Response.conformsTo, mapError_eq_error_iff]
  simp only [Response.unsubmitted, Response.unclassified, hdifference, hempty,
    Response.classified]
  split
  · rename_i id rest hunsubmitted
    have hrejection : Response.contract.pairingRejection
        ⟨.root, "only submitted record ids", "unsubmitted id " ++ id.text⟩ =
          unsubmittedRejection id := pairingRejection_root _ _ id
    simp [hunsubmitted, hrejection, eq_comm]
  · rename_i hsubmitted
    split
    · rename_i id rest hunclassified
      have hrejection : Response.contract.pairingRejection
          ⟨.root, "every submitted record id classified", "unclassified id " ++ id.text⟩ =
            unclassifiedRejection id := pairingRejection_root _ _ id
      simp [hsubmitted, hunclassified, hrejection, eq_comm]
    · rename_i hclassified
      simp [hsubmitted, hclassified]

/-- A response to a batch, each keeping its contract, is an answer exactly when its two lists
together are a permutation of the batch. One that is no answer is rejected with the least record
that was not submitted, if there is one, and else with the least one that is not classified. -/
theorem conforms_iff_partition (hrequest : Request.contract.validate request = .ok ())
    (hresponse : Response.contract.validate response = .ok ()) :
    (response.conformsTo request = .ok () ↔
      (response.acceptedRecordIds ++ response.duplicateRecordIds).Perm request.recordIds) ∧
    ∀ rejection, response.conformsTo request = .error rejection ↔
      (∃ id, IsLeastOf id (response.unsubmitted request) ∧ rejection = unsubmittedRejection id) ∨
        response.unsubmitted request = ∅ ∧
          ∃ id, IsLeastOf id (response.unclassified request) ∧
            rejection = unclassifiedRejection id := by
  refine ⟨conformsTo_eq_ok_iff_perm hrequest hresponse, ?_⟩
  exact conformsTo_eq_error_iff response request

open InMemory (anvil bellows chisel firstBatch)

/-- The first batch of the small run is answered by a response that calls one of its records new and
the other one a duplicate. It is not by one with a record of another batch, which is named, although
a record of the batch is missing too, and not by one with too few, where the missing one is. -/
theorem firstBatch_classified :
    Request.contract.validate firstBatch = .ok () ∧
      Response.contract.validate ⟨[bellows], [anvil], 0⟩ = .ok () ∧
      Response.conformsTo ⟨[bellows], [anvil], 0⟩ firstBatch = .ok () ∧
      Response.contract.validate ⟨[chisel], [bellows], 0⟩ = .ok () ∧
      Response.conformsTo ⟨[chisel], [bellows], 0⟩ firstBatch = .error ⟨"IngestionResponse",
        "response does not conform to its request",
        "at $: expected only submitted record ids, found unsubmitted id chisel"⟩ ∧
      Response.contract.validate ⟨[bellows], [], 0⟩ = .ok () ∧
      Response.conformsTo ⟨[bellows], [], 0⟩ firstBatch = .error ⟨"IngestionResponse",
        "response does not conform to its request",
        "at $: expected every submitted record id classified, found unclassified id anvil"⟩ := by
  have hrequest : Request.contract.validate firstBatch = .ok () := by decide +kernel
  have hanswer : Response.contract.validate ⟨[bellows], [anvil], 0⟩ = .ok () := by decide +kernel
  have hother : Response.contract.validate ⟨[chisel], [bellows], 0⟩ = .ok () := by decide +kernel
  have hshort : Response.contract.validate ⟨[bellows], [], 0⟩ = .ok () := by decide +kernel
  refine ⟨hrequest, hanswer, ?_, hother, ?_, hshort, ?_⟩
  · exact (conforms_iff_partition hrequest hanswer).1.2 (List.Perm.swap _ _ _)
  · refine ((conforms_iff_partition hrequest hother).2 _).2 (.inl ⟨chisel, ⟨?_, ?_⟩, rfl⟩)
    · exact ⟨List.mem_cons_self, by decide⟩
    · rintro id ⟨hclassified, hsubmitted⟩
      rcases List.mem_pair.1 hclassified with rfl | rfl
      · rw [Std.compare_self]
        rfl
      · exact absurd (List.mem_cons_of_mem _ List.mem_cons_self) hsubmitted
  · refine ((conforms_iff_partition hrequest hshort).2 _).2 (.inr ⟨?_, anvil, ⟨?_, ?_⟩, rfl⟩)
    · refine Set.sdiff_eq_empty.2 fun id hclassified => ?_
      obtain rfl := List.mem_singleton.1 hclassified
      exact List.mem_cons_of_mem _ List.mem_cons_self
    · exact ⟨List.mem_cons_self, by decide⟩
    · rintro id ⟨hsubmitted, hclassified⟩
      rcases List.mem_pair.1 hsubmitted with rfl | rfl
      · rw [Std.compare_self]
        rfl
      · exact absurd List.mem_cons_self hclassified

end Recollection.Ingestion
