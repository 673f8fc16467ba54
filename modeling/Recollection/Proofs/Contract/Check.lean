import Recollection.Boundary.Ingestion
import Recollection.Proofs.Collection.Repeat
/-!
# Checks in sequence

A contract checks one requirement after the other and stops at the first that fails, so a value
passes exactly when it meets every requirement. What a batch must meet is read off here.
-/

set_option autoImplicit false

namespace Recollection

section Except

variable {ε φ α β : Type}

/-- A computation in two steps succeeds exactly when both of them do. -/
theorem bind_eq_ok_iff {work : Except ε α} {next : α → Except ε β} {result : β} :
    (work >>= next) = .ok result ↔ ∃ value, work = .ok value ∧ next value = .ok result := by
  cases work with
  | error fault => simp [bind, Except.bind]
  | ok value => simp [bind, Except.bind]

/-- Two checks pass in sequence exactly when both of them do. -/
theorem sequence_eq_ok_iff {first second : Except ε Unit} :
    (do first; second) = .ok () ↔ first = .ok () ∧ second = .ok () := by
  cases first with
  | error fault => simp [bind, Except.bind]
  | ok _ => simp [bind, Except.bind]

/-- Two checks in sequence fail as the first of them that does. -/
theorem sequence_eq_error_iff {first second : Except ε Unit} {fault : ε} :
    (do first; second) = .error fault ↔
      first = .error fault ∨ first = .ok () ∧ second = .error fault := by
  cases first with
  | error cause => simp [bind, Except.bind]
  | ok _ => simp [bind, Except.bind]

/-- Renaming the faults of a computation keeps its success. -/
theorem mapError_eq_ok_iff {rename : ε → φ} {work : Except ε α} {result : α} :
    work.mapError rename = .ok result ↔ work = .ok result := by
  cases work with
  | error fault =>
    show Except.error (rename fault) = .ok result ↔ Except.error fault = .ok result
    simp only [reduceCtorEq]
  | ok value =>
    show Except.ok value = .ok result ↔ Except.ok value = .ok result
    simp only [Except.ok.injEq]

theorem mapError_eq_error_iff {rename : ε → φ} {work : Except ε α} {fault : φ} :
    work.mapError rename = .error fault ↔ ∃ cause, work = .error cause ∧ rename cause = fault := by
  cases work with
  | error cause =>
    show Except.error (rename cause) = .error fault ↔ _
    simp only [Except.error.injEq, exists_eq_left']
  | ok value =>
    show Except.ok value = .error fault ↔ _
    simp only [reduceCtorEq, false_and, exists_false]

end Except

/-- A value is accepted exactly when its check passes. -/
theorem Contract.validate_eq_ok_iff {α : Type} (contract : Contract α) (value : α) :
    contract.validate value = .ok () ↔ contract.check value = .ok () :=
  mapError_eq_ok_iff

/-- A document is accepted as a value when it has the shape and the value keeps the invariants. -/
theorem Contract.accept_eq_ok_iff {α : Type} {contract : Contract α} {document : Json} {value : α} :
    contract.accept document = .ok value ↔
      contract.decode document = .ok value ∧ contract.validate value = .ok () := by
  unfold accept
  cases hdecode : contract.decode document with
  | error mismatch =>
    show Except.error _ = .ok value ↔ _
    simp only [reduceCtorEq, false_and]
  | ok decoded =>
    show (contract.validate decoded).bind (fun _ => .ok decoded) = .ok value ↔ _
    cases hvalid : contract.validate decoded with
    | error rejection =>
      simp only [Except.bind, reduceCtorEq, Except.ok.injEq, false_iff, not_and]
      rintro rfl
      rw [hvalid]
      simp
    | ok _ =>
      simp only [Except.bind, Except.ok.injEq, iff_self_and]
      rintro rfl
      exact hvalid

/-- A document that has the shape is rejected for what the check of its value reports. -/
theorem Contract.accept_eq_error_of_check {α : Type} {contract : Contract α} {document : Json}
    {value : α} {mismatch : Mismatch} (hdecode : contract.decode document = .ok value)
    (hcheck : contract.check value = .error mismatch) :
    contract.accept document = .error (contract.invariantRejection mismatch) := by
  unfold accept
  rw [hdecode]
  show (contract.validate value).bind (fun _ => .ok value) = _
  rw [validate, hcheck]
  rfl

theorem requireVisible_eq_ok_iff (path : Path) (text : String) :
    requireVisible path text = .ok () ↔ Text.isBlankText text = false := by
  unfold requireVisible
  cases Text.isBlankText text <;> simp

namespace Ingestion

theorem requireDistinctRecords_eq_ok_iff (request : Request) :
    requireDistinctRecords request = .ok () ↔ request.recordIds.Nodup := by
  rw [← firstRepeat?_eq_none_iff, requireDistinctRecords]
  cases firstRepeat? request.recordIds <;> simp

/-- A batch with a repeat is reported at the record of the first one. -/
theorem requireDistinctRecords_eq_error_iff (request : Request) (mismatch : Mismatch) :
    requireDistinctRecords request = .error mismatch ↔
      ∃ index id, IsFirstRepeat (request.recordIds[·]?) index id ∧
        mismatch = ⟨((Path.root.member "records").item index).member "recordId",
          "a record id not used earlier in the batch", "repeated id " ++ id.text⟩ := by
  simp only [← firstRepeat?_eq_some_iff, requireDistinctRecords]
  rcases firstRepeat? request.recordIds with _ | ⟨index, id⟩
  · simp
  · simp [eq_comm, and_assoc]

/-- A batch keeps its contract when source and key are visible and no record occurs twice. -/
theorem Request.validate_eq_ok_iff (request : Request) :
    Request.contract.validate request = .ok () ↔
      Text.isBlankText request.source = false ∧
        Text.isBlankText request.idempotencyKey = false ∧ request.recordIds.Nodup := by
  rw [Contract.validate_eq_ok_iff]
  simp only [Request.contract, sequence_eq_ok_iff, requireVisible_eq_ok_iff,
    requireDistinctRecords_eq_ok_iff]

end Ingestion

end Recollection
