import Recollection.Proofs.Service.Transcript
/-!
# Calls without effect

A call that fails, whatever the reason, leaves the state exactly as it was: no memory is written, no
place gets a version, and no idempotency key gets an entry in the ledger. So does a removal that
finds nothing to remove.

For a batch this rests on the order of things: the entry of its key is opened before the records are
classified, but a record can only diverge from one that was accepted, so the entry was there.
-/

set_option autoImplicit false

namespace Recollection.InMemory

/-- Whether a turn says that nothing was done: the call failed, or there was nothing to remove. -/
def Turn.withoutEffect : Turn → Bool
  | .upsert _ _ answer => !answer.isOk
  | .delete _ (.ok response) => !response.deleted
  | .delete _ (.error _) => true
  | .query _ answer => !answer.isOk
  | .evaluate _ answer => !answer.isOk
  | .decide _ answer => !answer.isOk
  | .ingest _ _ answer => !answer.isOk

variable {settings : Settings} {clock : Clock}

theorem upsert_of_failed {timeOfDay : EpochMillis} {request : Storage.UpsertRequest} {state : State}
    (hfailed : (upsert clock timeOfDay request state).1.isOk = false) :
    (upsert clock timeOfDay request state).2 = state := by
  rcases upsert_cases clock timeOfDay request state with ⟨_, _, hupsert⟩ | ⟨_, hupsert⟩
  · rw [hupsert]
  · rw [hupsert] at hfailed
    cases hfailed

theorem delete_of_nothing_deleted (timeOfDay : EpochMillis) {request : Storage.DeleteRequest}
    {state : State} (habsent : (state.store.remove request.key).1 = false) :
    (delete timeOfDay request state).2 = state := by
  rw [delete_eq, Store.remove_of_not_live habsent]

theorem ingest_of_failed {timeOfDay : EpochMillis} {request : Ingestion.Request} {state : State}
    (hfailed : (ingest clock timeOfDay request state).1.isOk = false) :
    (ingest clock timeOfDay request state).2 = state := by
  rcases ingest_cases clock timeOfDay request state with
    ⟨_, _, hingest⟩ | ⟨_, _, hingest⟩ | ⟨_, _, hingest⟩
  · rw [hingest]
  · rw [hingest]
  · rw [hingest] at hfailed
    cases hfailed

/-- A call that fails or finds nothing to remove leaves the state as it was: the same places with
the same versions and memories, and the same entries in the ledger. -/
theorem state_unchanged_of_withoutEffect {call : Invocation} {state : State}
    (hwithout : (perform settings clock call state).1.withoutEffect = true) :
    (perform settings clock call state).2 = state := by
  obtain ⟨timeOfDay, command⟩ := call
  cases command with
  | upsert request => exact upsert_of_failed ((Bool.not_eq_true' _).mp hwithout)
  | delete request =>
    exact delete_of_nothing_deleted timeOfDay ((Bool.not_eq_true' _).mp hwithout)
  | query request => rfl
  | evaluate request => rfl
  | decide request => rfl
  | ingest request => exact ingest_of_failed ((Bool.not_eq_true' _).mp hwithout)

/-- A batch with a new, a duplicate and a changed record: the new one is not stored either. -/
theorem changedBatch_without_effect :
    (perform .deterministic .deterministic ⟨0, .ingest changedBatch⟩
        (stateAfter .deterministic .deterministic
          [⟨0, .ingest firstBatch⟩])).1.withoutEffect = true ∧
      (perform .deterministic .deterministic ⟨0, .ingest changedBatch⟩
        (stateAfter .deterministic .deterministic [⟨0, .ingest firstBatch⟩])).2 =
          stateAfter .deterministic .deterministic [⟨0, .ingest firstBatch⟩] :=
  have hwithout : (perform .deterministic .deterministic ⟨0, .ingest changedBatch⟩
      (stateAfter .deterministic .deterministic
        [⟨0, .ingest firstBatch⟩])).1.withoutEffect = true := by
    decide +kernel
  ⟨hwithout, state_unchanged_of_withoutEffect hwithout⟩

end Recollection.InMemory
