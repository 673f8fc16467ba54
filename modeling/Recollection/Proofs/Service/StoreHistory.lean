import Recollection.Proofs.Contract.Check
import Recollection.Proofs.Memory.History
import Recollection.Proofs.Service.Transcript
/-!
# The store and the transcript

A transcript tells what was done to the store: accepted upserts and accepted records are writes, and
deletions are removals. The store after a run is what this history makes of it, so that every
version is the number of writes before it and itself, and nothing but a write uses one up.
-/

set_option autoImplicit false

namespace Recollection

/-- The write that a request asks for. -/
def Storage.UpsertRequest.write (request : Storage.UpsertRequest) (now : EpochMillis) : Write where
  key := request.key
  layer := request.layer
  payload := request.payload
  instant := now

@[simp] theorem Storage.UpsertRequest.key_write (request : Storage.UpsertRequest)
    (now : EpochMillis) : (request.write now).key = request.key :=
  rfl

/-- The write that stores a record. -/
def Ingestion.Record.write (record : Ingestion.Record) (now : EpochMillis) : Write where
  key := record.key
  layer := record.layer
  payload := record.payload
  instant := now

@[simp] theorem Ingestion.Record.key_write (record : Ingestion.Record) (now : EpochMillis) :
    (record.write now).key = record.key :=
  rfl

namespace InMemory

/-! ## Changes of a transcript -/

/-- What a turn did to the store. A batch writes the records that it has accepted. -/
def Turn.changes : Turn → History
  | .upsert now request (.ok _) => [.write (request.write now)]
  | .delete request (.ok _) => [.removal request.key]
  | .ingest now request (.ok response) =>
    (acceptedRecords request response).map fun record => .write (record.write now)
  | _ => []

/-- What the turns of a transcript did to the store. -/
def changes (history : List Turn) : History :=
  history.flatMap Turn.changes

theorem changes_concat (history : List Turn) (turn : Turn) :
    changes (history ++ [turn]) = changes history ++ turn.changes := by
  simp [changes]

section Run

variable (settings : Settings) (clock : Clock)

/-- A call adds its changes to those before it. -/
theorem changes_transcript_concat (calls : List Invocation) (call : Invocation) :
    changes (transcript settings clock (calls ++ [call])) =
      changes (transcript settings clock calls) ++
        (perform settings clock call (stateAfter settings clock calls)).1.changes := by
  rw [transcript, Run.reports_concat, changes_concat]
  rfl

theorem changes_mono {earlier calls : List Invocation} (hearly : earlier <+: calls) :
    changes (transcript settings clock earlier) <+: changes (transcript settings clock calls) := by
  obtain ⟨later, rfl⟩ := hearly
  rw [transcript, transcript, Run.reports_append, changes, changes, List.flatMap_append]
  exact List.prefix_append _ _

end Run

/-! ## The store follows the transcript -/

/-- Accepting records one after the other writes them one after the other. -/
theorem follows_foldl_acceptRecord (idempotencyKey : String) (now : EpochMillis)
    (records : List Ingestion.Record) {state : State} {history : History}
    (hfollows : state.store.Follows history) :
    ((records.map fun record => (record, fingerprint record)).foldl
        (acceptRecord idempotencyKey now) state).store.Follows
      (history ++ records.map fun record => .write (record.write now)) := by
  induction records generalizing state history with
  | nil => simpa using hfollows
  | cons record rest ih =>
    rw [List.map_cons, List.map_cons, List.foldl_cons, List.append_cons]
    exact ih (hfollows.put (record.write now))

theorem follows_of_no_changes {store : Store} {history : History} (hfollows : store.Follows history)
    {turn : Turn} (hnone : turn.changes = []) : store.Follows (history ++ turn.changes) := by
  rw [hnone, List.append_nil]
  exact hfollows

/-- Every call keeps the store and the transcript together. -/
theorem follows_perform (settings : Settings) (clock : Clock) {state : State} {history : History}
    (hfollows : state.store.Follows history) (call : Invocation) :
    (perform settings clock call state).2.store.Follows
      (history ++ (perform settings clock call state).1.changes) := by
  obtain ⟨timeOfDay, command⟩ := call
  cases command with
  | upsert request =>
    show (upsert clock timeOfDay request state).2.store.Follows (history ++
      (Turn.upsert (clock.read timeOfDay) request (upsert clock timeOfDay request state).1).changes)
    rcases upsert_cases clock timeOfDay request state with ⟨_, _, hupsert⟩ | ⟨_, hupsert⟩
    · rw [hupsert]
      exact follows_of_no_changes hfollows rfl
    · rw [hupsert]
      exact hfollows.put (request.write (clock.read timeOfDay))
  | delete request => exact hfollows.remove request.key
  | query request => exact follows_of_no_changes hfollows rfl
  | evaluate request => exact follows_of_no_changes hfollows rfl
  | decide request => exact follows_of_no_changes hfollows rfl
  | ingest request =>
    show (ingest clock timeOfDay request state).2.store.Follows (history ++
      (Turn.ingest (clock.read timeOfDay) request (ingest clock timeOfDay request state).1).changes)
    rcases ingest_cases clock timeOfDay request state with
      ⟨_, _, hingest⟩ | ⟨_, _, hingest⟩ | ⟨_, _, hingest⟩
    · rw [hingest]
      exact follows_of_no_changes hfollows rfl
    · rw [hingest]
      exact follows_of_no_changes hfollows rfl
    · rw [hingest, Turn.changes, acceptedRecords_eq]
      exact follows_foldl_acceptRecord _ _ _ hfollows

/-- The store follows the transcript of every run. -/
theorem follows_run (settings : Settings) (clock : Clock) (calls : List Invocation) :
    (stateAfter settings clock calls).store.Follows
      (changes (transcript settings clock calls)) := by
  apply Run.induction (fun history (state : State) => state.store.Follows (changes history))
    Store.Follows.empty
  intro history state call hfollows
  rw [changes_concat]
  exact follows_perform settings clock hfollows call

end InMemory

end Recollection
