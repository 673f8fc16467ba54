import Recollection.Proofs.Service.Calls
import Recollection.Proofs.Service.Run
/-!
# Transcripts

Any number of clients ask the services in memory for something, one call after the other and in any
order. The transcript of a run is what can be seen from outside: every request with its answer, and
the instant that the clock showed where it matters. The state is not part of it, so a statement
about transcripts is one about what clients have been told.
-/

set_option autoImplicit false

namespace Recollection.InMemory

/-- What a client can ask for. -/
inductive Command
  /-- To write a memory. -/
  | upsert (request : Storage.UpsertRequest)
  /-- To remove a memory. -/
  | delete (request : Storage.DeleteRequest)
  /-- To find memories. -/
  | query (request : Retrieval.Request)
  /-- To score candidates. -/
  | evaluate (request : Evaluation.Request)
  /-- To decide on an action. -/
  | decide (request : Policy.Request)
  /-- To take in a batch. -/
  | ingest (request : Ingestion.Request)
deriving DecidableEq

/-- A call of a client. -/
structure Invocation where
  /-- When it is made. -/
  timeOfDay : EpochMillis
  /-- What is asked for. -/
  command : Command
deriving DecidableEq

/-- A request and its answer, with the instant of what may write. -/
inductive Turn
  /-- A memory was to be written. -/
  | upsert (now : EpochMillis) (request : Storage.UpsertRequest)
      (answer : Except Storage.Fault Storage.UpsertResponse)
  /-- A memory was to be removed. -/
  | delete (request : Storage.DeleteRequest) (answer : Except Storage.Fault Storage.DeleteResponse)
  /-- Memories were to be found. -/
  | query (request : Retrieval.Request) (answer : Except Retrieval.Fault Retrieval.Response)
  /-- Candidates were to be scored. -/
  | evaluate (request : Evaluation.Request) (answer : Except Evaluation.Fault Evaluation.Response)
  /-- An action was to be decided on. -/
  | decide (request : Policy.Request) (answer : Except Policy.Fault Policy.Response)
  /-- A batch was to be taken in. -/
  | ingest (now : EpochMillis) (request : Ingestion.Request)
      (answer : Except Ingestion.Fault Ingestion.Response)

section Run

variable (settings : Settings) (clock : Clock)

/-- Carries out a call in a state. -/
def perform (call : Invocation) (state : State) : Turn × State :=
  let services := services settings clock
  let now := clock.read call.timeOfDay
  match call.command with
  | .upsert request =>
    (services.storage.upsert call.timeOfDay request state).map (.upsert now request) id
  | .delete request =>
    (services.storage.delete call.timeOfDay request state).map (.delete request) id
  | .query request =>
    (services.retrieval.query call.timeOfDay request state).map (.query request) id
  | .evaluate request =>
    (services.evaluation.evaluate call.timeOfDay request state).map (.evaluate request) id
  | .decide request =>
    (services.policy.decide call.timeOfDay request state).map (.decide request) id
  | .ingest request =>
    (services.ingestion.ingest call.timeOfDay request state).map (.ingest now request) id

/-- The transcript of a run on an empty state. -/
def transcript (calls : List Invocation) : List Turn :=
  Run.reports (perform settings clock) calls .empty

/-- The state that a run on an empty state leaves. -/
def stateAfter (calls : List Invocation) : State :=
  Run.final (perform settings clock) calls .empty

variable {settings clock}

/-- A turn of a transcript answers a call in the state that the calls before it left. -/
theorem transcript_split {calls : List Invocation} {before after : List Turn} {turn : Turn}
    (hsplit : transcript settings clock calls = before ++ turn :: after) :
    ∃ earlier call, before = transcript settings clock earlier ∧
      turn = (perform settings clock call (stateAfter settings clock earlier)).1 := by
  obtain ⟨earlier, call, later, -, hbefore, hturn, -⟩ := Run.split hsplit
  exact ⟨earlier, call, hbefore, hturn⟩

/-! ## What a turn says about its call -/

theorem perform_eq_upsert {call : Invocation} {state : State} {now : EpochMillis}
    {request : Storage.UpsertRequest} {answer : Except Storage.Fault Storage.UpsertResponse}
    (hturn : (perform settings clock call state).1 = .upsert now request answer) :
    now = clock.read call.timeOfDay ∧
      upsert clock call.timeOfDay request state =
        (answer, (perform settings clock call state).2) := by
  obtain ⟨timeOfDay, command⟩ := call
  cases command with
  | upsert asked =>
    obtain ⟨rfl, rfl, rfl⟩ := Turn.upsert.inj hturn
    exact ⟨rfl, rfl⟩
  | _ => cases hturn

theorem perform_eq_delete {call : Invocation} {state : State} {request : Storage.DeleteRequest}
    {answer : Except Storage.Fault Storage.DeleteResponse}
    (hturn : (perform settings clock call state).1 = .delete request answer) :
    delete call.timeOfDay request state = (answer, (perform settings clock call state).2) := by
  obtain ⟨timeOfDay, command⟩ := call
  cases command with
  | delete asked =>
    obtain ⟨rfl, rfl⟩ := Turn.delete.inj hturn
    rfl
  | _ => cases hturn

theorem perform_eq_ingest {call : Invocation} {state : State} {now : EpochMillis}
    {request : Ingestion.Request} {answer : Except Ingestion.Fault Ingestion.Response}
    (hturn : (perform settings clock call state).1 = .ingest now request answer) :
    now = clock.read call.timeOfDay ∧
      ingest clock call.timeOfDay request state =
        (answer, (perform settings clock call state).2) := by
  obtain ⟨timeOfDay, command⟩ := call
  cases command with
  | ingest asked =>
    obtain ⟨rfl, rfl, rfl⟩ := Turn.ingest.inj hturn
    exact ⟨rfl, rfl⟩
  | _ => cases hturn

end Run

/-! ## A small run

A memory is written, removed and written again. Then two batches come under one key: the second one
repeats a record, changes another and brings a new one. -/

/-- The space of the small run. -/
def village : SpaceId :=
  ⟨"village", by decide +kernel, by decide⟩

/-- The first memory of the small run. -/
def anvil : MemoryId :=
  ⟨"anvil", by decide +kernel, by decide⟩

/-- The second memory of the small run. -/
def bellows : MemoryId :=
  ⟨"bellows", by decide +kernel, by decide⟩

/-- The third memory of the small run. -/
def chisel : MemoryId :=
  ⟨"chisel", by decide +kernel, by decide⟩

/-- One half, by its word. -/
def half : Binary64 :=
  ⟨0x3FE0000000000000⟩

/-- Texts as one batch. -/
def batchOf (texts : List (MemoryId × String)) : Ingestion.Request where
  source := "smithy"
  idempotencyKey := "delivery"
  occurredAtMillis := 0
  records := texts.map fun (id, text) => ⟨id, village, .episodic, .string text⟩

/-- The batch that comes first. -/
def firstBatch : Ingestion.Request :=
  batchOf [(anvil, "heavy"), (bellows, "old")]

/-- The batch that diverges from the first one. -/
def changedBatch : Ingestion.Request :=
  batchOf [(chisel, "sharp"), (anvil, "heavy"), (bellows, "new")]

/-- Writes the first memory, with the version that is expected. -/
def writeAnvil (expectedVersion : Option UInt64) : Storage.UpsertRequest :=
  ⟨village, anvil, .episodic, .string "heavy", expectedVersion⟩

/-- Removes the first memory. -/
def removeAnvil : Storage.DeleteRequest :=
  ⟨village, anvil⟩

/-- The calls of the small run. -/
def smithyRun : List Invocation :=
  [⟨0, .upsert (writeAnvil (some 0))⟩, ⟨0, .delete removeAnvil⟩, ⟨0, .upsert (writeAnvil (some 1))⟩,
    ⟨0, .upsert (writeAnvil (some 0))⟩, ⟨0, .ingest firstBatch⟩, ⟨0, .ingest changedBatch⟩]

end Recollection.InMemory
