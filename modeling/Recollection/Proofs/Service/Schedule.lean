import Recollection.Proofs.Service.StoreHistory
/-!
# Calls at the same time

Clients need not wait for each other. Writing and removing one memory is one step, but a batch is
stored record by record, and other clients may write or remove memories in between. Only another
batch has to wait, as the ledger is kept from it until the batch is done.

A schedule is any order of such steps. Calls one after the other are the schedules in which every
batch is finished at once (`exists_schedule`).
-/

set_option autoImplicit false

namespace Recollection.InMemory

/-! ## Steps -/

/-- A batch that is being taken in. -/
structure Intake where
  /-- What the clock showed when it came. -/
  now : EpochMillis
  /-- The batch. -/
  request : Ingestion.Request
  /-- The records that are still to be stored. -/
  pending : List Ingestion.Record
  /-- The answer, when they are. -/
  response : Ingestion.Response

/-- The state and the batch that is being taken in, if any. -/
structure System where
  /-- The state. -/
  state : State
  /-- The batch that is being taken in. -/
  intake : Option Intake

/-- A step of a schedule. -/
inductive Move
  /-- A client calls. -/
  | call (call : Invocation)
  /-- The batch that is being taken in goes on. -/
  | proceed

/-- What a step does. -/
inductive Event
  /-- A call is answered. -/
  | answered (turn : Turn)
  /-- A batch begins to be taken in. -/
  | begun
  /-- A record is stored. -/
  | stored (now : EpochMillis) (record : Ingestion.Record)
  /-- Nothing can be done. -/
  | waiting

/-- Looks at a batch: one that breaks its contract or diverges is answered, and another one begins
to be taken in, unless one is already. -/
def System.receive (clock : Clock) (timeOfDay : EpochMillis) (request : Ingestion.Request)
    (system : System) : Event × System :=
  let now := clock.read timeOfDay
  match Ingestion.Request.contract.validate request, system.intake with
  | .error rejection, _ => (.answered (.ingest now request (.error (.rejected rejection))), system)
  | .ok (), some _ => (.waiting, system)
  | .ok (), none =>
    match ingestValid now request system.state with
    | (.error fault, state) => (.answered (.ingest now request (.error fault)), ⟨state, none⟩)
    | (.ok response, _) =>
      (.begun, ⟨openEntry system.state request.idempotencyKey,
        some ⟨now, request, recordsOf .new system.state.ledger request, response⟩⟩)

/-- Stores the next record of the batch, or answers the batch if there is none. -/
def System.proceed (system : System) : Event × System :=
  match system.intake with
  | none => (.waiting, system)
  | some ⟨now, request, [], response⟩ =>
    (.answered (.ingest now request (.ok response)), ⟨system.state, none⟩)
  | some ⟨now, request, record :: rest, response⟩ =>
    (.stored now record,
      ⟨acceptRecord request.idempotencyKey now system.state (record, fingerprint record),
        some ⟨now, request, rest, response⟩⟩)

/-- Answers a call at once. -/
def System.answer (settings : Settings) (clock : Clock) (call : Invocation) (system : System) :
    Event × System :=
  let (turn, state) := perform settings clock call system.state
  (.answered turn, ⟨state, system.intake⟩)

/-- Takes a step. -/
def System.step (settings : Settings) (clock : Clock) : Move → System → Event × System
  | .proceed, system => system.proceed
  | .call ⟨timeOfDay, .ingest request⟩, system => system.receive clock timeOfDay request
  | .call call, system => system.answer settings clock call

/-- Nothing was ever written or accepted, and no batch is being taken in. -/
def System.empty : System :=
  ⟨.empty, none⟩

/-- A batch that fails is answered as such, and leaves the system as it is; or it has to wait; or
nothing speaks against it, and its new records are about to be stored. -/
theorem System.receive_cases (clock : Clock) (timeOfDay : EpochMillis) (request : Ingestion.Request)
    (system : System) :
    (∃ fault, ingest clock timeOfDay request system.state = (.error fault, system.state) ∧
      system.receive clock timeOfDay request =
        (.answered (.ingest (clock.read timeOfDay) request (.error fault)), system)) ∨
    (system.intake.isSome ∧ system.receive clock timeOfDay request = (.waiting, system)) ∨
    (∃ response, system.intake = none ∧
      ingest clock timeOfDay request system.state =
        (.ok response, takeIn (clock.read timeOfDay) request system.state) ∧
      system.receive clock timeOfDay request =
        (.begun, ⟨openEntry system.state request.idempotencyKey,
          some ⟨clock.read timeOfDay, request, recordsOf .new system.state.ledger request,
            response⟩⟩)) := by
  obtain ⟨state, intake⟩ := system
  unfold receive
  rcases ingest_cases clock timeOfDay request state with
    ⟨rejection, hinvalid, hingest⟩ | ⟨hvalid, hchanged, hingest⟩ | ⟨hvalid, hchanged, hingest⟩
  · exact .inl ⟨_, hingest, by simp only [hinvalid]⟩
  · cases intake with
    | some intake => exact .inr (.inl ⟨rfl, by simp only [hvalid]⟩)
    | none =>
      refine .inl ⟨_, hingest, ?_⟩
      rw [ingest, hvalid] at hingest
      simp only [hvalid, hingest]
  · cases intake with
    | some intake => exact .inr (.inl ⟨rfl, by simp only [hvalid]⟩)
    | none =>
      refine .inr (.inr ⟨_, rfl, hingest, ?_⟩)
      rw [ingest, hvalid] at hingest
      simp only [hvalid, hingest]

section Schedule

variable (settings : Settings) (clock : Clock)

/-- What the steps of a schedule do, from an empty state on. -/
def events (moves : List Move) : List Event :=
  Run.reports (System.step settings clock) moves .empty

/-- Where a schedule leads to from an empty state. -/
def systemAfter (moves : List Move) : System :=
  Run.final (System.step settings clock) moves .empty

variable {settings clock}

/-! ## Changes of a schedule -/

/-- What a step did to the store. What a batch did is told when its records are stored. -/
def Event.changes : Event → History
  | .answered (.ingest _ _ _) => []
  | .answered turn => turn.changes
  | .stored now record => [.write (record.write now)]
  | _ => []

/-- What the steps of a schedule did to the store. -/
def changesOf (history : List Event) : History :=
  history.flatMap Event.changes

theorem changesOf_append (history more : List Event) :
    changesOf (history ++ more) = changesOf history ++ changesOf more :=
  List.flatMap_append

theorem changesOf_concat (history : List Event) (event : Event) :
    changesOf (history ++ [event]) = changesOf history ++ event.changes := by
  simp [changesOf]

/-- What a step can do to the store: nothing, write a record, write what an upsert is allowed to
write, or remove. -/
inductive StoreStep (store : Store) : Event → Store → Prop
  /-- The store is left alone. -/
  | idle {event : Event} (hchanges : event.changes = []) : StoreStep store event store
  /-- A record is stored. -/
  | stored (now : EpochMillis) (record : Ingestion.Record) :
    StoreStep store (.stored now record)
      (store.put record.key record.layer record.payload now).2
  /-- An upsert goes ahead. -/
  | written (now : EpochMillis) (request : Storage.UpsertRequest)
    (response : Storage.UpsertResponse)
    (hallowed : Store.checkVersion request.key request.expectedVersion
      (store.liveVersion? request.key) = .ok ()) :
    StoreStep store (.answered (.upsert now request (.ok response)))
      (store.put request.key request.layer request.payload now).2
  /-- A removal says whether the memory was live. -/
  | removed (request : Storage.DeleteRequest) :
    StoreStep store
      (.answered (.delete request
        (.ok ⟨request.spaceId, request.memoryId, (store.remove request.key).1⟩)))
      (store.remove request.key).2

theorem storeStep_step (settings : Settings) (clock : Clock) (move : Move) (system : System) :
    StoreStep system.state.store (System.step settings clock move system).1
      (System.step settings clock move system).2.state.store := by
  obtain ⟨state, intake⟩ := system
  cases move with
  | call call =>
    obtain ⟨timeOfDay, command⟩ := call
    cases command with
    | upsert request =>
      show StoreStep state.store (.answered (.upsert (clock.read timeOfDay) request
        (upsert clock timeOfDay request state).1)) (upsert clock timeOfDay request state).2.store
      rcases upsert_cases clock timeOfDay request state with ⟨_, _, hupsert⟩ | ⟨hallowed, hupsert⟩
      · rw [hupsert]
        exact .idle rfl
      · rw [hupsert]
        exact .written _ _ _ hallowed
    | delete request => exact .removed request
    | query request => exact .idle rfl
    | evaluate request => exact .idle rfl
    | decide request => exact .idle rfl
    | ingest request =>
      show StoreStep state.store (System.receive clock timeOfDay request ⟨state, intake⟩).1
        (System.receive clock timeOfDay request ⟨state, intake⟩).2.state.store
      rcases System.receive_cases clock timeOfDay request ⟨state, intake⟩ with
        ⟨_, _, hreceive⟩ | ⟨_, hreceive⟩ | ⟨_, _, _, hreceive⟩
      · rw [hreceive]
        exact .idle rfl
      · rw [hreceive]
        exact .idle rfl
      · rw [hreceive]
        exact .idle rfl
  | proceed =>
    cases intake with
    | none => exact .idle rfl
    | some intake =>
      obtain ⟨now, request, pending, response⟩ := intake
      cases pending with
      | nil => exact .idle rfl
      | cons record rest => exact .stored now record

/-- Every step keeps the store and the events together. -/
theorem StoreStep.follows {store after : Store} {event : Event}
    (hstep : StoreStep store event after) {history : History} (hfollows : store.Follows history) :
    after.Follows (history ++ event.changes) := by
  cases hstep with
  | idle hchanges =>
    rw [hchanges, List.append_nil]
    exact hfollows
  | stored now record => exact hfollows.put (record.write now)
  | written now request response hallowed => exact hfollows.put (request.write now)
  | removed request => exact hfollows.remove request.key

/-- The store follows the events of every schedule. -/
theorem follows_schedule (settings : Settings) (clock : Clock) (moves : List Move) :
    (systemAfter settings clock moves).state.store.Follows
      (changesOf (events settings clock moves)) := by
  apply Run.induction (fun history (system : System) =>
    system.state.store.Follows (changesOf history)) Store.Follows.empty
  intro history system move hfollows
  rw [changesOf_concat]
  exact (storeStep_step settings clock move system).follows hfollows

/-- What was done to the store early in a schedule comes first in the whole of it. -/
theorem changesOf_mono {earlier moves : List Move} (hearly : earlier <+: moves) :
    changesOf (events settings clock earlier) <+: changesOf (events settings clock moves) := by
  obtain ⟨later, rfl⟩ := hearly
  rw [events, events, Run.reports_append, changesOf_append]
  exact List.prefix_append _ _

/-! ## Calls one after the other -/

/-- The answer that a step gives. -/
def Event.answer? : Event → Option Turn
  | .answered turn => some turn
  | _ => none

/-- The answers that a schedule gives, in their order. -/
def answers (history : List Event) : List Turn :=
  history.filterMap Event.answer?

/-- The calls that a schedule makes, in their order. -/
def callsOf (moves : List Move) : List Invocation :=
  moves.filterMap fun
    | .call call => some call
    | .proceed => none

section Batch

variable (now : EpochMillis) (request : Ingestion.Request) (pending : List Ingestion.Record)
  (response : Ingestion.Response)

/-- What a batch does, from its records on: they are stored one after the other, and it is
answered. -/
def storing : List Event :=
  pending.map (.stored now) ++ [.answered (.ingest now request (.ok response))]

theorem answers_storing :
    answers (storing now request pending response) = [.ingest now request (.ok response)] := by
  induction pending with
  | nil => rfl
  | cons record rest ih => exact ih

theorem changesOf_storing :
    changesOf (storing now request pending response) =
      pending.map fun record => .write (record.write now) := by
  induction pending with
  | nil => rfl
  | cons record rest ih => exact congrArg _ ih

variable (settings clock)

/-- A batch that is not disturbed stores its records one after the other and is answered. -/
theorem run_proceed (state : State) :
    Run.reports (System.step settings clock) (List.replicate (pending.length + 1) .proceed)
        ⟨state, some ⟨now, request, pending, response⟩⟩ = storing now request pending response ∧
    Run.final (System.step settings clock) (List.replicate (pending.length + 1) .proceed)
        ⟨state, some ⟨now, request, pending, response⟩⟩ =
      ⟨(pending.map fun record => (record, fingerprint record)).foldl
        (acceptRecord request.idempotencyKey now) state, none⟩ := by
  induction pending generalizing state with
  | nil => exact ⟨rfl, rfl⟩
  | cons record rest ih =>
    obtain ⟨hreports, hfinal⟩ :=
      ih (acceptRecord request.idempotencyKey now state (record, fingerprint record))
    exact ⟨congrArg _ hreports, hfinal⟩

end Batch

/-- A call that is not disturbed gives its answer and leaves its state: it may take several steps,
but then nobody can tell. -/
theorem exists_schedule_of_call (settings : Settings) (clock : Clock) (call : Invocation)
    (state : State) :
    ∃ count, answers (Run.reports (System.step settings clock)
        (.call call :: List.replicate count .proceed) ⟨state, none⟩) =
          [(perform settings clock call state).1] ∧
      changesOf (Run.reports (System.step settings clock)
        (.call call :: List.replicate count .proceed) ⟨state, none⟩) =
          (perform settings clock call state).1.changes ∧
      Run.final (System.step settings clock)
        (.call call :: List.replicate count .proceed) ⟨state, none⟩ =
          ⟨(perform settings clock call state).2, none⟩ := by
  obtain ⟨timeOfDay, command⟩ := call
  cases command with
  | ingest request =>
    have hperform : perform settings clock ⟨timeOfDay, .ingest request⟩ state =
        (.ingest (clock.read timeOfDay) request (ingest clock timeOfDay request state).1,
          (ingest clock timeOfDay request state).2) := rfl
    have hstep : System.step settings clock (.call ⟨timeOfDay, .ingest request⟩) ⟨state, none⟩ =
        System.receive clock timeOfDay request ⟨state, none⟩ := rfl
    rw [hperform]
    rcases System.receive_cases clock timeOfDay request ⟨state, none⟩ with
      ⟨fault, hingest, hreceive⟩ | ⟨hlocked, -⟩ | ⟨response, -, hingest, hreceive⟩
    · refine ⟨0, ?_⟩
      rw [List.replicate_zero, Run.reports, Run.final, hstep, hreceive, hingest]
      exact ⟨rfl, rfl, rfl⟩
    · cases hlocked
    · have haccepted := acceptedRecords_of_ingest clock timeOfDay (congrArg Prod.fst hingest)
      obtain ⟨hreports, hfinal⟩ := run_proceed settings clock (clock.read timeOfDay) request
        (recordsOf .new state.ledger request) response (openEntry state request.idempotencyKey)
      refine ⟨(recordsOf .new state.ledger request).length + 1, ?_⟩
      rw [Run.reports, Run.final, hstep, hreceive, hreports, hfinal, hingest, Turn.changes,
        haccepted]
      exact ⟨answers_storing _ _ _ _, changesOf_storing _ _ _ _, rfl⟩
  | upsert request => exact ⟨0, rfl, List.append_nil _, rfl⟩
  | delete request => exact ⟨0, rfl, List.append_nil _, rfl⟩
  | query request => exact ⟨0, rfl, rfl, rfl⟩
  | evaluate request => exact ⟨0, rfl, rfl, rfl⟩
  | decide request => exact ⟨0, rfl, rfl, rfl⟩

/-- Calls one after the other are a schedule: it makes the same calls, gives the same answers, and
does the same to the state. -/
theorem exists_schedule (settings : Settings) (clock : Clock) (calls : List Invocation) :
    ∃ moves, callsOf moves = calls ∧
      answers (events settings clock moves) = transcript settings clock calls ∧
      changesOf (events settings clock moves) = changes (transcript settings clock calls) ∧
      systemAfter settings clock moves = ⟨stateAfter settings clock calls, none⟩ := by
  have hrun : ∀ state, ∃ moves, callsOf moves = calls ∧
      answers (Run.reports (System.step settings clock) moves ⟨state, none⟩) =
        Run.reports (perform settings clock) calls state ∧
      changesOf (Run.reports (System.step settings clock) moves ⟨state, none⟩) =
        changes (Run.reports (perform settings clock) calls state) ∧
      Run.final (System.step settings clock) moves ⟨state, none⟩ =
        ⟨Run.final (perform settings clock) calls state, none⟩ := by
    induction calls with
    | nil => exact fun _ => ⟨[], rfl, rfl, rfl, rfl⟩
    | cons call rest ih =>
      intro state
      obtain ⟨count, hanswers, hchanges, hfinal⟩ :=
        exists_schedule_of_call settings clock call state
      obtain ⟨moves, hcalls', hanswers', hchanges', hfinal'⟩ :=
        ih (perform settings clock call state).2
      refine ⟨(.call call :: List.replicate count .proceed) ++ moves, ?_, ?_, ?_, ?_⟩
      · rw [← hcalls']
        simp [callsOf]
      · rw [Run.reports_append, answers, List.filterMap_append, hfinal]
        exact congr (congrArg _ hanswers) hanswers'
      · rw [Run.reports_append, changesOf_append, hfinal, hchanges, hchanges']
        rfl
      · rw [Run.final_append, hfinal, hfinal']
        rfl
  exact hrun .empty

end Schedule

end Recollection.InMemory
