import Recollection.Benchmark.ContractEngine
import Recollection.Proofs.Benchmark.Samples
import Recollection.Proofs.Benchmark.Workload
import Recollection.Proofs.Service.Idempotence
import Recollection.Proofs.Service.Paging
import Recollection.Proofs.Settings.Check
/-!
# Calls of the engine over contracts

The engine sends an event as a batch of one record, and the ledger of the services tells what comes
of it: a batch that is new is taken in and known from then on; a batch that is known is a duplicate
and changes nothing. A query is always answered, as its limit is fitted to the settings.
-/

set_option autoImplicit false

namespace Recollection

/-! ## Batches that are new and batches that are known -/

namespace InMemory

/-- No record of a batch was accepted before under its key. -/
def IsNew (state : State) (request : Ingestion.Request) : Prop :=
  ∀ record ∈ request.records,
    remembered state.ledger request.idempotencyKey record.recordId = none

/-- Every record of a batch was accepted before under its key, with its content. -/
def IsKnown (state : State) (request : Ingestion.Request) : Prop :=
  ∀ record ∈ request.records,
    remembered state.ledger request.idempotencyKey record.recordId = some (fingerprint record)

section Batch

variable (clock : Clock) (timeOfDay : EpochMillis) {request : Ingestion.Request} {state : State}

theorem recordsOf_of_forall {kind : Standing}
    (hstanding : ∀ record ∈ request.records,
      standingUnder state.ledger request.idempotencyKey record = kind) (other : Standing) :
    recordsOf other state.ledger request = if kind = other then request.records else [] := by
  unfold recordsOf
  split
  · rename_i hsame
    rw [List.filter_eq_self]
    intro record hrecord
    rw [hstanding record hrecord, decide_eq_true hsame]
  · rename_i hother
    rw [List.filter_eq_nil_iff]
    intro record hrecord
    rw [hstanding record hrecord, decide_eq_true_iff]
    exact hother

theorem IsNew.recordsOf (hnew : IsNew state request) (kind : Standing) :
    recordsOf kind state.ledger request = if .new = kind then request.records else [] :=
  recordsOf_of_forall (fun record hrecord => standingUnder_eq_new_iff.2 (hnew record hrecord)) kind

theorem IsKnown.recordsOf (hknown : IsKnown state request) (kind : Standing) :
    recordsOf kind state.ledger request = if .duplicate = kind then request.records else [] := by
  refine recordsOf_of_forall (fun record hrecord => ?_) kind
  rw [standingUnder_eq_remembered, hknown record hrecord]
  exact if_pos rfl

/-- What becomes of a valid batch none of whose records changed. -/
theorem ingest_of_unchanged (hvalid : Ingestion.Request.contract.validate request = .ok ())
    (hunchanged : recordsOf .changed state.ledger request = []) :
    ingest clock timeOfDay request state =
      (.ok ⟨(recordsOf .new state.ledger request).map Ingestion.Record.recordId,
          (recordsOf .duplicate state.ledger request).map Ingestion.Record.recordId,
          clock.read timeOfDay⟩,
        takeIn (clock.read timeOfDay) request state) := by
  rcases ingest_cases clock timeOfDay request state with
    ⟨rejection, hrejected, _⟩ | ⟨_, hchanged, _⟩ | ⟨_, _, hingest⟩
  · rw [hvalid] at hrejected
    cases hrejected
  · exact absurd hunchanged hchanged
  · exact hingest

theorem ingest_of_isNew (hvalid : Ingestion.Request.contract.validate request = .ok ())
    (hnew : IsNew state request) :
    ingest clock timeOfDay request state =
      (.ok ⟨request.recordIds, [], clock.read timeOfDay⟩,
        takeIn (clock.read timeOfDay) request state) := by
  rw [ingest_of_unchanged clock timeOfDay hvalid (hnew.recordsOf .changed), hnew.recordsOf,
    hnew.recordsOf]
  rfl

/-- Taking in a known batch changes nothing. -/
theorem takeIn_of_isKnown (hne : request.records ≠ []) (hknown : IsKnown state request)
    (now : EpochMillis) : takeIn now request state = state := by
  obtain ⟨record, hrecord⟩ := List.exists_mem_of_ne_nil _ hne
  rw [takeIn, hknown.recordsOf]
  exact openEntry_of_remembered (hknown record hrecord)

theorem ingest_of_isKnown (hvalid : Ingestion.Request.contract.validate request = .ok ())
    (hne : request.records ≠ []) (hknown : IsKnown state request) :
    ingest clock timeOfDay request state =
      (.ok ⟨[], request.recordIds, clock.read timeOfDay⟩, state) := by
  rw [ingest_of_unchanged clock timeOfDay hvalid (hknown.recordsOf .changed), hknown.recordsOf,
    hknown.recordsOf, takeIn_of_isKnown hne hknown]
  rfl

/-- A new batch that was taken in is known. -/
theorem isKnown_takeIn (hnodup : request.recordIds.Nodup) (hnew : IsNew state request)
    (now : EpochMillis) : IsKnown (takeIn now request state) request := by
  intro record hrecord
  rw [remembered_takeIn now request state hnodup, hnew.recordsOf]
  exact .inr ⟨record, hrecord, rfl, rfl, rfl⟩

/-- Taking in a batch changes nothing under other keys. -/
theorem remembered_takeIn_of_ne (hnodup : request.recordIds.Nodup) {other : String}
    (hother : request.idempotencyKey ≠ other) (now : EpochMillis) (id : MemoryId) :
    remembered (takeIn now request state).ledger other id = remembered state.ledger other id := by
  refine Option.ext fun print => ?_
  rw [remembered_takeIn now request state hnodup]
  simp [hother]

end Batch

end InMemory

namespace Benchmark

/-! ## Events as batches -/

/-- The batch that an event is sent as. -/
structure Sends (event : Event) (request : Ingestion.Request) : Prop where
  /-- The engine makes the batch of the event. -/
  batch : ContractEngine.batch event (sanitize event.text).text = .ok request
  /-- Its key is the identifier of the event. -/
  key : request.idempotencyKey = event.eventId
  /-- It has one record. -/
  single : request.records.length = 1
  /-- It keeps its contract. -/
  valid : Ingestion.Request.contract.validate request = .ok ()

theorem exists_sends {event : Event} (hevent : event.Sendable) :
    ∃ request, Sends event request := by
  obtain ⟨recordId, hrecord⟩ := Identifier.exists_ofText .memory hevent.eventId
  obtain ⟨spaceId, hspace⟩ := Identifier.exists_ofText .space hevent.storeId
  have hsource : Text.isBlankText "mnem-bench" = false := by decide
  let record : Ingestion.Record :=
    ⟨recordId, spaceId, event.layer, .object [("text", .string (sanitize event.text).text)]⟩
  refine ⟨⟨"mnem-bench", event.eventId, event.occurredAtMillis, [record]⟩, ?_, rfl, rfl, ?_⟩
  · rw [ContractEngine.batch, hrecord, hspace]
    rfl
  · rw [Ingestion.Request.validate_eq_ok_iff]
    exact ⟨hsource, hevent.eventId, List.nodup_singleton recordId⟩

namespace Sends

variable {event : Event} {request : Ingestion.Request}

theorem records_ne_nil (hsends : Sends event request) : request.records ≠ [] :=
  List.ne_nil_of_length_pos (by rw [hsends.single]; exact Nat.one_pos)

theorem length_recordIds (hsends : Sends event request) : request.recordIds.length = 1 := by
  rw [Ingestion.Request.recordIds, List.length_map, hsends.single]

theorem nodup (hsends : Sends event request) : request.recordIds.Nodup :=
  ((Ingestion.Request.validate_eq_ok_iff request).1 hsends.valid).2.2

end Sends

/-! ## What the services know of events -/

/-- Nothing was accepted under the identifier of an event. -/
def Unknown (state : InMemory.State) (eventId : String) : Prop :=
  ∀ id, InMemory.remembered state.ledger eventId id = none

/-- The record of an event was accepted. -/
def Known (state : InMemory.State) (event : Event) : Prop :=
  ∃ request, Sends event request ∧ InMemory.IsKnown state request

/-- Two states remember the same under the identifier of an event. -/
def SameEvent (state after : InMemory.State) (eventId : String) : Prop :=
  ∀ id, InMemory.remembered after.ledger eventId id = InMemory.remembered state.ledger eventId id

variable {state after : InMemory.State}

theorem Unknown.of_same {eventId : String} (hunknown : Unknown state eventId)
    (hsame : SameEvent state after eventId) : Unknown after eventId := by
  intro id
  rw [hsame id, hunknown id]

theorem Known.of_same {event : Event} (hknown : Known state event)
    (hsame : SameEvent state after event.eventId) : Known after event := by
  obtain ⟨request, hsends, hrecords⟩ := hknown
  refine ⟨request, hsends, fun record hrecord => ?_⟩
  rw [← hrecords record hrecord, hsends.key, hsame]

namespace ContractEngine

theorem ingestOutcome_tells (sanitized : Sanitized) (response : Ingestion.Response) :
    (ingestOutcome sanitized response).Tells response.acceptedRecordIds.length
      (.ofNat response.duplicateRecordIds.length) :=
  ⟨rfl, rfl⟩

/-- A batch is one record with the text as its payload. -/
theorem records_of_batch {event : Event} {text : String} {request : Ingestion.Request}
    (hbatch : batch event text = .ok request) :
    ∃ recordId spaceId,
      request.records = [⟨recordId, spaceId, event.layer, .object [("text", .string text)]⟩] := by
  simp only [batch, bind_eq_ok_iff] at hbatch
  obtain ⟨recordId, -, spaceId, -, hrequest⟩ := hbatch
  obtain rfl := Except.ok.inj hrequest
  exact ⟨recordId, spaceId, rfl⟩

/-! ## One call -/

section Call

variable (settings : Settings) (clock : Clock) (timeOfDay : EpochMillis) {event : Event}

/-- An event that cannot be made a batch changes nothing. Any other comes to what its batch comes
to. -/
theorem ingest_cases (event : Event) (state : InMemory.State) :
    (∃ fault, ingest (.inMemory settings clock) timeOfDay event state = (.error fault, state)) ∨
    ∃ request, batch event (sanitize event.text).text = .ok request ∧
      ((∃ cause fault after, InMemory.ingest clock timeOfDay request state = (.error cause, after) ∧
        ingest (.inMemory settings clock) timeOfDay event state = (.error fault, after)) ∨
      ∃ response after, InMemory.ingest clock timeOfDay request state = (.ok response, after) ∧
        ingest (.inMemory settings clock) timeOfDay event state =
          (.ok (ingestOutcome (sanitize event.text) response), after)) := by
  unfold ingest
  dsimp only [Assembly.inMemory, InMemory.services, InMemory.ingestion]
  cases hbatch : batch event (sanitize event.text).text with
  | error invalid => exact .inl ⟨_, rfl⟩
  | ok request =>
    refine .inr ⟨request, rfl, ?_⟩
    dsimp only
    cases InMemory.ingest clock timeOfDay request state with
    | mk answer after =>
      cases answer with
      | error cause => exact .inl ⟨cause, _, after, rfl, rfl⟩
      | ok response => exact .inr ⟨response, after, rfl, rfl⟩

/-- A recall changes nothing. If it succeeds, its outcome is that of a retrieval. -/
theorem recollect_cases (query : Query) (state : InMemory.State) :
    (∃ fault, recollect (.inMemory settings clock) timeOfDay query state = (.error fault, state)) ∨
    ∃ spaceId response, Identifier.ofText .space query.storeId = .ok spaceId ∧
      InMemory.query settings.maxLimit state.store (retrieval settings.maxLimit spaceId query) =
        .ok response ∧
      recollect (.inMemory settings clock) timeOfDay query state =
        (.ok (recallOutcome query response), state) := by
  unfold recollect
  cases Identifier.ofText .space query.storeId with
  | error invalid => exact .inl ⟨_, rfl⟩
  | ok spaceId =>
    dsimp only [Assembly.inMemory, InMemory.services, InMemory.retrieval]
    cases hanswer : InMemory.query settings.maxLimit state.store
        (retrieval settings.maxLimit spaceId query) with
    | error cause => exact .inl ⟨_, rfl⟩
    | ok response => exact .inr ⟨spaceId, response, rfl, hanswer, rfl⟩

/-- An event that is sent to services in memory comes down to its batch. -/
theorem ingest_of_sends {request : Ingestion.Request} (hsends : Sends event request)
    {response : Ingestion.Response}
    (hingest : InMemory.ingest clock timeOfDay request state = (.ok response, after)) :
    ingest (.inMemory settings clock) timeOfDay event state =
      (.ok (ingestOutcome (sanitize event.text) response), after) := by
  have hservice : (Assembly.inMemory settings clock).services.ingestion.ingest timeOfDay request
      state = (.ok response, after) := hingest
  simp only [ingest, hsends.batch, hservice]

/-- An unknown event is accepted, without duplicates, and known from then on; nothing changes for
other events. -/
theorem ingest_of_unknown (hevent : event.Sendable) (hunknown : Unknown state event.eventId) :
    ∃ outcome after,
      ingest (.inMemory settings clock) timeOfDay event state = (.ok outcome, after) ∧
      outcome.Tells 1 0 ∧ Known after event ∧
        ∀ other, event.eventId ≠ other → SameEvent state after other := by
  obtain ⟨request, hsends⟩ := exists_sends hevent
  have hnew : InMemory.IsNew state request := fun record _ => by
    rw [hsends.key]
    exact hunknown record.recordId
  have hingest := ingest_of_sends settings clock timeOfDay hsends
    (InMemory.ingest_of_isNew clock timeOfDay hsends.valid hnew)
  refine ⟨_, _, hingest, ?_, ?_, ?_⟩
  · have htells := ingestOutcome_tells (sanitize event.text)
      ⟨request.recordIds, [], clock.read timeOfDay⟩
    rwa [hsends.length_recordIds] at htells
  · exact ⟨request, hsends, InMemory.isKnown_takeIn hsends.nodup hnew _⟩
  · intro other hother
    rw [← hsends.key] at hother
    exact InMemory.remembered_takeIn_of_ne hsends.nodup hother _

/-- A known event is a duplicate and leaves the state as it is. -/
theorem ingest_of_known (hknown : Known state event) :
    ∃ outcome, ingest (.inMemory settings clock) timeOfDay event state = (.ok outcome, state) ∧
      outcome.Tells 0 1 := by
  obtain ⟨request, hsends, hrecords⟩ := hknown
  have hingest := ingest_of_sends settings clock timeOfDay hsends
    (InMemory.ingest_of_isKnown clock timeOfDay hsends.valid hsends.records_ne_nil hrecords)
  refine ⟨_, hingest, ?_⟩
  have htells := ingestOutcome_tells (sanitize event.text)
    ⟨[], request.recordIds, clock.read timeOfDay⟩
  rwa [hsends.length_recordIds] at htells

theorem one_le_max (items : UInt32) : 1 ≤ max items 1 := by
  show 1 ≤ if items ≤ 1 then 1 else items
  split
  · exact UInt32.le_refl 1
  · rename_i hmany
    exact UInt32.le_of_lt (UInt32.not_le.1 hmany)

/-- The retrieval for a visible query keeps its contract and the limit of the settings. -/
theorem validate_retrieval {maxLimit : UInt32} (hlimit : Settings.isPageLimit maxLimit = true)
    (spaceId : SpaceId) {query : Query} (hquery : Text.isBlankText query.query = false) :
    Retrieval.Request.contract.validate (retrieval maxLimit spaceId query) = .ok () ∧
      (retrieval maxLimit spaceId query).limit ≤ maxLimit := by
  obtain ⟨hpositive, hbound⟩ := (Settings.isPageLimit_eq_true_iff maxLimit).1 hlimit
  have hle : (retrieval maxLimit spaceId query).limit ≤ maxLimit := Std.min_le_right
  refine ⟨?_, hle⟩
  rw [Retrieval.Request.validate_eq_ok_iff]
  refine ⟨hquery, ⟨Std.le_min_iff.2 ⟨one_le_max _, hpositive⟩, UInt32.le_trans hle hbound⟩, ?_⟩
  intro cursor hcursor
  cases hcursor

/-- A query is answered and leaves the state as it is. -/
theorem recollect_of_sendable (hlimit : Settings.isPageLimit settings.maxLimit = true)
    {query : Query} (hquery : query.Sendable) (state : InMemory.State) :
    ∃ outcome, recollect (.inMemory settings clock) timeOfDay query state =
      (.ok outcome, state) := by
  obtain ⟨spaceId, hspace⟩ := Identifier.exists_ofText .space hquery.storeId
  obtain ⟨hvalid, hle⟩ := validate_retrieval hlimit spaceId hquery.text
  obtain ⟨response, hanswer⟩ : ∃ response, InMemory.query settings.maxLimit state.store
      (retrieval settings.maxLimit spaceId query) = .ok response :=
    ⟨_, InMemory.query_eq_cut hvalid hle rfl (Nat.zero_le _)⟩
  have hservice : (Assembly.inMemory settings clock).services.retrieval.query timeOfDay
      (retrieval settings.maxLimit spaceId query) state = (.ok response, state) :=
    congrArg (·, state) hanswer
  refine ⟨recallOutcome query response, ?_⟩
  have hmax : (Assembly.inMemory settings clock).settings.maxLimit = settings.maxLimit := rfl
  simp only [recollect, hspace, hmax, hservice]

end Call

end ContractEngine

end Benchmark

end Recollection
