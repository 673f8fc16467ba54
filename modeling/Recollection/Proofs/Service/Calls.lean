import Recollection.Assembly.Basic
import Recollection.Proofs.Memory.Store
/-!
# What one call does

Everything a call to the services in memory can do to the state is said here once, so that no later
proof opens a service. A write is allowed or refused by the live version, a removal always answers,
and a batch is rejected, diverges, or is taken in (`ingest_cases`).

What a batch comes to depends on the ledger only through `remembered`: the fingerprint under which
a record was accepted with an idempotency key.
-/

set_option autoImplicit false

namespace Recollection

/-- The memory that is to be written. -/
def Storage.UpsertRequest.key (request : Storage.UpsertRequest) : MemoryKey :=
  ⟨request.spaceId, request.memoryId⟩

/-- The memory that is to be removed. -/
def Storage.DeleteRequest.key (request : Storage.DeleteRequest) : MemoryKey :=
  ⟨request.spaceId, request.memoryId⟩

/-- The memory that a record is stored as. -/
def Ingestion.Record.key (record : Ingestion.Record) : MemoryKey :=
  ⟨record.spaceId, record.recordId⟩

namespace InMemory

/-! ## Storage -/

variable (clock : Clock) (timeOfDay : EpochMillis)

/-- Requests to write have no invariant to break, so a write is what the store makes of it. -/
theorem upsert_eq (request : Storage.UpsertRequest) (state : State) :
    upsert clock timeOfDay request state =
      match state.store.write request.key request.layer request.payload request.expectedVersion
          (clock.read timeOfDay) with
      | (.error fault, store) => (.error fault, { state with store })
      | (.ok memory, store) =>
        (.ok ⟨request.spaceId, request.memoryId, true, memory.persistedAtMillis, memory.version⟩,
          { state with store }) :=
  rfl

/-- A write is refused as the live version says and leaves the state as it is, or it goes ahead and
puts the memory into the store. -/
theorem upsert_cases (request : Storage.UpsertRequest) (state : State) :
    (∃ fault, Store.checkVersion request.key request.expectedVersion
        (state.store.liveVersion? request.key) = .error fault ∧
      upsert clock timeOfDay request state = (.error fault, state)) ∨
    (Store.checkVersion request.key request.expectedVersion
        (state.store.liveVersion? request.key) = .ok () ∧
      upsert clock timeOfDay request state =
        (.ok ⟨request.spaceId, request.memoryId, true, clock.read timeOfDay,
          (state.store.put request.key request.layer request.payload
            (clock.read timeOfDay)).1.version⟩,
          { state with store := (state.store.put request.key request.layer request.payload
              (clock.read timeOfDay)).2 })) := by
  rw [upsert_eq, Store.write, Store.liveVersion?]
  cases Store.checkVersion request.key request.expectedVersion
      ((state.store.get? request.key).map StoredMemory.version) with
  | error fault => exact .inl ⟨fault, rfl, rfl⟩
  | ok _ => exact .inr ⟨rfl, rfl⟩

/-- Writing leaves the ledger alone. -/
theorem upsert_ledger (request : Storage.UpsertRequest) (state : State) :
    (upsert clock timeOfDay request state).2.ledger = state.ledger := by
  rcases upsert_cases clock timeOfDay request state with ⟨_, _, hupsert⟩ | ⟨_, hupsert⟩
  · rw [hupsert]
  · rw [hupsert]

/-- A removal always answers. -/
theorem delete_eq (request : Storage.DeleteRequest) (state : State) :
    delete timeOfDay request state =
      (.ok ⟨request.spaceId, request.memoryId, (state.store.remove request.key).1⟩,
        { state with store := (state.store.remove request.key).2 }) :=
  rfl

/-! ## Ingestion -/

/-- The fingerprint under which a record was accepted with an idempotency key. -/
def remembered (ledger : Ledger) (idempotencyKey : String) (id : MemoryId) : Option String :=
  (ledger.get? idempotencyKey).bind fun accepted => accepted.get? id

/-- The standing of a record that is sent with an idempotency key. -/
def standingUnder (ledger : Ledger) (idempotencyKey : String) (record : Ingestion.Record) :
    Standing :=
  standing ((ledger.get? idempotencyKey).getD .empty) record.recordId (fingerprint record)

/-- The records of a batch that have a standing, in the order of the batch. -/
def recordsOf (kind : Standing) (ledger : Ledger) (request : Ingestion.Request) :
    List Ingestion.Record :=
  request.records.filter fun record =>
    standingUnder ledger request.idempotencyKey record = kind

theorem mem_recordsOf {kind : Standing} {ledger : Ledger} {request : Ingestion.Request}
    {record : Ingestion.Record} :
    record ∈ recordsOf kind ledger request ↔
      record ∈ request.records ∧ standingUnder ledger request.idempotencyKey record = kind := by
  rw [recordsOf, List.mem_filter, decide_eq_true_iff]

theorem standingUnder_eq_remembered (ledger : Ledger) (idempotencyKey : String)
    (record : Ingestion.Record) :
    standingUnder ledger idempotencyKey record =
      match remembered ledger idempotencyKey record.recordId with
      | none => .new
      | some previous => if previous = fingerprint record then .duplicate else .changed := by
  unfold standingUnder remembered standing
  cases ledger.get? idempotencyKey <;> rfl

theorem standingUnder_eq_new_iff {ledger : Ledger} {idempotencyKey : String}
    {record : Ingestion.Record} :
    standingUnder ledger idempotencyKey record = .new ↔
      remembered ledger idempotencyKey record.recordId = none := by
  rw [standingUnder_eq_remembered]
  cases remembered ledger idempotencyKey record.recordId with
  | none => simp
  | some previous => by_cases hsame : previous = fingerprint record <;> simp [hsame]

theorem standingUnder_eq_changed_iff {ledger : Ledger} {idempotencyKey : String}
    {record : Ingestion.Record} :
    standingUnder ledger idempotencyKey record = .changed ↔
      ∃ previous, remembered ledger idempotencyKey record.recordId = some previous ∧
        previous ≠ fingerprint record := by
  rw [standingUnder_eq_remembered]
  cases remembered ledger idempotencyKey record.recordId with
  | none => simp
  | some previous => by_cases hsame : previous = fingerprint record <;> simp [hsame]

/-- The records of a batch that an answer accepts. -/
def acceptedRecords (request : Ingestion.Request) (response : Ingestion.Response) :
    List Ingestion.Record :=
  request.records.filter fun record => response.acceptedRecordIds.contains record.recordId

/-- Taking in a batch accepts its new records. -/
theorem acceptedRecords_eq (request : Ingestion.Request) (ledger : Ledger)
    (duplicates : List MemoryId) (now : EpochMillis) :
    acceptedRecords request
        ⟨(recordsOf .new ledger request).map Ingestion.Record.recordId, duplicates, now⟩ =
      recordsOf .new ledger request := by
  refine List.filter_congr fun record hrecord => ?_
  rw [Bool.eq_iff_iff, List.contains_iff_mem, decide_eq_true_iff, List.mem_map]
  constructor
  · rintro ⟨other, hother, hsame⟩
    have hnew := (mem_recordsOf.1 hother).2
    rw [standingUnder_eq_new_iff, hsame] at hnew
    exact standingUnder_eq_new_iff.2 hnew
  · intro hnew
    exact ⟨record, mem_recordsOf.2 ⟨hrecord, hnew⟩, rfl⟩

/-- Classifying a batch and picking one standing is filtering by it. -/
theorem ofStanding_classify (kind : Standing) (ledger : Ledger) (request : Ingestion.Request) :
    ofStanding kind
        (classify ((ledger.get? request.idempotencyKey).getD .empty) request.records) =
      (recordsOf kind ledger request).map fun record => (record, fingerprint record) := by
  unfold recordsOf standingUnder
  induction request.records with
  | nil => rfl
  | cons record rest ih =>
    simp only [classify, ofStanding, List.map_cons, List.filterMap_cons, List.filter_cons] at ih ⊢
    split <;> simp_all

theorem idsOf_ofStanding (kind : Standing) (ledger : Ledger) (request : Ingestion.Request) :
    idsOf (ofStanding kind
        (classify ((ledger.get? request.idempotencyKey).getD .empty) request.records)) =
      (recordsOf kind ledger request).map Ingestion.Record.recordId := by
  rw [ofStanding_classify, idsOf, List.map_map]
  rfl

/-- Opening an entry that the ledger has already changes nothing. -/
theorem openEntry_of_remembered {state : State} {idempotencyKey : String} {id : MemoryId}
    {print : String} (hremembered : remembered state.ledger idempotencyKey id = some print) :
    openEntry state idempotencyKey = state := by
  obtain ⟨accepted, hentry, -⟩ := Option.bind_eq_some_iff.1 hremembered
  unfold openEntry
  rw [hentry, Option.getD_some, SortedMap.insert_of_get?_eq_some hentry]

/-- Takes in the new records of a batch: each is stored and remembered. -/
def takeIn (now : EpochMillis) (request : Ingestion.Request) (state : State) : State :=
  ((recordsOf .new state.ledger request).map fun record => (record, fingerprint record)).foldl
    (acceptRecord request.idempotencyKey now) (openEntry state request.idempotencyKey)

/-- What becomes of a batch, in terms of the records of each standing. -/
theorem ingestValid_eq (now : EpochMillis) (request : Ingestion.Request) (state : State) :
    ingestValid now request state =
      if (recordsOf .changed state.ledger request).isEmpty then
        (.ok ⟨(recordsOf .new state.ledger request).map Ingestion.Record.recordId,
          (recordsOf .duplicate state.ledger request).map Ingestion.Record.recordId, now⟩,
          takeIn now request state)
      else
        (.error (.diverged ⟨request.idempotencyKey,
          (recordsOf .changed state.ledger request).map Ingestion.Record.recordId⟩),
          openEntry state request.idempotencyKey) := by
  unfold ingestValid takeIn
  simp only [idsOf_ofStanding, List.isEmpty_map]
  rw [ofStanding_classify]

/-- A batch is rejected by its contract; or it diverges from what was accepted before and leaves the
state as it is; or its new records are taken in and the others are duplicates. -/
theorem ingest_cases (request : Ingestion.Request) (state : State) :
    (∃ rejection, Ingestion.Request.contract.validate request = .error rejection ∧
      ingest clock timeOfDay request state = (.error (.rejected rejection), state)) ∨
    (Ingestion.Request.contract.validate request = .ok () ∧
      recordsOf .changed state.ledger request ≠ [] ∧
      ingest clock timeOfDay request state =
        (.error (.diverged ⟨request.idempotencyKey,
          (recordsOf .changed state.ledger request).map Ingestion.Record.recordId⟩), state)) ∨
    (Ingestion.Request.contract.validate request = .ok () ∧
      recordsOf .changed state.ledger request = [] ∧
      ingest clock timeOfDay request state =
        (.ok ⟨(recordsOf .new state.ledger request).map Ingestion.Record.recordId,
            (recordsOf .duplicate state.ledger request).map Ingestion.Record.recordId,
            clock.read timeOfDay⟩,
          takeIn (clock.read timeOfDay) request state)) := by
  unfold ingest
  cases hvalid : Ingestion.Request.contract.validate request with
  | error rejection => exact .inl ⟨rejection, rfl, rfl⟩
  | ok _ =>
    refine .inr ?_
    dsimp only
    rw [ingestValid_eq]
    cases hchanged : recordsOf .changed state.ledger request with
    | nil => exact .inr ⟨rfl, rfl, rfl⟩
    | cons record rest =>
      -- a changed record was accepted before, so its key has an entry already
      have hmember : record ∈ recordsOf .changed state.ledger request := by simp [hchanged]
      obtain ⟨previous, hremembered, -⟩ :=
        standingUnder_eq_changed_iff.1 (mem_recordsOf.1 hmember).2
      refine .inl ⟨rfl, by simp, ?_⟩
      rw [openEntry_of_remembered hremembered]
      rfl

/-- What an answer accepts are the new records of the batch. -/
theorem acceptedRecords_of_ingest {request : Ingestion.Request} {state : State}
    {response : Ingestion.Response}
    (hok : (ingest clock timeOfDay request state).1 = .ok response) :
    acceptedRecords request response = recordsOf .new state.ledger request := by
  rcases ingest_cases clock timeOfDay request state with
    ⟨_, _, hingest⟩ | ⟨_, _, hingest⟩ | ⟨_, _, hingest⟩
  · rw [hingest] at hok
    cases hok
  · rw [hingest] at hok
    cases hok
  · rw [hingest] at hok
    obtain rfl := Except.ok.inj hok
    exact acceptedRecords_eq _ _ _ _

end InMemory

end Recollection
