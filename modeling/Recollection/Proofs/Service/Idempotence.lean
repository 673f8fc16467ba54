import Recollection.Proofs.Contract.Check
import Recollection.Proofs.Service.Transcript
/-!
# Idempotent ingestion

What a batch is answered follows from the transcript alone: from the records that earlier batches
under the same key had accepted, and from the fingerprints of their contents. Nothing else that
happened in between matters, whether it wrote to the store, removed from it, or failed.

The ledger carries this (`LedgerFollows`): it remembers exactly the acceptances of the transcript,
and none of them was made twice. Every call preserves both.
-/

set_option autoImplicit false

namespace Recollection.InMemory

/-! ## Acceptances -/

/-- A record that was accepted under an idempotency key. -/
structure Acceptance where
  /-- The key. -/
  idempotencyKey : String
  /-- The record. -/
  record : Ingestion.Record
deriving DecidableEq

/-- The key and the record's identifier, which may come together once only. -/
def Acceptance.pair (acceptance : Acceptance) : String × MemoryId :=
  (acceptance.idempotencyKey, acceptance.record.recordId)

/-- The acceptances that a turn reports. -/
def Turn.acceptances : Turn → List Acceptance
  | .ingest _ request (.ok response) =>
    (acceptedRecords request response).map fun record => ⟨request.idempotencyKey, record⟩
  | _ => []

/-- The acceptances that a transcript reports, in their order. -/
def acceptances (history : List Turn) : List Acceptance :=
  history.flatMap Turn.acceptances

/-- Whether an identifier was accepted under a key. -/
def WasAccepted (history : List Turn) (idempotencyKey : String) (id : MemoryId) : Prop :=
  ∃ acceptance ∈ acceptances history,
    acceptance.idempotencyKey = idempotencyKey ∧ acceptance.record.recordId = id

/-- Whether a record's identifier was accepted under a key with another content. -/
def Diverges (history : List Turn) (idempotencyKey : String) (record : Ingestion.Record) : Prop :=
  ∃ acceptance ∈ acceptances history,
    acceptance.idempotencyKey = idempotencyKey ∧
      acceptance.record.recordId = record.recordId ∧
        fingerprint acceptance.record ≠ fingerprint record

instance (history : List Turn) (idempotencyKey : String) (id : MemoryId) :
    Decidable (WasAccepted history idempotencyKey id) :=
  inferInstanceAs (Decidable (∃ acceptance ∈ _, _ ∧ _))

instance (history : List Turn) (idempotencyKey : String) (record : Ingestion.Record) :
    Decidable (Diverges history idempotencyKey record) :=
  inferInstanceAs (Decidable (∃ acceptance ∈ _, _ ∧ _ ∧ _))

theorem acceptances_concat (history : List Turn) (turn : Turn) :
    acceptances (history ++ [turn]) = acceptances history ++ turn.acceptances := by
  simp [acceptances]

/-! ## The ledger after a batch -/

theorem remembered_openEntry (state : State) (idempotencyKey other : String) (id : MemoryId) :
    remembered (openEntry state idempotencyKey).ledger other id =
      remembered state.ledger other id := by
  simp only [remembered, openEntry, SortedMap.get?_insert]
  by_cases hkey : other = idempotencyKey
  · rw [if_pos hkey, hkey]
    cases state.ledger.get? idempotencyKey <;> rfl
  · rw [if_neg hkey]

theorem remembered_acceptRecord (idempotencyKey other : String) (now : EpochMillis) (state : State)
    (record : Ingestion.Record) (print : String) (id : MemoryId) :
    remembered (acceptRecord idempotencyKey now state (record, print)).ledger other id =
      if other = idempotencyKey ∧ id = record.recordId then some print
      else remembered state.ledger other id := by
  simp only [remembered, acceptRecord, SortedMap.get?_insert]
  by_cases hkey : other = idempotencyKey
  · subst hkey
    by_cases hid : id = record.recordId
    · simp [hid, SortedMap.get?_insert]
    · cases state.ledger.get? other <;> simp [hid, SortedMap.get?_insert]
  · simp [hkey]

/-- Accepting records one after the other makes the ledger remember them, and leaves what it
remembers of others. -/
theorem remembered_foldl_acceptRecord (idempotencyKey : String) (now : EpochMillis)
    (records : List Ingestion.Record) (state : State)
    (hnodup : (records.map Ingestion.Record.recordId).Nodup)
    (hnew : ∀ record ∈ records, remembered state.ledger idempotencyKey record.recordId = none)
    (other : String) (id : MemoryId) (print : String) :
    remembered ((records.map fun record => (record, fingerprint record)).foldl
        (acceptRecord idempotencyKey now) state).ledger other id = some print ↔
      remembered state.ledger other id = some print ∨
        ∃ record ∈ records, idempotencyKey = other ∧ record.recordId = id ∧
          fingerprint record = print := by
  induction records generalizing state with
  | nil => simp
  | cons record rest ih =>
    obtain ⟨hfirst, hrest⟩ := List.nodup_cons.1 hnodup
    have hstill : ∀ later ∈ rest, remembered (acceptRecord idempotencyKey now state
        (record, fingerprint record)).ledger idempotencyKey later.recordId = none := by
      intro later hlater
      have hne : later.recordId ≠ record.recordId := by
        intro hsame
        exact hfirst (hsame ▸ List.mem_map_of_mem hlater)
      rw [remembered_acceptRecord, if_neg fun hboth => hne hboth.2]
      exact hnew later (List.mem_cons_of_mem _ hlater)
    rw [List.map_cons, List.foldl_cons, ih _ hrest hstill, remembered_acceptRecord]
    have habsent := hnew record List.mem_cons_self
    by_cases hboth : other = idempotencyKey ∧ id = record.recordId
    · obtain ⟨rfl, rfl⟩ := hboth
      simp [habsent]
    · rw [if_neg hboth]
      grind

/-- What the ledger remembers after a batch: what it did before, and the new records. -/
theorem remembered_takeIn (now : EpochMillis) (request : Ingestion.Request) (state : State)
    (hnodup : request.recordIds.Nodup) (other : String) (id : MemoryId) (print : String) :
    remembered (takeIn now request state).ledger other id = some print ↔
      remembered state.ledger other id = some print ∨
        ∃ record ∈ recordsOf .new state.ledger request,
          request.idempotencyKey = other ∧ record.recordId = id ∧ fingerprint record = print := by
  have hsublist : (recordsOf .new state.ledger request).Sublist request.records :=
    List.filter_sublist
  unfold takeIn
  rw [remembered_foldl_acceptRecord]
  · rw [remembered_openEntry]
  · exact (hsublist.map _).nodup hnodup
  · intro record hrecord
    rw [remembered_openEntry]
    exact standingUnder_eq_new_iff.1 (mem_recordsOf.1 hrecord).2

/-! ## The ledger and the transcript -/

/-- The ledger remembers the acceptances of a transcript, and none of them was made twice. -/
structure LedgerFollows (history : List Turn) (state : State) : Prop where
  /-- No identifier was accepted twice under one key. -/
  once : ((acceptances history).map Acceptance.pair).Nodup
  /-- The ledger holds the fingerprint of the acceptance. -/
  remembers : ∀ idempotencyKey id print,
    remembered state.ledger idempotencyKey id = some print ↔
      ∃ acceptance ∈ acceptances history, acceptance.idempotencyKey = idempotencyKey ∧
        acceptance.record.recordId = id ∧ fingerprint acceptance.record = print

namespace LedgerFollows

variable {history : List Turn} {state : State}

theorem empty : LedgerFollows [] .empty where
  once := by simp [acceptances]
  remembers := by
    intro idempotencyKey id print
    simp [acceptances, remembered, State.empty]

/-- A record is new exactly when its identifier was not accepted under the key. -/
theorem standing_eq_new_iff (hfollows : LedgerFollows history state) (idempotencyKey : String)
    (record : Ingestion.Record) :
    standingUnder state.ledger idempotencyKey record = .new ↔
      ¬ WasAccepted history idempotencyKey record.recordId := by
  rw [standingUnder_eq_new_iff, Option.eq_none_iff_forall_ne_some]
  constructor
  · rintro hnone ⟨acceptance, hmem, hkey, hid⟩
    exact hnone _ ((hfollows.remembers _ _ _).2 ⟨acceptance, hmem, hkey, hid, rfl⟩)
  · intro hnot print hsome
    obtain ⟨acceptance, hmem, hkey, hid, -⟩ := (hfollows.remembers _ _ _).1 hsome
    exact hnot ⟨acceptance, hmem, hkey, hid⟩

/-- A record is changed exactly when it diverges from an acceptance. -/
theorem standing_eq_changed_iff (hfollows : LedgerFollows history state) (idempotencyKey : String)
    (record : Ingestion.Record) :
    standingUnder state.ledger idempotencyKey record = .changed ↔
      Diverges history idempotencyKey record := by
  rw [standingUnder_eq_changed_iff]
  constructor
  · rintro ⟨print, hsome, hne⟩
    obtain ⟨acceptance, hmem, hkey, hid, rfl⟩ := (hfollows.remembers _ _ _).1 hsome
    exact ⟨acceptance, hmem, hkey, hid, hne⟩
  · rintro ⟨acceptance, hmem, hkey, hid, hne⟩
    exact ⟨_, (hfollows.remembers _ _ _).2 ⟨acceptance, hmem, hkey, hid, rfl⟩, hne⟩

/-- A turn without acceptances that leaves the ledger alone changes nothing. -/
theorem of_ledger_eq (hfollows : LedgerFollows history state) {turn : Turn} {after : State}
    (hnone : turn.acceptances = []) (hledger : after.ledger = state.ledger) :
    LedgerFollows (history ++ [turn]) after where
  once := by
    rw [acceptances_concat, hnone, List.append_nil]
    exact hfollows.once
  remembers := by
    rw [acceptances_concat, hnone, List.append_nil, hledger]
    exact hfollows.remembers

/-- A batch that is taken in adds its new records on both sides. -/
theorem takeIn (hfollows : LedgerFollows history state) {request : Ingestion.Request}
    (hnodup : request.recordIds.Nodup) (now : EpochMillis) (duplicates : List MemoryId) :
    LedgerFollows
      (history ++ [.ingest now request (.ok
        ⟨(recordsOf .new state.ledger request).map Ingestion.Record.recordId, duplicates, now⟩)])
      (takeIn now request state) := by
  have hturn : acceptances (history ++ [.ingest now request (.ok
      ⟨(recordsOf .new state.ledger request).map Ingestion.Record.recordId, duplicates, now⟩)]) =
        acceptances history ++
          (recordsOf .new state.ledger request).map fun record =>
            ⟨request.idempotencyKey, record⟩ := by
    rw [acceptances_concat, Turn.acceptances, acceptedRecords_eq]
  constructor
  · rw [hturn, List.map_append, List.map_map, List.nodup_append]
    refine ⟨hfollows.once, ?_, ?_⟩
    · have hids : ((recordsOf .new state.ledger request).map Ingestion.Record.recordId).Nodup :=
        (List.filter_sublist.map _).nodup hnodup
      rw [List.Nodup, List.pairwise_map] at hids ⊢
      exact hids.imp fun hne hpair => hne (Prod.mk.inj hpair).2
    · intro old hold new hnew hsame
      obtain ⟨acceptance, hacceptance, rfl⟩ := List.mem_map.1 hold
      obtain ⟨record, hrecord, rfl⟩ := List.mem_map.1 hnew
      obtain ⟨hkey, hid⟩ := Prod.mk.inj hsame
      have hstanding := (mem_recordsOf.1 hrecord).2
      exact (hfollows.standing_eq_new_iff _ _).1 hstanding ⟨acceptance, hacceptance, hkey, hid⟩
  · intro idempotencyKey id print
    rw [hturn, remembered_takeIn now request state hnodup, hfollows.remembers]
    simp only [List.mem_append, List.mem_map]
    constructor
    · rintro (⟨acceptance, hacceptance, hmatch⟩ | ⟨record, hrecord, hmatch⟩)
      · exact ⟨acceptance, .inl hacceptance, hmatch⟩
      · exact ⟨_, .inr ⟨record, hrecord, rfl⟩, hmatch⟩
    · rintro ⟨acceptance, hacceptance | ⟨record, hrecord, rfl⟩, hmatch⟩
      · exact .inl ⟨acceptance, hacceptance, hmatch⟩
      · exact .inr ⟨record, hrecord, hmatch⟩

/-- Every call keeps the ledger and the transcript together. -/
theorem perform (hfollows : LedgerFollows history state) (settings : Settings) (clock : Clock)
    (call : Invocation) :
    LedgerFollows (history ++ [(perform settings clock call state).1])
      (perform settings clock call state).2 := by
  obtain ⟨timeOfDay, command⟩ := call
  cases command with
  | upsert request => exact hfollows.of_ledger_eq rfl (upsert_ledger clock timeOfDay request state)
  | delete request => exact hfollows.of_ledger_eq rfl rfl
  | query request => exact hfollows.of_ledger_eq rfl rfl
  | evaluate request => exact hfollows.of_ledger_eq rfl rfl
  | decide request => exact hfollows.of_ledger_eq rfl rfl
  | ingest request =>
    show LedgerFollows (history ++ [.ingest (clock.read timeOfDay) request
      (ingest clock timeOfDay request state).1]) (ingest clock timeOfDay request state).2
    rcases ingest_cases clock timeOfDay request state with
      ⟨_, _, hingest⟩ | ⟨_, _, hingest⟩ | ⟨hvalid, _, hingest⟩
    · rw [hingest]
      exact hfollows.of_ledger_eq rfl rfl
    · rw [hingest]
      exact hfollows.of_ledger_eq rfl rfl
    · rw [hingest]
      exact hfollows.takeIn ((Ingestion.Request.validate_eq_ok_iff request).1 hvalid).2.2 _ _

/-- The ledger follows the transcript of every run. -/
theorem run (settings : Settings) (clock : Clock) (calls : List Invocation) :
    LedgerFollows (transcript settings clock calls) (stateAfter settings clock calls) :=
  Run.induction LedgerFollows empty
    (fun _ _ call hfollows => hfollows.perform settings clock call) calls

end LedgerFollows

/-! ## Answers to batches -/

/-- What a batch is answered after a history: it goes through exactly when no record of it diverges,
the answer then splits its identifiers, and otherwise names the diverging ones. -/
structure AnswersHistory (history : List Turn) (request : Ingestion.Request)
    (answer : Except Ingestion.Fault Ingestion.Response) : Prop where
  /-- A batch goes through exactly when no record of it diverges. -/
  isOk_iff : answer.isOk = true ↔
    ∀ record ∈ request.records, ¬ Diverges history request.idempotencyKey record
  /-- What was not accepted before is accepted, in the order of the batch. -/
  accepted : ∀ response, answer = .ok response → response.acceptedRecordIds =
    request.recordIds.filter fun id => ¬ WasAccepted history request.idempotencyKey id
  /-- What was accepted before is a duplicate, in the order of the batch. -/
  duplicate : ∀ response, answer = .ok response → response.duplicateRecordIds =
    request.recordIds.filter fun id => WasAccepted history request.idempotencyKey id
  /-- The fault names the diverging records, in the order of the batch. -/
  diverged : ∀ fault, answer = .error fault → fault = .diverged ⟨request.idempotencyKey,
    (request.records.filter fun record =>
      Diverges history request.idempotencyKey record).map Ingestion.Record.recordId⟩

namespace LedgerFollows

variable {history : List Turn} {state : State}

theorem recordsOf_changed (hfollows : LedgerFollows history state) (request : Ingestion.Request) :
    recordsOf .changed state.ledger request =
      request.records.filter fun record => Diverges history request.idempotencyKey record := by
  refine List.filter_congr fun record _ => ?_
  rw [decide_eq_decide]
  exact hfollows.standing_eq_changed_iff _ _

theorem recordsOf_new (hfollows : LedgerFollows history state) (request : Ingestion.Request) :
    (recordsOf .new state.ledger request).map Ingestion.Record.recordId =
      request.recordIds.filter fun id => ¬ WasAccepted history request.idempotencyKey id := by
  rw [Ingestion.Request.recordIds, List.filter_map]
  congr 1
  refine List.filter_congr fun record _ => ?_
  rw [Function.comp, decide_eq_decide]
  exact hfollows.standing_eq_new_iff _ _

/-- Where no record diverges, the duplicates are what was accepted before. -/
theorem recordsOf_duplicate (hfollows : LedgerFollows history state) (request : Ingestion.Request)
    (hchanged : recordsOf .changed state.ledger request = []) :
    (recordsOf .duplicate state.ledger request).map Ingestion.Record.recordId =
      request.recordIds.filter fun id => WasAccepted history request.idempotencyKey id := by
  rw [Ingestion.Request.recordIds, List.filter_map]
  congr 1
  refine List.filter_congr fun record hrecord => ?_
  have hnew := hfollows.standing_eq_new_iff request.idempotencyKey record
  rw [Function.comp, decide_eq_decide]
  cases hstanding : standingUnder state.ledger request.idempotencyKey record with
  | new =>
    rw [hstanding] at hnew
    simp [hnew.1 rfl]
  | duplicate =>
    rw [hstanding] at hnew
    simpa using hnew
  | changed =>
    have hmem : record ∈ recordsOf .changed state.ledger request :=
      mem_recordsOf.2 ⟨hrecord, hstanding⟩
    rw [hchanged] at hmem
    cases hmem

/-- A batch that keeps its contract is answered by the history that the ledger follows. -/
theorem answersHistory (hfollows : LedgerFollows history state) (clock : Clock)
    (timeOfDay : EpochMillis) {request : Ingestion.Request}
    (hvalid : Ingestion.Request.contract.validate request = .ok ()) :
    AnswersHistory history request (ingest clock timeOfDay request state).1 := by
  rcases ingest_cases clock timeOfDay request state with
    ⟨rejection, hinvalid, _⟩ | ⟨_, hchanged, hingest⟩ | ⟨_, hchanged, hingest⟩
  · rw [hvalid] at hinvalid
    cases hinvalid
  · -- some record diverges, and the fault names all that do
    rw [hingest]
    constructor
    · constructor
      · intro hok
        cases hok
      · intro hnone
        obtain ⟨record, hrecord⟩ := List.exists_mem_of_ne_nil _ hchanged
        obtain ⟨hmem, hstanding⟩ := mem_recordsOf.1 hrecord
        exact absurd ((hfollows.standing_eq_changed_iff _ _).1 hstanding) (hnone record hmem)
    · intro response hok
      cases hok
    · intro response hok
      cases hok
    · rintro fault ⟨⟩
      rw [hfollows.recordsOf_changed]
  · -- no record diverges, so the others are split by what was accepted
    rw [hingest]
    constructor
    · refine ⟨fun _ record hmem hdiverges => ?_, fun _ => rfl⟩
      have hstanding := (hfollows.standing_eq_changed_iff _ _).2 hdiverges
      have hrecord := mem_recordsOf.2 ⟨hmem, hstanding⟩
      rw [hchanged] at hrecord
      cases hrecord
    · rintro response ⟨⟩
      exact hfollows.recordsOf_new request
    · rintro response ⟨⟩
      exact hfollows.recordsOf_duplicate request hchanged
    · intro fault herror
      cases herror

end LedgerFollows

/-- Ingestion is idempotent over whole runs. Whatever calls a run is made of, every batch that keeps
its contract is answered by what earlier batches under its key had accepted; no identifier is
accepted twice under one key; and the ledger remembers the fingerprint of each acceptance. -/
theorem ingestion_idempotent (settings : Settings) (clock : Clock) (calls : List Invocation) :
    (∀ before now request answer after,
      transcript settings clock calls = before ++ .ingest now request answer :: after →
      Ingestion.Request.contract.validate request = .ok () →
      AnswersHistory before request answer) ∧
    ((acceptances (transcript settings clock calls)).map Acceptance.pair).Nodup ∧
    ∀ acceptance ∈ acceptances (transcript settings clock calls),
      remembered (stateAfter settings clock calls).ledger acceptance.idempotencyKey
        acceptance.record.recordId = some (fingerprint acceptance.record) := by
  have hfollows := LedgerFollows.run settings clock calls
  refine ⟨?_, hfollows.once, ?_⟩
  · intro before now request answer after hsplit hvalid
    obtain ⟨earlier, call, rfl, hturn⟩ := transcript_split hsplit
    obtain ⟨-, hingest⟩ := perform_eq_ingest hturn.symm
    have hanswers := (LedgerFollows.run settings clock earlier).answersHistory clock
      call.timeOfDay hvalid
    rwa [hingest] at hanswers
  · intro acceptance hmem
    exact (hfollows.remembers _ _ _).2 ⟨acceptance, hmem, rfl, rfl, rfl⟩

/-- The second batch of the small run is refused, for the one record that has changed. -/
theorem changedBatch_answered :
    ∃ answer, transcript .deterministic .deterministic
        [⟨0, .ingest firstBatch⟩, ⟨0, .ingest changedBatch⟩] =
          transcript .deterministic .deterministic [⟨0, .ingest firstBatch⟩] ++
            [.ingest Clock.deterministicInstant changedBatch answer] ∧
      answer.isOk = false ∧
      AnswersHistory (transcript .deterministic .deterministic [⟨0, .ingest firstBatch⟩])
        changedBatch answer := by
  have hvalid : Ingestion.Request.contract.validate changedBatch = .ok () :=
    (Ingestion.Request.validate_eq_ok_iff changedBatch).2 (by decide +kernel)
  refine ⟨(ingest .deterministic 0 changedBatch
    (stateAfter .deterministic .deterministic [⟨0, .ingest firstBatch⟩])).1, rfl, ?_, ?_⟩
  · decide +kernel
  · exact (ingestion_idempotent .deterministic .deterministic
      [⟨0, .ingest firstBatch⟩, ⟨0, .ingest changedBatch⟩]).1 _ _ _ _ [] rfl hvalid

end Recollection.InMemory
