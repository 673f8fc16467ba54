import Recollection.Proofs.Service.Fingerprint
/-!
# Equal batches that are sent again

Requests are compared as values: the order of members in a payload does not matter, and binary64
numbers are compared as numbers, so the two zeros are equal. A fingerprint is taken of the canonical
text instead, in which the zeros differ. A batch that equals one that went through is therefore a
repetition of it as long as no zero is met by the other one, whatever happens in between; and the
condition cannot be left out.
-/

set_option autoImplicit false

namespace Recollection

namespace Ingestion

/-- Two records are equal as values. -/
structure Record.Equal (record other : Record) : Prop where
  /-- The same identifier. -/
  recordId : record.recordId = other.recordId
  /-- The same space. -/
  spaceId : record.spaceId = other.spaceId
  /-- The same layer. -/
  layer : record.layer = other.layer
  /-- Equal payloads. -/
  payload : record.payload.sameValue other.payload = true

/-- Two batches are equal as values. -/
structure Request.Equal (request other : Request) : Prop where
  /-- The same source. -/
  source : request.source = other.source
  /-- The same key. -/
  idempotencyKey : request.idempotencyKey = other.idempotencyKey
  /-- The same time of the events. -/
  occurredAtMillis : request.occurredAtMillis = other.occurredAtMillis
  /-- Equal records, one by one. -/
  records : List.Forall₂ Record.Equal request.records other.records

/-- In the payloads of two batches, numbers that correspond have one sign. -/
def Request.SameSigns (request other : Request) : Prop :=
  List.Forall₂ (fun a b => Json.SameSigns a.payload b.payload) request.records other.records

theorem Request.Equal.recordIds {request other : Request} (hequal : request.Equal other) :
    request.recordIds = other.recordIds := by
  have hids : List.Forall₂ (fun a b => a.recordId = b.recordId) request.records other.records :=
    hequal.records.imp fun _ _ hrecord => hrecord.recordId
  have hmaps : List.Forall₂ (· = ·) request.recordIds other.recordIds := by
    unfold Request.recordIds
    rw [List.forall₂_map_left_iff, List.forall₂_map_right_iff]
    exact hids
  rwa [List.forall₂_eq_eq_eq] at hmaps

theorem Request.Equal.validate {request other : Request} (hequal : request.Equal other)
    (hvalid : Request.contract.validate request = .ok ()) :
    Request.contract.validate other = .ok () := by
  rw [Request.validate_eq_ok_iff] at hvalid ⊢
  rw [← hequal.source, ← hequal.idempotencyKey, ← hequal.recordIds]
  exact hvalid

/-- Every record of a batch corresponds to one of an equal batch. -/
theorem Request.Equal.exists_original {request other : Request} (hequal : request.Equal other)
    (hsigns : request.SameSigns other) {record : Record} (hrecord : record ∈ other.records) :
    ∃ original ∈ request.records, original.Equal record ∧
      original.payload.SameSigns record.payload := by
  obtain ⟨index, hindex, rfl⟩ := List.getElem_of_mem hrecord
  have hlength : index < request.records.length := by
    rw [hequal.records.length_eq]
    exact hindex
  exact ⟨request.records[index], List.getElem_mem hlength, hequal.records.get hlength hindex,
    hsigns.get hlength hindex⟩

end Ingestion

namespace InMemory

/-- Equal records have one fingerprint, if their numbers have the same signs. -/
theorem fingerprint_eq_of_equal {record other : Ingestion.Record} (hequal : record.Equal other)
    (hsigns : record.payload.SameSigns other.payload) :
    fingerprint record = fingerprint other := by
  have hnormal : (content record).normal = (content other).normal :=
    normal_content_eq_iff.2 ⟨hequal.spaceId, hequal.layer,
      Json.normal_eq_of_sameValue hequal.payload hsigns⟩
  rw [fingerprint_eq_digest, fingerprint_eq_digest, Json.digest, Json.digest, Json.canonical,
    Json.canonical, hnormal]

section Runs

variable {settings : Settings} {clock : Clock} {calls : List Invocation} {before after : List Turn}
  {now : EpochMillis} {request : Ingestion.Request}

/-- Every record of a batch that goes through has been accepted with its fingerprint, then or
before. -/
theorem exists_acceptance_of_ok {response : Ingestion.Response}
    (hsplit : transcript settings clock calls =
      before ++ .ingest now request (.ok response) :: after)
    {record : Ingestion.Record} (hrecord : record ∈ request.records) :
    ∃ acceptance ∈ acceptances (before ++ [.ingest now request (.ok response)]),
      acceptance.idempotencyKey = request.idempotencyKey ∧
        acceptance.record.recordId = record.recordId ∧
          fingerprint acceptance.record = fingerprint record := by
  rw [acceptances_concat]
  by_cases haccepted : WasAccepted before request.idempotencyKey record.recordId
  · obtain ⟨acceptance, hmem, hkey, hid⟩ := haccepted
    exact ⟨acceptance, List.mem_append_left _ hmem, hkey, hid,
      fingerprint_eq_of_accepted hsplit hmem hkey hrecord hid⟩
  · obtain ⟨-, hanswers⟩ := answersHistory_of_ok hsplit
    have hnew : record.recordId ∈ response.acceptedRecordIds := by
      rw [hanswers.accepted response rfl, List.mem_filter]
      exact ⟨List.mem_map_of_mem hrecord, decide_eq_true haccepted⟩
    have hmem : record ∈ acceptedRecords request response :=
      List.mem_filter.2 ⟨hrecord, List.contains_iff_mem.2 hnew⟩
    exact ⟨⟨request.idempotencyKey, record⟩, List.mem_append_right _ (List.mem_map_of_mem hmem),
      rfl, rfl, rfl⟩

/-- A batch whose records have all been accepted with their fingerprints is a repetition. -/
theorem answered_as_repetition {answer : Except Ingestion.Fault Ingestion.Response}
    (hsplit : transcript settings clock calls = before ++ .ingest now request answer :: after)
    (hvalid : Ingestion.Request.contract.validate request = .ok ())
    (hknown : ∀ record ∈ request.records, ∃ acceptance ∈ acceptances before,
      acceptance.idempotencyKey = request.idempotencyKey ∧
        acceptance.record.recordId = record.recordId ∧
          fingerprint acceptance.record = fingerprint record) :
    ∃ response, answer = .ok response ∧ response.acceptedRecordIds = [] ∧
      response.duplicateRecordIds = request.recordIds := by
  obtain ⟨earlier, call, rfl, hturn⟩ := transcript_split hsplit
  obtain ⟨-, hingest⟩ := perform_eq_ingest hturn.symm
  have hfollows := LedgerFollows.run settings clock earlier
  have hanswers := hfollows.answersHistory clock call.timeOfDay hvalid
  rw [hingest] at hanswers
  have hsame : ∀ record ∈ request.records,
      ¬ Diverges (transcript settings clock earlier) request.idempotencyKey record := by
    rintro record hrecord ⟨other, hother, hkey, hid, hne⟩
    obtain ⟨acceptance, hmem, hkey', hid', hprint⟩ := hknown record hrecord
    -- the ledger remembers one fingerprint for both
    have hledger := (hfollows.remembers _ _ _).2 ⟨other, hother, hkey, hid, rfl⟩
    have hledger' := (hfollows.remembers _ _ _).2 ⟨acceptance, hmem, hkey', hid', hprint⟩
    rw [hledger] at hledger'
    exact hne (Option.some.inj hledger')
  have haccepted : ∀ id ∈ request.recordIds,
      WasAccepted (transcript settings clock earlier) request.idempotencyKey id := by
    intro id hmem
    obtain ⟨record, hrecord, rfl⟩ := List.mem_map.1 hmem
    obtain ⟨acceptance, hacceptance, hkey, hid, -⟩ := hknown record hrecord
    exact ⟨acceptance, hacceptance, hkey, hid⟩
  cases answer with
  | error fault => exact absurd (hanswers.isOk_iff.2 hsame) (by simp [Except.isOk, Except.toBool])
  | ok response =>
    refine ⟨response, rfl, ?_, ?_⟩
    · rw [hanswers.accepted response rfl, List.filter_eq_nil_iff]
      intro id hmem
      simpa using haccepted id hmem
    · rw [hanswers.duplicate response rfl, List.filter_eq_self]
      intro id hmem
      simpa using haccepted id hmem

end Runs

/-- Sending an equal batch again is a repetition, as long as no zero is met by one of the other
sign: if a batch went through, an equal one that comes later goes through too, accepts nothing and
counts every record as a duplicate. Equal records then have one fingerprint, and equal values one
digest. Values are equal if they are alike up to the order of members, with numbers compared as
numbers. -/
theorem equal_batch_repeats :
    (∀ (settings : Settings) (clock : Clock) (calls : List Invocation) before now first response
        between later second answer after, transcript settings clock calls =
          before ++ .ingest now first (.ok response) ::
            (between ++ .ingest later second answer :: after) →
      first.Equal second → first.SameSigns second →
      ∃ response', answer = .ok response' ∧ response'.acceptedRecordIds = [] ∧
        response'.duplicateRecordIds = second.recordIds) ∧
    (∀ record other : Ingestion.Record, record.Equal other →
      record.payload.SameSigns other.payload → fingerprint record = fingerprint other) ∧
    (∀ a b : Json, a.sameValue b = true → a.SameSigns b → a.digest = b.digest) ∧
    ∀ a b : Json, a.WellFormed → b.WellFormed →
      (a.sameValue b = true ↔ Json.Alike (fun x y => x.same y = true) a b) := by
  refine ⟨?_, fun _ _ => fingerprint_eq_of_equal, ?_,
    fun _ _ ha hb => Json.sameValue_iff_alike ha hb⟩
  · intro settings clock calls before now first response between later second answer after hsplit
      hequal hsigns
    obtain ⟨hvalid, -⟩ := answersHistory_of_ok hsplit
    have hsplit' : transcript settings clock calls =
        (before ++ .ingest now first (.ok response) :: between) ++
          .ingest later second answer :: after := by
      rw [hsplit, List.append_assoc, List.cons_append]
    refine answered_as_repetition hsplit' (hequal.validate hvalid) ?_
    intro record hrecord
    -- the record corresponds to one of the first batch, which was accepted by then
    obtain ⟨original, horiginal, hrecordEqual, hrecordSigns⟩ :=
      hequal.exists_original hsigns hrecord
    obtain ⟨acceptance, hacceptance, hkey, hid, hprint⟩ := exists_acceptance_of_ok hsplit horiginal
    refine ⟨acceptance, ?_, hkey.trans hequal.idempotencyKey, hid.trans hrecordEqual.recordId,
      hprint.trans (fingerprint_eq_of_equal hrecordEqual hrecordSigns)⟩
    rw [show before ++ .ingest now first (.ok response) :: between =
      before ++ [.ingest now first (.ok response)] ++ between by simp, acceptances,
      List.flatMap_append]
    exact List.mem_append_left _ hacceptance
  · intro a b hvalue hsigns
    rw [Json.digest, Json.digest, Json.canonical, Json.canonical,
      Json.normal_eq_of_sameValue hvalue hsigns]

/-- A batch of one record. -/
def delivery (payload : Json) : Ingestion.Request where
  source := "smithy"
  idempotencyKey := "delivery"
  occurredAtMillis := 0
  records := [⟨anvil, village, .episodic, payload⟩]

/-- A delivery note. -/
def note : Json :=
  .object [("weight", .double .one), ("name", .string "anvil")]

/-- The note with its members in the other order. -/
def turnedNote : Json :=
  .object [("name", .string "anvil"), ("weight", .double .one)]

/-- A delivery that is sent again with its note turned is told to be a repetition. -/
theorem turnedNote_repeats :
    ∃ response answer, transcript .deterministic .deterministic
        [⟨0, .ingest (delivery note)⟩, ⟨0, .ingest (delivery turnedNote)⟩] =
          [.ingest Clock.deterministicInstant (delivery note) (.ok response),
            .ingest Clock.deterministicInstant (delivery turnedNote) answer] ∧
      ∃ response', answer = .ok response' ∧ response'.acceptedRecordIds = [] ∧
        response'.duplicateRecordIds = [anvil] := by
  have hfirst : (ingest .deterministic 0 (delivery note) .empty).1 =
      .ok ⟨[anvil], [], Clock.deterministicInstant⟩ := by decide +kernel
  have hsplit : transcript .deterministic .deterministic
      [⟨0, .ingest (delivery note)⟩, ⟨0, .ingest (delivery turnedNote)⟩] =
        [.ingest Clock.deterministicInstant (delivery note)
            (.ok ⟨[anvil], [], Clock.deterministicInstant⟩),
          .ingest Clock.deterministicInstant (delivery turnedNote)
            (ingest .deterministic 0 (delivery turnedNote)
              (stateAfter .deterministic .deterministic [⟨0, .ingest (delivery note)⟩])).1] := by
    rw [← hfirst]
    rfl
  have hnormal : note.normal = turnedNote.normal := by decide
  have hequal : (delivery note).Equal (delivery turnedNote) :=
    ⟨rfl, rfl, rfl, .cons ⟨rfl, rfl, rfl, by decide⟩ .nil⟩
  have hsigns : (delivery note).SameSigns (delivery turnedNote) :=
    .cons ((Json.matches_eq_iff.2 hnormal).and (fun _ _ hsame _ => congrArg _ hsame)
      (Json.matches_eq_iff.2 hnormal)) .nil
  exact ⟨_, _, hsplit,
    equal_batch_repeats.1 _ _ _ [] _ _ _ [] _ _ _ [] hsplit hequal hsigns⟩

/-- The zero with a sign. -/
def negativeZero : Binary64 :=
  .ofMagnitude true 0

/-- Without the condition on signs this fails: deliveries of the two zeros are equal, but the second
one is refused after the first, and neither the fingerprints nor the digests agree. -/
theorem zeros_diverge :
    (delivery (.double .zero)).Equal (delivery (.double negativeZero)) ∧
    transcript .deterministic .deterministic
        [⟨0, .ingest (delivery (.double .zero))⟩, ⟨0, .ingest (delivery (.double negativeZero))⟩] =
      [.ingest Clock.deterministicInstant (delivery (.double .zero))
          (.ok ⟨[anvil], [], Clock.deterministicInstant⟩),
        .ingest Clock.deterministicInstant (delivery (.double negativeZero))
          (.error (.diverged ⟨"delivery", [anvil]⟩))] ∧
    (∃ record other : Ingestion.Record, record.Equal other ∧
      fingerprint record ≠ fingerprint other) ∧
    ∃ a b : Json, a.sameValue b = true ∧ a.digest ≠ b.digest := by
  have hvalue : (Json.double .zero).sameValue (.double negativeZero) = true := by decide
  have hequal : (⟨anvil, village, .episodic, .double .zero⟩ : Ingestion.Record).Equal
      ⟨anvil, village, .episodic, .double negativeZero⟩ := ⟨rfl, rfl, rfl, hvalue⟩
  have hfirst : (ingest .deterministic 0 (delivery (.double .zero)) .empty).1 =
      .ok ⟨[anvil], [], Clock.deterministicInstant⟩ := by decide +kernel
  have hsecond : (ingest .deterministic 0 (delivery (.double negativeZero))
      (ingest .deterministic 0 (delivery (.double .zero)) .empty).2).1 =
        .error (.diverged ⟨"delivery", [anvil]⟩) := by decide +kernel
  refine ⟨⟨rfl, rfl, rfl, .cons hequal .nil⟩, ?_, ⟨_, _, hequal, by decide +kernel⟩,
    ⟨_, _, hvalue, by decide +kernel⟩⟩
  rw [← hfirst, ← hsecond]
  rfl

end InMemory

end Recollection
