import Recollection.Benchmark.Fixture
import Recollection.Proofs.Service.Fingerprint
/-!
# Digests as identities

Three things are told apart by a digest: documents, records that are sent again, and calls of the
fixture. Each of them is put into one document whose canonical text is digested, so each is told up
to the order of members, and up to a collision of texts.
-/

set_option autoImplicit false

namespace Recollection

/-! ## Calls of the fixture -/

namespace Benchmark.Fixture

/-- What the digest of a call is taken of. -/
def Answer.call (answer : Answer) : Json :=
  .object [("operation", .string answer.operation.name), ("request", answer.request),
    ("stateFile", .string answer.stateFile)]

theorem Answer.normal_call (answer : Answer) :
    answer.call.normal = .object [("operation", .string answer.operation.name),
      ("request", answer.request.normal), ("stateFile", .string answer.stateFile)] := by
  have hrequest : ¬ "request" < "operation" ∧ ¬ "request" = "operation" := by decide
  have hstate : ¬ "stateFile" < "operation" ∧ ¬ "stateFile" = "operation" ∧
      ¬ "stateFile" < "request" ∧ ¬ "stateFile" = "request" := by decide
  simp only [call, Json.normal, Json.normalMembers, Json.sortMembers, List.foldl_cons,
    List.foldl_nil, Json.insertMember, hrequest, hstate, if_false]

theorem Answer.wellFormed_call {answer : Answer} (hrequest : answer.request.WellFormed) :
    answer.call.WellFormed := by
  have hkeys : (["operation", "request", "stateFile"] : List String).Nodup := by decide
  exact ⟨hkeys, trivial, hrequest, trivial, trivial⟩

/-- Two answers are to calls of one operation, with bodies that are the same up to the order of
members, and with one state file. -/
structure Answer.SameCall (answer other : Answer) : Prop where
  /-- One operation. -/
  operation : answer.operation = other.operation
  /-- The same body. -/
  request : Json.Alike (· = ·) answer.request other.request
  /-- One state file. -/
  stateFile : answer.stateFile = other.stateFile

/-- The body that counts is a document if the body is. -/
theorem wellFormed_normalBody {body : Json} (hbody : body.WellFormed) :
    (normalBody body).WellFormed := by
  cases body with
  | object members => exact hbody
  | _ => exact ⟨List.nodup_nil, trivial⟩

/-- An answer has the body that counts, and the digest of its call. -/
theorem invoke_spec {request : Request} {answer : Answer} (hanswer : invoke request = .ok answer) :
    answer.request = normalBody request.requestBody ∧
      answer.requestDigest = answer.call.digest := by
  unfold invoke at hanswer
  dsimp only at hanswer
  split at hanswer
  · cases hanswer
  · cases hanswer
    exact ⟨rfl, rfl⟩

/-- Calls with one digest are the same, or else their texts collide. -/
theorem sameCall_or_collision {request request' : Request} {answer answer' : Answer}
    (hbody : request.requestBody.WellFormed) (hbody' : request'.requestBody.WellFormed)
    (hanswer : invoke request = .ok answer) (hanswer' : invoke request' = .ok answer')
    (hdigest : answer.requestDigest = answer'.requestDigest) :
    answer.SameCall answer' ∨ Sha256.Collision answer.call.canonical answer'.call.canonical := by
  obtain ⟨hrequest, hcall⟩ := invoke_spec hanswer
  obtain ⟨hrequest', hcall'⟩ := invoke_spec hanswer'
  have hwell : answer.request.WellFormed := hrequest ▸ wellFormed_normalBody hbody
  have hwell' : answer'.request.WellFormed := hrequest' ▸ wellFormed_normalBody hbody'
  rw [hcall, hcall'] at hdigest
  refine (Json.normal_eq_or_collision (answer.wellFormed_call hwell)
    (answer'.wellFormed_call hwell') hdigest).imp_left ?_
  intro hnormal
  rw [Answer.normal_call, Answer.normal_call] at hnormal
  simp only [Json.object.injEq, List.cons.injEq, Prod.mk.injEq, Json.string.injEq, true_and,
    and_true] at hnormal
  obtain ⟨hoperation, hsame, hstate⟩ := hnormal
  exact ⟨Operation.isNaming.injective hoperation, (Json.normal_eq_iff_alike hwell hwell').1 hsame,
    hstate⟩

end Benchmark.Fixture

/-! ## Everything that is told by a digest -/

open InMemory Benchmark

/-- Canonical texts tell documents up to the order of members. So, barring two texts with one
digest, a record counts as a duplicate only if every acceptance of its identifier under the key was
in the same space and layer and with the same payload, and there is such an acceptance; and calls of
the fixture share a digest only if operation, body and state file are the same. -/
theorem digests_identify :
    (∀ a b : Json, a.WellFormed → b.WellFormed →
      (a.canonical = b.canonical ↔ Json.Alike (· = ·) a b)) ∧
    (∀ (settings : Settings) (clock : Clock) (calls : List Invocation) before now request response
        after, transcript settings clock calls =
          before ++ .ingest now request (.ok response) :: after →
      ∀ record ∈ request.records, record.recordId ∈ response.duplicateRecordIds →
        WasAccepted before request.idempotencyKey record.recordId ∧
        ∀ acceptance ∈ acceptances before, acceptance.idempotencyKey = request.idempotencyKey →
          acceptance.record.recordId = record.recordId →
          acceptance.record.payload.WellFormed → record.payload.WellFormed →
          acceptance.record.SameContent record ∨
            Sha256.Collision (content acceptance.record).canonical (content record).canonical) ∧
    ∀ (request request' : Fixture.Request) (answer answer' : Fixture.Answer),
      request.requestBody.WellFormed → request'.requestBody.WellFormed →
      Fixture.invoke request = .ok answer → Fixture.invoke request' = .ok answer' →
      answer.requestDigest = answer'.requestDigest →
      answer.SameCall answer' ∨
        Sha256.Collision answer.call.canonical answer'.call.canonical := by
  refine ⟨fun a b => Json.canonical_eq_iff_alike, ?_, fun _ _ _ _ => Fixture.sameCall_or_collision⟩
  intro settings clock calls before now request response after hsplit record hrecord hduplicate
  constructor
  · obtain ⟨-, hanswers⟩ := answersHistory_of_ok hsplit
    rw [hanswers.duplicate response rfl, List.mem_filter] at hduplicate
    exact of_decide_eq_true hduplicate.2
  · intro acceptance haccepted hkey hid hpayload hpayload'
    exact sameContent_or_collision hpayload hpayload'
      (fingerprint_eq_of_accepted hsplit haccepted hkey hrecord hid)

/-- A label of the smithy. -/
def smithyLabel : Json :=
  .object [("weight", .integer 3), ("name", .string "anvil")]

/-- The label with its members in the other order. -/
def turnedLabel : Json :=
  .object [("name", .string "anvil"), ("weight", .integer 3)]

/-- Two labels with their members in different orders are told to be the same, in a call of the
fixture too, and the first batch of the small run is told to be a repetition when it is sent
again. -/
theorem smithyLabel_identified :
    Json.Alike (· = ·) smithyLabel turnedLabel ∧
    (∃ before response, transcript .deterministic .deterministic
        [⟨0, .ingest firstBatch⟩, ⟨0, .ingest firstBatch⟩] =
          before ++ [.ingest Clock.deterministicInstant firstBatch (.ok response)] ∧
      ∀ record ∈ firstBatch.records, WasAccepted before firstBatch.idempotencyKey record.recordId) ∧
    ∃ answer answer', Fixture.invoke ⟨" Context ", smithyLabel, "state.json"⟩ = .ok answer ∧
      Fixture.invoke ⟨"context", turnedLabel, "state.json"⟩ = .ok answer' ∧
      (answer.SameCall answer' ∨
        Sha256.Collision answer.call.canonical answer'.call.canonical) := by
  have hkeys : (["weight", "name"] : List String).Nodup := by decide
  have hkeys' : (["name", "weight"] : List String).Nodup := by decide
  have hwell : smithyLabel.WellFormed := ⟨hkeys, trivial, trivial, trivial⟩
  have hwell' : turnedLabel.WellFormed := ⟨hkeys', trivial, trivial, trivial⟩
  refine ⟨(digests_identify.1 _ _ hwell hwell').1 (by decide +kernel), ?_, ?_⟩
  · have hagain : (ingest .deterministic 0 firstBatch
        (stateAfter .deterministic .deterministic [⟨0, .ingest firstBatch⟩])).1 =
          .ok ⟨[], firstBatch.recordIds, Clock.deterministicInstant⟩ := by decide +kernel
    have hsplit : transcript .deterministic .deterministic
        [⟨0, .ingest firstBatch⟩, ⟨0, .ingest firstBatch⟩] =
          transcript .deterministic .deterministic [⟨0, .ingest firstBatch⟩] ++
            [.ingest Clock.deterministicInstant firstBatch
              (.ok ⟨[], firstBatch.recordIds, Clock.deterministicInstant⟩)] := by
      rw [← hagain]
      rfl
    refine ⟨_, _, hsplit, ?_⟩
    intro record hrecord
    exact (digests_identify.2.1 _ _ _ _ _ _ _ [] hsplit record hrecord
      (List.mem_map_of_mem hrecord)).1
  · have hdigest : (Fixture.invoke ⟨" Context ", smithyLabel, "state.json"⟩).map
        Fixture.Answer.requestDigest =
          (Fixture.invoke ⟨"context", turnedLabel, "state.json"⟩).map
            Fixture.Answer.requestDigest := by decide +kernel
    have hok : (Fixture.invoke ⟨" Context ", smithyLabel, "state.json"⟩).isOk = true := by
      decide +kernel
    cases hanswer : Fixture.invoke ⟨" Context ", smithyLabel, "state.json"⟩ with
    | error fault =>
      rw [hanswer] at hok
      cases hok
    | ok answer =>
      cases hanswer' : Fixture.invoke ⟨"context", turnedLabel, "state.json"⟩ with
      | error fault =>
        rw [hanswer, hanswer'] at hdigest
        cases hdigest
      | ok answer' =>
        rw [hanswer, hanswer'] at hdigest
        exact ⟨answer, answer', rfl, rfl, digests_identify.2.2 _ _ _ _ hwell hwell' hanswer hanswer'
          (Except.ok.inj hdigest)⟩

end Recollection
