import Recollection.Proofs.Contract.Naming
import Recollection.Proofs.Digest.Canonical
import Recollection.Proofs.Service.Idempotence
/-!
# What a fingerprint tells

The fingerprint of a record is the digest of what it holds. It tells the space, the layer, and the
payload up to the order of members, unless two texts have one digest. A batch that goes through
repeats what was accepted under its key with the fingerprint that it had.
-/

set_option autoImplicit false

namespace Recollection

/-- Two records hold the same: they are in one space and in one layer, and their payloads are the
same up to the order of members. -/
structure Ingestion.Record.SameContent (record other : Ingestion.Record) : Prop where
  /-- One space. -/
  spaceId : record.spaceId = other.spaceId
  /-- One layer. -/
  layer : record.layer = other.layer
  /-- The same payload, with every number bit for bit. -/
  payload : Json.Alike (· = ·) record.payload other.payload

namespace InMemory

/-- What a fingerprint is taken of. -/
def content (record : Ingestion.Record) : Json :=
  .object [("spaceId", .string record.spaceId.text), ("layer", .string record.layer.name),
    ("payload", record.payload)]

theorem fingerprint_eq_digest (record : Ingestion.Record) :
    fingerprint record = (content record).digest :=
  rfl

theorem normal_content (record : Ingestion.Record) :
    (content record).normal = .object [("layer", .string record.layer.name),
      ("payload", record.payload.normal), ("spaceId", .string record.spaceId.text)] := by
  have hspace : ¬ "layer" = "spaceId" ∧ "layer" < "spaceId" := by decide
  have hlayer : ¬ "payload" = "layer" ∧ ¬ "payload" < "layer" := by decide
  have hpayload : "payload" < "spaceId" := by decide
  simp only [content, Json.normal, Json.normalMembers, Json.sortMembers, List.foldl_cons,
    List.foldl_nil, Json.insertMember, hspace, hlayer, hpayload, if_true, if_false]

/-- Contents have one normal form exactly when space, layer and payload have. -/
theorem normal_content_eq_iff {record other : Ingestion.Record} :
    (content record).normal = (content other).normal ↔ record.spaceId = other.spaceId ∧
      record.layer = other.layer ∧ record.payload.normal = other.payload.normal := by
  rw [normal_content, normal_content]
  constructor
  · intro hnormal
    simp only [Json.object.injEq, List.cons.injEq, Prod.mk.injEq, Json.string.injEq, true_and,
      and_true] at hnormal
    obtain ⟨hlayer, hpayload, hspace⟩ := hnormal
    exact ⟨Identifier.ext_text hspace, MemoryLayer.isNaming.injective hlayer, hpayload⟩
  · rintro ⟨hspace, hlayer, hpayload⟩
    rw [hspace, hlayer, hpayload]

theorem wellFormed_content {record : Ingestion.Record} (hpayload : record.payload.WellFormed) :
    (content record).WellFormed := by
  have hkeys : (["spaceId", "layer", "payload"] : List String).Nodup := by decide
  exact ⟨hkeys, trivial, trivial, hpayload, trivial⟩

/-- Records with one fingerprint hold the same, or else the texts of what they hold collide. -/
theorem sameContent_or_collision {record other : Ingestion.Record}
    (hpayload : record.payload.WellFormed) (hother : other.payload.WellFormed)
    (hprint : fingerprint record = fingerprint other) :
    record.SameContent other ∨
      Sha256.Collision (content record).canonical (content other).canonical := by
  refine (Json.normal_eq_or_collision (wellFormed_content hpayload) (wellFormed_content hother)
    hprint).imp_left ?_
  intro hnormal
  obtain ⟨hspace, hlayer, hsame⟩ := normal_content_eq_iff.1 hnormal
  exact ⟨hspace, hlayer, (Json.normal_eq_iff_alike hpayload hother).1 hsame⟩

/-! ## Batches that go through -/

variable {settings : Settings} {clock : Clock} {calls : List Invocation} {before after : List Turn}
  {now : EpochMillis} {request : Ingestion.Request}

theorem validate_of_ingest_ok {timeOfDay : EpochMillis} {state : State}
    (hok : (ingest clock timeOfDay request state).1.isOk = true) :
    Ingestion.Request.contract.validate request = .ok () := by
  rcases ingest_cases clock timeOfDay request state with
    ⟨rejection, _, hingest⟩ | ⟨hvalid, _⟩ | ⟨hvalid, _⟩
  · rw [hingest] at hok
    cases hok
  · exact hvalid
  · exact hvalid

/-- A batch that goes through keeps its contract and is answered by the turns before it. -/
theorem answersHistory_of_ok {response : Ingestion.Response}
    (hsplit : transcript settings clock calls =
      before ++ .ingest now request (.ok response) :: after) :
    Ingestion.Request.contract.validate request = .ok () ∧
      AnswersHistory before request (.ok response) := by
  obtain ⟨earlier, call, rfl, hturn⟩ := transcript_split hsplit
  obtain ⟨-, hingest⟩ := perform_eq_ingest hturn.symm
  have hok : (ingest clock call.timeOfDay request (stateAfter settings clock earlier)).1.isOk =
      true := by
    rw [hingest]
    rfl
  have hvalid := validate_of_ingest_ok hok
  have hanswers :=
    (LedgerFollows.run settings clock earlier).answersHistory clock call.timeOfDay hvalid
  rw [hingest] at hanswers
  exact ⟨hvalid, hanswers⟩

/-- What a batch that goes through repeats has the fingerprint with which it was accepted. -/
theorem fingerprint_eq_of_accepted {response : Ingestion.Response}
    (hsplit : transcript settings clock calls =
      before ++ .ingest now request (.ok response) :: after)
    {acceptance : Acceptance} (haccepted : acceptance ∈ acceptances before)
    (hkey : acceptance.idempotencyKey = request.idempotencyKey)
    {record : Ingestion.Record} (hrecord : record ∈ request.records)
    (hid : acceptance.record.recordId = record.recordId) :
    fingerprint acceptance.record = fingerprint record := by
  obtain ⟨-, hanswers⟩ := answersHistory_of_ok hsplit
  by_contra hne
  exact hanswers.isOk_iff.1 rfl record hrecord ⟨acceptance, haccepted, hkey, hid, hne⟩

end InMemory

end Recollection
