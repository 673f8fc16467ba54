import Recollection.Proofs.Service.Contracts
import Recollection.Service.Permissive
/-!
# Permissive services and their contracts

Services that keep nothing answer every request, and what they answer is what a service of the
boundary owes, with one exception. A write that is accepted must move past the expected version, and
past the last version there is none: the write that expects it is accepted at that version again,
which is no answer to it.
-/

set_option autoImplicit false

namespace Recollection

/-- Whether a call answers all requests that keep their contract, with responses that keep theirs,
leaves the state as it is, and honours exactly the requests with some property. -/
def Exchange.Serves {σ ρ φ α : Type} (exchange : Exchange ρ α) (call : Call σ ρ φ α)
    (honours : ρ → Prop) : Prop :=
  ∀ timeOfDay request state, exchange.request.validate request = .ok () →
    ∃ response, call timeOfDay request state = (.ok response, state) ∧
      exchange.response.validate response = .ok () ∧
      (exchange.Honoured request response ↔ honours request)

/-- A call that always answers, and honours each request that keeps its contract. -/
theorem Exchange.serves_of_honoured {σ ρ φ α : Type} {exchange : Exchange ρ α} {call : Call σ ρ φ α}
    {answer : EpochMillis → ρ → α}
    (hcall : ∀ timeOfDay request state,
      call timeOfDay request state = (.ok (answer timeOfDay request), state))
    (hhonoured : ∀ timeOfDay request, exchange.request.validate request = .ok () →
      exchange.Honoured request (answer timeOfDay request)) :
    exchange.Serves call fun _ => True := by
  intro timeOfDay request state hvalid
  have hanswer := hhonoured timeOfDay request hvalid
  exact ⟨_, hcall timeOfDay request state, hanswer.valid, iff_true_intro hanswer⟩

namespace Permissive

variable {σ : Type} (clock : Clock)

/-! ## Versions -/

/-- The version after which there is no other. -/
def lastVersion : UInt64 :=
  .ofNat (UInt64.size - 1)

/-- The next version is the sum, cut off at the last version. -/
theorem toNat_versionAfter (expected : UInt64) :
    (versionAfter (some expected)).toNat = min (expected.toNat + 1) lastVersion.toNat := by
  have hsize : UInt64.size = 18446744073709551616 := rfl
  have hlast : lastVersion.toNat = UInt64.size - 1 := by decide
  have hbelow : expected.toNat < UInt64.size := expected.toNat_lt
  have hnext : (expected + 1).toNat = (expected.toNat + 1) % UInt64.size :=
    UInt64.toNat_add expected 1
  have hzero : expected + 1 = 0 ↔ (expected + 1).toNat = 0 := UInt64.toNat_inj.symm
  rw [hsize] at hlast hbelow hnext
  show (if expected + 1 = 0 then expected else expected + 1).toNat = _
  -- The sum wraps to zero at the last version only.
  split
  · rename_i hlargest
    have hwraps := hzero.1 hlargest
    omega
  · rename_i hother
    have hpositive := mt hzero.2 hother
    omega

/-- There is a version above every one but the last. -/
theorem lt_versionAfter_iff (expected : UInt64) :
    expected < versionAfter (some expected) ↔ expected ≠ lastVersion := by
  have hbelow : expected.toNat < UInt64.size := expected.toNat_lt
  have hlast : lastVersion.toNat = UInt64.size - 1 := by decide
  rw [UInt64.lt_iff_toNat_lt, toNat_versionAfter, ne_eq, ← UInt64.toNat_inj]
  omega

theorem versionAfter_ne_zero (expected : Option UInt64) : versionAfter expected ≠ 0 := by
  cases expected with
  | none => decide
  | some expected =>
    have hlast : lastVersion.toNat = UInt64.size - 1 := by decide
    have hsize : 1 < UInt64.size := by decide
    rw [ne_eq, ← UInt64.toNat_inj, toNat_versionAfter, UInt64.toNat_zero]
    omega

/-! ## Services -/

theorem upsert_serves :
    Storage.upserting.Serves (storage clock : StorageService σ).upsert
      fun request => request.expectedVersion ≠ some lastVersion := by
  intro timeOfDay request state _
  have hvalid : Storage.UpsertResponse.contract.validate ⟨request.spaceId, request.memoryId, true,
      clock.read timeOfDay, versionAfter request.expectedVersion⟩ = .ok () := by
    rw [Storage.UpsertResponse.validate_eq_ok_iff]
    exact fun _ => versionAfter_ne_zero request.expectedVersion
  refine ⟨_, rfl, hvalid, ?_, ?_⟩
  · intro hhonoured hexpected
    have hconforms := hhonoured.conforms _ rfl
    rw [Storage.UpsertResponse.conformsTo_eq_ok_iff] at hconforms
    have habove := hconforms.2 rfl lastVersion hexpected
    rw [hexpected, lt_versionAfter_iff] at habove
    exact habove rfl
  · intro hnotLast
    refine Exchange.honoured_of_conforms (Storage.UpsertResponse.carried _) hvalid ?_
    rw [Storage.UpsertResponse.conformsTo_eq_ok_iff]
    refine ⟨⟨rfl, rfl⟩, ?_⟩
    intro _ expected hexpected
    rw [hexpected, lt_versionAfter_iff]
    rintro rfl
    exact hnotLast hexpected

theorem delete_serves :
    Storage.deleting.Serves (storage clock : StorageService σ).delete fun _ => True := by
  refine Exchange.serves_of_honoured (fun _ _ _ => rfl) ?_
  intro _ request _
  refine Exchange.honoured_of_conforms (Storage.DeleteResponse.carried _) rfl ?_
  rw [Storage.DeleteResponse.conformsTo_eq_ok_iff]
  exact ⟨rfl, rfl⟩

theorem query_serves :
    Retrieval.querying.Serves (retrieval : RetrievalService σ).query fun _ => True := by
  refine Exchange.serves_of_honoured (fun _ _ _ => rfl) ?_
  intro _ request _
  refine Exchange.honoured_of_conforms (Retrieval.Response.carried ?_) ?_ ?_
  · rintro hit ⟨⟩
  · rw [Retrieval.Response.validate_eq_ok_iff]
    exact ⟨by rintro hit ⟨⟩, List.nodup_nil, List.IsChain.nil, Nat.zero_le _⟩
  · rw [Retrieval.Response.conformsTo_eq_ok_iff]
    exact ⟨rfl, Nat.zero_le _⟩

theorem evaluate_serves :
    Evaluation.evaluating.Serves (evaluation : EvaluationService σ).evaluate fun _ => True := by
  refine Exchange.serves_of_honoured (fun _ _ _ => rfl) ?_
  intro _ request _
  refine Exchange.honoured_of_conforms (Evaluation.Response.carried ?_) ?_ ?_
  · rintro result ⟨⟩
  · rw [Evaluation.Response.validate_eq_ok_iff]
    exact ⟨by rintro result ⟨⟩, List.nodup_nil, List.nodup_nil, by rintro id ⟨⟩⟩
  · rw [Evaluation.Response.conformsTo_eq_ok_iff]
    exact ⟨by rintro result ⟨⟩, rfl⟩

theorem decide_serves :
    Policy.deciding.Serves (policy clock : PolicyService σ).decide fun _ => True := by
  refine Exchange.serves_of_honoured (fun _ _ _ => rfl) ?_
  intro timeOfDay request _
  have hvalid : Policy.Response.contract.validate (.allowed (clock.read timeOfDay)) = .ok () := by
    rw [Policy.Response.validate_eq_ok_iff]
    exact ⟨.inl rfl, by rintro code ⟨⟩⟩
  exact ⟨hvalid, by rintro _ ⟨⟩, Contract.accept_encode (Policy.Response.carried _) hvalid⟩

/-- All records of a batch are accepted, and a batch has no record twice. -/
theorem ingest_serves :
    Ingestion.ingesting.Serves (ingestion clock : IngestionService σ).ingest fun _ => True := by
  refine Exchange.serves_of_honoured (fun _ _ _ => rfl) ?_
  intro _ request hrequest
  have hnodup := ((Ingestion.Request.validate_eq_ok_iff request).1 hrequest).2.2
  refine Exchange.honoured_of_conforms (Ingestion.Response.carried _) ?_ ?_
  · rw [Ingestion.Response.validate_eq_ok_iff]
    exact ⟨hnodup, List.nodup_nil, by rintro id ⟨⟩⟩
  · rw [Ingestion.Response.conformsTo_eq_ok_iff]
    intro id
    show id ∈ request.recordIds ++ [] ↔ _
    rw [List.append_nil]

/-- Every request that keeps its contract is answered and honoured, except for the write that
expects the last version; its answer keeps the contract of responses and does not conform. Other
than that one, every version that can be expected has a version above it, at which the write is
accepted. -/
theorem requests_served :
    Storage.upserting.Serves (services clock : ServiceSet σ).storage.upsert
      (fun request => request.expectedVersion ≠ some lastVersion) ∧
    (∀ expected, expected < versionAfter (some expected) ↔ expected ≠ lastVersion) ∧
    Storage.deleting.Serves (services clock : ServiceSet σ).storage.delete (fun _ => True) ∧
    Retrieval.querying.Serves (services clock : ServiceSet σ).retrieval.query (fun _ => True) ∧
    Evaluation.evaluating.Serves (services clock : ServiceSet σ).evaluation.evaluate
      (fun _ => True) ∧
    Policy.deciding.Serves (services clock : ServiceSet σ).policy.decide (fun _ => True) ∧
    Ingestion.ingesting.Serves (services clock : ServiceSet σ).ingestion.ingest (fun _ => True) :=
  ⟨upsert_serves clock, lt_versionAfter_iff, delete_serves clock, query_serves, evaluate_serves,
    decide_serves clock, ingest_serves clock⟩

open InMemory (writeAnvil)

/-- A write that expects version 4 is accepted at version 5, which answers it. -/
theorem fourthVersion_passed :
    ∃ response, (services .deterministic : ServiceSet Unit).storage.upsert 0
        (writeAnvil (some 4)) () = (.ok response, ()) ∧
      response.version = 5 ∧ Storage.upserting.Honoured (writeAnvil (some 4)) response := by
  obtain ⟨response, hanswer, -, hhonoured⟩ :=
    (@requests_served Unit .deterministic).1 0 (writeAnvil (some 4)) () rfl
  refine ⟨response, hanswer, ?_, hhonoured.2 (by decide)⟩
  obtain rfl := Except.ok.inj (congrArg Prod.fst hanswer)
  rfl

/-- A write that expects the last version is accepted at that version, which does not answer it. -/
theorem lastVersion_not_passed :
    Storage.UpsertRequest.contract.validate (writeAnvil (some lastVersion)) = .ok () ∧
      ∃ response, (services .deterministic : ServiceSet Unit).storage.upsert 0
          (writeAnvil (some lastVersion)) () = (.ok response, ()) ∧
        response.version = lastVersion ∧
        response.conformsTo (writeAnvil (some lastVersion)) ≠ .ok () := by
  refine ⟨rfl, _, rfl, by decide, ?_⟩
  rw [ne_eq, Storage.UpsertResponse.conformsTo_eq_ok_iff]
  rintro ⟨-, habove⟩
  exact (lt_versionAfter_iff lastVersion).1 (habove rfl lastVersion rfl) rfl

end Permissive

end Recollection
