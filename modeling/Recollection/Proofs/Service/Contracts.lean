import Recollection.Boundary.Exchange
import Recollection.Proofs.Boundary.Carried
import Recollection.Proofs.Boundary.Selection
import Recollection.Proofs.Memory.Terms
import Recollection.Proofs.Service.Optimistic
import Recollection.Proofs.Service.Paging
import Recollection.Proofs.Service.Refinement
/-!
# Services keep their contracts

Services and contracts are written apart from each other: a service never checks its own responses.
Nevertheless every response keeps its contract and answers its request, and who decodes it from the
document that it is encoded as has the response that was given.
-/

set_option autoImplicit false

namespace Recollection

/-- What a response owes to a request, and to the one who reads it. -/
structure Exchange.Honoured {ρ α : Type} (exchange : Exchange ρ α) (request : ρ) (response : α) :
    Prop where
  /-- It keeps the invariants of its contract. -/
  valid : exchange.response.validate response = .ok ()
  /-- It answers the request. -/
  conforms : ∀ conformsTo, exchange.conformsTo? = some conformsTo →
    conformsTo response request = .ok ()
  /-- It is accepted from the document that it is encoded as, and unchanged. -/
  readBack : exchange.response.accept (exchange.response.encode response) = .ok response

section Honoured

variable {ρ α : Type} {request : ρ} {response : α} {requests : Contract ρ} {responses : Contract α}

theorem Exchange.honoured_of_conforms {conformsTo : α → ρ → Except Rejection Unit}
    (hcarried : responses.shape.Carries response)
    (hvalid : responses.validate response = .ok ())
    (hconforms : conformsTo response request = .ok ()) :
    Exchange.Honoured ⟨requests, responses, some conformsTo⟩ request response where
  valid := hvalid
  conforms := by
    rintro _ ⟨⟩
    exact hconforms
  readBack := Contract.accept_encode hcarried hvalid

end Honoured

namespace InMemory

open Retrieval (Hit)

/-! ## Scores -/

theorem overlap_mem_unitInterval (wanted present : Terms) :
    Binary64.zero.le (wanted.overlap present) = true ∧
      (wanted.overlap present).le .one = true := by
  rw [Terms.overlap_eq_share]
  rcases Nat.eq_zero_or_pos wanted.size with hnone | hsome
  · rw [hnone, Binary64.share_zero_whole]
    decide
  · exact Binary64.share_mem_unitInterval hsome (SortedSet.sharedSize_le_size wanted present)

/-! ## Storage -/

section Storage

variable {clock : Clock} {timeOfDay : EpochMillis} {state : State}

/-- The version of a write is above every one before it, as long as there are fewer writes than
versions. -/
theorem upsert_honoured {history : History} (hfollows : state.store.Follows history)
    (hfew : history.writtenKeys.length < UInt64.size - 1)
    {request : Storage.UpsertRequest} {response : Storage.UpsertResponse}
    (hok : (upsert clock timeOfDay request state).1 = .ok response) :
    Storage.upserting.Honoured request response := by
  have hwrites := history.writesTo_le_length request.key
  have hcount : History.writesTo (history ++ [.write (request.write (clock.read timeOfDay))])
      request.key = history.writesTo request.key + 1 := by
    rw [History.writesTo_concat_write, Storage.UpsertRequest.key_write, if_pos rfl]
  have hversion : response.version.toNat = history.writesTo request.key + 1 := by
    rw [version_of_upsert hfollows hok, History.toNat_version (by omega), hcount]
  rcases upsert_cases clock timeOfDay request state with
    ⟨fault, -, hupsert⟩ | ⟨hallowed, hupsert⟩
  · rw [hupsert] at hok
    cases hok
  rw [hupsert] at hok
  obtain rfl := Except.ok.inj hok
  apply Exchange.honoured_of_conforms (Storage.UpsertResponse.carried _)
  · rw [Storage.UpsertResponse.validate_eq_ok_iff]
    intro _ hzero
    rw [hzero] at hversion
    cases hversion
  · rw [Storage.UpsertResponse.conformsTo_eq_ok_iff]
    refine ⟨⟨rfl, rfl⟩, ?_⟩
    intro _ expected hexpected
    rw [hexpected, Store.checkVersion_eq_ok_iff] at hallowed
    rw [UInt64.lt_iff_toNat_lt, hversion]
    rcases hallowed with hlive | ⟨rfl, -⟩
    · have hlast := (hfollows.toNat_liveVersion? (by omega) hlive).1
      omega
    · exact Nat.succ_pos _

variable (timeOfDay) in
theorem delete_honoured {request : Storage.DeleteRequest} {response : Storage.DeleteResponse}
    (hok : (delete timeOfDay request state).1 = .ok response) :
    Storage.deleting.Honoured request response := by
  rw [delete_eq] at hok
  obtain rfl := Except.ok.inj hok
  apply Exchange.honoured_of_conforms (Storage.DeleteResponse.carried _) rfl
  rw [Storage.DeleteResponse.conformsTo_eq_ok_iff]
  exact ⟨rfl, rfl⟩

end Storage

/-! ## Retrieval -/

section Retrieval

variable {spaceId : SpaceId}

theorem score_mem_unitInterval_of_mem_allHits {store : Store} {query : String} {hit : Hit}
    (hmem : hit ∈ allHits store spaceId query) :
    Binary64.zero.le hit.score = true ∧ hit.score.le .one = true := by
  obtain ⟨memory, -, hmade⟩ := ((isHitList_allHits store spaceId query).mem_iff hit).1 hmem
  rw [((hit?_eq_some_iff _ _ _ _).1 hmade).2]
  exact overlap_mem_unitInterval _ _

/-- Whatever is cut from all hits keeps what they keep: their order and that no memory is found
twice. -/
theorem validate_cut {store : Store} (hsize : store.size < UInt64.size) (spaceId : SpaceId)
    (query : String) (offset stop : Nat) :
    Retrieval.Response.contract.validate
      (cut spaceId offset stop (allHits store spaceId query)) = .ok () := by
  have hall := isHitList_allHits store spaceId query
  have hsublist := hits_cut_sublist spaceId offset stop (allHits store spaceId query)
  have htotal := Nat.lt_of_le_of_lt (length_allHits_le store spaceId query) hsize
  rw [Retrieval.Response.validate_eq_ok_iff]
  refine ⟨?scores, hall.nodup.sublist (hsublist.map _), ?order, ?total⟩
  case scores =>
    intro hit hmem
    exact score_mem_unitInterval_of_mem_allHits (hsublist.subset hmem)
  case order =>
    apply List.Pairwise.isChain
    refine (hall.ordered.sublist hsublist).imp ?_
    intro first second hless
    rw [hless]
    decide
  case total =>
    show _ ≤ (UInt64.ofNat _).toNat
    rw [UInt64.toNat_ofNat_of_lt' htotal]
    exact hsublist.length_le

theorem query_honoured {maxLimit : UInt32} {store : Store} (hsize : store.size < UInt64.size)
    {request : Retrieval.Request} {response : Retrieval.Response}
    (hok : query maxLimit store request = .ok response) :
    Retrieval.querying.Honoured request response := by
  obtain ⟨offset, -, hle, rfl⟩ := exists_cut_of_query hok
  apply Exchange.honoured_of_conforms (Retrieval.Response.carried ?finite)
    (validate_cut hsize _ _ _ _) ?conforms
  case finite =>
    intro hit hmem
    have hscore := score_mem_unitInterval_of_mem_allHits
      ((hits_cut_sublist _ _ _ _).subset hmem)
    exact Binary64.isFinite_of_mem_unitInterval hscore.1 hscore.2
  case conforms =>
    rw [Retrieval.Response.conformsTo_eq_ok_iff]
    refine ⟨rfl, ?_⟩
    rw [cut, List.extract_eq_take_drop, List.length_take]
    omega

end Retrieval

/-! ## Evaluation -/

theorem memoryIds_results (store : Store) (request : Evaluation.Request) :
    (results store request).map Evaluation.Result.memoryId = request.candidateMemoryIds := by
  rw [results, List.map_map]
  exact List.map_id _

theorem score_mem_unitInterval {store : Store} {request : Evaluation.Request}
    {result : Evaluation.Result} (hmem : result ∈ results store request) :
    Binary64.zero.le result.score = true ∧ result.score.le .one = true := by
  obtain ⟨id, -, rfl⟩ := List.mem_map.1 hmem
  unfold candidateScore
  dsimp only
  split
  · exact overlap_mem_unitInterval _ _
  · decide

/-- What is selected are the results that reach the minimum, so they are scored, and candidates. -/
theorem evaluate_honoured {strict : Bool} {store : Store} {request : Evaluation.Request}
    {response : Evaluation.Response} (hok : evaluate strict store request = .ok response) :
    Evaluation.evaluating.Honoured request response := by
  cases hvalid : Evaluation.Request.contract.validate request with
  | error rejection =>
    rw [evaluate, hvalid] at hok
    cases hok
  | ok _ =>
    have hselect : response = .select (results store request) request.minimumScore := by
      rw [evaluate, hvalid] at hok
      by_cases hnone : (strict && (Evaluation.Response.select (results store request)
          request.minimumScore).selectedMemoryIds.isEmpty) = true
      · rw [if_pos hnone] at hok
        cases hok
      · rw [if_neg hnone] at hok
        exact (Except.ok.inj hok).symm
    subst hselect
    have hids := memoryIds_results store request
    have hnodup := ((Evaluation.Request.validate_eq_ok_iff request).1 hvalid).2.1
    rw [← hids] at hnodup
    apply Exchange.honoured_of_conforms (Evaluation.Response.carried ?finite) ?valid ?conforms
    case finite =>
      intro result hmem
      have hscore := score_mem_unitInterval hmem
      exact Binary64.isFinite_of_mem_unitInterval hscore.1 hscore.2
    case valid =>
      exact Evaluation.validate_select _ (fun _ => score_mem_unitInterval) hnodup
    case conforms =>
      apply Evaluation.conformsTo_select
      intro result hmem
      rw [← hids]
      exact List.mem_map_of_mem hmem

/-! ## Policy -/

section Policy

variable {rules : PolicyRules} {request : Policy.Request} {now : EpochMillis}

/-- Every reason that rules give is visible. -/
theorem visible_of_mem_reasonCodes {code : String}
    (hmem : code ∈ (rules.judge request now).reasonCodes) : Text.isBlankText code = false := by
  simp only [PolicyRules.judge, PolicyRules.denials, PolicyRules.reviews, List.mem_append,
    List.mem_ite_nil_right, List.mem_singleton] at hmem
  rcases hmem with (⟨-, rfl⟩ | ⟨-, rfl⟩) | ⟨-, rfl⟩
  · decide +kernel
  · decide +kernel
  · decide +kernel

/-- Rules without a reason allow. -/
theorem allow_or_reasonCodes_ne_nil :
    (rules.judge request now).decision = .allow ∨ (rules.judge request now).reasonCodes ≠ [] := by
  unfold PolicyRules.judge
  cases rules.denials request with
  | cons code rest =>
    right
    rintro ⟨⟩
  | nil =>
    cases rules.reviews request with
    | cons code rest =>
      right
      rintro ⟨⟩
    | nil =>
      left
      rfl

theorem decide_honoured {response : Policy.Response}
    (hok : decide rules request now = .ok response) :
    Policy.deciding.Honoured request response := by
  have hjudge : response = rules.judge request now := by
    cases hvalid : Policy.Request.contract.validate request with
    | error rejection =>
      rw [decide, hvalid] at hok
      cases hok
    | ok _ =>
      rw [decide, hvalid] at hok
      exact (Except.ok.inj hok).symm
  subst hjudge
  have hvalid : Policy.Response.contract.validate (rules.judge request now) = .ok () := by
    rw [Policy.Response.validate_eq_ok_iff]
    exact ⟨allow_or_reasonCodes_ne_nil, fun _ => visible_of_mem_reasonCodes⟩
  exact ⟨hvalid, by rintro _ ⟨⟩, Contract.accept_encode (Policy.Response.carried _) hvalid⟩

end Policy

/-! ## Ingestion -/

section Ingestion

variable {ledger : Ledger} {request : Ingestion.Request}

/-- No record of a batch is both new and a duplicate. -/
theorem not_mem_new_of_duplicate {id : MemoryId}
    (hduplicate : id ∈ (recordsOf .duplicate ledger request).map Ingestion.Record.recordId) :
    id ∉ (recordsOf .new ledger request).map Ingestion.Record.recordId := by
  intro hnew
  obtain ⟨record, hrecord, rfl⟩ := List.mem_map.1 hduplicate
  obtain ⟨other, hother, hsame⟩ := List.mem_map.1 hnew
  have hfirst := (mem_recordsOf.1 hrecord).2
  have hsecond := (mem_recordsOf.1 hother).2
  rw [standingUnder_eq_new_iff, hsame, ← standingUnder_eq_new_iff, hfirst] at hsecond
  cases hsecond

/-- If none has changed, every record of a batch is one or the other. -/
theorem mem_new_or_duplicate_iff (hchanged : recordsOf .changed ledger request = [])
    (id : MemoryId) :
    id ∈ (recordsOf .new ledger request).map Ingestion.Record.recordId ++
        (recordsOf .duplicate ledger request).map Ingestion.Record.recordId ↔
      id ∈ request.recordIds := by
  have hsublist (kind : Standing) : (recordsOf kind ledger request).Sublist request.records :=
    List.filter_sublist
  rw [List.mem_append]
  constructor
  · rintro (hnew | hduplicate)
    · exact ((hsublist .new).map _).subset hnew
    · exact ((hsublist .duplicate).map _).subset hduplicate
  · intro hmem
    obtain ⟨record, hrecord, rfl⟩ := List.mem_map.1 hmem
    cases hstanding : standingUnder ledger request.idempotencyKey record with
    | new => exact .inl (List.mem_map_of_mem (mem_recordsOf.2 ⟨hrecord, hstanding⟩))
    | duplicate => exact .inr (List.mem_map_of_mem (mem_recordsOf.2 ⟨hrecord, hstanding⟩))
    | changed =>
      have hnone := mem_recordsOf.2 ⟨hrecord, hstanding⟩
      rw [hchanged] at hnone
      cases hnone

theorem ingest_honoured {clock : Clock} {timeOfDay : EpochMillis} {state : State}
    {request : Ingestion.Request} {response : Ingestion.Response}
    (hok : (ingest clock timeOfDay request state).1 = .ok response) :
    Ingestion.ingesting.Honoured request response := by
  rcases ingest_cases clock timeOfDay request state with
    ⟨_, _, hingest⟩ | ⟨_, _, hingest⟩ | ⟨hvalid, hchanged, hingest⟩
  · rw [hingest] at hok
    cases hok
  · rw [hingest] at hok
    cases hok
  · rw [hingest] at hok
    obtain rfl := Except.ok.inj hok
    have hids := ((Ingestion.Request.validate_eq_ok_iff request).1 hvalid).2.2
    have hnodup (kind : Standing) :
        ((recordsOf kind state.ledger request).map Ingestion.Record.recordId).Nodup :=
      hids.sublist (List.filter_sublist.map _)
    apply Exchange.honoured_of_conforms (Ingestion.Response.carried _)
    · rw [Ingestion.Response.validate_eq_ok_iff]
      exact ⟨hnodup .new, hnodup .duplicate, fun _ => not_mem_new_of_duplicate⟩
    · rw [Ingestion.Response.conformsTo_eq_ok_iff]
      exact mem_new_or_duplicate_iff hchanged

end Ingestion

/-! ## All services -/

/-- Whether the response of a turn, if there is one, is what it owes to its request. -/
def Turn.Honoured : Turn → Prop
  | .upsert _ request answer =>
    ∀ response, answer = .ok response → Storage.upserting.Honoured request response
  | .delete request answer =>
    ∀ response, answer = .ok response → Storage.deleting.Honoured request response
  | .query request answer =>
    ∀ response, answer = .ok response → Retrieval.querying.Honoured request response
  | .evaluate request answer =>
    ∀ response, answer = .ok response → Evaluation.evaluating.Honoured request response
  | .decide request answer =>
    ∀ response, answer = .ok response → Policy.deciding.Honoured request response
  | .ingest _ request answer =>
    ∀ response, answer = .ok response → Ingestion.ingesting.Honoured request response

section Services

variable (settings : Settings) (clock : Clock)

/-- Every call on a store of few writes is answered as its contract says. -/
theorem perform_honoured {state : State} {history : History}
    (hfollows : state.store.Follows history)
    (hfew : history.writtenKeys.length < UInt64.size - 1) (call : Invocation) :
    (perform settings clock call state).1.Honoured := by
  obtain ⟨timeOfDay, command⟩ := call
  cases command with
  | upsert request => exact fun _ => upsert_honoured hfollows hfew
  | delete request => exact fun _ => delete_honoured timeOfDay
  | query request =>
    have hsize := hfollows.size_le_length
    exact fun _ => query_honoured (by omega)
  | evaluate request => exact fun _ => evaluate_honoured
  | decide request => exact fun _ => decide_honoured
  | ingest request => exact fun _ => ingest_honoured

/-- What a schedule keeps up: the store follows what was done, and all responses that were given
are honoured, as is the one that is kept for the batch that is being taken in. -/
structure Upheld (history : List Event) (system : System) : Prop where
  /-- The store follows the changes. -/
  follows : system.state.store.Follows (changesOf history)
  /-- The responses that were given are honoured. -/
  given : ∀ turn, Event.answered turn ∈ history → turn.Honoured
  /-- The response that is kept is honoured. -/
  kept : ∀ intake, system.intake = some intake →
    Ingestion.ingesting.Honoured intake.request intake.response

/-- A step answers as the contract says, and keeps such a response for later. -/
theorem Upheld.answered {history : List Event} {system : System} (hupheld : Upheld history system)
    (hfew : (changesOf history).writtenKeys.length < UInt64.size - 1) (move : Move) :
    (∀ turn, (System.step settings clock move system).1 = .answered turn → turn.Honoured) ∧
      ∀ intake, (System.step settings clock move system).2.intake = some intake →
        Ingestion.ingesting.Honoured intake.request intake.response := by
  have hkept := hupheld.kept
  cases move with
  | proceed =>
    obtain ⟨state, intake⟩ := system
    cases intake with
    | none => exact ⟨by rintro _ ⟨⟩, by rintro _ ⟨⟩⟩
    | some intake =>
      obtain ⟨now, request, pending, response⟩ := intake
      have hresponse := hkept _ rfl
      cases pending with
      | nil =>
        refine ⟨?_, by rintro _ ⟨⟩⟩
        rintro _ ⟨⟩ _ ⟨⟩
        exact hresponse
      | cons record rest =>
        refine ⟨by rintro _ ⟨⟩, ?_⟩
        rintro _ ⟨⟩
        exact hresponse
  | call call =>
    have hperform := perform_honoured settings clock hupheld.follows hfew call
    obtain ⟨timeOfDay, command⟩ := call
    cases command with
    | ingest request =>
      show (∀ turn, (System.receive clock timeOfDay request system).1 = _ → _) ∧
        ∀ intake, (System.receive clock timeOfDay request system).2.intake = _ → _
      rcases System.receive_cases clock timeOfDay request system with
        ⟨fault, -, hreceive⟩ | ⟨-, hreceive⟩ | ⟨response, -, hingest, hreceive⟩
      · rw [hreceive]
        refine ⟨?_, hkept⟩
        rintro _ ⟨⟩ _ ⟨⟩
      · rw [hreceive]
        exact ⟨by rintro _ ⟨⟩, hkept⟩
      · rw [hreceive]
        refine ⟨by rintro _ ⟨⟩, ?_⟩
        rintro _ ⟨⟩
        exact ingest_honoured (congrArg Prod.fst hingest)
    | _ =>
      refine ⟨?_, hkept⟩
      rintro _ ⟨⟩
      exact hperform

theorem Upheld.step {history : List Event} {system : System} (hupheld : Upheld history system)
    (hfew : (changesOf history).writtenKeys.length < UInt64.size - 1) (move : Move) :
    Upheld (history ++ [(System.step settings clock move system).1])
      (System.step settings clock move system).2 := by
  obtain ⟨hanswered, hkept⟩ := hupheld.answered settings clock hfew move
  refine ⟨?_, ?_, hkept⟩
  · rw [changesOf_concat]
    exact (storeStep_step settings clock move system).follows hupheld.follows
  · intro turn hmem
    rcases List.mem_append.1 hmem with hbefore | hlast
    · exact hupheld.given turn hbefore
    · exact hanswered turn (List.mem_singleton.1 hlast).symm

/-- In every state that can be reached with fewer writes than versions, every call gets a response
that is honoured, if it gets one, and so did all calls before. -/
theorem responses_honoured (moves : List Move)
    (hfew : (changesOf (events settings clock moves)).writtenKeys.length < UInt64.size - 1) :
    (∀ call, (perform settings clock call (systemAfter settings clock moves).state).1.Honoured) ∧
      ∀ turn, Event.answered turn ∈ events settings clock moves → turn.Honoured := by
  have hupheld : Upheld (events settings clock moves) (systemAfter settings clock moves) := by
    refine Run.induction (fun history (system : System) =>
      (changesOf history).writtenKeys.length < UInt64.size - 1 → Upheld history system)
      ?start ?step moves hfew
    case start =>
      intro _
      refine ⟨Store.Follows.empty, ?_, ?_⟩
      · rintro _ ⟨⟩
      · rintro _ ⟨⟩
    case step =>
      intro history system move hupheld hlater
      have hprefix : changesOf history <+:
          changesOf (history ++ [(System.step settings clock move system).1]) := by
        rw [changesOf_append]
        exact List.prefix_append _ _
      have hearlier := Nat.lt_of_le_of_lt (History.length_writtenKeys_mono hprefix) hlater
      exact (hupheld hearlier).step settings clock hearlier move
  exact ⟨perform_honoured settings clock hupheld.follows hfew, hupheld.given⟩

end Services

/-- After the small schedule, a write without an expected version is answered, and the answer is
honoured. -/
theorem smithySchedule_honoured :
    (changesOf (events .deterministic .deterministic smithySchedule)).writtenKeys.length <
        UInt64.size - 1 ∧
      ∃ response, (upsert .deterministic 0 (writeAnvil none)
          (systemAfter .deterministic .deterministic smithySchedule).state).1 = .ok response ∧
        Storage.upserting.Honoured (writeAnvil none) response := by
  have hfew : (changesOf (events .deterministic .deterministic smithySchedule)).writtenKeys.length <
      UInt64.size - 1 := by
    decide +kernel
  have hhonoured := (responses_honoured .deterministic .deterministic smithySchedule hfew).1
    ⟨0, .upsert (writeAnvil none)⟩
  refine ⟨hfew, ?_⟩
  rcases upsert_cases .deterministic 0 (writeAnvil none)
      (systemAfter .deterministic .deterministic smithySchedule).state with
    ⟨fault, hrefused, -⟩ | ⟨-, hupsert⟩
  · cases hrefused
  · have hok := congrArg Prod.fst hupsert
    exact ⟨_, hok, hhonoured _ hok⟩

end InMemory

end Recollection
