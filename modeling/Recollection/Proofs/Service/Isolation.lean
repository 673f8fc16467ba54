import Recollection.Proofs.Memory.Space
import Recollection.Proofs.Service.Schedule
/-!
# Isolation of spaces

What is asked about a space is answered from the slots of that space, and nothing but what is
written to it changes them. So clients of one space cannot tell what others do in theirs: all
commands that are addressed to other spaces may be dropped from a run unseen.

Batches are not addressed to a space, as their records may lie in several, and are looked up in the
ledger, which all of them share; they stay in the run.
-/

set_option autoImplicit false

namespace Recollection.InMemory

/-! ## Addresses -/

/-- The space that a command is addressed to, if it is addressed to one. -/
def Command.address? : Command → Option SpaceId
  | .upsert request => some request.spaceId
  | .delete request => some request.spaceId
  | .query request => some request.spaceId
  | .evaluate request => request.spaceId
  | .decide _ => none
  | .ingest _ => none

/-- The spaces that a command may write to. -/
def Command.targets : Command → List SpaceId
  | .upsert request => [request.spaceId]
  | .delete request => [request.spaceId]
  | .ingest request => request.records.map Ingestion.Record.spaceId
  | _ => []

/-- Whether a command is addressed to another space than the given one. -/
def Command.isElsewhere (spaceId : SpaceId) (command : Command) : Bool :=
  command.address?.any fun address => address ≠ spaceId

/-- The command that a turn answers. -/
def Turn.command : Turn → Command
  | .upsert _ request _ => .upsert request
  | .delete request _ => .delete request
  | .query request _ => .query request
  | .evaluate request _ => .evaluate request
  | .decide request _ => .decide request
  | .ingest _ request _ => .ingest request

/-- Whether an answer is one for a space: its command is addressed to the space, or it is a batch or
a matter of policy. -/
def Turn.concerns (spaceId : SpaceId) (turn : Turn) : Bool :=
  match turn.command with
  | .decide _ => true
  | .ingest _ => true
  | command => command.address? = some spaceId

section Call

variable {settings : Settings} {clock : Clock} {spaceId : SpaceId} {call : Invocation}
  {state other : State}

theorem command_perform (settings : Settings) (clock : Clock) (call : Invocation) (state : State) :
    (perform settings clock call state).1.command = call.command := by
  obtain ⟨timeOfDay, command⟩ := call
  cases command <;> rfl

/-! ## Answers in agreeing stores -/

section Answers

variable (clock : Clock) (timeOfDay : EpochMillis)

theorem upsert_agree {request : Storage.UpsertRequest}
    (hagree : Store.AgreeOn request.spaceId state.store other.store) :
    (upsert clock timeOfDay request state).1 = (upsert clock timeOfDay request other).1 ∧
      Store.AgreeOn request.spaceId (upsert clock timeOfDay request state).2.store
        (upsert clock timeOfDay request other).2.store := by
  have hlive : state.store.liveVersion? request.key = other.store.liveVersion? request.key :=
    congrArg _ (hagree.get?_eq request.memoryId)
  obtain ⟨hmemory, hafter⟩ := hagree.put request.memoryId request.layer request.payload
    (clock.read timeOfDay)
  rcases upsert_cases clock timeOfDay request state with
    ⟨fault, hrefused, hupsert⟩ | ⟨hallowed, hupsert⟩
  · rcases upsert_cases clock timeOfDay request other with
      ⟨fault', hrefused', hupsert'⟩ | ⟨hallowed', -⟩
    · rw [← hlive, hrefused] at hrefused'
      obtain rfl := Except.error.inj hrefused'
      rw [hupsert, hupsert']
      exact ⟨rfl, hagree⟩
    · rw [← hlive, hrefused] at hallowed'
      cases hallowed'
  · rcases upsert_cases clock timeOfDay request other with
      ⟨fault', hrefused', -⟩ | ⟨-, hupsert'⟩
    · rw [← hlive, hallowed] at hrefused'
      cases hrefused'
    · rw [hupsert, hupsert']
      refine ⟨?_, hafter⟩
      show Except.ok _ = Except.ok _
      rw [Storage.UpsertRequest.key, hmemory]

theorem delete_agree {request : Storage.DeleteRequest}
    (hagree : Store.AgreeOn request.spaceId state.store other.store) :
    (delete timeOfDay request state).1 = (delete timeOfDay request other).1 ∧
      Store.AgreeOn request.spaceId (delete timeOfDay request state).2.store
        (delete timeOfDay request other).2.store := by
  obtain ⟨hdeleted, hafter⟩ := hagree.remove request.memoryId
  rw [delete_eq, delete_eq]
  refine ⟨?_, hafter⟩
  show Except.ok _ = Except.ok _
  rw [Storage.DeleteRequest.key, hdeleted]

end Answers

theorem query_agree {store others : Store} {request : Retrieval.Request} (maxLimit : UInt32)
    (hagree : Store.AgreeOn request.spaceId store others) :
    query maxLimit store request = query maxLimit others request := by
  have hhits : allHits store request.spaceId request.query =
      allHits others request.spaceId request.query := by
    rw [allHits, allHits, hagree.inSpace_eq]
  rw [query, query, answerQuery, answerQuery, hhits]

theorem evaluate_agree {store others : Store} {request : Evaluation.Request} (strict : Bool)
    (hspace : request.spaceId = some spaceId) (hagree : Store.AgreeOn spaceId store others) :
    evaluate strict store request = evaluate strict others request := by
  have hresults : results store request = results others request := by
    unfold results
    apply List.map_congr_left
    intro id _
    rw [hspace, candidateScore, candidateScore, Store.find?, Store.find?, hagree.get?_eq]
  rw [evaluate, evaluate, hresults]

/-- A command that is addressed to a space gets the same answer wherever the slots of the space are
the same, and leaves them the same. -/
theorem perform_agree (settings : Settings) (clock : Clock)
    (haddress : call.command.address? = some spaceId)
    (hagree : Store.AgreeOn spaceId state.store other.store) :
    (perform settings clock call state).1 = (perform settings clock call other).1 ∧
      Store.AgreeOn spaceId (perform settings clock call state).2.store
        (perform settings clock call other).2.store := by
  obtain ⟨timeOfDay, command⟩ := call
  cases command with
  | upsert request =>
    obtain rfl := Option.some.inj haddress
    obtain ⟨hanswer, hafter⟩ := upsert_agree clock timeOfDay hagree
    exact ⟨congrArg (Turn.upsert _ _) hanswer, hafter⟩
  | delete request =>
    obtain rfl := Option.some.inj haddress
    obtain ⟨hanswer, hafter⟩ := delete_agree timeOfDay hagree
    exact ⟨congrArg (Turn.delete _) hanswer, hafter⟩
  | query request =>
    obtain rfl := Option.some.inj haddress
    exact ⟨congrArg (Turn.query _) (query_agree settings.maxLimit hagree), hagree⟩
  | evaluate request =>
    exact ⟨congrArg (Turn.evaluate _) (evaluate_agree settings.strictEvaluation haddress hagree),
      hagree⟩
  | decide request => cases haddress
  | ingest request => cases haddress

/-! ## Writes elsewhere -/

theorem agreeOn_foldl_acceptRecord (idempotencyKey : String) (now : EpochMillis)
    {entries : List (Ingestion.Record × String)}
    (helsewhere : ∀ entry ∈ entries, entry.1.key.spaceId ≠ spaceId) (state : State) :
    Store.AgreeOn spaceId (entries.foldl (acceptRecord idempotencyKey now) state).store
      state.store := by
  induction entries generalizing state with
  | nil => exact Store.agreeOn_refl _ _
  | cons entry rest ih =>
    obtain ⟨hentry, hrest⟩ := List.forall_mem_cons.1 helsewhere
    exact (ih hrest _).trans (Store.agreeOn_put state.store hentry _ _ _)

theorem ne_of_not_mem_singleton {address : SpaceId} (hnot : spaceId ∉ [address]) :
    address ≠ spaceId := by
  rintro rfl
  exact hnot List.mem_cons_self

/-- What a command writes to other spaces leaves the slots of a space as they are. -/
theorem perform_elsewhere (settings : Settings) (clock : Clock) (state : State)
    (helsewhere : spaceId ∉ call.command.targets) :
    Store.AgreeOn spaceId (perform settings clock call state).2.store state.store := by
  obtain ⟨timeOfDay, command⟩ := call
  cases command with
  | upsert request =>
    have hother := ne_of_not_mem_singleton helsewhere
    show Store.AgreeOn spaceId (upsert clock timeOfDay request state).2.store state.store
    rcases upsert_cases clock timeOfDay request state with ⟨_, _, hupsert⟩ | ⟨_, hupsert⟩
    · rw [hupsert]
      exact Store.agreeOn_refl _ _
    · rw [hupsert]
      exact Store.agreeOn_put _ hother _ _ _
  | delete request =>
    have hother : request.key.spaceId ≠ spaceId := ne_of_not_mem_singleton helsewhere
    exact Store.agreeOn_remove state.store hother
  | ingest request =>
    show Store.AgreeOn spaceId (ingest clock timeOfDay request state).2.store state.store
    rcases ingest_cases clock timeOfDay request state with
      ⟨_, _, hingest⟩ | ⟨_, _, hingest⟩ | ⟨_, _, hingest⟩
    · rw [hingest]
      exact Store.agreeOn_refl _ _
    · rw [hingest]
      exact Store.agreeOn_refl _ _
    · rw [hingest]
      refine agreeOn_foldl_acceptRecord _ _ ?_ _
      rintro entry hentry hsame
      obtain ⟨record, hrecord, rfl⟩ := List.mem_map.1 hentry
      have hmem := (mem_recordsOf.1 hrecord).1
      exact helsewhere (List.mem_map.2 ⟨record, hmem, hsame⟩)
  | query request => exact Store.agreeOn_refl _ _
  | evaluate request => exact Store.agreeOn_refl _ _
  | decide request => exact Store.agreeOn_refl _ _

/-! ## States that are the same for a space -/

/-- Whether two states are the same for a space: they hold the same slots for it, and the same
ledger. -/
structure SameFor (spaceId : SpaceId) (state other : State) : Prop where
  /-- The slots of the space are the same. -/
  slots : Store.AgreeOn spaceId state.store other.store
  /-- What was accepted is the same. -/
  ledger : state.ledger = other.ledger

theorem sameFor_refl (spaceId : SpaceId) (state : State) : SameFor spaceId state state :=
  ⟨Store.agreeOn_refl _ _, rfl⟩

theorem ledger_perform (settings : Settings) (clock : Clock) (state : State)
    (hnot : ∀ request, call.command ≠ .ingest request) :
    (perform settings clock call state).2.ledger = state.ledger := by
  obtain ⟨timeOfDay, command⟩ := call
  cases command with
  | upsert request => exact upsert_ledger clock timeOfDay request state
  | ingest request => exact absurd rfl (hnot request)
  | _ => rfl

theorem SameFor.acceptRecord (hsame : SameFor spaceId state other) (idempotencyKey : String)
    (now : EpochMillis) (entry : Ingestion.Record × String) :
    SameFor spaceId (acceptRecord idempotencyKey now state entry)
      (acceptRecord idempotencyKey now other entry) := by
  refine ⟨hsame.slots.put_both _ _ _ _, ?_⟩
  show state.ledger.insert _ _ = other.ledger.insert _ _
  rw [hsame.ledger]

theorem SameFor.openEntry (hsame : SameFor spaceId state other) (idempotencyKey : String) :
    SameFor spaceId (openEntry state idempotencyKey) (openEntry other idempotencyKey) := by
  refine ⟨hsame.slots, ?_⟩
  show state.ledger.insert _ _ = other.ledger.insert _ _
  rw [hsame.ledger]

theorem SameFor.foldl_acceptRecord (hsame : SameFor spaceId state other) (idempotencyKey : String)
    (now : EpochMillis) (entries : List (Ingestion.Record × String)) :
    SameFor spaceId (entries.foldl (InMemory.acceptRecord idempotencyKey now) state)
      (entries.foldl (InMemory.acceptRecord idempotencyKey now) other) := by
  induction entries generalizing state other with
  | nil => exact hsame
  | cons entry rest ih => exact ih (hsame.acceptRecord idempotencyKey now entry)

/-- Batches are looked up in the ledger only, and write the same wherever they are taken in. -/
theorem ingest_sameFor (clock : Clock) (timeOfDay : EpochMillis) (request : Ingestion.Request)
    (hsame : SameFor spaceId state other) :
    (ingest clock timeOfDay request state).1 = (ingest clock timeOfDay request other).1 ∧
      SameFor spaceId (ingest clock timeOfDay request state).2
        (ingest clock timeOfDay request other).2 := by
  have htaken : SameFor spaceId (takeIn (clock.read timeOfDay) request state)
      (takeIn (clock.read timeOfDay) request other) := by
    rw [takeIn, takeIn, hsame.ledger]
    exact (hsame.openEntry _).foldl_acceptRecord _ _ _
  unfold ingest
  cases Ingestion.Request.contract.validate request with
  | error rejection => exact ⟨rfl, hsame⟩
  | ok _ =>
    dsimp only
    rw [ingestValid_eq, ingestValid_eq, hsame.ledger]
    split
    · exact ⟨rfl, htaken⟩
    · exact ⟨rfl, hsame.openEntry _⟩

theorem isElsewhere_eq_true_iff {command : Command} :
    command.isElsewhere spaceId = true ↔
      ∃ address, command.address? = some address ∧ address ≠ spaceId := by
  simp [Command.isElsewhere, Option.any_eq_true]

theorem concerns_of_address {turn : Turn} {address : SpaceId}
    (haddress : turn.command.address? = some address) :
    turn.concerns spaceId = true ↔ address = spaceId := by
  unfold Turn.concerns
  split
  · rename_i hdecide
    rw [hdecide] at haddress
    cases haddress
  · rename_i hingest
    rw [hingest] at haddress
    cases haddress
  · rw [haddress, decide_eq_true_iff, Option.some.injEq]

theorem not_mem_targets_of_address {command : Command} {address : SpaceId}
    (haddress : command.address? = some address) (hother : address ≠ spaceId) :
    spaceId ∉ command.targets := by
  cases command with
  | upsert request =>
    obtain rfl := Option.some.inj haddress
    simpa [Command.targets] using hother.symm
  | delete request =>
    obtain rfl := Option.some.inj haddress
    simpa [Command.targets] using hother.symm
  | ingest request => cases haddress
  | _ => exact List.not_mem_nil

theorem ne_ingest_of_address {command : Command} {address : SpaceId}
    (haddress : command.address? = some address) (request : Ingestion.Request) :
    command ≠ .ingest request := by
  rintro rfl
  cases haddress

/-- What is addressed to other spaces is no answer for a space, and leaves the state the same for
it. -/
theorem perform_isElsewhere (settings : Settings) (clock : Clock)
    (helsewhere : call.command.isElsewhere spaceId = true) (hsame : SameFor spaceId state other) :
    (perform settings clock call state).1.concerns spaceId = false ∧
      SameFor spaceId (perform settings clock call state).2 other := by
  obtain ⟨address, haddress, hother⟩ := isElsewhere_eq_true_iff.1 helsewhere
  have hslots := perform_elsewhere settings clock state
    (not_mem_targets_of_address haddress hother)
  have hledger := ledger_perform settings clock state (ne_ingest_of_address haddress)
  refine ⟨?_, hslots.trans hsame.slots, hledger.trans hsame.ledger⟩
  rw [← command_perform settings clock call state] at haddress
  rw [Bool.eq_false_iff, Ne, concerns_of_address haddress]
  exact hother

/-- Everything else gets the same answer, if it is one for the space, and does the same. -/
theorem perform_not_isElsewhere (settings : Settings) (clock : Clock)
    (hnot : call.command.isElsewhere spaceId = false) (hsame : SameFor spaceId state other) :
    [(perform settings clock call state).1].filter (Turn.concerns spaceId) =
        [(perform settings clock call other).1].filter (Turn.concerns spaceId) ∧
      SameFor spaceId (perform settings clock call state).2
        (perform settings clock call other).2 := by
  cases haddress : call.command.address? with
  | some address =>
    have hhere : address = spaceId := by
      by_contra hother
      rw [isElsewhere_eq_true_iff.2 ⟨address, haddress, hother⟩] at hnot
      cases hnot
    subst hhere
    have hledger (state : State) :=
      ledger_perform settings clock state (ne_ingest_of_address haddress)
    obtain ⟨hanswer, hafter⟩ := perform_agree settings clock haddress hsame.slots
    rw [hanswer]
    exact ⟨rfl, hafter, by rw [hledger, hledger, hsame.ledger]⟩
  | none =>
    obtain ⟨timeOfDay, command⟩ := call
    cases command with
    | evaluate request =>
      -- an evaluation in all spaces is no answer for one of them
      have hunseen (answer : Except Evaluation.Fault Evaluation.Response) :
          (Turn.evaluate request answer).concerns spaceId = false := by
        show Decidable.decide ((Command.evaluate request).address? = some spaceId) = false
        rw [haddress]
        rfl
      refine ⟨?_, hsame⟩
      show [Turn.evaluate request _].filter _ = [Turn.evaluate request _].filter _
      simp only [List.filter_cons, hunseen, Bool.false_eq_true, if_false]
    | decide request => exact ⟨rfl, hsame⟩
    | ingest request =>
      obtain ⟨hanswer, hafter⟩ := ingest_sameFor clock timeOfDay request hsame
      exact ⟨congrArg (fun answer => [Turn.ingest _ request answer].filter _) hanswer, hafter⟩
    | _ => cases haddress

end Call

/-! ## Steps of schedules -/

/-- Whether a step begins with a command that is addressed to another space than the given one. -/
def Move.isElsewhere (spaceId : SpaceId) : Move → Bool
  | .call invocation => invocation.command.isElsewhere spaceId
  | .proceed => false

/-- Whether a step is to be seen from a space: all but the answers that are none for it. -/
def Event.concerns (spaceId : SpaceId) : Event → Bool
  | .answered turn => turn.concerns spaceId
  | _ => true

section Step

variable {spaceId : SpaceId} {system other : System}

/-- Whether two systems are the same for a space: their states are, and the batch that is being
taken in is the same. -/
structure System.SameFor (spaceId : SpaceId) (system other : System) : Prop where
  /-- The states are the same for it. -/
  state : InMemory.SameFor spaceId system.state other.state
  /-- The batch is the same. -/
  intake : system.intake = other.intake

theorem receive_sameFor (clock : Clock) (timeOfDay : EpochMillis) (request : Ingestion.Request)
    (hsame : System.SameFor spaceId system other) :
    (system.receive clock timeOfDay request).1 = (other.receive clock timeOfDay request).1 ∧
      System.SameFor spaceId (system.receive clock timeOfDay request).2
        (other.receive clock timeOfDay request).2 := by
  obtain ⟨state, intake⟩ := system
  obtain ⟨state', intake'⟩ := other
  obtain ⟨hstate, rfl⟩ := hsame
  have hopen := hstate.openEntry request.idempotencyKey
  unfold System.receive
  cases Ingestion.Request.contract.validate request with
  | error rejection => exact ⟨rfl, hstate, rfl⟩
  | ok _ =>
    cases intake with
    | some intake => exact ⟨rfl, hstate, rfl⟩
    | none =>
      dsimp only
      rw [ingestValid_eq, ingestValid_eq, hstate.ledger]
      by_cases hchanged : (recordsOf .changed state'.ledger request).isEmpty = true
      · rw [if_pos hchanged, if_pos hchanged]
        exact ⟨rfl, hopen, rfl⟩
      · rw [if_neg hchanged, if_neg hchanged]
        exact ⟨rfl, hopen, rfl⟩

theorem proceed_sameFor (hsame : System.SameFor spaceId system other) :
    system.proceed.1 = other.proceed.1 ∧
      System.SameFor spaceId system.proceed.2 other.proceed.2 := by
  obtain ⟨state, intake⟩ := system
  obtain ⟨state', intake'⟩ := other
  obtain ⟨hstate, rfl⟩ := hsame
  cases intake with
  | none => exact ⟨rfl, hstate, rfl⟩
  | some intake =>
    obtain ⟨now, request, pending, response⟩ := intake
    cases pending with
    | nil => exact ⟨rfl, hstate, rfl⟩
    | cons record rest =>
      exact ⟨rfl, hstate.acceptRecord request.idempotencyKey now (record, fingerprint record), rfl⟩

variable {move : Move}

theorem step_isElsewhere (settings : Settings) (clock : Clock)
    (helsewhere : move.isElsewhere spaceId = true) (hsame : System.SameFor spaceId system other) :
    (System.step settings clock move system).1.concerns spaceId = false ∧
      System.SameFor spaceId (System.step settings clock move system).2 other := by
  cases move with
  | proceed => cases helsewhere
  | call call =>
    obtain ⟨hunseen, hafter⟩ := perform_isElsewhere settings clock helsewhere hsame.state
    obtain ⟨timeOfDay, command⟩ := call
    cases command with
    | ingest request => cases helsewhere
    | _ => exact ⟨hunseen, hafter, hsame.intake⟩

theorem filter_answered (spaceId : SpaceId) (turn : Turn) :
    [Event.answered turn].filter (Event.concerns spaceId) =
      ([turn].filter (Turn.concerns spaceId)).map .answered := by
  show ([turn].map Event.answered).filter _ = _
  rw [List.filter_map]
  rfl

theorem step_not_isElsewhere (settings : Settings) (clock : Clock)
    (hnot : move.isElsewhere spaceId = false) (hsame : System.SameFor spaceId system other) :
    [(System.step settings clock move system).1].filter (Event.concerns spaceId) =
        [(System.step settings clock move other).1].filter (Event.concerns spaceId) ∧
      System.SameFor spaceId (System.step settings clock move system).2
        (System.step settings clock move other).2 := by
  cases move with
  | proceed =>
    obtain ⟨hevent, hafter⟩ := proceed_sameFor hsame
    exact ⟨congrArg (fun event => [event].filter _) hevent, hafter⟩
  | call call =>
    obtain ⟨hturn, hafter⟩ := perform_not_isElsewhere settings clock hnot hsame.state
    obtain ⟨timeOfDay, command⟩ := call
    cases command with
    | ingest request =>
      obtain ⟨hevent, hafter⟩ := receive_sameFor clock timeOfDay request hsame
      exact ⟨congrArg (fun event => [event].filter _) hevent, hafter⟩
    | _ =>
      have hanswered := congrArg (List.map Event.answered) hturn
      rw [← filter_answered, ← filter_answered] at hanswered
      exact ⟨hanswered, hafter, hsame.intake⟩

end Step

/-! ## Spaces are isolated -/

/-- What keeps the clients of a space from telling what happens elsewhere. -/
structure Isolated (settings : Settings) (clock : Clock) (spaceId : SpaceId) : Prop where
  /-- A command that is addressed to the space is answered from its slots alone, and what it does to
  them depends on them alone. -/
  answers : ∀ (call : Invocation) (state other : State),
    call.command.address? = some spaceId → Store.AgreeOn spaceId state.store other.store →
    (perform settings clock call state).1 = (perform settings clock call other).1 ∧
      Store.AgreeOn spaceId (perform settings clock call state).2.store
        (perform settings clock call other).2.store
  /-- A command that has no target in the space leaves every slot of it as it is. -/
  writes : ∀ (call : Invocation) (state : State), spaceId ∉ call.command.targets →
    Store.AgreeOn spaceId (perform settings clock call state).2.store state.store
  /-- A run gives the space the same answers without all commands that are addressed to other
  spaces, and leaves it the same slots. -/
  runs : ∀ calls : List Invocation,
    (transcript settings clock calls).filter (Turn.concerns spaceId) =
        (transcript settings clock
          (calls.filter fun call => !call.command.isElsewhere spaceId)).filter
            (Turn.concerns spaceId) ∧
      SameFor spaceId (stateAfter settings clock calls)
        (stateAfter settings clock (calls.filter fun call => !call.command.isElsewhere spaceId))
  /-- And so does a schedule, in which batches are stored step by step. -/
  schedules : ∀ moves : List Move,
    (events settings clock moves).filter (Event.concerns spaceId) =
        (events settings clock (moves.filter fun move => !move.isElsewhere spaceId)).filter
          (Event.concerns spaceId) ∧
      System.SameFor spaceId (systemAfter settings clock moves)
        (systemAfter settings clock (moves.filter fun move => !move.isElsewhere spaceId))

/-- Spaces are isolated from each other, whatever the clock shows. -/
theorem spaces_isolated (settings : Settings) (clock : Clock) (spaceId : SpaceId) :
    Isolated settings clock spaceId where
  answers _ _ _ haddress hagree := perform_agree settings clock haddress hagree
  writes _ state htargets := perform_elsewhere settings clock state htargets
  runs calls := by
    refine Run.filter_reports_eq ?dropped ?kept calls (sameFor_refl spaceId .empty)
    case dropped =>
      intro call state other helsewhere hsame
      exact perform_isElsewhere settings clock helsewhere hsame
    case kept =>
      intro call state other hnot hsame
      exact perform_not_isElsewhere settings clock hnot hsame
  schedules moves := by
    refine Run.filter_reports_eq ?dropped ?kept moves ⟨sameFor_refl spaceId .empty, rfl⟩
    case dropped =>
      intro move system other helsewhere hsame
      exact step_isElsewhere settings clock helsewhere hsame
    case kept =>
      intro move system other hnot hsame
      exact step_not_isElsewhere settings clock hnot hsame

/-- The other space of a run for two. -/
def harbour : SpaceId :=
  ⟨"harbour", by decide +kernel, by decide⟩

/-- A run in which a memory of one space is written and removed between two writes of the memory
with the same identifier in another one. -/
def runForTwo : List Invocation :=
  [⟨0, .upsert (writeAnvil (some 0))⟩,
    ⟨0, .upsert ⟨harbour, anvil, .episodic, .string "rusty", none⟩⟩,
    ⟨0, .delete ⟨harbour, anvil⟩⟩, ⟨0, .upsert (writeAnvil (some 1))⟩]

/-- The answers for one space are those of a run without the other. -/
theorem village_answers :
    (runForTwo.filter fun call => !call.command.isElsewhere village) =
        [⟨0, .upsert (writeAnvil (some 0))⟩, ⟨0, .upsert (writeAnvil (some 1))⟩] ∧
      (transcript .deterministic .deterministic runForTwo).filter (Turn.concerns village) =
        (transcript .deterministic .deterministic
          [⟨0, .upsert (writeAnvil (some 0))⟩, ⟨0, .upsert (writeAnvil (some 1))⟩]).filter
            (Turn.concerns village) := by
  have hkept : (runForTwo.filter fun call => !call.command.isElsewhere village) =
      [⟨0, .upsert (writeAnvil (some 0))⟩, ⟨0, .upsert (writeAnvil (some 1))⟩] := by
    decide +kernel
  have hanswers := ((spaces_isolated .deterministic .deterministic village).runs runForTwo).1
  rw [hkept] at hanswers
  exact ⟨hkept, hanswers⟩

end Recollection.InMemory
