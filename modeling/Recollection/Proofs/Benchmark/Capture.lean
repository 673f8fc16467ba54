import Recollection.Proofs.Benchmark.ContractEngine
import Recollection.Proofs.Benchmark.Variables
import Recollection.Proofs.Service.Run
/-!
# The engine over contracts captures every replay

The first pass over a store makes its events known and touches nothing else, the second finds each
of them known, and the third only reads. Stores do not get in each other's way, as an identifier
tells the store it belongs to; so what holds of one pass holds of the whole run, for every plan from
the environment and whatever was drawn for its workloads.
-/

set_option autoImplicit false

namespace Recollection.Benchmark

/-! ## Workloads one after the other -/

section Exercise

variable {σ : Type} (engine : Engine σ)

theorem performAll_eq (calls : List EngineCall) (state : σ) :
    engine.performAll calls state =
      (Run.reports engine.perform calls state, Run.final engine.perform calls state) := by
  induction calls generalizing state with
  | nil => rfl
  | cons call rest ih =>
    show ((engine.perform call state).1 ::
        (engine.performAll rest (engine.perform call state).2).1,
      (engine.performAll rest (engine.perform call state).2).2) = _
    rw [ih]
    rfl

theorem perform_ingest {event : Event} {state after : σ}
    {outcome : Except EngineFault IngestOutcome}
    (hingest : engine.ingest event state = (outcome, after)) :
    engine.perform (.ingest event) state = (.ingested outcome, after) := by
  simp only [Engine.perform, hingest]

theorem perform_replay {event : Event} {state after : σ}
    {outcome : Except EngineFault IngestOutcome}
    (hingest : engine.ingest event state = (outcome, after)) :
    engine.perform (.replay event) state = (.replayed outcome, after) := by
  simp only [Engine.perform, hingest]

theorem perform_recollect {query : Query} {state after : σ}
    {outcome : Except EngineFault RecallOutcome}
    (hrecollect : engine.recollect query state = (outcome, after)) :
    engine.perform (.recollect query) state = (.recalled outcome, after) := by
  simp only [Engine.perform, hrecollect]

/-- Calls that are captured in a state and leave it are captured one after the other. -/
theorem captured_of_steady {calls : List EngineCall} {state : σ}
    (hsteady : ∀ call ∈ calls, ∃ reply, engine.perform call state = (reply, state) ∧
      Captured call reply) :
    List.Forall₂ Captured calls (Run.reports engine.perform calls state) ∧
      Run.final engine.perform calls state = state := by
  induction calls with
  | nil => exact ⟨.nil, rfl⟩
  | cons call rest ih =>
    rw [List.forall_mem_cons] at hsteady
    obtain ⟨⟨reply, hperform, hcaptured⟩, hrest⟩ := hsteady
    obtain ⟨hreplies, hfinal⟩ := ih hrest
    rw [Run.reports, Run.final, hperform]
    exact ⟨.cons hcaptured hreplies, hfinal⟩

/-- Exercises workloads one after the other and keeps the replies to each. -/
def Engine.exercise {σ : Type} (engine : Engine σ) :
    List StoreWorkload → σ → List (StoreWorkload × List Reply)
  | [], _ => []
  | workload :: rest, state =>
    let (replies, state) := engine.performAll workload.calls state
    (workload, replies) :: engine.exercise rest state

theorem map_fst_exercise (workloads : List StoreWorkload) (state : σ) :
    (engine.exercise workloads state).map Prod.fst = workloads := by
  induction workloads generalizing state with
  | nil => rfl
  | cons workload rest ih =>
    rw [Engine.exercise, List.map_cons, ih]

/-- The samples of workloads that were exercised, the first of them at a position. -/
def samplesFrom (millis : Nat → Nat → Binary64) :
    (position : Nat) → List (StoreWorkload × List Reply) → List (String × Samples)
  | _, [] => []
  | position, (workload, replies) :: rest =>
    (workload.storeId, .ofReplies workload.events.length
      (replies.mapIdx fun index reply => ⟨millis position index, reply⟩)) ::
        samplesFrom millis (position + 1) rest

/-- The workloads that a seed gives the stores that are left, the first of them at a position. -/
def generatedFrom (plan : WorkloadPlan) : (position : Nat) → List String → List StoreWorkload
  | _, [] => []
  | position, storeId :: rest =>
    .generate plan storeId (.ofNat position) :: generatedFrom plan (position + 1) rest

theorem drawn_generatedFrom (plan : WorkloadPlan) (position : Nat) (stores : List String) :
    List.Forall₂ (Drawn plan) stores (generatedFrom plan position stores) := by
  induction stores generalizing position with
  | nil => exact .nil
  | cons storeId rest ih => exact .cons (drawn_generate plan storeId _) (ih _)

/-- A run over the stores of a plan exercises the workloads that its seed gives. -/
theorem runStores_eq (millis : Nat → Nat → Binary64) (plan : WorkloadPlan) (position : Nat)
    (stores : List String) (state : σ) :
    (runStores engine millis plan position stores state).1 =
      samplesFrom millis position
        (engine.exercise (generatedFrom plan position stores) state) := by
  induction stores generalizing position state with
  | nil => rfl
  | cons storeId rest ih =>
    have hstore := (drawn_generate plan storeId (.ofNat position)).store
    rw [runStores, generatedFrom, Engine.exercise, samplesFrom, ← ih, hstore]
    rfl

theorem map_fst_samplesFrom (millis : Nat → Nat → Binary64) (position : Nat)
    (exercised : List (StoreWorkload × List Reply)) :
    (samplesFrom millis position exercised).map Prod.fst =
      exercised.map fun entry => entry.1.storeId := by
  induction exercised generalizing position with
  | nil => rfl
  | cons entry rest ih =>
    rw [samplesFrom, List.map_cons, ih, List.map_cons]

/-- Replies that capture a number of events of each workload give samples that do. -/
theorem captures_samplesFrom {count : UInt64} (millis : Nat → Nat → Binary64) (position : Nat)
    {exercised : List (StoreWorkload × List Reply)}
    (hcaptured : ∀ entry ∈ exercised, List.Forall₂ Captured entry.1.calls entry.2)
    (hcount : ∀ entry ∈ exercised, .ofNat entry.1.events.length = count) :
    ∀ entry ∈ samplesFrom millis position exercised, entry.2.Captures count := by
  induction exercised generalizing position with
  | nil => simp [samplesFrom]
  | cons entry rest ih =>
    rw [List.forall_mem_cons] at hcaptured hcount
    rw [samplesFrom, List.forall_mem_cons]
    refine ⟨?_, ih _ hcaptured.2 hcount.2⟩
    rw [← hcount.1]
    exact Samples.captures_ofReplies hcaptured.1 _

end Exercise

/-! ## The passes over a store -/

namespace ContractEngine

section Passes

/-- The engine over services in memory, with any settings and any clock. -/
abbrev overMemory (settings : Settings) (clock : Clock) (timeOfDay : EpochMillis) :
    Engine InMemory.State :=
  engine (.inMemory settings clock) timeOfDay

variable (settings : Settings) (clock : Clock) (timeOfDay : EpochMillis) {state : InMemory.State}

/-- The first pass: every event is new, all are known in the end, and nothing happens to others. -/
theorem ingest_pass {events : List Event} (hsendable : ∀ event ∈ events, event.Sendable)
    (hnodup : (events.map Event.eventId).Nodup)
    (hunknown : ∀ event ∈ events, Unknown state event.eventId) :
    List.Forall₂ Captured (events.map .ingest)
        (Run.reports (overMemory settings clock timeOfDay).perform (events.map .ingest) state) ∧
      (∀ event ∈ events, Known (Run.final (overMemory settings clock timeOfDay).perform
        (events.map .ingest) state) event) ∧
      ∀ other ∉ events.map Event.eventId, SameEvent state
        (Run.final (overMemory settings clock timeOfDay).perform (events.map .ingest) state)
          other := by
  induction events generalizing state with
  | nil => exact ⟨.nil, by simp, fun _ _ _ => rfl⟩
  | cons event rest ih =>
    rw [List.forall_mem_cons] at hsendable hunknown
    rw [List.map_cons, List.nodup_cons] at hnodup
    obtain ⟨outcome, after, hingest, htells, hknown, hsame⟩ :=
      ingest_of_unknown settings clock timeOfDay hsendable.1 hunknown.1
    have hperform := perform_ingest (overMemory settings clock timeOfDay) hingest
    have hstill : ∀ later ∈ rest, Unknown after later.eventId := by
      intro later hlater
      have hne : event.eventId ≠ later.eventId := fun heq =>
        hnodup.1 (heq ▸ List.mem_map_of_mem hlater)
      exact (hunknown.2 later hlater).of_same (hsame _ hne)
    obtain ⟨hreplies, hrest, hothers⟩ := ih hsendable.2 hnodup.2 hstill
    rw [List.map_cons, Run.reports, Run.final, hperform]
    refine ⟨.cons (.ingest event htells) hreplies, ?_, ?_⟩
    · rw [List.forall_mem_cons]
      exact ⟨hknown.of_same (hothers _ hnodup.1), hrest⟩
    · intro other hother id
      rw [List.map_cons, List.mem_cons, not_or] at hother
      rw [hothers other hother.2 id, hsame other (Ne.symm hother.1) id]

/-- The second pass: every event is a duplicate, and the state stays as it is. -/
theorem replay_pass {events : List Event} (hknown : ∀ event ∈ events, Known state event) :
    List.Forall₂ Captured (events.map .replay)
        (Run.reports (overMemory settings clock timeOfDay).perform (events.map .replay) state) ∧
      Run.final (overMemory settings clock timeOfDay).perform (events.map .replay) state =
        state := by
  refine captured_of_steady _ fun call hcall => ?_
  obtain ⟨event, hevent, rfl⟩ := List.mem_map.1 hcall
  obtain ⟨outcome, hingest, htells⟩ :=
    ingest_of_known settings clock timeOfDay (hknown event hevent)
  exact ⟨_, perform_replay _ hingest, .replay event htells⟩

/-- The third pass: every query is answered, and the state stays as it is. -/
theorem recollect_pass (hlimit : Settings.isPageLimit settings.maxLimit = true)
    {queries : List Query} (hsendable : ∀ query ∈ queries, query.Sendable)
    (state : InMemory.State) :
    List.Forall₂ Captured (queries.map .recollect)
        (Run.reports (overMemory settings clock timeOfDay).perform (queries.map .recollect)
          state) ∧
      Run.final (overMemory settings clock timeOfDay).perform (queries.map .recollect) state =
        state := by
  refine captured_of_steady _ fun call hcall => ?_
  obtain ⟨query, hquery, rfl⟩ := List.mem_map.1 hcall
  obtain ⟨outcome, hrecollect⟩ :=
    recollect_of_sendable settings clock timeOfDay hlimit (hsendable query hquery) state
  exact ⟨_, perform_recollect _ hrecollect, .recollect query outcome⟩

/-- All passes over the workload of a store whose events are unknown. -/
theorem passes (hlimit : Settings.isPageLimit settings.maxLimit = true) {plan : WorkloadPlan}
    {storeId : String} {workload : StoreWorkload} (hdrawn : Drawn plan storeId workload)
    (hstore : Text.isBlankText storeId = false)
    (hunknown : ∀ index, Unknown state (eventIdAt storeId index)) :
    List.Forall₂ Captured workload.calls
        ((overMemory settings clock timeOfDay).performAll workload.calls state).1 ∧
      ∀ other, (∀ index, other ≠ eventIdAt storeId index) → SameEvent state
        ((overMemory settings clock timeOfDay).performAll workload.calls state).2 other := by
  have hfresh : ∀ event ∈ workload.events, Unknown state event.eventId := by
    intro event hevent
    obtain ⟨index, hindex⟩ := hdrawn.exists_eventIdAt (List.mem_map_of_mem hevent)
    rw [hindex]
    exact hunknown index
  obtain ⟨hingested, hknown, hothers⟩ := ingest_pass settings clock timeOfDay
    (fun _ => hdrawn.event_sendable hstore) hdrawn.nodup_eventId hfresh
  obtain ⟨hreplayed, hreplayEnd⟩ := replay_pass settings clock timeOfDay hknown
  obtain ⟨hrecalled, hrecallEnd⟩ := recollect_pass settings clock timeOfDay hlimit
    (fun _ => hdrawn.query_sendable hstore) (Run.final
      (overMemory settings clock timeOfDay).perform (workload.events.map .ingest) state)
  simp only [performAll_eq, StoreWorkload.calls, Run.reports_append, Run.final_append, hreplayEnd,
    hrecallEnd]
  refine ⟨List.rel_append (List.rel_append hingested hreplayed) hrecalled, ?_⟩
  intro other hother
  refine hothers other fun hmem => ?_
  obtain ⟨index, hindex⟩ := hdrawn.exists_eventIdAt hmem
  exact hother index hindex

/-- Every workload of a run over distinct stores, none of whose events is known, is captured. -/
theorem captured_exercise (hlimit : Settings.isPageLimit settings.maxLimit = true)
    {plan : WorkloadPlan} {stores : List String} {workloads : List StoreWorkload}
    (hdrawn : List.Forall₂ (Drawn plan) stores workloads) (hdistinct : DistinctStores stores)
    (hunknown : ∀ storeId ∈ stores, ∀ index, Unknown state (eventIdAt storeId index)) :
    ∀ entry ∈ (overMemory settings clock timeOfDay).exercise workloads state,
      List.Forall₂ Captured entry.1.calls entry.2 := by
  induction hdrawn generalizing state with
  | nil => simp [Engine.exercise]
  | @cons storeId workload stores workloads hfirst _ ih =>
    obtain ⟨hnew, hrest⟩ := List.nodup_cons.1 hdistinct.nodup
    obtain ⟨hvisible, hothers⟩ := List.forall_mem_cons.1 hdistinct.visible
    rw [List.forall_mem_cons] at hunknown
    obtain ⟨hcaptured, hsame⟩ :=
      passes settings clock timeOfDay hlimit hfirst hvisible hunknown.1
    rw [Engine.exercise, List.forall_mem_cons]
    refine ⟨hcaptured, ih ⟨hrest, hothers⟩ fun other hother index => ?_⟩
    -- an event of another store has another identifier
    refine (hunknown.2 other hother index).of_same (hsame _ fun position heq => ?_)
    exact hnew ((eventIdAt_injective heq).1 ▸ hother)

end Passes

end ContractEngine

/-! ## The whole run -/

/-- What is to be said of a run over workloads and of the report on it: each workload was exercised,
each of its calls was captured, and the report says so for every store and for all of them. -/
structure EveryReplayCaptured (plan : Plan) (workloads : List StoreWorkload)
    (exercised : List (StoreWorkload × List Reply)) (report : Report) : Prop where
  /-- The workloads were exercised in their order. -/
  workloads : exercised.map Prod.fst = workloads
  /-- Every call got its reply. -/
  replies : ∀ entry ∈ exercised, List.Forall₂ Captured entry.1.calls entry.2
  /-- There is a scope for every store. -/
  storeIds : report.stores.map Scope.storeId = plan.workload.stores
  /-- Each of them has captured its replays, without errors. -/
  stores : ∀ scope ∈ report.stores, scope.Captures plan.workload.events
  /-- So have all stores together. -/
  aggregate : report.aggregate.Captures
    (plan.workload.events * .ofNat plan.workload.stores.length)

theorem unknown_empty (eventId : String) : Unknown .empty eventId := by
  intro id
  simp [InMemory.remembered, InMemory.State.empty]

section Drawn

variable {plan : WorkloadPlan} {stores : List String} {workloads : List StoreWorkload}

theorem map_storeId_of_drawn (hdrawn : List.Forall₂ (Drawn plan) stores workloads) :
    workloads.map StoreWorkload.storeId = stores := by
  rw [← List.forall₂_eq_eq_eq, List.forall₂_map_left_iff]
  exact List.Forall₂.flip (hdrawn.imp fun _ _ hworkload => hworkload.store)

theorem length_events_of_drawn (hdrawn : List.Forall₂ (Drawn plan) stores workloads)
    {workload : StoreWorkload} (hmem : workload ∈ workloads) :
    .ofNat workload.events.length = plan.events := by
  obtain ⟨position, hposition, rfl⟩ := List.getElem_of_mem hmem
  have hworkload := hdrawn.get (by rwa [hdrawn.length_eq]) hposition
  rw [List.get_eq_getElem, List.get_eq_getElem] at hworkload
  rw [hworkload.length_events, UInt64.ofNat_toNat]

end Drawn

/-- The report on workloads that may be drawn for distinct stores. -/
theorem everyReplayCaptured_exercise {plan : Plan} (hdistinct : DistinctStores plan.workload.stores)
    {workloads : List StoreWorkload}
    (hdrawn : List.Forall₂ (Drawn plan.workload) plan.workload.stores workloads)
    (millis : Nat → Nat → Binary64) (runId : RunId) (generatedAt : Timestamp)
    (identity : EngineIdentity) :
    EveryReplayCaptured plan workloads (ContractEngine.inMemory.exercise workloads .empty)
      (.assemble runId generatedAt identity plan
        (samplesFrom millis 0 (ContractEngine.inMemory.exercise workloads .empty))) := by
  have hworkloads := map_fst_exercise ContractEngine.inMemory workloads .empty
  have hcaptured : ∀ entry ∈ ContractEngine.inMemory.exercise workloads .empty,
      List.Forall₂ Captured entry.1.calls entry.2 :=
    ContractEngine.captured_exercise .deterministic .deterministic 0 (by decide) hdrawn hdistinct
      fun _ _ _ => unknown_empty _
  generalize ContractEngine.inMemory.exercise workloads .empty = exercised at hworkloads hcaptured ⊢
  have hcount : ∀ entry ∈ exercised,
      UInt64.ofNat entry.1.events.length = plan.workload.events := by
    intro entry hentry
    refine length_events_of_drawn hdrawn ?_
    rw [← hworkloads]
    exact List.mem_map_of_mem hentry
  have hstores : (samplesFrom millis 0 exercised).map Prod.fst = plan.workload.stores := by
    rw [map_fst_samplesFrom, ← map_storeId_of_drawn hdrawn, ← hworkloads, List.map_map]
    rfl
  obtain ⟨haggregate, hscopes⟩ := Report.captures_assemble
    (captures_samplesFrom millis 0 hcaptured hcount) runId generatedAt identity plan
  refine ⟨hworkloads, hcaptured, ?_, hscopes, ?_⟩
  · rw [← hstores, Report.assemble, List.map_map]
    rfl
  · rwa [← hstores, List.length_map, UInt64.mul_comm]

/-- On every plan from the environment, the engine over contracts captures every replay: in the run
of the plan, which exercises the workloads that the seed gives, and on all other workloads that may
be drawn for its stores. Counts are words of 64 bits, as they are in reports. -/
theorem replays_captured {environment : Environment} {plan : Plan}
    (hplan : Plan.ofEnvironment environment = .ok plan) (millis : Nat → Nat → Binary64)
    (runId : RunId) (generatedAt : Timestamp) :
    (runStores ContractEngine.inMemory millis plan.workload 0 plan.workload.stores .empty).1 =
        samplesFrom millis 0 (ContractEngine.inMemory.exercise
          (generatedFrom plan.workload 0 plan.workload.stores) .empty) ∧
      EveryReplayCaptured plan (generatedFrom plan.workload 0 plan.workload.stores)
        (ContractEngine.inMemory.exercise (generatedFrom plan.workload 0 plan.workload.stores)
          .empty)
        (.assemble runId generatedAt ContractEngine.inMemory.identity plan
          (runStores ContractEngine.inMemory millis plan.workload 0 plan.workload.stores
            .empty).1) ∧
      ∀ workloads, List.Forall₂ (Drawn plan.workload) plan.workload.stores workloads →
        EveryReplayCaptured plan workloads (ContractEngine.inMemory.exercise workloads .empty)
          (.assemble runId generatedAt ContractEngine.inMemory.identity plan
            (samplesFrom millis 0 (ContractEngine.inMemory.exercise workloads .empty))) := by
  have hdistinct := distinctStores_of_ofEnvironment hplan
  have hrun := runStores_eq ContractEngine.inMemory millis plan.workload 0 plan.workload.stores
    .empty
  refine ⟨hrun, ?_, ?_⟩
  · rw [hrun]
    exact everyReplayCaptured_exercise hdistinct (drawn_generatedFrom plan.workload 0 _) millis
      runId generatedAt _
  · intro workloads hdrawn
    exact everyReplayCaptured_exercise hdistinct hdrawn millis runId generatedAt _

/-- An environment with two stores, one of which has the name of an event of the other. -/
def nestedNames : Environment
  | "MNEM_BENCH_EVENTS" => some "2"
  | "MNEM_BENCH_STORES" => some "mill, mill-evt-000000"
  | _ => none

/-- The plan from it. -/
def nestedPlan : Plan :=
  { Plan.standard with
    workload := { WorkloadPlan.standard with events := 2, stores := ["mill", "mill-evt-000000"] } }

/-- The report on it, had no call taken any time. -/
def nestedReport : Report :=
  .assemble ⟨0⟩ (.ofMillis 0) ContractEngine.inMemory.identity nestedPlan
    (runStores ContractEngine.inMemory (fun _ _ => .zero) nestedPlan.workload 0
      nestedPlan.workload.stores .empty).1

theorem nestedNames_captured :
    Plan.ofEnvironment nestedNames = .ok nestedPlan ∧
      nestedReport.stores.map Scope.storeId = ["mill", "mill-evt-000000"] ∧
      (∀ scope ∈ nestedReport.stores, scope.Captures 2) ∧ nestedReport.aggregate.Captures 4 := by
  have hplan : Plan.ofEnvironment nestedNames = .ok nestedPlan := rfl
  have hcaptured := (replays_captured hplan (fun _ _ => .zero) ⟨0⟩ (.ofMillis 0)).2.1
  exact ⟨hplan, hcaptured.storeIds, hcaptured.stores, hcaptured.aggregate⟩

end Recollection.Benchmark
