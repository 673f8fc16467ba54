import Recollection.Proofs.Benchmark.Capture
import Recollection.Proofs.Benchmark.Sums
/-!
# What the gate for duplicates tells

The gate holds the sum of all duplicates that were reported against the number of events. So an
event that is reported as two duplicates makes up for one that is lost. Where every event that is
sent again is reported as one duplicate at most, the gate passes exactly if each of them was taken
for one; and the engine over contracts reports one at most, as it sends an event as one record.
-/

set_option autoImplicit false

namespace Recollection.Benchmark

/-! ## Replies to the calls of a run -/

/-- A reply is one to a call of its kind. -/
inductive Answers : EngineCall → Reply → Prop
  /-- An event was sent. -/
  | ingest (event : Event) (outcome : Except EngineFault IngestOutcome) :
    Answers (.ingest event) (.ingested outcome)
  /-- It was sent again. -/
  | replay (event : Event) (outcome : Except EngineFault IngestOutcome) :
    Answers (.replay event) (.replayed outcome)
  /-- A query was asked. -/
  | recollect (query : Query) (outcome : Except EngineFault RecallOutcome) :
    Answers (.recollect query) (.recalled outcome)

section Run

variable {σ : Type} (engine : Engine σ)

theorem answers_perform (call : EngineCall) (state : σ) :
    Answers call (engine.perform call state).1 := by
  cases call with
  | ingest event => exact .ingest event _
  | replay event => exact .replay event _
  | recollect query => exact .recollect query _

/-- Every call of a run gets one reply, in order. -/
theorem answers_performAll (calls : List EngineCall) (state : σ) :
    List.Forall₂ Answers calls (engine.performAll calls state).1 := by
  rw [performAll_eq]
  induction calls generalizing state with
  | nil => exact .nil
  | cons call rest ih => exact .cons (answers_perform engine call state) (ih _)

/-- A reply of a run is one that its call gets in some state. -/
theorem exists_of_mem_performAll {calls : List EngineCall} {state : σ} {reply : Reply}
    (hreply : reply ∈ (engine.performAll calls state).1) :
    ∃ call ∈ calls, ∃ before, reply = (engine.perform call before).1 := by
  rw [performAll_eq] at hreply
  obtain ⟨front, back, hsplit⟩ := List.append_of_mem hreply
  obtain ⟨earlier, call, later, rfl, -, hreply, -⟩ := Run.split hsplit
  exact ⟨call, by simp, _, hreply⟩

end Run

/-! ## Duplicates -/

/-- The duplicates that a reply reports of an event that was sent again. -/
def Reply.duplicates? : Reply → Option UInt64
  | .replayed (.ok outcome) => some outcome.duplicates
  | _ => none

/-- Their number, which is zero where the event failed. -/
def Reply.duplicateCount (reply : Reply) : Nat :=
  (reply.duplicates?.map UInt64.toNat).getD 0

/-- An event that was sent again was taken for a duplicate. -/
def Caught (call : EngineCall) (reply : Reply) : Prop :=
  call.isReplay = true → ∃ outcome, reply = .replayed (.ok outcome) ∧ 1 ≤ outcome.duplicates

/-- Of no event that was sent again is more than one duplicate reported. -/
def ReportsMostOne (replies : List Reply) : Prop :=
  ∀ outcome, Reply.replayed (.ok outcome) ∈ replies → outcome.duplicates ≤ 1

/-- All duplicates that the replies of a run report. -/
def reportedDuplicates (replies : List Reply) : Nat :=
  sumOver Reply.duplicateCount replies

/-- One for a call that sends an event again, and zero for any other. -/
def EngineCall.replays (call : EngineCall) : Nat :=
  if call.isReplay then 1 else 0

theorem sumOver_replays (calls : List EngineCall) :
    sumOver EngineCall.replays calls = calls.countP EngineCall.isReplay := by
  induction calls with
  | nil => rfl
  | cons call rest ih => rw [sumOver, ih, List.countP_cons, EngineCall.replays, Nat.add_comm]

section Answered

variable {call : EngineCall} {reply : Reply}

theorem caught_iff (hanswers : Answers call reply) :
    Caught call reply ↔ call.replays ≤ reply.duplicateCount := by
  cases hanswers with
  | ingest event outcome => simp [Caught, EngineCall.replays, EngineCall.isReplay]
  | recollect query outcome => simp [Caught, EngineCall.replays, EngineCall.isReplay]
  | replay event outcome =>
    cases outcome with
    | error fault =>
      simp [Caught, EngineCall.replays, EngineCall.isReplay, Reply.duplicateCount,
        Reply.duplicates?]
    | ok outcome =>
      simp [Caught, EngineCall.replays, EngineCall.isReplay, Reply.duplicateCount,
        Reply.duplicates?, UInt64.le_iff_toNat_le]

theorem duplicateCount_le_iff (hanswers : Answers call reply) :
    reply.duplicateCount ≤ call.replays ↔
      ∀ outcome, reply = .replayed (.ok outcome) → outcome.duplicates ≤ 1 := by
  cases hanswers with
  | ingest event outcome => simp [Reply.duplicateCount, Reply.duplicates?]
  | recollect query outcome => simp [Reply.duplicateCount, Reply.duplicates?]
  | replay event outcome =>
    cases outcome with
    | error fault => simp [Reply.duplicateCount, Reply.duplicates?]
    | ok outcome =>
      simp [EngineCall.replays, EngineCall.isReplay, Reply.duplicateCount, Reply.duplicates?,
        UInt64.le_iff_toNat_le]

end Answered

section Replies

variable {calls : List EngineCall} {replies : List Reply}

theorem everyCaught_iff (hanswers : List.Forall₂ Answers calls replies) :
    List.Forall₂ Caught calls replies ↔
      List.Forall₂ (fun call reply => call.replays ≤ reply.duplicateCount) calls replies := by
  induction hanswers with
  | nil => exact iff_of_true .nil .nil
  | cons hfirst _ ih => rw [List.forall₂_cons, List.forall₂_cons, caught_iff hfirst, ih]

theorem reportsMostOne_iff (hanswers : List.Forall₂ Answers calls replies) :
    ReportsMostOne replies ↔
      List.Forall₂ (fun reply call => reply.duplicateCount ≤ call.replays) replies calls := by
  induction hanswers with
  | nil => exact iff_of_true (by simp [ReportsMostOne]) .nil
  | @cons call reply calls replies hfirst _ ih =>
    rw [List.forall₂_cons, duplicateCount_le_iff hfirst, ← ih]
    constructor
    · intro hall
      exact ⟨fun outcome heq => hall outcome (heq ▸ List.mem_cons_self),
        fun outcome hmem => hall outcome (List.mem_cons_of_mem _ hmem)⟩
    · intro ⟨hhead, hrest⟩ outcome hmem
      rcases List.mem_cons.1 hmem with heq | hmem
      · exact hhead outcome heq.symm
      · exact hrest outcome hmem

end Replies

/-! ## The gate -/

theorem sumOver_duplicates? (replies : List Reply) :
    sumOver UInt64.toNat (replies.filterMap Reply.duplicates?) = reportedDuplicates replies := by
  induction replies with
  | nil => rfl
  | cons reply rest ih =>
    rw [reportedDuplicates, sumOver, ← reportedDuplicates, ← ih, List.filterMap_cons,
      Reply.duplicateCount]
    cases reply.duplicates? with
    | none => exact (Nat.zero_add _).symm
    | some count => rfl

/-- The duplicates among the samples of a run are those that its replies report. -/
theorem Samples.replayDuplicates_ofReplies (events : Nat) (millis : Nat → Binary64)
    (replies : List Reply) :
    (ofReplies events (replies.mapIdx fun index reply => ⟨millis index, reply⟩)).replayDuplicates =
      .ofNat (reportedDuplicates replies) := by
  have htimed : TimedReply.duplicates? = Reply.duplicates? ∘ TimedReply.reply := by
    funext ⟨millis, reply⟩
    cases reply with
    | ingested outcome => rfl
    | recalled outcome => rfl
    | replayed outcome => cases outcome <;> rfl
  rw [ofReplies, htimed, ← List.filterMap_map, map_reply_mapIdx, total_eq, sumOver_duplicates?]

section Gate

variable {σ : Type} (engine : Engine σ)

/-- The gate for duplicates of a run over a workload. -/
def replayGate (millis : Nat → Binary64) (workload : StoreWorkload) (state : σ)
    (queries : UInt64) (thresholds : Thresholds) : Bool :=
  (Gates.evaluate (.ofSamples (runStore engine millis workload state).1 queries)
    thresholds).replayDuplicates

/-- The replies to the calls of a workload. -/
def repliesTo (workload : StoreWorkload) (state : σ) : List Reply :=
  (engine.performAll workload.calls state).1

/-- Every event that is sent again is taken for a duplicate. -/
def EveryReplayCaught (workload : StoreWorkload) (state : σ) : Prop :=
  List.Forall₂ Caught workload.calls (repliesTo engine workload state)

variable (millis : Nat → Binary64) {workload : StoreWorkload} (state : σ) (queries : UInt64)
  (thresholds : Thresholds)

/-- As long as no sum overflows, the gate compares the duplicates with the events. -/
theorem replayGate_eq_true_iff (hevents : workload.events.length < UInt64.size)
    (hduplicates : reportedDuplicates (repliesTo engine workload state) < UInt64.size) :
    replayGate engine millis workload state queries thresholds = true ↔
      reportedDuplicates (repliesTo engine workload state) =
        sumOver EngineCall.replays workload.calls := by
  have hsum : (runStore engine millis workload state).1.replayDuplicates =
      .ofNat (reportedDuplicates (repliesTo engine workload state)) :=
    Samples.replayDuplicates_ofReplies _ _ _
  have hgate : replayGate engine millis workload state queries thresholds =
      ((runStore engine millis workload state).1.replayDuplicates ==
        .ofNat workload.events.length) := rfl
  rw [hgate, beq_iff_eq, hsum, sumOver_replays, countP_isReplay_calls, ← UInt64.toNat_inj,
    UInt64.toNat_ofNat_of_lt' hduplicates, UInt64.toNat_ofNat_of_lt' hevents]

/-- Where no event is reported as more than one duplicate, the gate passes exactly if each of them
was caught. -/
theorem replayGate_iff_of_reportsMostOne (hevents : workload.events.length < UInt64.size)
    (hone : ReportsMostOne (repliesTo engine workload state)) :
    replayGate engine millis workload state queries thresholds = true ↔
      EveryReplayCaught engine workload state := by
  have hanswers := answers_performAll engine workload.calls state
  obtain ⟨hle, hequal⟩ := sumOver_eq_iff ((reportsMostOne_iff hanswers).1 hone)
  have hduplicates : reportedDuplicates (repliesTo engine workload state) < UInt64.size := by
    rw [sumOver_replays, countP_isReplay_calls] at hle
    exact Nat.lt_of_le_of_lt hle hevents
  rw [replayGate_eq_true_iff engine millis state queries thresholds hevents hduplicates,
    EveryReplayCaught, repliesTo, everyCaught_iff hanswers]
  exact hequal.trans ⟨List.Forall₂.flip, List.Forall₂.flip⟩

/-- Where the gate passes, each event was caught exactly if none is reported as more than one
duplicate. -/
theorem everyReplayCaught_iff_of_gate (hevents : workload.events.length < UInt64.size)
    (hduplicates : reportedDuplicates (repliesTo engine workload state) < UInt64.size)
    (hgate : replayGate engine millis workload state queries thresholds = true) :
    EveryReplayCaught engine workload state ↔
      ReportsMostOne (repliesTo engine workload state) := by
  constructor
  · intro hcaught
    have hanswers := answers_performAll engine workload.calls state
    obtain ⟨-, hequal⟩ := sumOver_eq_iff ((everyCaught_iff hanswers).1 hcaught)
    rw [replayGate_eq_true_iff engine millis state queries thresholds hevents hduplicates] at hgate
    exact (reportsMostOne_iff hanswers).2 (hequal.1 hgate.symm).flip
  · intro hone
    exact (replayGate_iff_of_reportsMostOne engine millis state queries thresholds hevents hone).1
      hgate

end Gate

/-! ## The engine over contracts -/

namespace ContractEngine

variable (settings : Settings) (clock : Clock) (timeOfDay : EpochMillis)

/-- No batch has more duplicates than records. -/
theorem length_duplicates_le {request : Ingestion.Request} {state after : InMemory.State}
    {response : Ingestion.Response}
    (hingest : InMemory.ingest clock timeOfDay request state = (.ok response, after)) :
    response.duplicateRecordIds.length ≤ request.records.length := by
  rcases InMemory.ingest_cases clock timeOfDay request state with
    ⟨_, _, heq⟩ | ⟨_, _, heq⟩ | ⟨_, _, heq⟩
  · rw [heq] at hingest
    cases hingest
  · rw [heq] at hingest
    cases hingest
  · rw [heq] at hingest
    obtain rfl := Except.ok.inj (congrArg Prod.fst hingest)
    rw [List.length_map]
    exact List.length_filter_le _ _

/-- An event is at most one duplicate. -/
theorem duplicates_le_one {event : Event} {state after : InMemory.State} {outcome : IngestOutcome}
    (hingest : ingest (.inMemory settings clock) timeOfDay event state = (.ok outcome, after)) :
    outcome.duplicates ≤ 1 := by
  rcases ingest_cases settings clock timeOfDay event state with
    ⟨fault, hfailed⟩ | ⟨request, hbatch, ⟨cause, fault, after, -, hfailed⟩ |
      ⟨response, after, hbatched, hanswered⟩⟩
  · rw [hfailed] at hingest
    cases hingest
  · rw [hfailed] at hingest
    cases hingest
  · rw [hanswered] at hingest
    obtain rfl := Except.ok.inj (congrArg Prod.fst hingest)
    obtain ⟨recordId, spaceId, hrecords⟩ := records_of_batch hbatch
    have hle := length_duplicates_le clock timeOfDay hbatched
    rw [hrecords, List.length_singleton] at hle
    rw [UInt64.le_iff_toNat_le]
    show (UInt64.ofNat response.duplicateRecordIds.length).toNat ≤ 1
    rw [UInt64.toNat_ofNat_of_lt' (Nat.lt_of_le_of_lt hle (by decide))]
    exact hle

theorem reportsMostOne (workload : StoreWorkload) (state : InMemory.State) :
    ReportsMostOne (repliesTo (overMemory settings clock timeOfDay) workload state) := by
  intro outcome hmem
  obtain ⟨call, -, before, hreply⟩ := exists_of_mem_performAll _ hmem
  cases call with
  | ingest event => cases hreply
  | recollect query => cases hreply
  | replay event =>
    have hingest := (Reply.replayed.inj hreply).symm
    exact duplicates_le_one settings clock timeOfDay (Prod.ext hingest rfl)

end ContractEngine

/-! ## What the gate tells -/

/-- On every engine that reports no event as more than one duplicate, the gate for duplicates passes
exactly if every event that was sent again was taken for one. Whatever the engine, a gate that
passes says so just where no event was reported as more. The engine over contracts reports none as
more. The events of a workload and the duplicates are counted in words of 64 bits. -/
theorem replayGate_tells {σ : Type} (engine : Engine σ) (millis : Nat → Binary64)
    (workload : StoreWorkload) (state : σ) (queries : UInt64) (thresholds : Thresholds)
    (hevents : workload.events.length < UInt64.size) :
    (ReportsMostOne (repliesTo engine workload state) →
      (replayGate engine millis workload state queries thresholds = true ↔
        EveryReplayCaught engine workload state)) ∧
    (reportedDuplicates (repliesTo engine workload state) < UInt64.size →
      replayGate engine millis workload state queries thresholds = true →
        (EveryReplayCaught engine workload state ↔
          ReportsMostOne (repliesTo engine workload state))) ∧
    ∀ settings clock timeOfDay start,
      ReportsMostOne (repliesTo (ContractEngine.overMemory settings clock timeOfDay) workload
        start) :=
  ⟨replayGate_iff_of_reportsMostOne engine millis state queries thresholds hevents,
    everyReplayCaught_iff_of_gate engine millis state queries thresholds hevents,
    fun settings clock timeOfDay start =>
      ContractEngine.reportsMostOne settings clock timeOfDay workload start⟩

/-- An engine that answers events with what comes next on a script, and no query. -/
def Engine.scripted : Engine (List (Except EngineFault IngestOutcome)) where
  identity := ⟨"recollection", "Scripted"⟩
  ingest event script :=
    match script with
    | [] => (.error ⟨.ingest, event.storeId, "the script is over"⟩, [])
    | answer :: rest => (answer, rest)
  recollect query script := (.error ⟨.recollect, query.storeId, "no query is answered"⟩, script)

/-- A workload of two events. -/
def twoNotes : StoreWorkload :=
  ⟨"village", [⟨"village", "anvil", .episodic, 0, "forge"⟩,
    ⟨"village", "mill", .episodic, 0, "grain"⟩], []⟩

/-- Two events that are new at first and duplicates then. -/
def evenScript : List (Except EngineFault IngestOutcome) :=
  [.ok ⟨0, []⟩, .ok ⟨0, []⟩, .ok ⟨1, []⟩, .ok ⟨1, []⟩]

/-- Two events that are new at first; then the one is taken for two duplicates, and the other is
lost. -/
def unevenScript : List (Except EngineFault IngestOutcome) :=
  [.ok ⟨0, []⟩, .ok ⟨0, []⟩, .ok ⟨2, []⟩, .error ⟨.ingest, "village", "disk full"⟩]

theorem evenScript_caught :
    replayGate Engine.scripted (fun _ => .zero) twoNotes evenScript 0 .standard = true ∧
      ReportsMostOne (repliesTo Engine.scripted twoNotes evenScript) ∧
      EveryReplayCaught Engine.scripted twoNotes evenScript := by
  obtain ⟨hmostOne, hgate, -⟩ := replayGate_tells Engine.scripted (fun _ => .zero) twoNotes
    evenScript 0 .standard (by decide)
  have hpasses : replayGate Engine.scripted (fun _ => .zero) twoNotes evenScript 0 .standard =
    true := rfl
  have hone : ReportsMostOne (repliesTo Engine.scripted twoNotes evenScript) := by
    simp [ReportsMostOne, repliesTo, Engine.performAll, Engine.perform, Engine.scripted, twoNotes,
      evenScript, StoreWorkload.calls]
  have hcaught := (hmostOne hone).1 hpasses
  exact ⟨hpasses, (hgate (by decide) hpasses).1 hcaught, hcaught⟩

/-- The gate passes, though one of the events is lost. -/
theorem unevenScript_passes :
    replayGate Engine.scripted (fun _ => .zero) twoNotes unevenScript 0 .standard = true ∧
      ¬ EveryReplayCaught Engine.scripted twoNotes unevenScript := by
  refine ⟨rfl, ?_⟩
  intro hcaught
  obtain ⟨outcome, hlast, -⟩ := hcaught.get (i := 3) (by decide) (by decide) rfl
  cases hlast

end Recollection.Benchmark
