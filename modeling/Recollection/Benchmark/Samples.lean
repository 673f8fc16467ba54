import Recollection.Benchmark.Engine
/-!
# Samples of a run

A store is exercised by three passes: every event is sent, every event is sent again, and every
query is asked. Whatever fails is counted, and the run goes on; so every call of a workload leaves
either a sample or an error.

How long a call takes is no matter of the engine: a run takes the times from outside.
-/

set_option autoImplicit false

namespace Recollection.Benchmark

/-! ## Calls -/

/-- One call of a run. -/
inductive EngineCall
  /-- Sends an event. -/
  | ingest (event : Event)
  /-- Sends an event again. -/
  | replay (event : Event)
  /-- Asks a query. -/
  | recollect (query : Query)
deriving DecidableEq, Repr

/-- What came of a call. -/
inductive Reply
  /-- What came of an event. -/
  | ingested (outcome : Except EngineFault IngestOutcome)
  /-- What came of an event that was sent again. -/
  | replayed (outcome : Except EngineFault IngestOutcome)
  /-- What came of a query. -/
  | recalled (outcome : Except EngineFault RecallOutcome)

/-- The calls of a workload, in order. -/
def StoreWorkload.calls (workload : StoreWorkload) : List EngineCall :=
  workload.events.map .ingest ++ workload.events.map .replay ++ workload.queries.map .recollect

/-- Makes a call. -/
def Engine.perform {σ : Type} (engine : Engine σ) (call : EngineCall) (state : σ) : Reply × σ :=
  match call with
  | .ingest event =>
    let (outcome, state) := engine.ingest event state
    (.ingested outcome, state)
  | .replay event =>
    let (outcome, state) := engine.ingest event state
    (.replayed outcome, state)
  | .recollect query =>
    let (outcome, state) := engine.recollect query state
    (.recalled outcome, state)

/-- Makes some calls one after the other. -/
def Engine.performAll {σ : Type} (engine : Engine σ) : List EngineCall → σ → List Reply × σ
  | [], state => ([], state)
  | call :: rest, state =>
    let (reply, state) := engine.perform call state
    let (replies, state) := engine.performAll rest state
    (reply :: replies, state)

/-! ## Samples -/

/-- A reply with the milliseconds that it took. -/
structure TimedReply where
  /-- The milliseconds. -/
  millis : Binary64
  /-- The reply. -/
  reply : Reply

namespace TimedReply

/-- The time of an event that was taken in. -/
def ingestMillis? : TimedReply → Option Binary64
  | ⟨millis, .ingested (.ok _)⟩ => some millis
  | _ => none

/-- The time of an event that was sent again and taken in. -/
def replayMillis? : TimedReply → Option Binary64
  | ⟨millis, .replayed (.ok _)⟩ => some millis
  | _ => none

/-- The time of a query that was answered. -/
def recallMillis? : TimedReply → Option Binary64
  | ⟨millis, .recalled (.ok _)⟩ => some millis
  | _ => none

/-- The size of the answer to a query that was answered. -/
def recallBytes? : TimedReply → Option Binary64
  | ⟨_, .recalled (.ok outcome)⟩ => some (.ofNat outcome.measuredBytes)
  | _ => none

/-- The duplicates that an event sent again was taken for. -/
def duplicates? : TimedReply → Option UInt64
  | ⟨_, .replayed (.ok outcome)⟩ => some outcome.duplicates
  | _ => none

/-- Whether an event failed. -/
def isIngestError : TimedReply → Bool
  | ⟨_, .ingested (.error _)⟩ => true
  | _ => false

/-- Whether an event that was sent again failed. -/
def isReplayError : TimedReply → Bool
  | ⟨_, .replayed (.error _)⟩ => true
  | _ => false

/-- Whether a query failed. -/
def isRecallError : TimedReply → Bool
  | ⟨_, .recalled (.error _)⟩ => true
  | _ => false

end TimedReply

/-- What a run leaves. -/
structure Samples where
  /-- The events of the workload. -/
  events : UInt64
  /-- The times of the first pass. -/
  ingestMillis : List Binary64
  /-- The times of the second pass. -/
  replayMillis : List Binary64
  /-- The times of the third pass. -/
  recallMillis : List Binary64
  /-- The sizes of the answers of the third pass. -/
  recallBytes : List Binary64
  /-- The duplicates that the second pass was taken for. -/
  replayDuplicates : UInt64
  /-- The calls of the first pass that failed. -/
  ingestErrors : UInt64
  /-- The calls of the second pass that failed. -/
  replayErrors : UInt64
  /-- The calls of the third pass that failed. -/
  recallErrors : UInt64
deriving DecidableEq, Repr

namespace Samples

/-- The sum of some counts. -/
def total (counts : List UInt64) : UInt64 :=
  counts.foldl UInt64.add 0

/-- The samples of the replies to a workload with a number of events. -/
def ofReplies (events : Nat) (replies : List TimedReply) : Samples where
  events := .ofNat events
  ingestMillis := replies.filterMap TimedReply.ingestMillis?
  replayMillis := replies.filterMap TimedReply.replayMillis?
  recallMillis := replies.filterMap TimedReply.recallMillis?
  recallBytes := replies.filterMap TimedReply.recallBytes?
  replayDuplicates := total (replies.filterMap TimedReply.duplicates?)
  ingestErrors := .ofNat (replies.countP TimedReply.isIngestError)
  replayErrors := .ofNat (replies.countP TimedReply.isReplayError)
  recallErrors := .ofNat (replies.countP TimedReply.isRecallError)

/-- The samples of several runs taken together. -/
def union (all : List Samples) : Samples where
  events := total (all.map Samples.events)
  ingestMillis := all.flatMap Samples.ingestMillis
  replayMillis := all.flatMap Samples.replayMillis
  recallMillis := all.flatMap Samples.recallMillis
  recallBytes := all.flatMap Samples.recallBytes
  replayDuplicates := total (all.map Samples.replayDuplicates)
  ingestErrors := total (all.map Samples.ingestErrors)
  replayErrors := total (all.map Samples.replayErrors)
  recallErrors := total (all.map Samples.recallErrors)

end Samples

/-! ## Runs -/

/-- Exercises one store; `millis` gives the time of the call at an index. -/
def runStore {σ : Type} (engine : Engine σ) (millis : Nat → Binary64) (workload : StoreWorkload)
    (state : σ) : Samples × σ :=
  let (replies, state) := engine.performAll workload.calls state
  (.ofReplies workload.events.length (replies.mapIdx fun index reply => ⟨millis index, reply⟩),
    state)

/-- Exercises the stores of a plan that are left, the first of them at a position; `millis` gives
the time of the call at an index for the store at a position. -/
def runStores {σ : Type} (engine : Engine σ) (millis : Nat → Nat → Binary64)
    (plan : WorkloadPlan) : (position : Nat) → List String → σ → List (String × Samples) × σ
  | _, [], state => ([], state)
  | position, storeId :: rest, state =>
    let workload := StoreWorkload.generate plan storeId (.ofNat position)
    let (samples, state) := runStore engine (millis position) workload state
    let (others, state) := runStores engine millis plan (position + 1) rest state
    ((storeId, samples) :: others, state)

end Recollection.Benchmark
