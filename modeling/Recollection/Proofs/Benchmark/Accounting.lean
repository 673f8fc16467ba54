import Recollection.Benchmark.FaultyEngines
import Recollection.Proofs.Benchmark.ReplayGate
/-!
# What a run accounts for

A run loses no call. The engine is asked every event twice over and then every query, whatever fails
on the way; each call leaves either a sample or an error; and duplicates and sizes are those of the
calls that succeed.

The engine may be any machine, and fail at any call.
-/

set_option autoImplicit false

namespace Recollection.Benchmark

/-! ## What an engine is asked -/

/-- What an engine is asked. It is not told whether an event is sent again. -/
inductive Asked
  /-- To take in an event. -/
  | event (event : Event)
  /-- To answer a query. -/
  | query (query : Query)
deriving DecidableEq, Repr

/-- What a call asks. -/
def EngineCall.asked : EngineCall → Asked
  | .ingest event => .event event
  | .replay event => .event event
  | .recollect query => .query query

/-- All events in order, all events in the same order again, and all queries in order. -/
def StoreWorkload.asked (workload : StoreWorkload) : List Asked :=
  workload.events.map .event ++ workload.events.map .event ++ workload.queries.map .query

section Asked

variable {σ : Type}

/-- An engine that keeps a log of what it is asked, and otherwise does as another one. -/
def Engine.logged (engine : Engine σ) : Engine (σ × List Asked) where
  identity := engine.identity
  ingest event state :=
    let (outcome, after) := engine.ingest event state.1
    (outcome, after, state.2 ++ [.event event])
  recollect query state :=
    let (outcome, after) := engine.recollect query state.1
    (outcome, after, state.2 ++ [.query query])

variable (engine : Engine σ)

theorem perform_logged (call : EngineCall) (state : σ) (log : List Asked) :
    engine.logged.perform call (state, log) =
      ((engine.perform call state).1, (engine.perform call state).2, log ++ [call.asked]) := by
  cases call <;> rfl

theorem performAll_logged (calls : List EngineCall) (state : σ) (log : List Asked) :
    engine.logged.performAll calls (state, log) =
      ((engine.performAll calls state).1, (engine.performAll calls state).2,
        log ++ calls.map EngineCall.asked) := by
  induction calls generalizing state log with
  | nil => simp [Engine.performAll]
  | cons call rest ih =>
    simp only [Engine.performAll, perform_logged, ih, List.map_cons, List.append_assoc,
      List.singleton_append]

theorem map_asked_calls (workload : StoreWorkload) :
    workload.calls.map EngineCall.asked = workload.asked := by
  simp only [StoreWorkload.calls, StoreWorkload.asked, List.map_append, List.map_map]
  rfl

/-- A run leaves the same with the log as without, and the log holds what the workload asks. -/
theorem runStore_logged (millis : Nat → Binary64) (workload : StoreWorkload) (state : σ) :
    runStore engine.logged millis workload (state, []) =
      ((runStore engine millis workload state).1, (runStore engine millis workload state).2,
        workload.asked) := by
  simp only [runStore, performAll_logged, List.nil_append, map_asked_calls]

end Asked

/-! ## What comes of the passes -/

section Passes

variable {σ : Type} (engine : Engine σ) (workload : StoreWorkload) (state : σ)

/-- What comes of the events when they are sent. -/
def firstPass : List (Except EngineFault IngestOutcome) :=
  Run.reports engine.ingest workload.events state

/-- What comes of the events when they are sent again. -/
def secondPass : List (Except EngineFault IngestOutcome) :=
  Run.reports engine.ingest workload.events (Run.final engine.ingest workload.events state)

/-- What comes of the queries. -/
def thirdPass : List (Except EngineFault RecallOutcome) :=
  Run.reports engine.recollect workload.queries
    (Run.final engine.ingest workload.events (Run.final engine.ingest workload.events state))

/-- The replies of a run are those of its passes, one after the other. -/
theorem repliesTo_eq_passes :
    repliesTo engine workload state =
      (firstPass engine workload state).map .ingested ++
        (secondPass engine workload state).map .replayed ++
        (thirdPass engine workload state).map .recalled := by
  have hingest : ∀ start,
      Run.reports engine.perform (workload.events.map .ingest) start =
          (Run.reports engine.ingest workload.events start).map .ingested ∧
        Run.final engine.perform (workload.events.map .ingest) start =
          Run.final engine.ingest workload.events start :=
    Run.map_reports (fun _ _ => rfl) workload.events
  have hreplay : ∀ start,
      Run.reports engine.perform (workload.events.map .replay) start =
          (Run.reports engine.ingest workload.events start).map .replayed ∧
        Run.final engine.perform (workload.events.map .replay) start =
          Run.final engine.ingest workload.events start :=
    Run.map_reports (fun _ _ => rfl) workload.events
  have hrecollect : ∀ start,
      Run.reports engine.perform (workload.queries.map .recollect) start =
          (Run.reports engine.recollect workload.queries start).map .recalled ∧
        Run.final engine.perform (workload.queries.map .recollect) start =
          Run.final engine.recollect workload.queries start :=
    Run.map_reports (fun _ _ => rfl) workload.queries
  rw [repliesTo, performAll_eq, StoreWorkload.calls, Run.reports_append, Run.reports_append,
    Run.final_append, (hingest _).1, (hingest _).2, (hreplay _).1, (hreplay _).2,
    (hrecollect _).1, firstPass, secondPass, thirdPass]

end Passes

namespace Reply

/-- What came of an event, if the reply is to one that was sent first. -/
def ingested? : Reply → Option (Except EngineFault IngestOutcome)
  | ingested outcome => some outcome
  | _ => none

/-- What came of an event, if the reply is to one that was sent again. -/
def replayed? : Reply → Option (Except EngineFault IngestOutcome)
  | replayed outcome => some outcome
  | _ => none

/-- What came of a query, if the reply is to one. -/
def recalled? : Reply → Option (Except EngineFault RecallOutcome)
  | recalled outcome => some outcome
  | _ => none

end Reply

section Passes

variable {σ : Type} (engine : Engine σ) (workload : StoreWorkload) (state : σ)

/-- The replies to each pass can be told from the others. -/
theorem filterMap_repliesTo :
    (repliesTo engine workload state).filterMap Reply.ingested? = firstPass engine workload state ∧
      (repliesTo engine workload state).filterMap Reply.replayed? =
        secondPass engine workload state ∧
      (repliesTo engine workload state).filterMap Reply.recalled? =
        thirdPass engine workload state := by
  rw [repliesTo_eq_passes]
  simp [List.filterMap_append, List.filterMap_map, Function.comp_def, Reply.ingested?,
    Reply.replayed?, Reply.recalled?]

end Passes

/-! ## What is sampled of a pass -/

/-- The outcomes of the calls that succeeded. -/
def succeeded {α : Type} (outcomes : List (Except EngineFault α)) : List α :=
  outcomes.filterMap Except.toOption

section Pass

variable {α : Type} {pass? : Reply → Option (Except EngineFault α)} (timed : List TimedReply)

/-- What is sampled of the calls of a pass that succeed comes in their order. -/
theorem filterMap_timed {β : Type} {sample? : TimedReply → Option β} {value : α → β}
    (hsample : ∀ reply, sample? reply = ((pass? reply.reply).bind Except.toOption).map value) :
    timed.filterMap sample? =
      (succeeded ((timed.map TimedReply.reply).filterMap pass?)).map value := by
  rw [succeeded, List.filterMap_filterMap, List.filterMap_map, List.map_filterMap]
  exact List.filterMap_congr fun reply _ => hsample reply

/-- A test of the replies to a pass counts outcomes. -/
theorem countP_timed {test : TimedReply → Bool} {holds : Except EngineFault α → Bool}
    (htest : ∀ reply, test reply = (pass? reply.reply).any holds) :
    timed.countP test = ((timed.map TimedReply.reply).filterMap pass?).countP holds := by
  rw [List.countP_filterMap, List.countP_map]
  refine List.countP_congr fun reply _ => ?_
  rw [htest, Function.comp_apply]
  cases pass? reply.reply <;> simp

/-- Of each reply to a pass a time is sampled if the call succeeded, and else an error. -/
structure SampledAs (pass? : Reply → Option (Except EngineFault α))
    (millis? : TimedReply → Option Binary64) (isError : TimedReply → Bool) : Prop where
  /-- Calls that succeed leave a time. -/
  millis : ∀ reply,
    (millis? reply).isSome = (pass? reply.reply).any fun outcome => outcome.toOption.isSome
  /-- The others leave an error. -/
  error : ∀ reply,
    isError reply = (pass? reply.reply).any fun outcome => !outcome.toOption.isSome

/-- No call of a pass is lost among its samples. -/
theorem SampledAs.length_add_countP {millis? : TimedReply → Option Binary64}
    {isError : TimedReply → Bool} (hsampled : SampledAs pass? millis? isError)
    {outcomes : List (Except EngineFault α)}
    (houtcomes : (timed.map TimedReply.reply).filterMap pass? = outcomes) :
    (timed.filterMap millis?).length = (succeeded outcomes).length ∧
      (timed.filterMap millis?).length + timed.countP isError = outcomes.length := by
  have hsplit := List.length_eq_countP_add_countP (fun outcome => outcome.toOption.isSome)
    (l := outcomes)
  simp only [decide_not, Bool.decide_eq_true] at hsplit
  rw [succeeded, List.length_filterMap_eq_countP, List.length_filterMap_eq_countP,
    countP_timed timed hsampled.millis, countP_timed timed hsampled.error, houtcomes, hsplit]
  exact ⟨rfl, rfl⟩

end Pass

-- The next five go by the kinds of replies, and by whether the call failed.

theorem sampledAs_ingested :
    SampledAs Reply.ingested? TimedReply.ingestMillis? TimedReply.isIngestError := by
  constructor <;> rintro ⟨_, (_ | _) | (_ | _) | (_ | _)⟩ <;> rfl

theorem sampledAs_replayed :
    SampledAs Reply.replayed? TimedReply.replayMillis? TimedReply.isReplayError := by
  constructor <;> rintro ⟨_, (_ | _) | (_ | _) | (_ | _)⟩ <;> rfl

theorem sampledAs_recalled :
    SampledAs Reply.recalled? TimedReply.recallMillis? TimedReply.isRecallError := by
  constructor <;> rintro ⟨_, (_ | _) | (_ | _) | (_ | _)⟩ <;> rfl

namespace TimedReply

theorem duplicates?_eq (reply : TimedReply) :
    reply.duplicates? =
      (reply.reply.replayed?.bind Except.toOption).map IngestOutcome.duplicates := by
  rcases reply with ⟨_, (_ | _) | (_ | _) | (_ | _)⟩ <;> rfl

theorem recallBytes?_eq (reply : TimedReply) :
    reply.recallBytes? = (reply.reply.recalled?.bind Except.toOption).map fun outcome =>
      .ofNat outcome.measuredBytes := by
  rcases reply with ⟨_, (_ | _) | (_ | _) | (_ | _)⟩ <;> rfl

end TimedReply

/-! ## Samples -/

section Samples

variable {σ : Type} (engine : Engine σ) (workload : StoreWorkload) (state : σ)

/-- The duplicates that are reported where an event that is sent again is taken in. -/
def duplicatesOf (outcomes : List (Except EngineFault IngestOutcome)) : Nat :=
  sumOver (fun outcome => outcome.duplicates.toNat) (succeeded outcomes)

/-- Samples account for every call of a run. -/
structure Balances (samples : Samples) : Prop where
  /-- Every event leaves a time or an error. -/
  ingest : samples.ingestMillis.length + samples.ingestErrors.toNat = workload.events.length
  /-- It leaves a time if it is taken in. -/
  ingestMillis : samples.ingestMillis.length = (succeeded (firstPass engine workload state)).length
  /-- Sent again, every event leaves a time or an error. -/
  replay : samples.replayMillis.length + samples.replayErrors.toNat = workload.events.length
  /-- It leaves a time if it is taken in. -/
  replayMillis :
    samples.replayMillis.length = (succeeded (secondPass engine workload state)).length
  /-- The duplicates are those that are reported where it is. -/
  replayDuplicates :
    samples.replayDuplicates.toNat = duplicatesOf (secondPass engine workload state)
  /-- Every query leaves a time or an error. -/
  recollect : samples.recallMillis.length + samples.recallErrors.toNat = workload.queries.length
  /-- A time comes with a size. -/
  recallMillis : samples.recallMillis.length = samples.recallBytes.length
  /-- The sizes are those of the answers, in their order. -/
  recallBytes : samples.recallBytes =
    (succeeded (thirdPass engine workload state)).map fun outcome => .ofNat outcome.measuredBytes

/-- Errors that are at most as many as what can be counted are counted right. -/
theorem add_toNat_ofNat {times errors calls : Nat} (hsum : times + errors = calls)
    (hcalls : calls < UInt64.size) : times + (UInt64.ofNat errors).toNat = calls := by
  rw [UInt64.toNat_ofNat_of_lt' (Nat.lt_of_le_of_lt (Nat.le_add_left errors times) (hsum ▸ hcalls)),
    hsum]

variable {engine workload state}

theorem balances_ofReplies (hevents : workload.events.length < UInt64.size)
    (hqueries : workload.queries.length < UInt64.size)
    (hduplicates : duplicatesOf (secondPass engine workload state) < UInt64.size)
    {timed : List TimedReply}
    (hreplies : timed.map TimedReply.reply = repliesTo engine workload state) :
    Balances engine workload state (.ofReplies workload.events.length timed) := by
  obtain ⟨hfirst, hsecond, hthird⟩ := filterMap_repliesTo engine workload state
  rw [← hreplies] at hfirst hsecond hthird
  obtain ⟨hingestTimes, hingest⟩ := sampledAs_ingested.length_add_countP timed hfirst
  obtain ⟨hreplayTimes, hreplay⟩ := sampledAs_replayed.length_add_countP timed hsecond
  obtain ⟨hrecallTimes, hrecall⟩ := sampledAs_recalled.length_add_countP timed hthird
  have hbytes := filterMap_timed timed TimedReply.recallBytes?_eq
  have hcounts := filterMap_timed timed TimedReply.duplicates?_eq
  rw [hthird] at hbytes
  rw [hsecond] at hcounts
  rw [firstPass, Run.length_reports] at hingest
  rw [secondPass, Run.length_reports] at hreplay
  rw [thirdPass, Run.length_reports] at hrecall
  exact {
    ingest := add_toNat_ofNat hingest hevents
    ingestMillis := hingestTimes
    replay := add_toNat_ofNat hreplay hevents
    replayMillis := hreplayTimes
    replayDuplicates := by
      rw [Samples.ofReplies, hcounts, Samples.total_eq, sumOver_map]
      exact UInt64.toNat_ofNat_of_lt' hduplicates
    recollect := add_toNat_ofNat hrecall hqueries
    recallMillis := by
      rw [Samples.ofReplies, hbytes, List.length_map, hrecallTimes]
    recallBytes := hbytes }

end Samples

/-- A run over a workload loses no call, whatever engine it exercises and whatever fails. With a log
the engine does the same, and is asked every event, every event again and every query, in order. The
samples account for each of these calls. Calls and duplicates are counted in words of 64 bits. -/
theorem runStore_accounts {σ : Type} (engine : Engine σ) (millis : Nat → Binary64)
    (workload : StoreWorkload) (state : σ) (hevents : workload.events.length < UInt64.size)
    (hqueries : workload.queries.length < UInt64.size)
    (hduplicates : duplicatesOf (secondPass engine workload state) < UInt64.size) :
    runStore engine.logged millis workload (state, []) =
        ((runStore engine millis workload state).1, (runStore engine millis workload state).2,
          workload.asked) ∧
      Balances engine workload state (runStore engine millis workload state).1 :=
  ⟨runStore_logged engine millis workload state,
    balances_ofReplies hevents hqueries hduplicates (Samples.map_reply_mapIdx millis _)⟩

/-- Two events and two queries. -/
def twoNotesAsked : StoreWorkload :=
  { twoNotes with queries := [⟨"village", "anvil", 3, 100⟩, ⟨"village", "mill", 3, 100⟩] }

/-- An engine that refuses every third call, and takes every event for a new one. -/
def everyThird : Engine (Nat × Unit) :=
  .flaky ⟨"recollection", "EveryThird"⟩ 3 (.forgetful ⟨"recollection", "Forgetful"⟩ 7)

/-- Of six calls the third and the last fail, one event sent again and one query. -/
theorem everyThird_accounts :
    duplicatesOf (secondPass everyThird twoNotesAsked (0, ())) < UInt64.size ∧
      (runStore everyThird (fun _ => .one) twoNotesAsked (0, ())).1 =
        ⟨2, [.one, .one], [.one], [.one], [.ofNat 7], 0, 0, 1, 1⟩ ∧
      Balances everyThird twoNotesAsked (0, ())
        (runStore everyThird (fun _ => .one) twoNotesAsked (0, ())).1 := by
  have hduplicates : duplicatesOf (secondPass everyThird twoNotesAsked (0, ())) < UInt64.size := by
    decide
  refine ⟨hduplicates, by rfl, ?_⟩
  exact (runStore_accounts everyThird (fun _ => .one) twoNotesAsked (0, ()) (by decide)
    (by decide) hduplicates).2

end Recollection.Benchmark
