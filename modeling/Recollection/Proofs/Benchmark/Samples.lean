import Mathlib.Data.List.Forall2
import Recollection.Benchmark.Report
import Recollection.Proofs.Benchmark.Sums
/-!
# Runs in which every replay is captured

In such a run every event is accepted when it is sent and a duplicate when it is sent again, and
every query is answered. What the samples, the metrics and the gates of the run come down to follows
from the replies alone, whatever times they took.
-/

set_option autoImplicit false

namespace Recollection.Benchmark

/-! ## Replies -/

/-- An outcome that tells how many records were accepted and how many were duplicates. -/
def IngestOutcome.Tells (outcome : IngestOutcome) (accepted : Nat) (duplicates : UInt64) : Prop :=
  outcome.extra.lookup "accepted" = some (.integer accepted) ∧ outcome.duplicates = duplicates

/-- A call got the reply that it gets in a run that captures every replay. -/
inductive Captured : EngineCall → Reply → Prop
  /-- An event is one record that is new. -/
  | ingest (event : Event) {outcome : IngestOutcome} (htells : outcome.Tells 1 0) :
    Captured (.ingest event) (.ingested (.ok outcome))
  /-- Sent again, it is a duplicate. -/
  | replay (event : Event) {outcome : IngestOutcome} (htells : outcome.Tells 0 1) :
    Captured (.replay event) (.replayed (.ok outcome))
  /-- A query is answered. -/
  | recollect (query : Query) (outcome : RecallOutcome) :
    Captured (.recollect query) (.recalled (.ok outcome))

/-- Whether a call sends an event again. -/
def EngineCall.isReplay : EngineCall → Bool
  | .replay _ => true
  | _ => false

theorem countP_isReplay_calls (workload : StoreWorkload) :
    workload.calls.countP EngineCall.isReplay = workload.events.length := by
  have hingest : (workload.events.map EngineCall.ingest).countP EngineCall.isReplay = 0 := by
    simp [List.countP_eq_zero, EngineCall.isReplay]
  have hreplay : (workload.events.map EngineCall.replay).countP EngineCall.isReplay =
      workload.events.length := by
    rw [List.countP_eq_length.2 (by simp [EngineCall.isReplay]), List.length_map]
  have hrecall : (workload.queries.map EngineCall.recollect).countP EngineCall.isReplay = 0 := by
    simp [List.countP_eq_zero, EngineCall.isReplay]
  rw [StoreWorkload.calls, List.countP_append, List.countP_append, hingest, hreplay, hrecall,
    Nat.zero_add, Nat.add_zero]

section Timed

variable {calls : List EngineCall} {timed : List TimedReply}

theorem filterMap_duplicates?
    (hcaptured : List.Forall₂ (fun call reply => Captured call reply.reply) calls timed) :
    timed.filterMap TimedReply.duplicates? =
      List.replicate (calls.countP EngineCall.isReplay) 1 := by
  induction hcaptured with
  | nil => rfl
  | @cons call reply calls timed hreply _ ih =>
    obtain ⟨millis, reply⟩ := reply
    cases hreply with
    | ingest event htells => exact ih
    | recollect query outcome => exact ih
    | replay event htells =>
      have hcount : (EngineCall.replay event :: calls).countP EngineCall.isReplay =
          calls.countP EngineCall.isReplay + 1 := List.countP_cons_of_pos rfl
      rw [hcount, List.replicate_succ, ← ih, ← htells.2]
      rfl

/-- No reply of such a run is an error. -/
theorem no_errors
    (hcaptured : List.Forall₂ (fun call reply => Captured call reply.reply) calls timed) :
    timed.countP TimedReply.isIngestError = 0 ∧ timed.countP TimedReply.isReplayError = 0 ∧
      timed.countP TimedReply.isRecallError = 0 := by
  induction hcaptured with
  | nil => exact ⟨rfl, rfl, rfl⟩
  | @cons call reply calls timed hreply _ ih =>
    obtain ⟨millis, reply⟩ := reply
    cases hreply <;> exact ih

end Timed

/-! ## Samples -/

namespace Samples

/-- A sum of words is the sum of their values, reduced. -/
theorem total_eq (counts : List UInt64) :
    total counts = .ofNat (sumOver UInt64.toNat counts) := by
  have hfold : ∀ start, counts.foldl UInt64.add start =
      start + .ofNat (sumOver UInt64.toNat counts) := by
    induction counts with
    | nil =>
      intro start
      exact (UInt64.add_zero start).symm
    | cons count rest ih =>
      intro start
      rw [List.foldl_cons, ih, sumOver, UInt64.ofNat_add, UInt64.ofNat_toNat]
      exact UInt64.add_assoc start count _
  rw [total, hfold, UInt64.zero_add]

theorem total_replicate (count : Nat) (value : UInt64) :
    total (List.replicate count value) = .ofNat count * value := by
  have hfold : ∀ start, (List.replicate count value).foldl UInt64.add start =
      start + .ofNat count * value := by
    induction count with
    | zero => simp
    | succ count ih =>
      intro start
      rw [List.replicate_succ, List.foldl_cons, ih, UInt64.ofNat_add, UInt64.add_mul]
      show start + value + .ofNat count * value = start + (.ofNat count * value + 1 * value)
      rw [UInt64.one_mul, UInt64.add_comm (.ofNat count * value), UInt64.add_assoc]
  rw [total, hfold, UInt64.zero_add]

/-- The samples of a run that captures the replays of a number of events. -/
structure Captures (samples : Samples) (count : UInt64) : Prop where
  /-- The events. -/
  events : samples.events = count
  /-- As many duplicates. -/
  replayDuplicates : samples.replayDuplicates = count
  /-- No event failed. -/
  ingestErrors : samples.ingestErrors = 0
  /-- No event failed when it was sent again. -/
  replayErrors : samples.replayErrors = 0
  /-- No query failed. -/
  recallErrors : samples.recallErrors = 0

/-- Replies with the times that they took are the same replies. -/
theorem map_reply_mapIdx (millis : Nat → Binary64) (replies : List Reply) :
    (replies.mapIdx fun index reply =>
      (⟨millis index, reply⟩ : TimedReply)).map TimedReply.reply = replies := by
  refine List.ext_getElem (by simp) fun index _ _ => ?_
  rw [List.getElem_map, List.getElem_mapIdx]

/-- The replies of a run tell what its samples capture. -/
theorem captures_ofReplies {workload : StoreWorkload} {replies : List Reply}
    (hcaptured : List.Forall₂ Captured workload.calls replies) (millis : Nat → Binary64) :
    (ofReplies workload.events.length
      (replies.mapIdx fun index reply => ⟨millis index, reply⟩)).Captures
        (.ofNat workload.events.length) := by
  have hreplies := map_reply_mapIdx millis replies
  have htimed := List.forall₂_map_right_iff.1 (hreplies.symm ▸ hcaptured)
  obtain ⟨hingest, hreplay, hrecall⟩ := no_errors htimed
  constructor
  · rfl
  · rw [ofReplies, filterMap_duplicates? htimed, countP_isReplay_calls, total_replicate,
      UInt64.mul_one]
  · rw [ofReplies, hingest]
    rfl
  · rw [ofReplies, hreplay]
    rfl
  · rw [ofReplies, hrecall]
    rfl

theorem total_map {all : List Samples} {part : Samples → UInt64} {value : UInt64}
    (hpart : ∀ samples ∈ all, part samples = value) :
    total (all.map part) = .ofNat all.length * value := by
  rw [List.map_eq_replicate_iff.2 hpart, total_replicate]

/-- Taken together, runs that capture their replays capture all of them. -/
theorem captures_union {all : List Samples} {count : UInt64}
    (hall : ∀ samples ∈ all, samples.Captures count) :
    (union all).Captures (.ofNat all.length * count) where
  events := total_map fun samples hmem => (hall samples hmem).events
  replayDuplicates := total_map fun samples hmem => (hall samples hmem).replayDuplicates
  ingestErrors := (total_map fun samples hmem => (hall samples hmem).ingestErrors).trans
    UInt64.mul_zero
  replayErrors := (total_map fun samples hmem => (hall samples hmem).replayErrors).trans
    UInt64.mul_zero
  recallErrors := (total_map fun samples hmem => (hall samples hmem).recallErrors).trans
    UInt64.mul_zero

end Samples

/-! ## Scopes and reports -/

/-- A scope whose metrics say that the replays of a number of events were captured and that no call
failed, and whose gates for that pass. -/
structure Scope.Captures (scope : Scope) (count : UInt64) : Prop where
  /-- The events. -/
  events : scope.metrics.events = count
  /-- As many duplicates. -/
  replayDuplicates : scope.metrics.replayDuplicates = count
  /-- No event failed. -/
  ingestErrors : scope.metrics.ingestErrors = 0
  /-- No event failed when it was sent again. -/
  replayErrors : scope.metrics.replayErrors = 0
  /-- No query failed. -/
  recallErrors : scope.metrics.recallErrors = 0
  /-- The gate for duplicates passes. -/
  replayGate : scope.gates.replayDuplicates = true
  /-- The gate for errors passes. -/
  errorGate : scope.gates.engineErrors = true

theorem Scope.captures_ofSamples {samples : Samples} {count : UInt64}
    (hsamples : samples.Captures count) (storeId : String) (queries : UInt64)
    (thresholds : Thresholds) :
    (Scope.ofSamples storeId samples queries thresholds).Captures count where
  events := hsamples.events
  replayDuplicates := hsamples.replayDuplicates
  ingestErrors := hsamples.ingestErrors
  replayErrors := hsamples.replayErrors
  recallErrors := hsamples.recallErrors
  replayGate := by
    show (samples.replayDuplicates == samples.events) = true
    rw [hsamples.replayDuplicates, hsamples.events, beq_self_eq_true]
  errorGate := by
    show (samples.ingestErrors + samples.replayErrors + samples.recallErrors == 0) = true
    rw [hsamples.ingestErrors, hsamples.replayErrors, hsamples.recallErrors]
    rfl

/-- A report on runs that capture the replays of equally many events says so in every scope. -/
theorem Report.captures_assemble {perStore : List (String × Samples)} {count : UInt64}
    (hall : ∀ entry ∈ perStore, entry.2.Captures count) (runId : RunId) (generatedAt : Timestamp)
    (identity : EngineIdentity) (plan : Plan) :
    (assemble runId generatedAt identity plan perStore).aggregate.Captures
        (.ofNat perStore.length * count) ∧
      ∀ scope ∈ (assemble runId generatedAt identity plan perStore).stores,
        scope.Captures count := by
  constructor
  · have hunion : (Samples.union (perStore.map Prod.snd)).Captures
        (.ofNat (perStore.map Prod.snd).length * count) :=
      Samples.captures_union fun samples hmem => by
        obtain ⟨entry, hentry, rfl⟩ := List.mem_map.1 hmem
        exact hall entry hentry
    rw [List.length_map] at hunion
    exact Scope.captures_ofSamples hunion _ _ _
  · intro scope hscope
    obtain ⟨entry, hentry, rfl⟩ := List.mem_map.1 hscope
    exact Scope.captures_ofSamples (hall entry hentry) _ _ _

end Recollection.Benchmark
