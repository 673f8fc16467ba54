import Recollection.Proofs.Benchmark.Percentile
import Recollection.Proofs.Benchmark.Samples
/-!
# Gates of all stores together

Every gate asks for something that adds up: that most samples are within a threshold, that there
are as many duplicates as events, that there are no errors. So the gates of all stores together pass
if those of every store do, also where a store has no samples at all, and a report passes if its
stores do.
-/

set_option autoImplicit false

namespace Recollection

namespace Binary64

/-- A natural number is never rounded to NaN or to anything below zero. -/
theorem zero_le_ofNat (n : Nat) : zero.le (ofNat n) = true := by
  have hbound : min (roundUnits (n * unitsPerOne) 1) infinityMagnitude ≤ infinityMagnitude :=
    Nat.min_le_right _ _
  have hless : min (roundUnits (n * unitsPerOne) 1) infinityMagnitude < signWeight :=
    Nat.lt_of_le_of_lt hbound (by decide)
  have hnumber : (ofNat n).isNaN = false := by
    rw [ofNat, ofRatio, isNaN, magnitude_ofMagnitude hless]
    exact decide_eq_false (Nat.not_lt.2 hbound)
  have hkey : (ofNat n).key = ((ofNat n).magnitude : Int) := by
    rw [key, if_neg]
    rw [ofNat, ofRatio, isNegative_ofMagnitude hless]
    exact Bool.false_ne_true
  have hzeroNumber : zero.isNaN = false := by decide
  have hzeroKey : zero.key = 0 := by decide
  simp [le, hnumber, hzeroNumber, hkey, hzeroKey]

end Binary64

namespace Benchmark

/-! ## What gates ask for -/

/-- No threshold is NaN or below zero; so are all that are positive. -/
structure Thresholds.Proper (thresholds : Thresholds) : Prop where
  /-- The one of the first pass. -/
  ingestMillis : Binary64.zero.le thresholds.ingestMillis = true
  /-- The one of the second pass. -/
  replayMillis : Binary64.zero.le thresholds.replayMillis = true
  /-- The one of the third pass. -/
  recallMillis : Binary64.zero.le thresholds.recallMillis = true

namespace Samples

/-- No sample is NaN. -/
structure Numbers (samples : Samples) : Prop where
  /-- No time of the first pass. -/
  ingestMillis : ∀ sample ∈ samples.ingestMillis, sample.isNaN = false
  /-- No time of the second pass. -/
  replayMillis : ∀ sample ∈ samples.replayMillis, sample.isNaN = false
  /-- No time of the third pass. -/
  recallMillis : ∀ sample ∈ samples.recallMillis, sample.isNaN = false
  /-- No size. -/
  recallBytes : ∀ sample ∈ samples.recallBytes, sample.isNaN = false

/-- The errors of all passes can be counted. -/
def ErrorsFit (samples : Samples) : Prop :=
  samples.ingestErrors.toNat + samples.replayErrors.toNat + samples.recallErrors.toNat <
    UInt64.size

/-- What the gates ask of samples, by counts. -/
structure Acceptable (thresholds : Thresholds) (samples : Samples) : Prop where
  /-- Most times of the first pass are within the threshold. -/
  ingestMillis : MostWithin 95 thresholds.ingestMillis samples.ingestMillis
  /-- Most times of the second pass are. -/
  replayMillis : MostWithin 95 thresholds.replayMillis samples.replayMillis
  /-- Most times of the third pass are. -/
  recallMillis : MostWithin 95 thresholds.recallMillis samples.recallMillis
  /-- All sizes are. -/
  recallBytes : MostWithin 100 (.ofNat thresholds.recallBytes.toNat) samples.recallBytes
  /-- There are as many duplicates as events. -/
  replayDuplicates : samples.replayDuplicates = samples.events
  /-- No call failed. -/
  errors : samples.ingestErrors + samples.replayErrors + samples.recallErrors = 0

end Samples

theorem Gates.passed_iff (gates : Gates) :
    gates.passed = true ↔ gates.ingestMillis = true ∧ gates.replayMillis = true ∧
      gates.recallMillis = true ∧ gates.recallBytes = true ∧ gates.replayDuplicates = true ∧
        gates.engineErrors = true := by
  rw [passed, List.isEmpty_iff, failed, List.filterMap_eq_nil_iff]
  simp [verdicts]

section Gates

variable {samples : Samples} {thresholds : Thresholds}

/-- The gates of a scope pass exactly if its samples are acceptable. -/
theorem Gates.passed_evaluate_iff (hnumbers : samples.Numbers) (hproper : thresholds.Proper)
    (queries : UInt64) :
    (evaluate (.ofSamples samples queries) thresholds).passed = true ↔
      samples.Acceptable thresholds := by
  have hingest := percentile_le_iff 95 (by decide) (by decide) hnumbers.ingestMillis
    hproper.ingestMillis
  have hreplay := percentile_le_iff 95 (by decide) (by decide) hnumbers.replayMillis
    hproper.replayMillis
  have hrecall := percentile_le_iff 95 (by decide) (by decide) hnumbers.recallMillis
    hproper.recallMillis
  have hbytes := percentile_le_iff 100 (by decide) (by decide) hnumbers.recallBytes
    (Binary64.zero_le_ofNat thresholds.recallBytes.toNat)
  rw [passed_iff]
  constructor
  · rintro ⟨hin, hre, hrec, hby, hduplicates, herrors⟩
    exact ⟨hingest.1 hin, hreplay.1 hre, hrecall.1 hrec, hbytes.1 hby, eq_of_beq hduplicates,
      eq_of_beq herrors⟩
  · rintro ⟨hin, hre, hrec, hby, hduplicates, herrors⟩
    exact ⟨hingest.2 hin, hreplay.2 hre, hrecall.2 hrec, hbytes.2 hby,
      beq_iff_eq.2 hduplicates, beq_iff_eq.2 herrors⟩

end Gates

/-! ## Samples taken together -/

namespace Samples

/-- Where the errors can be counted, there are none only if no pass has any. -/
theorem errors_eq_zero {samples : Samples} (hfit : samples.ErrorsFit)
    (hzero : samples.ingestErrors + samples.replayErrors + samples.recallErrors = 0) :
    samples.ingestErrors = 0 ∧ samples.replayErrors = 0 ∧ samples.recallErrors = 0 := by
  have hsum := congrArg UInt64.toNat hzero
  rw [UInt64.toNat_add, UInt64.toNat_add, Nat.mod_add_mod, Nat.mod_eq_of_lt hfit,
    UInt64.toNat_zero] at hsum
  refine ⟨?_, ?_, ?_⟩ <;> apply UInt64.toNat_inj.1 <;> rw [UInt64.toNat_zero] <;> omega

theorem Numbers.union {all : List Samples} (hall : ∀ samples ∈ all, samples.Numbers) :
    (union all).Numbers := by
  constructor <;> simp only [Samples.union, List.forall_mem_flatMap]
  · exact fun samples hmem => (hall samples hmem).ingestMillis
  · exact fun samples hmem => (hall samples hmem).replayMillis
  · exact fun samples hmem => (hall samples hmem).recallMillis
  · exact fun samples hmem => (hall samples hmem).recallBytes

/-- Taken together, acceptable samples are acceptable. -/
theorem Acceptable.union {thresholds : Thresholds} {all : List Samples}
    (hfit : ∀ samples ∈ all, samples.ErrorsFit)
    (hall : ∀ samples ∈ all, samples.Acceptable thresholds) :
    (union all).Acceptable thresholds := by
  have herrors := fun samples hmem => errors_eq_zero (hfit samples hmem) (hall samples hmem).errors
  constructor
  · refine MostWithin.flatten (List.forall_mem_map.2 fun samples hmem => ?_)
    exact (hall samples hmem).ingestMillis
  · refine MostWithin.flatten (List.forall_mem_map.2 fun samples hmem => ?_)
    exact (hall samples hmem).replayMillis
  · refine MostWithin.flatten (List.forall_mem_map.2 fun samples hmem => ?_)
    exact (hall samples hmem).recallMillis
  · refine MostWithin.flatten (List.forall_mem_map.2 fun samples hmem => ?_)
    exact (hall samples hmem).recallBytes
  · refine congrArg total (List.map_congr_left fun samples hmem => ?_)
    exact (hall samples hmem).replayDuplicates
  · have hingest := total_map fun samples hmem => (herrors samples hmem).1
    have hreplay := total_map fun samples hmem => (herrors samples hmem).2.1
    have hrecall := total_map fun samples hmem => (herrors samples hmem).2.2
    rw [UInt64.mul_zero] at hingest hreplay hrecall
    rw [Samples.union, hingest, hreplay, hrecall]
    rfl

end Samples

/-! ## Reports -/

/-- A report passes exactly if no gate of it is listed as failing. -/
theorem Report.passed_iff_failedGates (report : Report) :
    report.passed = true ↔ report.failedGates = [] := by
  rw [passed, List.all_eq_true, failedGates, List.flatMap_eq_nil_iff]
  refine forall_congr' fun scope => imp_congr_right fun _ => ?_
  rw [Scope.failedGates, List.map_eq_nil_iff, Gates.passed, List.isEmpty_iff]

/-- If the gates of every store pass, so do those of all stores together. Samples must be numbers,
and the errors of a store must not overflow their sum; whether the other sums do is no matter. So a
report passes exactly if its stores do, and exactly if it lists no gate as failing. -/
theorem aggregate_passes {plan : Plan} (hproper : plan.thresholds.Proper)
    {perStore : List (String × Samples)} (hnumbers : ∀ entry ∈ perStore, entry.2.Numbers)
    (hfit : ∀ entry ∈ perStore, entry.2.ErrorsFit) :
    (∀ queries allQueries,
      (∀ entry ∈ perStore,
        (Gates.evaluate (.ofSamples entry.2 queries) plan.thresholds).passed = true) →
      (Gates.evaluate (.ofSamples (.union (perStore.map Prod.snd)) allQueries)
        plan.thresholds).passed = true) ∧
    ∀ runId generatedAt identity,
      ((Report.assemble runId generatedAt identity plan perStore).passed = true ↔
        ∀ scope ∈ (Report.assemble runId generatedAt identity plan perStore).stores,
          scope.gates.passed = true) ∧
      ((Report.assemble runId generatedAt identity plan perStore).passed = true ↔
        (Report.assemble runId generatedAt identity plan perStore).failedGates = []) := by
  have haggregate : ∀ queries allQueries,
      (∀ entry ∈ perStore,
        (Gates.evaluate (.ofSamples entry.2 queries) plan.thresholds).passed = true) →
      (Gates.evaluate (.ofSamples (.union (perStore.map Prod.snd)) allQueries)
        plan.thresholds).passed = true := by
    intro queries allQueries hstores
    have hacceptable : ∀ samples ∈ perStore.map Prod.snd, samples.Acceptable plan.thresholds := by
      rw [List.forall_mem_map]
      intro entry hentry
      exact (Gates.passed_evaluate_iff (hnumbers entry hentry) hproper queries).1
        (hstores entry hentry)
    have hunion := Samples.Numbers.union (List.forall_mem_map.2 hnumbers)
    rw [Gates.passed_evaluate_iff hunion hproper]
    exact Samples.Acceptable.union (List.forall_mem_map.2 hfit) hacceptable
  refine ⟨haggregate, fun runId generatedAt identity => ⟨?_, Report.passed_iff_failedGates _⟩⟩
  rw [Report.passed, List.all_eq_true, Report.scopes, List.forall_mem_cons]
  refine ⟨And.right, fun hstores => ⟨?_, hstores⟩⟩
  exact haggregate _ _ (List.forall_mem_map.1 hstores)

/-- A store with one time in twenty beyond the threshold, and without a query. -/
def hastyStore : Samples where
  events := 20
  ingestMillis := .ofNat 100 :: List.replicate 19 .one
  replayMillis := List.replicate 20 .one
  recallMillis := []
  recallBytes := []
  replayDuplicates := 20
  ingestErrors := 0
  replayErrors := 0
  recallErrors := 0

/-- A store that was only asked. -/
def quietStore : Samples where
  events := 0
  ingestMillis := []
  replayMillis := []
  recallMillis := [.one, .zero]
  recallBytes := [.ofNat 16384, .ofNat 12]
  replayDuplicates := 0
  ingestErrors := 0
  replayErrors := 0
  recallErrors := 0

/-- Both of them. -/
def twoStores : List (String × Samples) :=
  [("hasty", hastyStore), ("quiet", quietStore)]

/-- The gates of these stores pass under the standard thresholds, and so do those of both. -/
theorem twoStores_pass :
    (∀ entry ∈ twoStores, (Gates.evaluate (.ofSamples entry.2 300) .standard).passed = true) ∧
    (Gates.evaluate (.ofSamples (.union (twoStores.map Prod.snd)) 600) .standard).passed =
      true := by
  have hproper : Plan.standard.thresholds.Proper :=
    ⟨by decide +kernel, by decide +kernel, by decide +kernel⟩
  have hnumbers : ∀ entry ∈ twoStores, entry.2.Numbers := by
    simp only [twoStores, List.forall_mem_cons, List.not_mem_nil, false_implies, implies_true,
      and_true]
    constructor <;> constructor <;> decide +kernel
  have hfit : ∀ entry ∈ twoStores, entry.2.ErrorsFit := by
    unfold Samples.ErrorsFit
    decide
  have hacceptable : ∀ entry ∈ twoStores, entry.2.Acceptable Plan.standard.thresholds := by
    simp only [twoStores, List.forall_mem_cons, List.not_mem_nil, false_implies, implies_true,
      and_true]
    constructor <;> constructor <;> decide +kernel
  have hstores : ∀ entry ∈ twoStores,
      (Gates.evaluate (.ofSamples entry.2 300) Plan.standard.thresholds).passed = true :=
    fun entry hentry =>
      (Gates.passed_evaluate_iff (hnumbers entry hentry) hproper 300).2 (hacceptable entry hentry)
  exact ⟨hstores, (aggregate_passes hproper hnumbers hfit).1 300 600 hstores⟩

end Benchmark

end Recollection
