import Mathlib.Data.List.Perm.Basic
import Recollection.Proofs.Benchmark.Aggregate
import Recollection.Proofs.Benchmark.Sums
/-!
# Summaries of samples in any order

A percentile of the nearest rank is the least sample that the given share of the samples is at most.
That depends on which samples there are and not on their order, and so do summaries, and the metrics
of all stores together, where the samples of the stores are put one after another.

Samples are ordered as words, in which order any two of them can be told apart. Where all of them
are numbers, the same holds in the order of numbers.
-/

set_option autoImplicit false

namespace Recollection.Benchmark

/-! ## Percentiles -/

/-- The least sample that at least a share of the samples, in percent, is at most. -/
structure IsPercentile (atMost : Binary64 → Binary64 → Bool) (percent : Nat)
    (samples : List Binary64) (value : Binary64) : Prop where
  /-- It is a sample. -/
  mem : value ∈ samples
  /-- The share is at most it. -/
  covers : samples.length * percent ≤ 100 * samples.countP (atMost · value)
  /-- It is at most any sample of which that is so. -/
  least : ∀ sample ∈ samples,
    samples.length * percent ≤ 100 * samples.countP (atMost · sample) →
      atMost value sample = true

section Order

variable {atMost : Binary64 → Binary64 → Bool} {samples others : List Binary64}

theorem IsPercentile.of_perm {percent : Nat} {value : Binary64} (hperm : samples.Perm others)
    (hvalue : IsPercentile atMost percent samples value) :
    IsPercentile atMost percent others value where
  mem := hperm.mem_iff.1 hvalue.mem
  covers := by
    rw [← hperm.length_eq, ← hperm.countP_eq]
    exact hvalue.covers
  least := by
    intro sample hmem
    rw [← hperm.length_eq, ← hperm.countP_eq]
    exact hvalue.least sample (hperm.mem_iff.2 hmem)

/-- A greater share has no lesser percentile. -/
theorem IsPercentile.mono {percent above : Nat} (hle : percent ≤ above) {low high : Binary64}
    (hlow : IsPercentile atMost percent samples low)
    (hhigh : IsPercentile atMost above samples high) : atMost low high = true :=
  hlow.least high hhigh.mem
    (Nat.le_trans (Nat.mul_le_mul_left samples.length hle) hhigh.covers)

/-- All samples are at most the hundredth percentile. -/
theorem IsPercentile.greatest {value : Binary64} (hvalue : IsPercentile atMost 100 samples value) :
    ∀ sample ∈ samples, atMost sample value = true := by
  have hcovers := hvalue.covers
  have hcount := List.countP_le_length (p := (atMost · value)) (l := samples)
  exact List.countP_eq_length.1 (by omega)

/-- What stands at the rank of a percentile among ordered samples is that percentile. -/
theorem isPercentile_of_nearestRank?
    (htrans : ∀ x y z, atMost x y = true → atMost y z = true → atMost x z = true)
    (hrefl : ∀ sample ∈ samples, atMost sample sample = true)
    (hsorted : samples.Pairwise fun x y => atMost x y = true) {percentile : UInt32}
    (hlow : 1 ≤ percentile.toNat) (hhigh : percentile.toNat ≤ 100) {value : Binary64}
    (hvalue : nearestRank? samples percentile = some value) :
    IsPercentile atMost percentile.toNat samples value := by
  obtain ⟨hindex, rfl⟩ := List.getElem?_eq_some_iff.1 hvalue
  have hbound := getElem_rankOf_iff atMost htrans hsorted hlow hhigh hindex
  have hmem := List.getElem_mem hindex
  exact ⟨hmem, (hbound _).1 (hrefl _ hmem), fun sample _ => (hbound sample).2⟩

end Order

/-- Something holds in the order of words, and where all samples are numbers it also holds in the
order of numbers. -/
def InBothOrders (samples : List Binary64) (holds : (Binary64 → Binary64 → Bool) → Prop) : Prop :=
  holds Binary64.totalLe ∧ ((∀ sample ∈ samples, sample.isNaN = false) → holds Binary64.le)

/-- What follows from samples being in order holds in both orders. -/
theorem inBothOrders_of_pairwise {samples : List Binary64}
    (hsorted : samples.Pairwise fun x y => x.totalLe y = true)
    {holds : (Binary64 → Binary64 → Bool) → Prop}
    (hholds : ∀ atMost : Binary64 → Binary64 → Bool,
      (∀ x y z, atMost x y = true → atMost y z = true → atMost x z = true) →
      (∀ sample ∈ samples, atMost sample sample = true) →
      (samples.Pairwise fun x y => atMost x y = true) → holds atMost) :
    InBothOrders samples holds := by
  constructor
  · exact hholds _ (fun _ _ _ => Binary64.totalLe_trans)
      (fun sample _ => Binary64.totalLe_refl sample) hsorted
  · intro hnumbers
    refine hholds _ (fun _ _ _ => Binary64.le_trans) (fun sample hmem => ?_)
      (pairwise_le hsorted hnumbers)
    exact Binary64.le_of_totalLe (hnumbers _ hmem) (hnumbers _ hmem) (Binary64.totalLe_refl sample)

/-- How a percentile is read off ordered samples. -/
structure ReadsPercentile (sorted : List Binary64) (percentile : UInt32) : Prop where
  /-- Its rank is one of the samples. -/
  index_lt : rankOf sorted.length percentile - 1 < sorted.length
  /-- Below one it is the first. -/
  below : percentile < 1 → nearestRank? sorted percentile = nearestRank? sorted 1
  /-- Above a hundred it is the hundredth. -/
  above : 100 < percentile → nearestRank? sorted percentile = nearestRank? sorted 100
  /-- In between it is the least sample that its share of the samples is at most. -/
  between : 1 ≤ percentile → percentile ≤ 100 → ∃ value,
    nearestRank? sorted percentile = some value ∧
      InBothOrders sorted fun atMost => IsPercentile atMost percentile.toNat sorted value

theorem readsPercentile {sorted : List Binary64} (hnonempty : sorted ≠ [])
    (hsorted : sorted.Pairwise fun x y => x.totalLe y = true) (percentile : UInt32) :
    ReadsPercentile sorted percentile := by
  have hindex := rankOf_sub_one_lt (List.length_pos_of_ne_nil hnonempty) percentile
  refine ⟨hindex, ?_, ?_, ?_⟩
  · intro hbelow
    have hzero : percentile.toNat < 1 := UInt32.lt_iff_toNat_lt.1 hbelow
    have hclamp : min (max percentile.toNat 1) 100 = 1 := by omega
    rw [nearestRank?, nearestRank?, rankOf, hclamp]
    rfl
  · intro habove
    have hlarge : 100 < percentile.toNat := UInt32.lt_iff_toNat_lt.1 habove
    have hclamp : min (max percentile.toNat 1) 100 = 100 := by omega
    rw [nearestRank?, nearestRank?, rankOf, hclamp]
    rfl
  · intro hlow hhigh
    have hvalue := List.getElem?_eq_getElem hindex
    refine ⟨_, hvalue, inBothOrders_of_pairwise hsorted fun atMost htrans hrefl hordered => ?_⟩
    exact isPercentile_of_nearestRank? htrans hrefl hordered (UInt32.le_iff_toNat_le.1 hlow)
      (UInt32.le_iff_toNat_le.1 hhigh) hvalue

/-! ## Summaries -/

/-- Ordering samples leaves nothing of the order that they had. -/
theorem sortSamples_eq_of_perm {samples others : List Binary64} (hperm : samples.Perm others) :
    sortSamples samples = sortSamples others := by
  have hsorted : (sortSamples samples).Perm (sortSamples others) :=
    (List.mergeSort_perm _ _).trans (hperm.trans (List.mergeSort_perm _ _).symm)
  exact hsorted.eq_of_pairwise (fun _ _ _ _ => Binary64.totalLe_antisymm)
    (pairwise_sortSamples samples) (pairwise_sortSamples others)

/-- The figures of a summary rise up to the greatest sample. -/
structure Summary.Rises (atMost : Binary64 → Binary64 → Bool) (samples : List Binary64)
    (summary : Summary) : Prop where
  /-- The median is at most the 95th percentile. -/
  p50_le_p95 : atMost summary.p50 summary.p95 = true
  /-- That is at most the greatest figure. -/
  p95_le_greatest : atMost summary.p95 summary.greatest = true
  /-- The greatest figure is a sample if there is any. -/
  greatest_mem : samples ≠ [] → summary.greatest ∈ samples
  /-- All samples are at most it. -/
  le_greatest : ∀ sample ∈ samples, atMost sample summary.greatest = true

/-- The figures of a summary are percentiles of its samples. -/
theorem inBothOrders_nearestRank? {samples : List Binary64} (hnonempty : samples ≠ [])
    (percentile : UInt32) (hlow : 1 ≤ percentile) (hhigh : percentile ≤ 100) :
    InBothOrders samples fun atMost => IsPercentile atMost percentile.toNat samples
      ((nearestRank? (sortSamples samples) percentile).getD .zero) := by
  have hperm : (sortSamples samples).Perm samples := List.mergeSort_perm _ _
  have hsortedNonempty : sortSamples samples ≠ [] :=
    fun hnil => hnonempty (hnil ▸ hperm).nil_eq.symm
  obtain ⟨value, hvalue, htotal, hnumbers⟩ :=
    (readsPercentile hsortedNonempty (pairwise_sortSamples samples) percentile).between hlow hhigh
  rw [hvalue]
  refine ⟨htotal.of_perm hperm, fun hall => (hnumbers fun sample hmem => ?_).of_perm hperm⟩
  exact hall sample (hperm.mem_iff.1 hmem)

namespace Summary

theorem ofSamples_nil : ofSamples [] = ⟨0, .zero, .zero, .zero⟩ := by
  simp [ofSamples, sortSamples, nearestRank?]

theorem ofSamples_eq_of_perm {samples others : List Binary64} (hperm : samples.Perm others) :
    ofSamples samples = ofSamples others := by
  rw [ofSamples, ofSamples, sortSamples_eq_of_perm hperm]

theorem rises_of_isPercentile {atMost : Binary64 → Binary64 → Bool} {samples : List Binary64}
    {summary : Summary} (hp50 : IsPercentile atMost 50 samples summary.p50)
    (hp95 : IsPercentile atMost 95 samples summary.p95)
    (hgreatest : IsPercentile atMost 100 samples summary.greatest) :
    summary.Rises atMost samples where
  p50_le_p95 := hp50.mono (by decide) hp95
  p95_le_greatest := hp95.mono (by decide) hgreatest
  greatest_mem _ := hgreatest.mem
  le_greatest := hgreatest.greatest

theorem rises_ofSamples (samples : List Binary64) :
    InBothOrders samples fun atMost => (ofSamples samples).Rises atMost samples := by
  by_cases hempty : samples = []
  · subst hempty
    rw [ofSamples_nil]
    refine ⟨?_, fun _ => ?_⟩ <;> exact ⟨by decide, by decide, by simp, by simp⟩
  · have hp50 := inBothOrders_nearestRank? hempty 50 (by decide) (by decide)
    have hp95 := inBothOrders_nearestRank? hempty 95 (by decide) (by decide)
    have hgreatest := inBothOrders_nearestRank? hempty 100 (by decide) (by decide)
    exact ⟨rises_of_isPercentile hp50.1 hp95.1 hgreatest.1,
      fun hall => rises_of_isPercentile (hp50.2 hall) (hp95.2 hall) (hgreatest.2 hall)⟩

end Summary

/-! ## Stores together -/

namespace Samples

/-- Two runs left the same, up to the order of the samples. -/
structure SameUpToOrder (samples others : Samples) : Prop where
  /-- The same events. -/
  events : samples.events = others.events
  /-- The same times of the first pass. -/
  ingestMillis : samples.ingestMillis.Perm others.ingestMillis
  /-- The same times of the second pass. -/
  replayMillis : samples.replayMillis.Perm others.replayMillis
  /-- The same times of the third pass. -/
  recallMillis : samples.recallMillis.Perm others.recallMillis
  /-- The same sizes. -/
  recallBytes : samples.recallBytes.Perm others.recallBytes
  /-- The same duplicates. -/
  replayDuplicates : samples.replayDuplicates = others.replayDuplicates
  /-- The same errors of the first pass. -/
  ingestErrors : samples.ingestErrors = others.ingestErrors
  /-- The same errors of the second pass. -/
  replayErrors : samples.replayErrors = others.replayErrors
  /-- The same errors of the third pass. -/
  recallErrors : samples.recallErrors = others.recallErrors

theorem total_eq_of_perm {counts others : List UInt64} (hperm : counts.Perm others) :
    total counts = total others := by
  rw [total_eq, total_eq, sumOver_perm _ hperm]

section Union

variable {all middle others : List Samples} (hperm : all.Perm middle)
  (hsame : List.Forall₂ SameUpToOrder middle others)

include hperm hsame

theorem total_map_eq {count : Samples → UInt64}
    (hcount : ∀ samples other, SameUpToOrder samples other → count samples = count other) :
    total (all.map count) = total (others.map count) := by
  have hmap : middle.map count = others.map count := by
    rw [← List.forall₂_eq_eq_eq, List.forall₂_map_left_iff, List.forall₂_map_right_iff]
    exact hsame.imp hcount
  rw [total_eq_of_perm (hperm.map count), hmap]

theorem flatMap_perm {part : Samples → List Binary64}
    (hpart : ∀ samples other, SameUpToOrder samples other → (part samples).Perm (part other)) :
    (all.flatMap part).Perm (others.flatMap part) := by
  refine (hperm.flatMap_right part).trans (List.Perm.flatten_congr ?_)
  rw [List.forall₂_map_left_iff, List.forall₂_map_right_iff]
  exact hsame.imp hpart

/-- The order of the parts does not matter to the whole. -/
theorem sameUpToOrder_union : (union all).SameUpToOrder (union others) where
  events := total_map_eq hperm hsame fun _ _ hparts => hparts.events
  ingestMillis := flatMap_perm hperm hsame fun _ _ hparts => hparts.ingestMillis
  replayMillis := flatMap_perm hperm hsame fun _ _ hparts => hparts.replayMillis
  recallMillis := flatMap_perm hperm hsame fun _ _ hparts => hparts.recallMillis
  recallBytes := flatMap_perm hperm hsame fun _ _ hparts => hparts.recallBytes
  replayDuplicates := total_map_eq hperm hsame fun _ _ hparts => hparts.replayDuplicates
  ingestErrors := total_map_eq hperm hsame fun _ _ hparts => hparts.ingestErrors
  replayErrors := total_map_eq hperm hsame fun _ _ hparts => hparts.replayErrors
  recallErrors := total_map_eq hperm hsame fun _ _ hparts => hparts.recallErrors

end Union

end Samples

theorem Metrics.ofSamples_eq {samples others : Samples} (hsame : samples.SameUpToOrder others)
    (queries : UInt64) : ofSamples samples queries = ofSamples others queries := by
  rw [ofSamples, ofSamples, hsame.events, hsame.replayDuplicates, hsame.ingestErrors,
    hsame.replayErrors, hsame.recallErrors, Summary.ofSamples_eq_of_perm hsame.ingestMillis,
    Summary.ofSamples_eq_of_perm hsame.replayMillis,
    Summary.ofSamples_eq_of_perm hsame.recallMillis,
    Summary.ofSamples_eq_of_perm hsame.recallBytes]

/-- The same stores left the same, in any order of the stores and of the samples of each. -/
def Reordered (perStore others : List (String × Samples)) : Prop :=
  ∃ middle, perStore.Perm middle ∧
    List.Forall₂ (fun entry other => entry.1 = other.1 ∧ entry.2.SameUpToOrder other.2)
      middle others

namespace Report

/-- A count of all stores together is the sum of the counts of the stores, as a word. -/
def AddsUp (report : Report) (count : Metrics → UInt64) : Prop :=
  (count report.aggregate.metrics).toNat =
    sumOver (fun scope => (count scope.metrics).toNat) report.stores % UInt64.size

variable (runId : RunId) (generatedAt : Timestamp) (identity : EngineIdentity) (plan : Plan)

theorem aggregate_assemble_eq {perStore others : List (String × Samples)}
    (hreordered : Reordered perStore others) :
    (assemble runId generatedAt identity plan perStore).aggregate =
      (assemble runId generatedAt identity plan others).aggregate := by
  obtain ⟨middle, hperm, hsame⟩ := hreordered
  have hparts : List.Forall₂ Samples.SameUpToOrder (middle.map Prod.snd) (others.map Prod.snd) := by
    rw [List.forall₂_map_left_iff, List.forall₂_map_right_iff]
    exact hsame.imp fun _ _ hentry => hentry.2
  have hlength : perStore.length = others.length := hperm.length_eq.trans hsame.length_eq
  simp only [assemble, Scope.ofSamples]
  rw [Metrics.ofSamples_eq (Samples.sameUpToOrder_union (hperm.map Prod.snd) hparts), hlength]

theorem addsUp_assemble (perStore : List (String × Samples)) {count : Metrics → UInt64}
    {part : Samples → UInt64}
    (hcount : ∀ samples queries, count (.ofSamples samples queries) = part samples)
    (hpart : ∀ all, part (.union all) = Samples.total (all.map part)) :
    (assemble runId generatedAt identity plan perStore).AddsUp count := by
  simp only [AddsUp, assemble, Scope.ofSamples, hcount, hpart, Samples.total_eq, sumOver_map,
    UInt64.toNat_ofNat']

end Report

/-- The counts among metrics that are summed up over stores. -/
def Metrics.counts : List (Metrics → UInt64) :=
  [Metrics.events, Metrics.replayDuplicates, Metrics.ingestErrors, Metrics.replayErrors,
    Metrics.recallErrors]

theorem Report.addsUp_of_mem_counts (runId : RunId) (generatedAt : Timestamp)
    (identity : EngineIdentity) (plan : Plan) (perStore : List (String × Samples)) :
    ∀ count ∈ Metrics.counts, (assemble runId generatedAt identity plan perStore).AddsUp count := by
  simp only [Metrics.counts, List.forall_mem_cons, List.not_mem_nil, false_implies, implies_true,
    and_true]
  refine ⟨?_, ?_, ?_, ?_, ?_⟩ <;>
    exact addsUp_assemble runId generatedAt identity plan perStore (fun _ _ => rfl) fun _ => rfl

/-- The nearest rank is exact: what it finds among ordered samples is the least of them that the
share is at most. So a summary, in which the figures rise up to the greatest sample, is the same in
whatever order the samples come; and so is the scope of all stores together, in whatever order the
stores come, and its counts are the sums of theirs. -/
theorem percentiles_exact :
    (∀ (sorted : List Binary64) (percentile : UInt32), sorted ≠ [] →
      (sorted.Pairwise fun x y => x.totalLe y = true) → ReadsPercentile sorted percentile) ∧
    (∀ samples others : List Binary64, samples.Perm others →
      Summary.ofSamples samples = Summary.ofSamples others) ∧
    (∀ samples,
      InBothOrders samples fun atMost => (Summary.ofSamples samples).Rises atMost samples) ∧
    ∀ runId generatedAt identity plan perStore,
      (∀ others, Reordered perStore others →
        (Report.assemble runId generatedAt identity plan perStore).aggregate =
          (Report.assemble runId generatedAt identity plan others).aggregate) ∧
      ∀ count ∈ Metrics.counts,
        (Report.assemble runId generatedAt identity plan perStore).AddsUp count := by
  refine ⟨fun sorted percentile hnonempty hsorted => readsPercentile hnonempty hsorted percentile,
    fun _ _ => Summary.ofSamples_eq_of_perm, Summary.rises_ofSamples,
    fun runId generatedAt identity plan perStore => ⟨fun others hreordered => ?_, ?_⟩⟩
  · exact Report.aggregate_assemble_eq runId generatedAt identity plan hreordered
  · exact Report.addsUp_of_mem_counts runId generatedAt identity plan perStore

/-- Both stores the other way round, and the times of the one as well. -/
def turnedStores : List (String × Samples) :=
  [("quiet", { quietStore with recallMillis := [.zero, .one] }), ("hasty", hastyStore)]

/-- The report of a benchmark with some samples. -/
def smithyReport (perStore : List (String × Samples)) : Report :=
  .assemble (.ofRandom 0) (.ofMillis 0) ⟨"smithy", "Notes"⟩ .standard perStore

/-- A hundredth decides which of three samples stands a third of the way up. Both stores leave the
same together when they are turned round: the twenty events of the one. -/
theorem turnedStores_same :
    ReadsPercentile [.zero, .one, .ofNat 100] 33 ∧
      nearestRank? [Binary64.zero, .one, .ofNat 100] 33 = some .zero ∧
      nearestRank? [Binary64.zero, .one, .ofNat 100] 34 = some .one ∧
      (smithyReport twoStores).aggregate = (smithyReport turnedStores).aggregate ∧
      (smithyReport turnedStores).AddsUp Metrics.events ∧
      (smithyReport turnedStores).aggregate.metrics.events = 20 := by
  obtain ⟨hreads, -, -, hassemble⟩ := percentiles_exact
  refine ⟨hreads _ _ (by decide) (by decide +kernel), by decide +kernel, by decide +kernel,
    (hassemble _ _ _ _ _).1 _ ?_,
    (hassemble _ _ _ _ _).2 _ (by simp [Metrics.counts]), by decide +kernel⟩
  refine ⟨[("quiet", quietStore), ("hasty", hastyStore)], List.Perm.swap _ _ _, ?_⟩
  refine .cons ⟨rfl, ?_⟩ (.cons ⟨rfl, ?_⟩ .nil)
  · constructor <;> decide +kernel
  · constructor <;> decide +kernel

end Recollection.Benchmark
